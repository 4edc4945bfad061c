/-!
# Channels and their faults

The host gives a function three numbered channels of bytes.  A call on a channel
may fail; the kind of the fault matters only to a writer, which tries an
interrupted write again.
-/

namespace Invocation

/-- A channel of the host. -/
inductive Channel where
  | input
  | output
  | diagnostics
  deriving DecidableEq, Repr

namespace Channel

/-- Every channel, in the order of the numbers. -/
def all : List Channel := [.input, .output, .diagnostics]

/-- The number of a channel. -/
def number : Channel → Nat
  | .input => 0
  | .output => 1
  | .diagnostics => 2

/-- The name of a channel. -/
def name : Channel → String
  | .input => "input"
  | .output => "output"
  | .diagnostics => "diagnostics"

/-- Name and number. -/
def text (c : Channel) : String :=
  c.name ++ "(" ++ toString c.number ++ ")"

/-- The kind of a fault. -/
inductive FaultKind where
  | interrupted
  | wouldBlock
  | unexpectedEnd
  | brokenPipe
  | connectionReset
  | other
  deriving DecidableEq, Repr

/-- A failed call on a channel. -/
structure Fault where
  kind : FaultKind
  message : String
  deriving DecidableEq, Repr

end Channel
end Invocation
