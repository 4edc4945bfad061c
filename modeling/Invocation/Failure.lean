/-!
# Failures

How things go wrong.  An `AdapterError` is one the adapter itself raises, an
`ErrorChain` is what a handler gives up with, and a `Failure` is what becomes of
either, or of a panic, at the boundary: a message and a trace.
-/

namespace Invocation

/-- An error of the adapter.  Where another error lies behind it, `cause` is
that error's text. -/
inductive AdapterError where
  | inputRead (cause : String)
  | serialize (cause : String)
  | outputWrite (cause : String)
  | body (detail : String)
  | config (detail : String)
  | unavailable (what : String)
  deriving DecidableEq, Repr

namespace AdapterError

/-- The text of an error. -/
def message : AdapterError → String
  | .inputRead cause => "failed to read input channel: " ++ cause
  | .serialize cause => "failed to serialize response: " ++ cause
  | .outputWrite cause => "failed to write output channel: " ++ cause
  | .body detail => "request body mismatch: " ++ detail
  | .config detail => "configuration error: " ++ detail
  | .unavailable what => what ++ " is not available in this runtime"

/-- The text of the error behind an error. -/
def cause? : AdapterError → Option String
  | .inputRead cause | .serialize cause | .outputWrite cause => some cause
  | .body _ | .config _ | .unavailable _ => none

end AdapterError

/-- An error with the errors behind it, from the outermost in. -/
structure ErrorChain where
  message : String
  causes : List String := []
  deriving DecidableEq, Repr

namespace ErrorChain

/-- An error of the adapter as a chain. -/
def ofAdapterError (e : AdapterError) : ErrorChain :=
  ⟨e.message, e.cause?.toList⟩

/-- A chain inside one more error. -/
def within (e : ErrorChain) (context : String) : ErrorChain :=
  ⟨context, e.message :: e.causes⟩

/-- Text whose lines after the first are indented. -/
def hang (indent : String) (s : String) : String :=
  String.ofList (s.toList.flatMap fun c =>
    if c = '\n' then '\n' :: indent.toList else [c])

/-- A number in five columns. -/
def column (n : Nat) : String :=
  let digits := toString n
  String.ofList (List.replicate (5 - digits.length) ' ') ++ digits

/-- The causes as an indented list. -/
def numbered : Nat → List String → String
  | _, [] => ""
  | n, cause :: rest =>
    "\n" ++ column n ++ ": " ++ hang "       " cause ++ numbered (n + 1) rest

/-- The message and, after a blank line, its causes: a single one only indented,
several numbered from zero. -/
def trace (e : ErrorChain) : String :=
  match e.causes with
  | [] => e.message
  | [cause] => e.message ++ "\n\nCaused by:\n    " ++ hang "    " cause
  | causes => e.message ++ "\n\nCaused by:" ++ numbered 0 causes

/-- The chain on one line. -/
def line (e : ErrorChain) : String :=
  ": ".intercalate (e.message :: e.causes)

end ErrorChain

/-- What a panic carries: a text, or something that is none. -/
inductive Payload where
  | text (message : String)
  | other
  deriving DecidableEq, Repr

/-- The message of a panic. -/
def Payload.message : Payload → String
  | .text message => message
  | .other => "handler panicked"

/-- A failed call as the caller is told of it. -/
structure Failure where
  message : String
  trace : String
  deriving DecidableEq, Repr

namespace Failure

/-- The failure of a handler that gave up with an error. -/
def ofError (e : ErrorChain) : Failure := ⟨e.message, e.trace⟩

/-- The failure of a panic that was caught around the handler. -/
def ofPanic (p : Payload) : Failure :=
  ⟨p.message, "panic in handler: " ++ p.message⟩

/-- The failure of a panic seen as it was raised, at a place in the program. -/
def ofRaised (location : String) (p : Payload) : Failure :=
  ⟨p.message, "panic at " ++ location ++ ": " ++ p.message⟩

end Failure
end Invocation
