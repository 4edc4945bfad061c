import Invocation.Channel.Fault

/-!
# Writing to a channel

A sink answers each write by taking some of the bytes or by a fault.  Writing a
whole message goes on after a partial write and after an interrupted one, and
stops at any other fault or when nothing is taken.
-/

namespace Invocation.Channel

/-- The answer to one write. -/
inductive Answer where
  | accept (most : Nat)
  | fault (f : Fault)
  deriving DecidableEq, Repr

/-- The other end of a channel: the answers it has in store, after which it
takes everything, what it answers to a flush, and what has happened so far. -/
structure Sink where
  answers : List Answer := []
  flushFault : Option Fault := none
  accepted : List UInt8 := []
  writes : Nat := 0
  flushes : Nat := 0
  deriving DecidableEq, Repr

namespace Sink

/-- The fault of a write of which nothing is taken. -/
def nothingTaken : Fault := ⟨.other, "failed to write whole buffer"⟩

/-- What came of writing a message: the bytes taken, the number of writes, the
answers left, and the fault that stopped it. -/
structure Written where
  taken : List UInt8
  writes : Nat
  answers : List Answer
  fault : Option Fault
  deriving DecidableEq, Repr

/-- One write, with its bytes, before the others. -/
def Written.after (w : Written) (bytes : List UInt8) : Written :=
  { w with taken := bytes ++ w.taken, writes := w.writes + 1 }

/-- Writes a message until all of it is taken. -/
def deliver : List Answer → List UInt8 → Written
  | answers, [] => ⟨[], 0, answers, none⟩
  | [], bytes => ⟨bytes, 1, [], none⟩
  | .accept 0 :: answers, _ :: _ => ⟨[], 1, answers, some nothingTaken⟩
  | .accept (n + 1) :: answers, b :: bs =>
    (deliver answers ((b :: bs).drop (n + 1))).after ((b :: bs).take (n + 1))
  | .fault f :: answers, b :: bs =>
    if f.kind = .interrupted then (deliver answers (b :: bs)).after []
    else ⟨[], 1, answers, some f⟩

/-- Whatever the answers, the bytes taken are the first ones of the message. -/
theorem taken_deliver_prefix (answers : List Answer) (bytes : List UInt8) :
    (deliver answers bytes).taken <+: bytes := by
  fun_induction deliver answers bytes with
  | case1 => exact List.prefix_rfl
  | case2 => exact List.prefix_rfl
  | case3 => exact List.nil_prefix
  | case4 answers n b bs ih =>
      obtain ⟨left, h⟩ := ih
      exact ⟨left, by
        rw [Written.after, List.append_assoc, h, List.take_append_drop]⟩
  | case5 answers f b bs _ ih => simpa [Written.after] using ih
  | case6 => exact List.nil_prefix

/-- Writes a message; gives the fault that stopped it. -/
def writeAll (s : Sink) (bytes : List UInt8) : Option Fault × Sink :=
  let w := deliver s.answers bytes
  (w.fault,
    { s with
      answers := w.answers
      accepted := s.accepted ++ w.taken
      writes := s.writes + w.writes })

/-- Flushes; gives the fault. -/
def flush (s : Sink) : Option Fault × Sink :=
  (s.flushFault, { s with flushes := s.flushes + 1 })

/-- Writes a line and flushes, whatever becomes of it: the answer is always that
the whole line was written and flushed. -/
def writeBestEffort (s : Sink) (line : List UInt8) : Nat × Bool × Sink :=
  (line.length, true, (s.writeAll line).2.flush.2)

end Sink
end Invocation.Channel
