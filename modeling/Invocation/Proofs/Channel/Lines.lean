import Invocation.Proofs.Channel.Exchange

/-!
# Lines that are written come what may

Diagnostics are written line by line, and whoever writes them is told that every
line went out and every flush succeeded.  What the sink has taken is told here
line by line: of each line a first part, and all of it unless an answer refused
the rest.  A line that was refused leaves nothing behind but the answers it has
used up, since writing a line begins with its own first byte and what a sink
answers next does not depend on what it was offered before.
-/

namespace Invocation.Channel.Sink

/-- Writes lines one after the other, each with a flush, and tells of each what
its write and its flush have reported. -/
def writeLines (s : Sink) : List (List UInt8) → List (Nat × Bool) × Sink
  | [] => ([], s)
  | line :: lines =>
    let first := s.writeBestEffort line
    let later := writeLines first.2.2 lines
    ((first.1, first.2.1) :: later.1, later.2)

/-- What became of a line: the answers that its writes were given, and what was
taken of it. -/
structure Fate where
  line : List UInt8
  given : List Answer
  taken : List UInt8

/-- The line has had its fate between two states of a sink.  What was taken of
it is a first part, and all of it exactly if no answer refused the rest; after a
refusal the line was given up. -/
structure Fate.Between (fate : Fate) (before after : Sink) : Prop where
  answers : before.answers = fate.given ++ after.answers
  accepted : after.accepted = before.accepted ++ fate.taken
  part : fate.taken <+: fate.line
  whole_iff : fate.taken = fate.line ↔ ∀ a ∈ fate.given, a.Takes
  takes : ∀ a ∈ fate.given.dropLast, a.Takes

theorem exists_fate (s : Sink) (line : List UInt8) :
    ∃ fate : Fate, fate.line = line ∧
      fate.Between s (s.writeBestEffort line).2.2 := by
  obtain ⟨given, hscript, hends, -, -⟩ := exists_given s.answers line
  exact ⟨⟨line, given, (deliver s.answers line).taken⟩, rfl, hscript, rfl,
    hends.taken_prefix, hends.taken_eq_iff.trans hends.fault_eq_none_iff,
    hends.takes_dropLast⟩

/-- Whatever the sink answers, every line is reported to be written whole and
flushed.  What the sink has accepted is, in the order of the lines, one first
part of each: the whole line unless an answer to one of its own writes took
nothing or was a fault other than an interruption, and less than that if so.
Nothing of a line is written after such an answer or along with another line. -/
theorem writeLines_keeps_lines_apart (s : Sink) (lines : List (List UInt8)) :
    let out := s.writeLines lines
    out.1 = lines.map (fun line => (line.length, true)) ∧
    out.2.flushes = s.flushes + lines.length ∧
    ∃ fates : List Fate,
      fates.map Fate.line = lines ∧
      out.2.accepted = s.accepted ++ fates.flatMap Fate.taken ∧
      ∀ (i : Nat) (fate : Fate), fates[i]? = some fate →
        fate.Between (s.writeLines (lines.take i)).2
          (s.writeLines (lines.take (i + 1))).2 := by
  induction lines generalizing s with
  | nil =>
      exact ⟨rfl, rfl, [], rfl, (List.append_nil _).symm, fun i fate h => by
        cases h⟩
  | cons line lines ih =>
      obtain ⟨first, hline, hfirst⟩ := s.exists_fate line
      obtain ⟨htold, hflushes, fates, hlines, haccepted, hfates⟩ :=
        ih (s.writeBestEffort line).2.2
      refine ⟨congrArg _ htold, ?_, first :: fates, ?_, ?_, ?_⟩
      · refine hflushes.trans ?_
        rw [List.length_cons, Nat.add_comm lines.length, ← Nat.add_assoc]
        rfl
      · rw [List.map_cons, hline, hlines]
      · rw [List.flatMap_cons, ← List.append_assoc, ← hfirst.accepted]
        exact haccepted
      · intro i fate hfate
        cases i with
        | zero =>
            obtain rfl := Option.some.inj hfate
            exact hfirst
        | succ i => exact hfates i fate hfate

/-- A line that breaks off does not hold up the next one. -/
example : (writeLines
    { answers := [.accept 2, .fault ⟨.brokenPipe, "gone"⟩, .accept 1] }
    [[1, 2, 3], [4, 5]]).2.accepted = [1, 2, 4, 5] := by decide

end Invocation.Channel.Sink
