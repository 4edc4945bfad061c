import Invocation.Channel.Source

/-!
# What a reader gets of a source

A source delivers the bytes that stand before its first empty call or its first
fault.  Draining gives exactly these, in their order, whatever the size of the
buffer and wherever the source breaks off a call: every call takes a first part
of what is left to deliver and leaves the rest to the next one.
-/

namespace Invocation.Channel

/-- The bytes that a call gives. -/
def Reading.got : Reading → List UInt8
  | .bytes given => given
  | .fault _ => []

namespace Source

/-- The bytes before the first call that gives none or fails.  A step of bytes
of which a call may get none is such a call. -/
def arrived : Source → List UInt8
  | [] => []
  | .data [] _ :: rest => arrived rest
  | .data (b :: bs) limit :: rest =>
    if limit = some 0 then [] else b :: bs ++ arrived rest
  | .close :: _ => []
  | .fault _ :: _ => []

theorem arrived_data {limit : Option Nat} (hlimit : limit ≠ some 0)
    (bytes : List UInt8) (rest : Source) :
    arrived (.data bytes limit :: rest) = bytes ++ arrived rest := by
  cases bytes with
  | nil => rfl
  | cons b bs => rw [arrived, if_neg hlimit]

theorem bufferSize_pos (chunk : UInt64) : 0 < bufferSize chunk :=
  Nat.lt_of_lt_of_le Nat.one_pos (Nat.le_max_left _ _)

/-- A call takes a first part of what a source delivers.  If that is nothing,
nothing is delivered; otherwise what follows is delivered by the steps left. -/
theorem arrived_of_read {buffer : Nat} (hbuffer : 0 < buffer) {s rest : Source}
    {answer : Reading} (hread : read buffer s = (answer, rest)) :
    arrived s = answer.got ++ if answer.got = [] then [] else arrived rest := by
  fun_induction read buffer s with
  | case1 =>
      cases hread
      simp [arrived, Reading.got]
  | case2 limit steps ih => exact ih hread
  | case3 b bs limit steps n =>
      simp only [Prod.mk.injEq] at hread
      obtain ⟨rfl, rfl⟩ := hread
      -- A call that may get none looks like the end of the source.
      by_cases hzero : limit = some 0
      · have hn : n = 0 := by simp [n, hzero]
        rw [arrived, if_pos hzero, Reading.got, hn]
        rfl
      have hn : 0 < n := by
        cases limit with
        | none => exact hbuffer
        | some k =>
            have hk : k ≠ 0 := fun h => hzero (by rw [h])
            exact Nat.lt_min.2 ⟨hbuffer, Nat.pos_of_ne_zero hk⟩
      have htaken : (b :: bs).take n ≠ [] := by simp; omega
      rw [arrived_data hzero, Reading.got, if_neg htaken]
      -- The step is gone when all of it was taken, and else it is shortened.
      split
      case h_1 hleft =>
        have hall := List.take_append_drop n (b :: bs)
        rw [hleft, List.append_nil] at hall
        rw [hall]
      case h_2 =>
        rw [arrived_data hzero, ← List.append_assoc, List.take_append_drop]
  | case4 =>
      cases hread
      simp [arrived, Reading.got]
  | case5 =>
      cases hread
      simp [arrived, Reading.got]

/-- Draining a source gives what it delivers. -/
theorem bytes_drainFrom {buffer : Nat} (hbuffer : 0 < buffer)
    (got : List (List UInt8)) (calls : Nat) (s : Source) :
    (drainFrom buffer got calls s).bytes =
      got.reverse.flatten ++ arrived s := by
  fun_induction drainFrom buffer got calls s with
  | case1 got calls s rest hread =>
      have harrived := arrived_of_read hbuffer hread
      simpa [Reading.got] using harrived
  | case2 got calls s f rest hread =>
      have harrived := arrived_of_read hbuffer hread
      simpa [Reading.got] using harrived
  | case3 got calls s b bs rest hread ih =>
      have harrived := arrived_of_read hbuffer hread
      rw [ih, harrived]
      simp [Reading.got]

theorem bytes_drain {buffer : Nat} (hbuffer : 0 < buffer) (s : Source) :
    (drain buffer s).bytes = arrived s :=
  bytes_drainFrom hbuffer [] 0 s

end Source
end Invocation.Channel
