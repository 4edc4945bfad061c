import Invocation.Proofs.Channel.Source

/-!
# The calls of a drain

Draining is a sequence of calls, all with the same room.  Every call but the last
one gives bytes, and the last one gives none, be it that it is empty or that it
fails; there is no call after it.  So there are at most as many calls before the
last as there are bytes.  The invariant of the sequence is the step that will
end it: a call that gives bytes takes them from what stands before that step, and
so neither reaches it nor anything behind it.
-/

namespace Invocation.Channel

namespace Arrival

/-- The bytes of a step. -/
def bytes : Arrival → List UInt8
  | .data given _ => given
  | .close => []
  | .fault _ => []

/-- The fault of a step. -/
def fault? : Arrival → Option Fault
  | .data _ _ => none
  | .close => none
  | .fault f => some f

theorem fault?_eq_some_iff {a : Arrival} {f : Fault} :
    a.fault? = some f ↔ a = .fault f := by
  cases a <;> simp [fault?]

/-- A call that comes to the step gets no bytes.  No call comes to a step that
has none to give, since it goes on to the next. -/
def ends : Arrival → Bool
  | .data [] _ => false
  | .data (_ :: _) limit => decide (limit = some 0)
  | .close => true
  | .fault _ => true

end Arrival

namespace Source

/-- Calls one after the other, each with room for so many bytes: their answers,
and what they leave in store. -/
inductive Calls (buffer : Nat) : Source → List Reading → Source → Prop
  | done (s : Source) : Calls buffer s [] s
  | call {s s' s'' : Source} {answer : Reading} {answers : List Reading}
      (hread : read buffer s = (answer, s'))
      (hrest : Calls buffer s' answers s'') :
      Calls buffer s (answer :: answers) s''

/-- What is in store from the step on that ends a source. -/
def ending (s : Source) : Source := s.dropWhile fun a => !a.ends

/-! ## The step that ends a source -/

theorem ends_data {bytes : List UInt8} {limit : Option Nat}
    (hlimit : limit ≠ some 0) : (Arrival.data bytes limit).ends = false := by
  cases bytes with
  | nil => rfl
  | cons b bs => exact decide_eq_false hlimit

theorem ending_cons_of_not {a : Arrival} (h : a.ends = false) (s : Source) :
    ending (a :: s) = ending s := by
  simp [ending, h]

theorem ending_cons_of_ends {a : Arrival} (h : a.ends = true) (s : Source) :
    ending (a :: s) = a :: s := by
  simp [ending, h]

/-- What a source delivers are the bytes before the step that ends it. -/
theorem arrived_eq_takeWhile (s : Source) :
    arrived s = (s.takeWhile fun a => !a.ends).flatMap Arrival.bytes := by
  fun_induction arrived s with
  | case1 => rfl
  | case2 limit rest ih => exact ih
  | case3 b bs rest => rfl
  | case4 b bs limit rest hlimit ih =>
      have hgoes : (Arrival.data (b :: bs) limit).ends = false :=
        ends_data hlimit
      rw [List.takeWhile_cons, hgoes, ih]
      rfl
  | case5 => rfl
  | case6 => rfl

section Read

variable {buffer : Nat} {s rest : Source} {answer : Reading}

/-- A call that gives bytes does not come to the step that ends the source. -/
theorem ending_of_read_bytes
    (hread : read buffer s = (answer, rest)) (hgot : answer.got ≠ []) :
    ending rest = ending s := by
  fun_induction read buffer s with
  | case1 =>
      cases hread
      exact absurd rfl hgot
  | case2 limit steps ih => exact ih hread
  | case3 b bs limit steps n =>
      simp only [Prod.mk.injEq] at hread
      obtain ⟨rfl, rfl⟩ := hread
      have hlimit : limit ≠ some 0 := by
        rintro rfl
        simp [Reading.got, n] at hgot
      rw [ending_cons_of_not (ends_data hlimit)]
      split
      case h_1 => rfl
      case h_2 => rw [ending_cons_of_not (ends_data hlimit)]
  | case4 =>
      cases hread
      exact absurd rfl hgot
  | case5 =>
      cases hread
      exact absurd rfl hgot

/-- A call without bytes has come to the step that ends the source, and leaves
what stands behind it. -/
theorem ending_of_read_nothing (hbuffer : 0 < buffer)
    (hread : read buffer s = (answer, rest)) (hgot : answer.got = []) :
    answer = ((ending s).head?.bind Arrival.fault?).elim (.bytes []) .fault ∧
      (ending s).tail <:+ rest := by
  fun_induction read buffer s with
  | case1 =>
      cases hread
      exact ⟨rfl, List.suffix_rfl⟩
  | case2 limit steps ih => exact ih hread
  | case3 b bs limit steps n =>
      simp only [Prod.mk.injEq] at hread
      obtain ⟨rfl, rfl⟩ := hread
      have hn : n = 0 := by
        cases hzero : n with
        | zero => rfl
        | succ k =>
            rw [Reading.got, hzero] at hgot
            cases hgot
      -- There was room, so that it is the step that gives none.
      have hlimit : limit = some 0 := by
        cases limit with
        | none => exact absurd hn (Nat.ne_of_gt hbuffer)
        | some k =>
            have hmin : min buffer k = 0 := hn
            rw [show k = 0 by omega]
      subst hlimit
      rw [ending_cons_of_ends rfl, hn]
      exact ⟨rfl, List.suffix_cons _ _⟩
  | case4 steps =>
      cases hread
      exact ⟨rfl, List.suffix_rfl⟩
  | case5 f steps =>
      cases hread
      exact ⟨rfl, List.suffix_rfl⟩

end Read

/-! ## Draining -/

/-- Draining goes on by calls that give bytes and ends by the first that gives
none. -/
theorem calls_drainFrom {buffer : Nat} (hbuffer : 0 < buffer)
    (got : List (List UInt8)) (calls : Nat) (s : Source) :
    let d := drainFrom buffer got calls s
    ∃ answers : List Reading,
      Calls buffer s (answers ++ [d.fault.elim (.bytes []) .fault]) d.rest ∧
      (∀ a ∈ answers, a.got ≠ []) ∧
      d.calls = calls + answers.length + 1 ∧
      d.bytes = got.reverse.flatten ++ answers.flatMap Reading.got ∧
      d.fault = (ending s).head?.bind Arrival.fault? ∧
      (ending s).tail <:+ d.rest := by
  fun_induction drainFrom buffer got calls s with
  | case1 got calls s rest hread =>
      obtain ⟨hanswer, htail⟩ := ending_of_read_nothing hbuffer hread rfl
      refine ⟨[], .call hread (.done rest), by simp, rfl, by simp, ?_, htail⟩
      cases hfault : (ending s).head?.bind Arrival.fault? with
      | none => rfl
      | some f =>
          rw [hfault] at hanswer
          cases hanswer
  | case2 got calls s f rest hread =>
      obtain ⟨hanswer, htail⟩ := ending_of_read_nothing hbuffer hread rfl
      refine ⟨[], .call hread (.done rest), by simp, rfl, by simp, ?_, htail⟩
      cases hfault : (ending s).head?.bind Arrival.fault? with
      | none =>
          rw [hfault] at hanswer
          cases hanswer
      | some g =>
          rw [hfault] at hanswer
          cases hanswer
          rfl
  | case3 got calls s b bs rest hread ih =>
      obtain ⟨answers, hcalls, hgot, hcount, hbytes, hfault, htail⟩ := ih
      have hending := ending_of_read_bytes hread (List.cons_ne_nil b bs)
      rw [hending] at hfault htail
      refine ⟨.bytes (b :: bs) :: answers, .call hread hcalls, ?_, ?_, ?_,
        hfault, htail⟩
      · exact List.forall_mem_cons.2 ⟨List.cons_ne_nil b bs, hgot⟩
      · rw [hcount, List.length_cons]
        omega
      · rw [hbytes, List.reverse_cons, List.flatten_append, List.flatMap_cons,
          List.append_assoc]
        simp [Reading.got]

/-- A drain ends by a fault exactly if it is a fault that ends the source. -/
theorem fault_drain_eq_some_iff {buffer : Nat} (hbuffer : 0 < buffer)
    {s : Source} {f : Fault} :
    (drain buffer s).fault = some f ↔ (ending s).head? = some (.fault f) := by
  obtain ⟨answers, -, -, -, -, hfault, -⟩ := calls_drainFrom hbuffer [] 0 s
  rw [drain, hfault, Option.bind_eq_some_iff]
  simp only [Arrival.fault?_eq_some_iff, exists_eq_right]

/-- As many calls give bytes as there are bytes at most. -/
theorem length_le_flatMap_got {answers : List Reading}
    (h : ∀ a ∈ answers, a.got ≠ []) :
    answers.length ≤ (answers.flatMap Reading.got).length := by
  induction answers with
  | nil => exact Nat.le_refl 0
  | cons a answers ih =>
      obtain ⟨ha, hrest⟩ := List.forall_mem_cons.1 h
      have hpos := List.length_pos_iff.2 ha
      have hle := ih hrest
      rw [List.length_cons, List.flatMap_cons, List.length_append]
      omega

/-- Draining gives the bytes that stand before the step that ends the source, in
their order and whatever size of the buffer is configured.  It does so by calls
that all have the same room, the configured size but at least one byte and at
most sixteen mebibytes.  All of them give bytes except the last, which gives
none and is a fault exactly if that is what ends the source, so that there is at
most one call more than there are bytes; and what stands behind the step that
ends the source is left in store. -/
theorem drain_calls_until_ending (s : Source) (chunk : UInt64) :
    let buffer := max 1 (min chunk.toNat (16 * 1024 * 1024))
    let d := s.drain (bufferSize chunk)
    d.bytes = (s.takeWhile fun a => !a.ends).flatMap Arrival.bytes ∧
    d.calls ≤ d.bytes.length + 1 ∧
    (ending s).tail <:+ d.rest ∧
    ∃ (answers : List Reading) (last : Reading),
      Calls buffer s (answers ++ [last]) d.rest ∧
      d.calls = answers.length + 1 ∧
      (∀ a ∈ answers, a.got ≠ []) ∧
      d.bytes = answers.flatMap Reading.got ∧
      last.got = [] ∧
      ∀ f, last = .fault f ↔ (ending s).head? = some (.fault f) := by
  intro buffer d
  have hbuffer : 0 < buffer := bufferSize_pos chunk
  obtain ⟨answers, hcalls, hgot, hcount, hbytes, -, htail⟩ :=
    calls_drainFrom hbuffer [] 0 s
  have hgiven : d.bytes = answers.flatMap Reading.got := hbytes
  have hnumber : d.calls = answers.length + 1 := by
    rw [← Nat.zero_add answers.length]
    exact hcount
  refine ⟨(bytes_drain hbuffer s).trans (arrived_eq_takeWhile s), ?_, htail,
    answers, _, hcalls, hnumber, hgot, hgiven, ?_, fun f => ?_⟩
  · rw [hnumber, hgiven]
    exact Nat.succ_le_succ (length_le_flatMap_got hgot)
  · cases (drainFrom buffer [] 0 s).fault <;> rfl
  · rw [← fault_drain_eq_some_iff hbuffer, drain]
    cases (drainFrom buffer [] 0 s).fault <;> simp

/-- An interruption ends a drain as any other fault does. -/
example : (drain (bufferSize 0) [.data [1, 2, 3] (some 2),
    .fault ⟨.interrupted, "again"⟩, .data [4] none]).bytes = [1, 2, 3] := by
  decide +kernel

end Source
end Invocation.Channel
