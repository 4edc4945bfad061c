import Mathlib.Tactic
import Invocation.Guard

/-!
# What a sink takes

A sink that neither refuses a write nor breaks takes every message whole, in
however many pieces.  Any sink takes a first part of each message.
-/

namespace Invocation

namespace Channel

/-- The answer leads on: something is taken, or the write may be repeated. -/
def Answer.Takes : Answer → Prop
  | .accept n => n ≠ 0
  | .fault f => f.kind = .interrupted

/-- The sink will take every message whole. -/
def Sink.TakesAll (s : Sink) : Prop := ∀ a ∈ s.answers, a.Takes

namespace Sink

theorem takesAll_empty : TakesAll {} := by
  intro a ha
  cases ha

/-- The bytes taken, the answers left and the fault, when every answer leads
on. -/
theorem deliver_of_takes (answers : List Answer) (bytes : List UInt8)
    (h : ∀ a ∈ answers, a.Takes) :
    (deliver answers bytes).taken = bytes ∧
    (deliver answers bytes).fault = none ∧
    ∀ a ∈ (deliver answers bytes).answers, a.Takes := by
  fun_induction deliver answers bytes with
  | case1 => exact ⟨rfl, rfl, h⟩
  | case2 => exact ⟨rfl, rfl, h⟩
  | case3 => exact absurd rfl (h (.accept 0) List.mem_cons_self)
  | case4 answers n b bs ih =>
      obtain ⟨htaken, hfault, hleft⟩ :=
        ih fun a ha => h a (List.mem_cons_of_mem _ ha)
      refine ⟨?_, hfault, hleft⟩
      rw [Written.after, htaken, List.take_append_drop]
  | case5 f answers b bs _ ih =>
      obtain ⟨htaken, hfault, hleft⟩ :=
        ih fun a ha => h a (List.mem_cons_of_mem _ ha)
      exact ⟨htaken, hfault, hleft⟩
  | case6 f answers b bs hkind =>
      exact absurd (h (.fault f) List.mem_cons_self) hkind

theorem accepted_writeAll (s : Sink) (bytes : List UInt8) :
    (s.writeAll bytes).2.accepted =
      s.accepted ++ (deliver s.answers bytes).taken := rfl

theorem answers_writeAll (s : Sink) (bytes : List UInt8) :
    (s.writeAll bytes).2.answers = (deliver s.answers bytes).answers := rfl

theorem fault_writeAll (s : Sink) (bytes : List UInt8) :
    (s.writeAll bytes).1 = (deliver s.answers bytes).fault := rfl

end Sink
end Channel

namespace Response

/-- Flushing takes no part in what is accepted. -/
theorem write_sink (r : Response) (s : Channel.Sink) :
    (r.write s).2.accepted = (s.writeAll r.bytes).2.accepted ∧
    (r.write s).2.answers = (s.writeAll r.bytes).2.answers := by
  unfold write
  obtain ⟨fault, s'⟩ := s.writeAll r.bytes
  cases fault with
  | some f => exact ⟨rfl, rfl⟩
  | none =>
      simp only [Channel.Sink.flush]
      cases s'.flushFault <;> exact ⟨rfl, rfl⟩

/-- Whatever the sink, it takes a first part of a response. -/
theorem accepted_write (r : Response) (s : Channel.Sink) :
    ∃ taken, taken <+: r.bytes ∧
      (r.write s).2.accepted = s.accepted ++ taken :=
  ⟨_, Channel.Sink.taken_deliver_prefix s.answers r.bytes,
    (r.write_sink s).1.trans (s.accepted_writeAll r.bytes)⟩

/-- A sink that takes every message takes the response whole, and goes on to
take every message. -/
theorem write_of_takesAll (r : Response) {s : Channel.Sink}
    (h : s.TakesAll) :
    (r.write s).2.accepted = s.accepted ++ r.bytes ∧
    (r.write s).2.TakesAll := by
  obtain ⟨htaken, -, hleft⟩ :=
    Channel.Sink.deliver_of_takes s.answers r.bytes h
  obtain ⟨haccepted, hanswers⟩ := r.write_sink s
  constructor
  · rw [haccepted, s.accepted_writeAll, htaken]
  · rw [Channel.Sink.TakesAll, hanswers, s.answers_writeAll]
    exact hleft

end Response

namespace Delivery

/-- A panic that finds the flag up is not answered. -/
theorem attempt_of_delivered (config : Config) (f : Failure)
    (output : Channel.Sink) :
    attempt config true f output = ⟨false, output, []⟩ := rfl

/-- A panic that finds the flag down claims it and is answered by its
failure. -/
theorem attempt_of_armed (config : Config) (f : Failure)
    (output : Channel.Sink) :
    (attempt config false f output).claimed = true ∧
    (attempt config false f output).sink =
      ((Response.ofOutcome config (.failure f)).write output).2 := by
  simp only [attempt, Bool.false_eq_true, if_false]
  split
  case h_1 _ hwrite => exact ⟨rfl, by rw [hwrite]⟩
  case h_2 _ hwrite => exact ⟨rfl, by rw [hwrite]⟩

end Delivery
end Invocation
