import Invocation.Proofs.Channel.Sink

/-!
# What a message and the answers of a sink come to

Each write of a message offers what has not been taken of it.  An answer takes
some of that, or has the write repeated, or refuses, and the first refusal is
the end of the message.  So the bytes taken are the first ones of the message,
as many as the answers had room for, and no answer that comes after a refusal is
asked for.  A write that is repeated offers what the interrupted one has
offered, so that interruptions make no difference to what is taken.
-/

namespace Invocation

namespace Channel

namespace Answer

/-- How many bytes an answer takes at most. -/
def room : Answer → Nat
  | .accept most => most
  | .fault _ => 0

/-- The fault with which an answer ends the message. -/
def refusal? : Answer → Option Fault
  | .accept 0 => some Sink.nothingTaken
  | .accept (_ + 1) => none
  | .fault f => if f.kind = .interrupted then none else some f

/-- The write has been interrupted and is repeated. -/
def interrupted : Answer → Bool
  | .accept _ => false
  | .fault f => decide (f.kind = .interrupted)

theorem takes_iff {a : Answer} : a.Takes ↔ a.refusal? = none := by
  cases a with
  | accept n => cases n <;> simp [Takes, refusal?]
  | fault f => by_cases h : f.kind = .interrupted <;> simp [Takes, refusal?, h]

theorem not_takes_of_refusal? {a : Answer} {f : Fault}
    (h : a.refusal? = some f) : ¬ a.Takes := by
  rw [takes_iff, h]
  exact Option.some_ne_none f

end Answer

namespace Sink

open Answer

/-- The ways in which a message may come to its end, by the answers given to its
writes: it is taken whole, or the last answer refuses it. -/
inductive Ends (bytes : List UInt8) :
    List Answer → List UInt8 → Option Fault → Prop
  | whole {given : List Answer} (hgiven : ∀ a ∈ given, a.Takes) :
      Ends bytes given bytes none
  | refused {before : List Answer} {a : Answer} {f : Fault}
      (hbefore : ∀ b ∈ before, b.Takes) (ha : a.refusal? = some f)
      (hroom : (before.map room).sum < bytes.length) :
      Ends bytes (before ++ [a]) (bytes.take (before.map room).sum) (some f)

namespace Ends

variable {bytes taken : List UInt8} {given : List Answer} {fault : Option Fault}

theorem taken_prefix (h : Ends bytes given taken fault) : taken <+: bytes := by
  cases h with
  | whole hgiven => exact List.prefix_rfl
  | refused hbefore ha hroom => exact List.take_prefix _ _

/-- A message that is refused is not taken whole. -/
theorem taken_eq_iff (h : Ends bytes given taken fault) :
    taken = bytes ↔ fault = none := by
  cases h with
  | whole hgiven => simp
  | refused hbefore ha hroom =>
      refine ⟨fun heq => ?_, nofun⟩
      have hlength := congrArg List.length heq
      rw [List.length_take] at hlength
      omega

/-- A message is taken whole exactly if no answer refuses it. -/
theorem fault_eq_none_iff (h : Ends bytes given taken fault) :
    fault = none ↔ ∀ a ∈ given, a.Takes := by
  cases h with
  | whole hgiven => simpa using hgiven
  | refused hbefore ha hroom =>
      refine ⟨nofun, fun hall => ?_⟩
      exact absurd (hall _ List.mem_concat_self) (not_takes_of_refusal? ha)

/-- Nothing is written after a refusal. -/
theorem takes_dropLast (h : Ends bytes given taken fault) :
    ∀ a ∈ given.dropLast, a.Takes := by
  cases h with
  | whole hgiven => exact fun a ha => hgiven a (List.mem_of_mem_dropLast ha)
  | refused hbefore ha hroom => rwa [List.dropLast_concat]

theorem refused_by {f : Fault} (h : Ends bytes given taken (some f)) :
    ∃ before a, given = before ++ [a] ∧ a.refusal? = some f ∧
      taken = bytes.take (before.map room).sum := by
  cases h with
  | refused hbefore ha hroom => exact ⟨_, _, rfl, ha, rfl⟩

/-- The first answer refuses the message. -/
theorem refused_first {a : Answer} {f : Fault} (ha : a.refusal? = some f)
    (hbytes : 0 < bytes.length) : Ends bytes [a] [] (some f) :=
  have hbefore : ∀ b ∈ ([] : List Answer), b.Takes := List.forall_mem_nil _
  .refused hbefore ha hbytes

/-- One answer more, which takes a first part of the message. -/
theorem accept {n : Nat} (hn : n ≠ 0)
    (h : Ends (bytes.drop n) given taken fault) :
    Ends bytes (.accept n :: given) (bytes.take n ++ taken) fault := by
  have hfirst : (Answer.accept n).Takes := hn
  cases h with
  | whole hgiven =>
      rw [List.take_append_drop]
      exact .whole (List.forall_mem_cons.2 ⟨hfirst, hgiven⟩)
  | @refused before a f hbefore ha hroom =>
      have hsum : ((Answer.accept n :: before).map room).sum =
          n + (before.map room).sum := rfl
      rw [← List.take_add, ← hsum]
      refine .refused (List.forall_mem_cons.2 ⟨hfirst, hbefore⟩) ha ?_
      rw [List.length_drop] at hroom
      omega

/-- One answer more, after which the same is written again. -/
theorem interrupt {f : Fault} (hf : f.kind = .interrupted)
    (h : Ends bytes given taken fault) :
    Ends bytes (.fault f :: given) taken fault := by
  have hfirst : (Answer.fault f).Takes := hf
  cases h with
  | whole hgiven => exact .whole (List.forall_mem_cons.2 ⟨hfirst, hgiven⟩)
  | @refused before a g hbefore ha hroom =>
      have hsum : ((Answer.fault f :: before).map room).sum =
          (before.map room).sum := Nat.zero_add _
      rw [← hsum] at hroom ⊢
      exact .refused (List.forall_mem_cons.2 ⟨hfirst, hbefore⟩) ha hroom

end Ends

theorem flush_writeAll (s : Sink) (bytes : List UInt8) :
    (s.writeAll bytes).2.flush =
      (s.flushFault, (s.writeAll bytes).2.flush.2) := rfl

theorem flushes_writeAll (s : Sink) (bytes : List UInt8) :
    (s.writeAll bytes).2.flushes = s.flushes := rfl

theorem writes_writeAll (s : Sink) (bytes : List UInt8) :
    (s.writeAll bytes).2.writes =
      s.writes + (deliver s.answers bytes).writes := rfl

/-- A message comes to its end by the answers that stand first.  Each of them is
given to one write; a message for which they do not suffice is taken by one write
more. -/
theorem exists_given (answers : List Answer) (bytes : List UInt8) :
    let w := deliver answers bytes
    ∃ given, answers = given ++ w.answers ∧
      Ends bytes given w.taken w.fault ∧
      w.writes ≤ given.length + 1 ∧
      (w.fault ≠ none → w.writes = given.length) := by
  fun_induction deliver answers bytes with
  | case1 answers => exact ⟨[], rfl, .whole (by simp), by simp, by simp⟩
  | case2 bytes => exact ⟨[], rfl, .whole (by simp), by simp, by simp⟩
  | case3 answers b bs =>
      exact ⟨[.accept 0], rfl, .refused_first rfl (Nat.succ_pos _), by simp,
        by simp⟩
  | case4 n answers b bs ih =>
      obtain ⟨given, hscript, hends, hwrites, hfault⟩ := ih
      refine ⟨.accept (n + 1) :: given, congrArg _ hscript,
        hends.accept (Nat.succ_ne_zero n), Nat.succ_le_succ hwrites, ?_⟩
      exact fun hne => congrArg Nat.succ (hfault hne)
  | case5 f answers b bs hkind ih =>
      obtain ⟨given, hscript, hends, hwrites, hfault⟩ := ih
      refine ⟨.fault f :: given, congrArg _ hscript, hends.interrupt hkind,
        Nat.succ_le_succ hwrites, ?_⟩
      exact fun hne => congrArg Nat.succ (hfault hne)
  | case6 f answers b bs hkind =>
      exact ⟨[.fault f], rfl, .refused_first (if_neg hkind) (Nat.succ_pos _),
        by simp, by simp⟩

/-- Writing a message ends without a fault when all of it is taken, and only
then. -/
theorem fault_deliver_iff (answers : List Answer) (bytes : List UInt8) :
    (deliver answers bytes).fault = none ↔
      (deliver answers bytes).taken = bytes := by
  obtain ⟨given, -, hends, -⟩ := exists_given answers bytes
  exact hends.taken_eq_iff.symm

theorem deliver_filter (answers : List Answer) (bytes : List UInt8) :
    let rest := answers.filter fun a => !a.interrupted
    (deliver rest bytes).taken = (deliver answers bytes).taken ∧
    (deliver rest bytes).fault = (deliver answers bytes).fault := by
  fun_induction deliver answers bytes with
  | case1 answers => simp [deliver]
  | case2 bytes => simp [deliver]
  | case3 answers b bs => exact ⟨rfl, rfl⟩
  | case4 n answers b bs ih =>
      obtain ⟨htaken, hfault⟩ := ih
      refine ⟨?_, hfault⟩
      exact congrArg ((b :: bs).take (n + 1) ++ ·) htaken
  | case5 f answers b bs hkind ih =>
      have hdropped : ((Answer.fault f :: answers).filter
          fun a => !a.interrupted) = answers.filter fun a => !a.interrupted := by
        simp [interrupted, hkind]
      rw [hdropped]
      exact ih
  | case6 f answers b bs hkind =>
      have hkept : ((Answer.fault f :: answers).filter
          fun a => !a.interrupted) =
            .fault f :: answers.filter fun a => !a.interrupted := by
        simp [interrupted, hkind]
      simp [hkept, deliver, hkind]

/-- The sink that never interrupts a write, and else answers in the same way. -/
def calm (s : Sink) : Sink :=
  { s with answers := s.answers.filter fun a => !a.interrupted }

/-- Without the interruptions a message comes to the same. -/
theorem deliver_calm (s : Sink) (bytes : List UInt8) :
    (deliver s.calm.answers bytes).taken = (deliver s.answers bytes).taken ∧
    (deliver s.calm.answers bytes).fault = (deliver s.answers bytes).fault :=
  deliver_filter s.answers bytes

end Sink
end Channel

/-- Writing a response uses up the answers that stand first.  A first part of it
is taken, and all of it exactly if none of these answers refuses the rest. -/
theorem Response.exists_given_write (r : Response) (s : Channel.Sink) :
    ∃ (given : List Channel.Answer) (taken : List UInt8),
      s.answers = given ++ (r.write s).2.answers ∧
      (r.write s).2.accepted = s.accepted ++ taken ∧
      taken <+: r.bytes ∧
      (taken = r.bytes ↔ ∀ a ∈ given, a.Takes) := by
  obtain ⟨given, hscript, hends, -, -⟩ :=
    Channel.Sink.exists_given s.answers r.bytes
  obtain ⟨haccepted, hanswers⟩ := r.write_sink s
  rw [s.accepted_writeAll] at haccepted
  rw [s.answers_writeAll] at hanswers
  exact ⟨given, _, hscript.trans (congrArg _ hanswers.symm), haccepted,
    hends.taken_prefix, hends.taken_eq_iff.trans hends.fault_eq_none_iff⟩

end Invocation
