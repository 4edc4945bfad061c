import Mathlib.Logic.Relation
import Invocation.Guard

/-!
# Calls on guards

A program makes guards, clones them and calls them, in any order.  Its calls
alone tell which guards are kin, that is stem from one another by cloning, and
whether some guards have answered since one of them was last armed.

Each call does one thing: it adds a guard with a flag that no other guard has,
it adds a guard that is there already, or it sets one flag.  What holds of every
history is proved from these changes.
-/

namespace Invocation

namespace Guards

/-! ## Calls -/

/-- A call of a program.  Guards are numbered in the order in which they are
made. -/
inductive Call where
  | new (config : Config)
  | clone (i : Nat)
  | arm (i : Nat)
  | mark (i : Nat)
  | deliver (i : Nat) (f : Failure) (output : Channel.Sink)

namespace Call

/-- The guard on which the call is made. -/
def subject? : Call → Option Nat
  | .new _ => none
  | .clone i => some i
  | .arm i => some i
  | .mark i => some i
  | .deliver i _ _ => some i

/-- The call makes a guard. -/
def makes : Call → Bool
  | .new _ => true
  | .clone _ => true
  | _ => false

/-- The guard that answers by the call, or learns of an answer. -/
def answers? : Call → Option Nat
  | .mark i => some i
  | .deliver i _ _ => some i
  | _ => none

theorem subject?_of_answers? {call : Call} {i : Nat}
    (h : call.answers? = some i) : call.subject? = some i := by
  cases call <;> first | exact h | cases h

theorem not_makes_of_answers? {call : Call} {i : Nat}
    (h : call.answers? = some i) : call.makes = false := by
  cases call <;> first | rfl | cases h

end Call

/-- The guards after a call. -/
def after (g : Guards) : Call → Guards
  | .new config => g.new config
  | .clone i => g.clone i
  | .arm i => g.arm i
  | .mark i => g.mark i
  | .deliver i f output => (g.deliver i f output).2

/-- The calls that a program has made, and the guards they leave.  A call is
made on a guard that is there. -/
inductive History : List Call → Guards → Prop where
  | start : History [] ⟨[], []⟩
  | next {calls : List Call} {g : Guards} (h : History calls g) (call : Call)
      (hsubject : ∀ i ∈ call.subject?, (g.guard? i).isSome) :
      History (calls ++ [call]) (g.after call)

/-- The number of guards that have been made. -/
def made (calls : List Call) : Nat := calls.countP Call.makes

/-- A guard was made by cloning another. -/
def ClonedFrom (calls : List Call) (j i : Nat) : Prop :=
  ∃ before later, calls = before ++ .clone i :: later ∧ j = made before

/-- Guards that stem from one another by cloning. -/
def Kin (calls : List Call) : Nat → Nat → Prop :=
  Relation.EqvGen (ClonedFrom calls)

/-- One of these guards has answered, and none has been armed since. -/
def AnsweredBy (these : Nat → Prop) (calls : List Call) : Prop :=
  ∃ before call later, calls = before ++ call :: later ∧
    (∃ i ∈ call.answers?, these i) ∧ ∀ i, these i → .arm i ∉ later

/-- A guard or one of its kin has answered, and none has been armed since. -/
def Answered (calls : List Call) (i : Nat) : Prop :=
  AnsweredBy (Kin calls i) calls

/-! ### One call more -/

section Concat

variable {calls : List Call} {call : Call} {i j : Nat}

theorem made_concat :
    made (calls ++ [call]) = made calls + if call.makes then 1 else 0 := by
  rw [made, List.countP_append, List.countP_singleton]
  rfl

/-- A call out of those made is the latest one, or one of those before it. -/
theorem split_concat {before later : List Call} {one : Call}
    (h : calls ++ [call] = before ++ one :: later) :
    (later = [] ∧ calls = before ∧ call = one) ∨
      ∃ rest, later = rest ++ [call] ∧ calls = before ++ one :: rest := by
  rcases List.eq_nil_or_concat later with rfl | ⟨rest, last, rfl⟩
  · obtain ⟨hcalls, hcall⟩ := List.append_inj' h rfl
    exact Or.inl ⟨rfl, hcalls, List.singleton_inj.1 hcall⟩
  · rw [List.concat_eq_append, ← List.cons_append, ← List.append_assoc] at h
    obtain ⟨hcalls, hcall⟩ := List.append_inj' h rfl
    rw [List.singleton_inj.1 hcall]
    exact Or.inr ⟨rest, List.concat_eq_append, hcalls⟩

theorem clonedFrom_concat :
    ClonedFrom (calls ++ [call]) j i ↔
      ClonedFrom calls j i ∨ (call = .clone i ∧ j = made calls) := by
  constructor
  · rintro ⟨before, later, hcalls, rfl⟩
    rcases split_concat hcalls with ⟨-, rfl, hcall⟩ | ⟨rest, -, hcalls⟩
    · exact Or.inr ⟨hcall, rfl⟩
    · exact Or.inl ⟨before, rest, hcalls, rfl⟩
  · rintro (⟨before, later, rfl, rfl⟩ | ⟨rfl, rfl⟩)
    · exact ⟨before, later ++ [call], by simp, rfl⟩
    · exact ⟨calls, [], rfl, rfl⟩

theorem Kin.concat (h : Kin calls i j) (call : Call) :
    Kin (calls ++ [call]) i j :=
  Relation.EqvGen.mono (fun _ _ h => clonedFrom_concat.2 (Or.inl h)) _ _ h

theorem kin_clone (calls : List Call) (i : Nat) :
    Kin (calls ++ [.clone i]) (made calls) i :=
  .rel _ _ (clonedFrom_concat.2 (Or.inr ⟨rfl, rfl⟩))

theorem answeredBy_concat {these : Nat → Prop} :
    AnsweredBy these (calls ++ [call]) ↔
      (∃ i ∈ call.answers?, these i) ∨
        (AnsweredBy these calls ∧ ∀ i, these i → call ≠ .arm i) := by
  constructor
  · rintro ⟨before, answer, later, hcalls, hanswer, hlater⟩
    rcases split_concat hcalls with ⟨-, -, rfl⟩ | ⟨rest, rfl, hrest⟩
    · exact Or.inl hanswer
    · refine Or.inr ⟨⟨before, answer, rest, hrest, hanswer, ?_⟩, ?_⟩
      · exact fun i hi hmem => hlater i hi (List.mem_append_left _ hmem)
      · rintro i hi rfl
        exact hlater i hi (List.mem_append_right _ List.mem_cons_self)
  · rintro (hanswer | ⟨⟨before, answer, later, rfl, hanswer, hlater⟩, harm⟩)
    · exact ⟨calls, call, [], rfl, hanswer, fun i _ => List.not_mem_nil⟩
    · refine ⟨before, answer, later ++ [call], by simp, hanswer, ?_⟩
      intro i hi hmem
      rcases List.mem_append.1 hmem with hmem | hmem
      · exact hlater i hi hmem
      · exact harm i hi (List.mem_singleton.1 hmem).symm

end Concat

/-- Only the guards on which calls were made have a part in it. -/
theorem AnsweredBy.of_agree {these those : Nat → Prop} {calls : List Call}
    (hagree : ∀ call ∈ calls, ∀ i ∈ call.subject?, (these i ↔ those i))
    (h : AnsweredBy these calls) : AnsweredBy those calls := by
  obtain ⟨before, call, later, rfl, ⟨i, hi, hthese⟩, hlater⟩ := h
  refine ⟨before, call, later, rfl, ⟨i, hi, ?_⟩, fun j hj hmem => ?_⟩
  · exact (hagree call (by simp) i (Call.subject?_of_answers? hi)).1 hthese
  · have harm := hagree (.arm j) (by simp [hmem]) j rfl
    exact hlater j (harm.2 hj) hmem

theorem answeredBy_congr {these those : Nat → Prop} {calls : List Call}
    (hagree : ∀ call ∈ calls, ∀ i ∈ call.subject?, (these i ↔ those i)) :
    AnsweredBy these calls ↔ AnsweredBy those calls :=
  ⟨.of_agree hagree, .of_agree fun call hcall i hi =>
    (hagree call hcall i hi).symm⟩

/-! ## What a call does -/

/-- The guards before and after a call. -/
inductive Change (g : Guards) : Call → Guards → Prop where
  | new (config : Config) :
      Change g (.new config)
        ⟨g.flags ++ [false], g.guards ++ [⟨g.flags.length, config⟩]⟩
  | clone {i : Nat} {guard : Guard} (h : g.guard? i = some guard) :
      Change g (.clone i) ⟨g.flags, g.guards ++ [guard]⟩
  | arm {i : Nat} {guard : Guard} (h : g.guard? i = some guard) :
      Change g (.arm i) ⟨g.flags.set guard.flag false, g.guards⟩
  | answer {call : Call} {i : Nat} {guard : Guard}
      (hcall : call.answers? = some i) (h : g.guard? i = some guard) :
      Change g call ⟨g.flags.set guard.flag true, g.guards⟩

theorem setFlag_of_guard? {g : Guards} {i : Nat} {guard : Guard}
    (h : g.guard? i = some guard) (value : Bool) :
    g.setFlag i value = ⟨g.flags.set guard.flag value, g.guards⟩ := by
  rw [setFlag, h]

theorem change_after {g : Guards} {call : Call}
    (hsubject : ∀ i ∈ call.subject?, (g.guard? i).isSome) :
    Change g call (g.after call) := by
  cases call with
  | new config => exact .new config
  | clone i =>
      obtain ⟨guard, h⟩ := Option.isSome_iff_exists.1 (hsubject i rfl)
      rw [after, clone, h]
      exact .clone h
  | arm i =>
      obtain ⟨guard, h⟩ := Option.isSome_iff_exists.1 (hsubject i rfl)
      rw [after, arm, setFlag_of_guard? h]
      exact .arm h
  | mark i =>
      obtain ⟨guard, h⟩ := Option.isSome_iff_exists.1 (hsubject i rfl)
      rw [after, mark, setFlag_of_guard? h]
      exact .answer rfl h
  | deliver i f output =>
      obtain ⟨guard, h⟩ := Option.isSome_iff_exists.1 (hsubject i rfl)
      rw [after, deliver, h]
      simp only [mark, setFlag_of_guard? h]
      exact .answer rfl h

/-- What holds at the start and is kept by every change holds of every
history. -/
@[elab_as_elim] theorem History.induct
    {P : ∀ calls g, History calls g → Prop} (start : P [] ⟨[], []⟩ .start)
    (step : ∀ {calls g call g'} (h : History calls g) (_ : Change g call g')
      (h' : History (calls ++ [call]) g'), P calls g h → P _ g' h')
    {calls : List Call} {g : Guards} (h : History calls g) : P calls g h := by
  induction h with
  | start => exact start
  | next h call hsubject ih =>
      exact step h (change_after hsubject) (.next h call hsubject) ih

/-- The guards there were, and the one that is added. -/
theorem guard?_concat {flags : List Bool} {guards : List Guard}
    {guard added : Guard} {i : Nat} :
    (Guards.mk flags (guards ++ [added])).guard? i = some guard ↔
      guards[i]? = some guard ∨ (i = guards.length ∧ added = guard) := by
  rw [guard?, List.getElem?_append]
  split
  case isTrue h => simp [Nat.ne_of_lt h]
  case isFalse h =>
    rw [List.getElem?_eq_none (Nat.not_lt.1 h)]
    have hlast : i - guards.length = 0 ↔ i = guards.length := by omega
    simp [List.getElem?_singleton, hlast]

/-! ## What holds of every history -/

section History

variable {calls : List Call} {g : Guards} {i : Nat} {guard : Guard}

theorem lt_of_guard? (h : g.guard? i = some guard) : i < g.guards.length :=
  (List.getElem?_eq_some_iff.1 h).1

theorem Change.subject_lt {call : Call} {g' : Guards} (h : Change g call g') :
    ∀ i ∈ call.subject?, i < g.guards.length := by
  intro i hi
  cases h with
  | new => cases hi
  | clone h => cases hi; exact lt_of_guard? h
  | arm h => cases hi; exact lt_of_guard? h
  | answer hcall h =>
      rw [Call.subject?_of_answers? hcall] at hi
      cases hi
      exact lt_of_guard? h

theorem Change.length_guards {call : Call} {g' : Guards}
    (h : Change g call g') :
    g'.guards.length = g.guards.length + if call.makes then 1 else 0 := by
  cases h with
  | new => simp [Call.makes]
  | clone => simp [Call.makes]
  | arm => rfl
  | answer hcall => simp [Call.not_makes_of_answers? hcall]

/-- No call takes a guard away or changes it. -/
theorem Change.guard?_eq_some {call : Call} {g' : Guards}
    (h : Change g call g') (hguard : g.guard? i = some guard) :
    g'.guard? i = some guard := by
  cases h with
  | new => exact guard?_concat.2 (Or.inl hguard)
  | clone => exact guard?_concat.2 (Or.inl hguard)
  | arm => exact hguard
  | answer => exact hguard

/-- Calls were made only on guards that are there. -/
theorem History.subject_lt (h : History calls g) :
    ∀ call ∈ calls, ∀ i ∈ call.subject?, i < g.guards.length := by
  induction h using History.induct with
  | start => intro call hcall; cases hcall
  | step _ hchange _ ih =>
      intro call hcall i hi
      refine Nat.lt_of_lt_of_le ?_
        (hchange.length_guards ▸ Nat.le_add_right _ _)
      rcases List.mem_append.1 hcall with hcall | hcall
      · exact ih call hcall i hi
      · rw [List.mem_singleton.1 hcall] at hi
        exact hchange.subject_lt i hi

theorem History.length_guards (h : History calls g) :
    g.guards.length = made calls := by
  induction h using History.induct with
  | start => rfl
  | step _ hchange _ ih => rw [hchange.length_guards, made_concat, ih]

/-- Every guard has a flag. -/
theorem History.flag_lt (h : History calls g) :
    ∀ i guard, g.guard? i = some guard → guard.flag < g.flags.length := by
  induction h using History.induct with
  | start => intro i guard hguard; cases hguard
  | step _ hchange _ ih =>
      intro i guard hguard
      cases hchange with
      | new config =>
          rcases guard?_concat.1 hguard with hguard | ⟨-, rfl⟩
          · exact Nat.lt_of_lt_of_le (ih i guard hguard) (by simp)
          · simp
      | clone h =>
          rcases guard?_concat.1 hguard with hguard | ⟨-, rfl⟩
          · exact ih i guard hguard
          · exact ih _ _ h
      | arm => simpa using ih i guard hguard
      | answer => simpa using ih i guard hguard

end History

end Guards
end Invocation
