import Invocation.Proofs.Guard.Sharing
import Invocation.Proofs.Response.Truncation

/-!
# Who answers an invocation

The flag of a guard and the output are shared by two writers: whoever sees a
panic and has to claim the flag, and the run, which writes its response without
asking and only then puts the flag up.  So the flag keeps the panics that come
after the run's end, or after one another, from being answered, but not the run
from writing after a panic has been answered.  How many messages stand on the
output between two times the guard is armed is counted here exactly, for every
order of the steps.  They can be counted on the output itself, because no
response begins another one and so what was taken comes from one list of
responses only.
-/

namespace Invocation

/-- One step of an invocation, as far as its guard and its output go. -/
inductive Act where
  /-- The guard is armed. -/
  | arm
  /-- A panic comes to the guard, or to one of its clones. -/
  | deliver (f : Failure)
  /-- A run writes its response. -/
  | write (r : Response)
  /-- A run puts the flag up. -/
  | mark

/-- The flag of a guard and the output. -/
structure Desk where
  delivered : Bool := false
  output : Channel.Sink := {}

namespace Desk

/-- One step, and the responses it writes. -/
def step (config : Config) (s : Desk) : Act → Desk × List Response
  | .arm => ({ s with delivered := false }, [])
  | .deliver f =>
    let d := Delivery.attempt config s.delivered f s.output
    (⟨true, d.sink⟩, if d.claimed then [.ofOutcome config (.failure f)] else [])
  | .write r => ({ s with output := (r.write s.output).2 }, [r])
  | .mark => ({ s with delivered := true }, [])

/-- Steps one after the other, and the responses they write. -/
def steps (config : Config) : Desk → List Act → Desk × List Response
  | s, [] => (s, [])
  | s, act :: acts =>
    let first := s.step config act
    let later := steps config first.1 acts
    (later.1, first.2 ++ later.2)

end Desk

/-! ## Calls on guards -/

namespace Guards

variable {g : Guards} {i : Nat} {guard : Guard}

/-- One step by way of a guard: the call that it is, or what a run writes. -/
def act (g : Guards) (output : Channel.Sink) (i : Nat) :
    Act → Guards × Channel.Sink
  | .arm => (g.arm i, output)
  | .deliver f => ((g.deliver i f output).2, (g.deliver i f output).1.sink)
  | .write r => (g, (r.write output).2)
  | .mark => (g.mark i, output)

/-- Steps one after the other, each by way of the guard of its number. -/
def acts (g : Guards) (output : Channel.Sink) :
    List (Nat × Act) → Guards × Channel.Sink
  | [] => (g, output)
  | (i, one) :: later =>
    let next := g.act output i one
    next.1.acts next.2 later

/-- A guard's flag, and the output on which it answers. -/
def desk (g : Guards) (guard : Guard) (output : Channel.Sink) : Desk :=
  ⟨g.delivered guard, output⟩

theorem delivered_set (hflag : guard.flag < g.flags.length) (value : Bool) :
    (Guards.mk (g.flags.set guard.flag value) g.guards).delivered guard =
      value := by
  simp [delivered, hflag]

/-- No step makes a guard or a flag. -/
theorem act_keeps (h : g.guard? i = some guard) (output : Channel.Sink)
    (one : Act) :
    (g.act output i one).1.guards = g.guards ∧
      (g.act output i one).1.flags.length = g.flags.length := by
  cases one with
  | arm => simp [act, arm, setFlag_of_guard? h]
  | mark => simp [act, mark, setFlag_of_guard? h]
  | write r => exact ⟨rfl, rfl⟩
  | deliver f => simp [act, deliver, h, mark, setFlag_of_guard? h]

/-- A call on a guard does to its flag and the output what the step does. -/
theorem desk_act (h : g.guard? i = some guard)
    (hflag : guard.flag < g.flags.length) (output : Channel.Sink) (one : Act) :
    (g.act output i one).1.desk guard (g.act output i one).2 =
      ((g.desk guard output).step guard.config one).1 := by
  cases one with
  | arm =>
      rw [act, arm, setFlag_of_guard? h, desk, delivered_set hflag]
      rfl
  | mark =>
      rw [act, mark, setFlag_of_guard? h, desk, delivered_set hflag]
      rfl
  | write r => rw [act, Desk.step, desk, desk]
  | deliver f =>
      rw [act, deliver, h]
      simp only [mark, setFlag_of_guard? h, desk, delivered_set hflag,
        Desk.step]

/-- Calls on a guard and its clones are steps that share one flag and one
output. -/
theorem desk_acts (hflag : guard.flag < g.flags.length)
    (output : Channel.Sink) (calls : List (Nat × Act))
    (hcalls : ∀ call ∈ calls, g.guard? call.1 = some guard) :
    (g.acts output calls).1.desk guard (g.acts output calls).2 =
      ((g.desk guard output).steps guard.config (calls.map Prod.snd)).1 := by
  induction calls generalizing g output with
  | nil => rfl
  | cons call calls ih =>
      obtain ⟨i, one⟩ := call
      have hi := hcalls _ List.mem_cons_self
      obtain ⟨hguards, hlength⟩ := act_keeps hi output one
      have hrest : ∀ call ∈ calls,
          (g.act output i one).1.guard? call.1 = some guard := by
        intro call hcall
        rw [guard?, hguards]
        exact hcalls call (List.mem_cons_of_mem _ hcall)
      rw [acts, List.map_cons, Desk.steps]
      simp only
      rw [ih (hlength ▸ hflag) _ hrest, desk_act hi hflag]

end Guards

/-! ## What stands on the output -/

/-- What was taken between two states of a sink are so many responses, each
whole. -/
def Channel.Sink.TookResponses (before after : Channel.Sink) (n : Nat) : Prop :=
  ∃ rs : List Response, rs.length = n ∧
    after.accepted = before.accepted ++ rs.flatMap Response.bytes

namespace Desk

variable (config : Config)

theorem accepted_step (s : Desk) (act : Act) (h : s.output.TakesAll) :
    (s.step config act).1.output.accepted =
      s.output.accepted ++ (s.step config act).2.flatMap Response.bytes ∧
    (s.step config act).1.output.TakesAll := by
  cases act with
  | arm => exact ⟨by simp [step], h⟩
  | mark => exact ⟨by simp [step], h⟩
  | write r =>
      simp only [step, List.flatMap_singleton]
      exact r.write_of_takesAll h
  | deliver f =>
      cases hflag : s.delivered with
      | true =>
          simp only [step, hflag, Delivery.attempt_of_delivered]
          exact ⟨by simp, h⟩
      | false =>
          obtain ⟨hclaimed, hsink⟩ := Delivery.attempt_of_armed config f s.output
          obtain ⟨haccepted, htakes⟩ :=
            (Response.ofOutcome config (.failure f)).write_of_takesAll h
          simp only [step, hflag, hclaimed, hsink]
          exact ⟨by simpa using haccepted, htakes⟩

/-- What the output has taken are the responses written, each whole. -/
theorem accepted_steps (s : Desk) (acts : List Act) (h : s.output.TakesAll) :
    (s.steps config acts).1.output.accepted =
      s.output.accepted ++ (s.steps config acts).2.flatMap Response.bytes := by
  induction acts generalizing s with
  | nil => simp [steps]
  | cons act acts ih =>
      obtain ⟨haccepted, htakes⟩ := accepted_step config s act h
      rw [steps]
      simp only
      rw [ih _ htakes, haccepted, List.flatMap_append, List.append_assoc]

end Desk

/-! ## How many responses are written -/

/-- The number of runs that write their response. -/
def writes (acts : List Act) : Nat :=
  acts.countP fun
    | .write _ => true
    | _ => false

@[simp] theorem writes_write (r : Response) (acts : List Act) :
    writes (.write r :: acts) = writes acts + 1 := by
  simp [writes]

@[simp] theorem writes_mark (acts : List Act) :
    writes (.mark :: acts) = writes acts := by
  simp [writes]

@[simp] theorem writes_deliver (f : Failure) (acts : List Act) :
    writes (.deliver f :: acts) = writes acts := by
  simp [writes]

/-- A panic comes before any run has put the flag up. -/
def claimedFirst : List Act → Bool
  | [] => false
  | .deliver _ :: _ => true
  | .mark :: _ => false
  | _ :: acts => claimedFirst acts

@[simp] theorem claimedFirst_write (r : Response) (acts : List Act) :
    claimedFirst (.write r :: acts) = claimedFirst acts := rfl

/-- The steps stand between two times that the guard is armed. -/
def BetweenArms (acts : List Act) : Prop := .arm ∉ acts

namespace Desk

variable (config : Config)

/-- A run that writes leaves the flag alone. -/
theorem delivered_write (s : Desk) (r : Response) :
    (s.step config (.write r)).1.delivered = s.delivered := by
  rw [step]

theorem length_steps_of_delivered (s : Desk) (h : s.delivered = true)
    (acts : List Act) (hacts : BetweenArms acts) :
    (s.steps config acts).2.length = writes acts := by
  induction acts generalizing s with
  | nil => rfl
  | cons act acts ih =>
      have hrest : BetweenArms acts := fun hmem =>
        hacts (List.mem_cons_of_mem act hmem)
      rw [steps]
      simp only [List.length_append]
      cases act with
      | arm => exact absurd List.mem_cons_self hacts
      | mark =>
          rw [ih _ rfl hrest, writes_mark]
          simp [step]
      | write r =>
          have hflag := (s.delivered_write config r).trans h
          rw [ih _ hflag hrest, writes_write]
          simp [step, Nat.add_comm]
      | deliver f =>
          rw [ih _ rfl hrest, writes_deliver]
          simp [step, h, Delivery.attempt_of_delivered]

/-- Between two times the guard is armed every run writes its response, and one
message more is written exactly if a panic comes before any run has put the
flag up. -/
theorem length_steps (s : Desk) (h : s.delivered = false) (acts : List Act)
    (hacts : BetweenArms acts) :
    (s.steps config acts).2.length =
      writes acts + if claimedFirst acts then 1 else 0 := by
  induction acts generalizing s with
  | nil => rfl
  | cons act acts ih =>
      have hrest : BetweenArms acts := fun hmem =>
        hacts (List.mem_cons_of_mem act hmem)
      rw [steps]
      simp only [List.length_append]
      cases act with
      | arm => exact absurd List.mem_cons_self hacts
      | mark =>
          rw [length_steps_of_delivered config _ rfl acts hrest, writes_mark]
          simp [step, claimedFirst]
      | write r =>
          have hflag := (s.delivered_write config r).trans h
          rw [ih _ hflag hrest, writes_write, claimedFirst_write]
          simp only [step, List.length_cons, List.length_nil]
          omega
      | deliver f =>
          -- From here on the flag is up and only runs write.
          obtain ⟨hclaimed, -⟩ := Delivery.attempt_of_armed config f s.output
          rw [length_steps_of_delivered config _ rfl acts hrest,
            writes_deliver, claimedFirst]
          simp [step, h, hclaimed, Nat.add_comm]

/-- What an output that takes every message has taken tells how many responses
were written. -/
theorem tookResponses_iff (s : Desk) (acts : List Act)
    (h : s.output.TakesAll) (n : Nat) :
    s.output.TookResponses (s.steps config acts).1.output n ↔
      (s.steps config acts).2.length = n := by
  have haccepted := accepted_steps config s acts h
  constructor
  · rintro ⟨rs, rfl, htaken⟩
    rw [haccepted, List.append_cancel_left_eq] at htaken
    rw [Response.flatMap_bytes_injective htaken]
  · rintro rfl
    exact ⟨_, rfl, haccepted⟩

/-- From one time the guard is armed to the next at most one response is
written exactly if no run writes its response, or a single one does and puts
the flag up before any panic comes.  An output that takes every message then
holds at most one response more than before, and otherwise more than one.  It
is the same output if the steps are calls that a program makes on a guard and
its clones. -/
theorem at_most_one_iff (s : Desk) (acts : List Act)
    (hacts : BetweenArms acts) :
    let out := (s.step config .arm).1.steps config acts
    let alone := writes acts = 0 ∨ (writes acts = 1 ∧ claimedFirst acts = false)
    (out.2.length ≤ 1 ↔ alone) ∧
    (s.output.TakesAll →
      ((∃ n ≤ 1, s.output.TookResponses out.1.output n) ↔ alone)) ∧
    ∀ (made : List Guards.Call) (g : Guards) (i : Nat) (guard : Guard)
      (calls : List (Nat × Act)),
      Guards.History made g → g.guard? i = some guard →
      guard.config = config →
      (∀ call ∈ calls, Guards.Kin made i call.1) →
      calls.map Prod.snd = .arm :: acts →
      (g.acts s.output calls).2 = out.1.output := by
  intro out alone
  have hcount : out.2.length ≤ 1 ↔ alone := by
    simp only [out, alone]
    rw [length_steps config _ rfl acts hacts]
    cases claimedFirst acts with
    | true =>
        simp only [if_true, Bool.true_eq_false, and_false, or_false]
        omega
    | false =>
        simp only [Bool.false_eq_true, if_false, and_true]
        omega
  refine ⟨hcount, fun htakes => ?_, ?_⟩
  · have htook := tookResponses_iff config (s.step config .arm).1 acts htakes
    rw [← hcount]
    constructor
    · rintro ⟨n, hn, hwritten⟩
      rwa [(htook n).1 hwritten]
    · exact fun hle => ⟨_, hle, (htook _).2 rfl⟩
  · rintro made g i guard calls h hi rfl hkin hcalls
    have hguard : ∀ call ∈ calls, g.guard? call.1 = some guard :=
      fun call hcall => (h.guard?_of_kin (hkin call hcall)) ▸ hi
    have hdesk := Guards.desk_acts (h.flag_lt i guard hi) s.output calls hguard
    rw [hcalls, steps] at hdesk
    exact congrArg Desk.output hdesk

/-- A run that writes its response and puts the flag up, after which a panic
comes to a clone of its guard. -/
theorem at_most_one_of_run :
    let acts : List Act := [.write (.ok "done"), .mark,
      .deliver (.ofRaised "<location>" (.text "late"))]
    let made : List Guards.Call := [.new {}, .clone 0]
    let output : Channel.Sink := { answers := [.accept 5] }
    ∃ g, Guards.History made g ∧
      ∃ n ≤ 1, output.TookResponses
        (g.acts output ([0, 0, 0, 1].zip (.arm :: acts))).2 n := by
  intro acts made output
  have hmade : Guards.History made ⟨[false], [⟨0, {}⟩, ⟨0, {}⟩]⟩ := by
    have hnew := Guards.History.start.next (.new {}) (by
      simp [Guards.Call.subject?])
    exact hnew.next (.clone 0) (by simp [Guards.Call.subject?]; rfl)
  have hacts : BetweenArms acts := by simp [BetweenArms, acts]
  have htakes : output.TakesAll := by
    simp [output, Channel.Sink.TakesAll, Channel.Answer.Takes]
  have halone : writes acts = 1 ∧ claimedFirst acts = false :=
    ⟨by simp [acts, writes], rfl⟩
  obtain ⟨-, htook, hguards⟩ := at_most_one_iff {} ⟨false, output⟩ acts hacts
  have hkin : ∀ call ∈ [0, 0, 0, 1].zip (.arm :: acts),
      Guards.Kin made 0 call.1 := by
    intro call hcall
    have hguard : call.1 = 0 ∨ call.1 = 1 := by
      simpa using (List.of_mem_zip hcall).1
    rcases hguard with hguard | hguard <;> rw [hguard]
    · exact .refl _
    · exact .symm _ _ (Guards.kin_clone [.new {}] 0)
  have hsame := hguards made _ 0 ⟨0, {}⟩ _ hmade rfl rfl hkin rfl
  exact ⟨_, hmade, hsame ▸ (htook htakes).2 (Or.inr halone)⟩

/-- A panic that is answered and recovered from, so that the run goes on to
write its response, leaves two messages on the output. -/
theorem two_messages_of_recovered :
    ¬ ∀ (config : Config) (s : Desk) (acts : List Act),
      s.output.TakesAll → BetweenArms acts →
      ∃ n ≤ 1, s.output.TookResponses
        ((s.step config .arm).1.steps config acts).1.output n := by
  intro h
  have hacts : BetweenArms [.deliver (.ofRaised "<location>" (.text "boom")),
      .write (.ok "done"), .mark] := by
    simp [BetweenArms]
  have htakes := Channel.Sink.takesAll_empty
  obtain ⟨n, hn, htook⟩ := h {} {} _ htakes hacts
  have hcount := (tookResponses_iff {} _ _ htakes n).1 htook
  rw [length_steps {} _ rfl _ hacts] at hcount
  simp [claimedFirst] at hcount
  omega

end Desk
end Invocation
