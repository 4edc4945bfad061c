import Invocation.Proofs.Channel.Sink
import Invocation.Proofs.Guard.Calls
import Invocation.Proofs.Response.Finish
import Invocation.Proofs.Response.Wire

/-!
# Who shares a flag, and who claims it

The flags say what the calls of a program say without them: two guards have one
flag exactly if they are kin, and a flag is up exactly if a guard that has it has
answered since one of them was last armed.  So a failure that comes to a guard
is answered exactly if none of its kin has answered.

What carries the proof is that calls are made only on guards that are there, so
that what is said of earlier calls does not change when a guard is added.
-/

namespace Invocation

namespace Guards

section History

variable {calls : List Call} {g : Guards} {i j : Nat} {guard other : Guard}

/-! ## Kin have one flag -/

theorem History.clonedFrom (h : History calls g) :
    ∀ i j, ClonedFrom calls j i →
      ∃ guard, g.guard? j = some guard ∧ g.guard? i = some guard := by
  induction h using History.induct with
  | start =>
      rintro i j ⟨before, later, hcalls, -⟩
      simp at hcalls
  | step h hchange _ ih =>
      intro i j hcloned
      rcases clonedFrom_concat.1 hcloned with hcloned | ⟨rfl, rfl⟩
      · obtain ⟨guard, hj, hi⟩ := ih i j hcloned
        exact ⟨guard, hchange.guard?_eq_some hj, hchange.guard?_eq_some hi⟩
      · rw [← h.length_guards]
        cases hchange with
        | clone hi =>
            exact ⟨_, guard?_concat.2 (Or.inr ⟨rfl, rfl⟩),
              guard?_concat.2 (Or.inl hi)⟩
        | answer hcall => cases hcall

/-- Kin are copies of one guard. -/
theorem History.guard?_of_kin (h : History calls g) (hkin : Kin calls i j) :
    g.guard? i = g.guard? j := by
  induction hkin with
  | rel j i hcloned =>
      obtain ⟨guard, hj, hi⟩ := h.clonedFrom i j hcloned
      rw [hj, hi]
  | refl => rfl
  | symm _ _ _ ih => exact ih.symm
  | trans _ _ _ _ _ first second => exact first.trans second

/-- Guards with one flag are kin: a new guard has a flag that no guard had. -/
theorem History.kin_of_flag_eq (h : History calls g) :
    ∀ i j guard other, g.guard? i = some guard → g.guard? j = some other →
      guard.flag = other.flag → Kin calls i j := by
  induction h using History.induct with
  | start => intro i j guard other hguard; cases hguard
  | @step calls g call g' h hchange _ ih =>
      intro i j guard other hi hj hflag
      cases hchange with
      | new config =>
          rcases guard?_concat.1 hi with hi | ⟨rfl, rfl⟩ <;>
            rcases guard?_concat.1 hj with hj | ⟨rfl, rfl⟩
          · exact (ih i j guard other hi hj hflag).concat _
          · exact absurd hflag (Nat.ne_of_lt (h.flag_lt i guard hi))
          · exact absurd hflag.symm (Nat.ne_of_lt (h.flag_lt j other hj))
          · exact .refl _
      | @clone k origin hk =>
          have hnew := h.length_guards ▸ kin_clone calls k
          rcases guard?_concat.1 hi with hi | ⟨rfl, rfl⟩ <;>
            rcases guard?_concat.1 hj with hj | ⟨rfl, rfl⟩
          · exact (ih i j guard other hi hj hflag).concat _
          · exact .trans _ _ _ ((ih i k _ _ hi hk hflag).concat _)
              (.symm _ _ hnew)
          · exact .trans _ _ _ hnew ((ih k j _ _ hk hj hflag).concat _)
          · exact .refl _
      | arm => exact (ih i j guard other hi hj hflag).concat _
      | answer => exact (ih i j guard other hi hj hflag).concat _

/-- Two guards have one flag exactly if they are kin. -/
theorem History.flag_eq_iff_kin (h : History calls g)
    (hi : g.guard? i = some guard) (hj : g.guard? j = some other) :
    other.flag = guard.flag ↔ Kin calls i j := by
  constructor
  · exact fun hflag => h.kin_of_flag_eq i j guard other hi hj hflag.symm
  · intro hkin
    have hsame := h.guard?_of_kin hkin
    rw [hi, hj] at hsame
    rw [Option.some.inj hsame]

/-- A guard has the settings with which the guard it stems from was made. -/
theorem History.origin (h : History calls g) :
    ∀ i guard, g.guard? i = some guard →
      ∃ before later, calls = before ++ .new guard.config :: later ∧
        Kin calls i (made before) := by
  induction h using History.induct with
  | start => intro i guard hguard; cases hguard
  | @step calls g call g' h hchange _ ih =>
      -- The guard that was there stems from the same guard after the call.
      have hkept : ∀ i guard, g.guard? i = some guard →
          ∃ before later,
            calls ++ [call] = before ++ .new guard.config :: later ∧
            Kin (calls ++ [call]) i (made before) := by
        intro i guard hguard
        obtain ⟨before, later, hcalls, hkin⟩ := ih i guard hguard
        exact ⟨before, later ++ [call], by simp [hcalls], hkin.concat call⟩
      intro i guard hguard
      cases hchange with
      | new config =>
          rcases guard?_concat.1 hguard with hguard | ⟨rfl, rfl⟩
          · exact hkept i guard hguard
          · exact ⟨calls, [], rfl, h.length_guards ▸ .refl _⟩
      | @clone k origin hk =>
          rcases guard?_concat.1 hguard with hguard | ⟨rfl, rfl⟩
          · exact hkept i guard hguard
          · obtain ⟨before, later, hcalls, hkin⟩ := hkept k origin hk
            exact ⟨before, later, hcalls, .trans _ _ _
              (h.length_guards ▸ kin_clone calls k) hkin⟩
      | arm => exact hkept i guard hguard
      | answer => exact hkept i guard hguard

/-! ## A flag tells of the answers -/

/-- A flag is up. -/
def up (g : Guards) (flag : Nat) : Bool := (g.flags[flag]?).getD false

/-- A flag that is added is down, as one that is not there. -/
theorem up_added (g : Guards) (guards : List Guard) (flag : Nat) :
    (Guards.mk (g.flags ++ [false]) guards).up flag = g.up flag := by
  rw [up, up, List.getElem?_append]
  split
  case isTrue => rfl
  case isFalse h =>
    rw [List.getElem?_eq_none (Nat.not_lt.1 h), List.getElem?_singleton]
    split <;> rfl

theorem up_set {flag : Nat} (h : flag < g.flags.length) (value : Bool)
    (guards : List Guard) (k : Nat) :
    (Guards.mk (g.flags.set flag value) guards).up k =
      if flag = k then value else g.up k := by
  rw [up, List.getElem?_set]
  split <;> rfl

/-- A guard has this flag. -/
def Shares (g : Guards) (flag i : Nat) : Prop :=
  ∃ guard, g.guard? i = some guard ∧ guard.flag = flag

theorem shares_iff (hguard : g.guard? i = some guard) {flag : Nat} :
    g.Shares flag i ↔ guard.flag = flag := by
  rw [Shares, hguard]
  simp

theorem Change.shares_iff {call : Call} {g' : Guards} (h : Change g call g')
    (hi : i < g.guards.length) (flag : Nat) :
    g'.Shares flag i ↔ g.Shares flag i := by
  have hguard : g.guard? i = some g.guards[i] := List.getElem?_eq_getElem hi
  rw [Guards.shares_iff hguard, Guards.shares_iff (h.guard?_eq_some hguard)]

/-- A flag goes up by an answer of a guard that has it, and down when one is
armed. -/
theorem Change.up_iff {call : Call} {g' : Guards} (h : Change g call g')
    (hflags : ∀ i guard, g.guard? i = some guard →
      guard.flag < g.flags.length) (flag : Nat) :
    g'.up flag = true ↔
      (∃ i ∈ call.answers?, g'.Shares flag i) ∨
        (g.up flag = true ∧ ∀ i, g'.Shares flag i → call ≠ .arm i) := by
  cases h with
  | new => simp [Call.answers?, up_added]
  | clone => simp [Call.answers?, up]
  | @arm i guard hi =>
      have hthis : Shares ⟨g.flags.set guard.flag false, g.guards⟩ flag i ↔
          guard.flag = flag := Guards.shares_iff hi
      rw [up_set (hflags i guard hi)]
      split
      case isTrue hflag =>
        refine iff_of_false Bool.false_ne_true ?_
        rintro (⟨j, hj, -⟩ | ⟨-, hnone⟩)
        · cases hj
        · exact hnone i (hthis.2 hflag) rfl
      case isFalse hflag =>
        constructor
        · refine fun hup => Or.inr ⟨hup, ?_⟩
          rintro j hj heq
          cases heq
          exact hflag (hthis.1 hj)
        · rintro (⟨j, hj, -⟩ | ⟨hup, -⟩)
          · cases hj
          · exact hup
  | @answer _ i guard hcall hi =>
      have hthis : Shares ⟨g.flags.set guard.flag true, g.guards⟩ flag i ↔
          guard.flag = flag := Guards.shares_iff hi
      have harm : ∀ j, call ≠ .arm j := by
        rintro j rfl
        cases hcall
      rw [up_set (hflags i guard hi), hcall]
      split
      case isTrue hflag => simp [hthis.2 hflag]
      case isFalse hflag => simp [hthis, hflag, harm]

/-- A flag is up exactly if a guard that has it has answered and none that has
it has been armed since. -/
theorem History.up_iff (h : History calls g) :
    ∀ flag, g.up flag = true ↔ AnsweredBy (g.Shares flag) calls := by
  induction h using History.induct with
  | start =>
      refine fun flag => iff_of_false Bool.false_ne_true ?_
      rintro ⟨before, call, later, hcalls, -⟩
      simp at hcalls
  | step h hchange _ ih =>
      intro flag
      -- Who shares the flag has not changed for the guards of earlier calls.
      have hsame := answeredBy_congr fun call hcall i hi =>
        hchange.shares_iff (h.subject_lt call hcall i hi) flag
      rw [hchange.up_iff h.flag_lt, answeredBy_concat, hsame, ih flag]

/-- The flag of a guard is up exactly if it or one of its kin has answered and
none of them has been armed since. -/
theorem History.delivered_iff (h : History calls g)
    (hi : g.guard? i = some guard) :
    g.delivered guard = true ↔ Answered calls i := by
  refine (h.up_iff guard.flag).trans (answeredBy_congr fun call hcall j hj => ?_)
  have hguard := List.getElem?_eq_getElem (h.subject_lt call hcall j hj)
  exact (shares_iff hguard).trans (h.flag_eq_iff_kin hi hguard)

end History

end Guards

/-! ## The answer to a failure -/

namespace Response

/-- A response of status 500 that tells a failure, and as which its bytes are
read. -/
def Reports (r : Response) (f : Failure) : Prop :=
  r.status = 500 ∧
  Json.parse r.body = .ok (.object [
    ("error", .string
      (if f.message = "" then namelessFailure else f.message)),
    ("stack", .string f.trace)]) ∧
  ∃ text, Text.Utf8.decode? r.bytes = some text ∧ decoder.parse text = .ok r

theorem reports_failure (config : Config) (f : Failure) :
    (ofOutcome config (.failure f)).Reports f :=
  ⟨rfl, parse_body_failure config f, _, Text.Utf8.decode?_encode _,
    parse_wire _⟩

end Response

namespace Guards

section Deliver

variable {calls : List Call} {g : Guards} {i : Nat} {guard : Guard}

/-- Delivering claims the flag that it finds down. -/
theorem claimed_deliver (hi : g.guard? i = some guard) (f : Failure)
    (output : Channel.Sink) :
    (g.deliver i f output).1.claimed = !g.delivered guard := by
  rw [deliver, hi]
  cases hflag : g.delivered guard with
  | true => simp [hflag, Delivery.attempt_of_delivered]
  | false =>
      simp [hflag, (Delivery.attempt_of_armed guard.config f output).1]

/-- A call that claimed the flag wrote the response of the failure, and any
other left the output alone. -/
theorem sink_deliver (hi : g.guard? i = some guard) (f : Failure)
    (output : Channel.Sink) :
    (g.deliver i f output).1.sink =
      if (g.deliver i f output).1.claimed then
        ((Response.ofOutcome guard.config (.failure f)).write output).2
      else output := by
  rw [claimed_deliver hi, deliver, hi]
  cases hflag : g.delivered guard with
  | true => simp [hflag, Delivery.attempt_of_delivered]
  | false =>
      simp [hflag, (Delivery.attempt_of_armed guard.config f output).2]

/-- Once a guard has answered, the flag of its kin stays up until one of them is
armed. -/
theorem History.delivered_of_answered {later : List Call} {call : Call}
    (h : History (calls ++ call :: later) g) (hcall : call.answers? = some i)
    (harm : ∀ j, Kin (calls ++ call :: later) i j → .arm j ∉ later)
    {j : Nat} (hj : g.guard? j = some guard)
    (hkin : Kin (calls ++ call :: later) i j) : g.delivered guard = true := by
  refine (h.delivered_iff hj).2
    ⟨calls, call, later, rfl, ⟨i, hcall, .symm _ _ hkin⟩, fun k hk => ?_⟩
  exact harm k (.trans _ _ _ hkin hk)

/-- A flag is claimed once for each time it is armed.  Whatever calls a program
has made, the guards with the flag of a guard are its kin, and it has the
settings with which the first of them was made.  A failure that comes to it is
answered exactly if none of its kin has answered since one of them was armed,
by a first part of one response; otherwise the output sees nothing.  The flag is
up from then on, whatever the output did, until one of the kin is armed. -/
theorem deliver_claims_iff_not_answered (h : History calls g)
    (hi : g.guard? i = some guard) (f : Failure) (output : Channel.Sink) :
    (∀ j other, g.guard? j = some other →
      (other.flag = guard.flag ↔ Kin calls i j)) ∧
    (∃ before later, calls = before ++ .new guard.config :: later ∧
      Kin calls i (made before)) ∧
    ((g.deliver i f output).1.claimed = true ↔ ¬ Answered calls i) ∧
    ((g.deliver i f output).1.claimed = true →
      (Response.ofOutcome guard.config (.failure f)).Reports f ∧
      ∃ taken, taken <+: (Response.ofOutcome guard.config (.failure f)).bytes ∧
        (g.deliver i f output).1.sink.accepted = output.accepted ++ taken) ∧
    ((g.deliver i f output).1.claimed = false →
      (g.deliver i f output).1.sink = output) ∧
    (∀ j other, (g.deliver i f output).2.guard? j = some other →
      Kin calls i j → (g.deliver i f output).2.delivered other = true) ∧
    ∀ later g', History (calls ++ .deliver i f output :: later) g' →
      (∀ j, Kin (calls ++ .deliver i f output :: later) i j →
        .arm j ∉ later) →
      ∀ j other, g'.guard? j = some other →
        Kin (calls ++ .deliver i f output :: later) i j →
        g'.delivered other = true := by
  have hclaimed := claimed_deliver hi f output
  have hsink := sink_deliver hi f output
  refine ⟨fun j other => h.flag_eq_iff_kin hi, h.origin i guard hi, ?_, ?_, ?_,
    ?_, fun later g' h' harm j other => h'.delivered_of_answered rfl harm⟩
  · rw [hclaimed, ← h.delivered_iff hi]
    simp
  · intro hyes
    rw [if_pos hyes] at hsink
    rw [hsink]
    exact ⟨Response.reports_failure guard.config f,
      Response.accepted_write _ output⟩
  · intro hno
    rw [hsink, hno]
    rfl
  · intro j other hj hkin
    have hnext : History (calls ++ [.deliver i f output])
        (g.deliver i f output).2 :=
      .next h (.deliver i f output) fun k hk => by
        cases hk
        rw [hi]
        rfl
    exact hnext.delivered_of_answered rfl (fun _ _ => List.not_mem_nil) hj
      (hkin.concat _)

/-- A panic comes to a clone after the guard was armed anew, and the output
breaks off: the flag is claimed all the same. -/
theorem deliver_claims_iff_not_answered_of_clone :
    let calls : List Call := [.new {}, .mark 0, .clone 0, .arm 0]
    let output : Channel.Sink :=
      { answers := [.accept 3, .fault ⟨.brokenPipe, "host went away"⟩] }
    let f := Failure.ofRaised "<location>" (.text "boom")
    ∃ g guard, History calls g ∧ g.guard? 1 = some guard ∧
      ¬ Answered calls 1 ∧ (g.deliver 1 f output).1.claimed = true ∧
      (g.deliver 1 f output).1.sink.accepted = Text.Utf8.encode "\x7b\"s" ∧
      ∀ j other, (g.deliver 1 f output).2.guard? j = some other →
        Kin calls 1 j → (g.deliver 1 f output).2.delivered other = true := by
  intro calls output f
  have h : History calls ⟨[false], [⟨0, {}⟩, ⟨0, {}⟩]⟩ := by
    have hnew := History.start.next (.new {}) (by simp [Call.subject?])
    have hmark := hnew.next (.mark 0) (by simp [Call.subject?]; rfl)
    have hclone := hmark.next (.clone 0) (by simp [Call.subject?]; rfl)
    exact hclone.next (.arm 0) (by simp [Call.subject?]; rfl)
  have hguard : guard? ⟨[false], [⟨0, {}⟩, ⟨0, {}⟩]⟩ 1 = some ⟨0, {}⟩ := rfl
  obtain ⟨-, -, hiff, -, -, hup, -⟩ :=
    deliver_claims_iff_not_answered h hguard f output
  have hclaimed := (claimed_deliver hguard f output).trans rfl
  exact ⟨_, _, h, hguard, hiff.1 hclaimed, hclaimed, by decide +kernel, hup⟩

end Deliver

end Guards
end Invocation
