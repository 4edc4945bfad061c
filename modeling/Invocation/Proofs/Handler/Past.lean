import Invocation.Proofs.Handler.Run

/-!
# Handlers and the past

What was called, reported and written before a handler runs has no part in what
the handler does.  A world may be put after a past: then its records start with
those of the past, and all that acts is as it was.  Every call below is heedless
of the past, in that putting a past before the world it starts from puts the
same past before the world it leaves, and changes nothing else.
-/

namespace Invocation

/-! ## Outputs -/

namespace Channel.Sink

/-- The sink with what another one has been given before it. -/
def after (s past : Sink) : Sink :=
  { s with
    accepted := past.accepted ++ s.accepted
    writes := past.writes + s.writes
    flushes := past.flushes + s.flushes }

/-- A sink that will answer in the same way and has not been given anything. -/
def unused (s : Sink) : Sink :=
  { s with accepted := [], writes := 0, flushes := 0 }

/-- The sink takes every message at once and never fails. -/
def Open (s : Sink) : Prop := s.answers = [] ∧ s.flushFault = none

theorem unused_after (s : Sink) : s.unused.after s = s := by
  simp [after, unused]

theorem Open.unused_eq {s : Sink} (h : s.Open) : s.unused = {} := by
  simp [unused, h.1, h.2]

theorem writeAll_after (s past : Sink) (bytes : List UInt8) :
    (s.after past).writeAll bytes =
      ((s.writeAll bytes).1, (s.writeAll bytes).2.after past) := by
  simp [writeAll, after, List.append_assoc, Nat.add_assoc]

theorem flush_after (s past : Sink) :
    (s.after past).flush = (s.flush.1, s.flush.2.after past) := by
  simp [flush, after, Nat.add_assoc]

theorem Open.writeAll {s : Sink} (h : s.Open) (bytes : List UInt8) :
    (s.writeAll bytes).2.Open := by
  refine ⟨?_, h.2⟩
  change (deliver s.answers bytes).answers = []
  rw [h.1]
  cases bytes with
  | nil => rfl
  | cons b bytes => rfl

end Channel.Sink

namespace Response

theorem write_after (r : Response) (s past : Channel.Sink) :
    r.write (s.after past) = ((r.write s).1, (r.write s).2.after past) := by
  unfold write
  rw [s.writeAll_after]
  obtain ⟨fault, s'⟩ := s.writeAll r.bytes
  cases fault with
  | some f => rfl
  | none =>
      simp only [s'.flush_after]
      obtain ⟨fault, s''⟩ := s'.flush
      cases fault <;> rfl

theorem open_write (r : Response) {s : Channel.Sink} (h : s.Open) :
    (r.write s).2.Open := by
  unfold write
  have hopen := h.writeAll r.bytes
  generalize s.writeAll r.bytes = written at hopen
  obtain ⟨fault, s'⟩ := written
  cases fault with
  | some f => exact hopen
  | none =>
      have hflush : s'.flush.2.Open := hopen
      simp only
      generalize s'.flush = flushed at hflush ⊢
      obtain ⟨fault, s''⟩ := flushed
      cases fault <;> exact hflush

end Response

namespace Delivery

theorem attempt_after (config : Config) (delivered : Bool) (f : Failure)
    (s past : Channel.Sink) :
    attempt config delivered f (s.after past) =
      { attempt config delivered f s with
        sink := (attempt config delivered f s).sink.after past } := by
  unfold attempt
  cases delivered with
  | true => rfl
  | false =>
      simp only [Bool.false_eq_true, if_false]
      rw [Response.write_after]
      obtain ⟨written, s'⟩ :=
        (Response.ofOutcome config (.failure f)).write s
      cases written <;> rfl

theorem open_attempt (config : Config) (delivered : Bool) (f : Failure)
    {s : Channel.Sink} (h : s.Open) :
    (attempt config delivered f s).sink.Open := by
  unfold attempt
  cases delivered with
  | true => exact h
  | false =>
      simp only [Bool.false_eq_true, if_false]
      have hopen := (Response.ofOutcome config (.failure f)).open_write h
      generalize (Response.ofOutcome config (.failure f)).write s = written
        at hopen
      obtain ⟨result, s'⟩ := written
      cases result <;> exact hopen

end Delivery

/-! ## Worlds -/

namespace World

/-- The world with another one before it: what was called, reported and written
there comes first. -/
def after (w past : World) : World :=
  { w with
    calls := past.calls ++ w.calls
    hook := w.hook.after past.hook
    trace := past.trace ++ w.trace }

/-- A world with the same store in which nothing has happened yet. -/
def afresh (w : World) : World where
  store := w.store
  hook := w.hook.unused

/-- Where no panic will be caught, a world is one in which nothing has happened
yet, after itself; only the flag of the guard is not told by that. -/
theorem afresh_after {w : World} (h : w.catching = false) :
    { w.afresh with delivered := w.delivered }.after w = w := by
  simp [after, afresh, w.hook.unused_after, ← h]

theorem afresh_of_open {w : World} (h : w.hook.Open) :
    w.afresh = { store := w.store } := by
  rw [afresh, h.unused_eq]

theorem report_after (scene : Scene) (events : List Event) (w past : World) :
    (w.after past).report scene events =
      (w.report scene events).after past := by
  simp [report, after, List.append_assoc]

theorem panicked_after (scene : Scene) (p : Payload) (w past : World) :
    (w.after past).panicked scene p = (w.panicked scene p).after past := by
  unfold panicked
  cases scene.watch with
  | nobody => rfl
  | guardOnly => rfl
  | answering config =>
      cases hcatch : w.catching with
      | true => simp [after, hcatch]
      | false =>
          -- The guard acts by its flag and its output, not by its records.
          have hattempt := Delivery.attempt_after config w.delivered
            (.ofRaised "<location>" p) w.hook past.hook
          simp [after, report, hcatch, hattempt, List.append_assoc]

theorem open_panicked (scene : Scene) (p : Payload) {w : World}
    (h : w.hook.Open) : (w.panicked scene p).hook.Open := by
  unfold panicked
  cases scene.watch with
  | nobody => exact h
  | guardOnly => exact h
  | answering config =>
      simp only
      split
      · exact h
      · exact Delivery.open_attempt config w.delivered _ h

end World

/-! ## Calls -/

/-- The call comes to the same whatever lies before it, and an output of the
guard that takes everything goes on doing so. -/
structure Heedless {ρ : Type} (call : World → ρ × World) : Prop where
  after : ∀ w past, call (w.after past) = ((call w).1, (call w).2.after past)
  hook : ∀ w, w.hook.Open → (call w).2.hook.Open

section Calls

variable {ρ σ : Type} (scene : Scene) (config : Config)

theorem heedless_nothing (r : ρ) : Heedless fun w => (r, w) :=
  ⟨fun _ _ => rfl, fun _ hopen => hopen⟩

/-- One call and then another, which may depend on what came of the first. -/
theorem Heedless.andThen {call : World → ρ × World}
    {next : ρ → World → σ × World} (h : Heedless call)
    (hnext : ∀ r, Heedless (next r)) :
    Heedless fun w => next (call w).1 (call w).2 := by
  constructor
  case after =>
    intro w past
    simp only [h.after]
    exact (hnext (call w).1).after (call w).2 past
  case hook =>
    intro w hopen
    exact (hnext (call w).1).hook (call w).2 (h.hook w hopen)

/-- Looking into the store and reporting it. -/
theorem heedless_report (look : Store → ρ) (events : Store → List Event) :
    Heedless fun w => (look w.store, w.report scene (events w.store)) :=
  ⟨fun w past => by rw [World.report_after]; rfl, fun _ hopen => hopen⟩

/-- Setting a key in the store and reporting it. -/
theorem heedless_set (key value : String) :
    Heedless fun w => ((), { w with store := w.store.set key value }.report
      scene (w.store.setEvents key)) := by
  refine ⟨fun w past => ?_, fun _ hopen => hopen⟩
  have hreport := World.report_after scene (w.store.setEvents key)
    { w with store := w.store.set key value } past
  exact congrArg _ hreport

/-- Raising a panic. -/
theorem heedless_panicked (p : Payload) :
    Heedless fun w => (Ending.panic p, w.panicked scene p) :=
  ⟨fun w past => by rw [World.panicked_after],
    fun _ => World.open_panicked scene p⟩

theorem Heedless.attempted {call : World → Ending × World}
    (h : Heedless call) (catches : Bool) :
    Heedless (attempted catches call) := by
  cases catches with
  | true =>
      -- The mark is no record: it is set and put back beside the past.
      refine ⟨fun w past => ?_, fun w => h.hook { w with catching := true }⟩
      have hcall := h.after { w with catching := true } past
      change call { w.after past with catching := true } = _ at hcall
      change marked call (w.after past) = _
      rw [marked, hcall]
      rfl
  | false => exact h

theorem Heedless.settle {call : World → Ending × World} (h : Heedless call) :
    Heedless fun w => Invocation.settle scene config (call w) := by
  have hsettle : ∀ ending, Heedless fun w =>
      Invocation.settle scene config (ending, w) := by
    intro ending
    simp only [Invocation.settle]
    cases Outcome.ofEnding config.catchPanics ending with
    | ok o =>
        exact heedless_report scene (fun _ => Except.ok o) fun _ => [o.event]
    | error p => exact heedless_nothing (Except.error p)
  exact h.andThen hsettle

theorem Heedless.respondBy {call : Request → World → Ending × World}
    (h : ∀ request, Heedless (call request)) (input : List UInt8) :
    Heedless (Invocation.respondBy scene config call input) := by
  have hsettle := ((h (.ofForm config (Request.form input))).attempted
    config.catchPanics).settle scene config
  have hreport := heedless_report scene (fun _ => ())
    fun _ => [(Request.form input).event config]
  rw [funext (respondBy_eq_settle scene config call input)]
  exact (hreport.andThen fun _ => hsettle).andThen fun outcome =>
    heedless_nothing (outcome.map (Response.ofOutcome config))

end Calls

/-- Running an action is heedless of the past. -/
theorem heedless_run (scene : Scene) (a : Action) : Heedless (a.run scene) := by
  induction a with
  | reply r => exact heedless_nothing (Ending.reply r)
  | fail e => exact heedless_nothing (Ending.fail e)
  | panic p => exact heedless_panicked scene p
  | get key next ih =>
      exact (heedless_report scene (·.get? key) (·.getEvents key)).andThen ih
  | set key value next ih =>
      exact (heedless_set scene key value).andThen fun _ => ih
  | log level message next ih =>
      exact (heedless_report scene (fun _ => ()) fun _ =>
        [.logged level scene.context.functionName message]).andThen fun _ => ih
  | query sql next ih =>
      exact (heedless_report scene (fun _ => scene.context.database.query sql)
        fun _ => scene.context.database.queryEvents sql).andThen ih
  | functionName next ih => exact ih scene.context.functionName
  | respond config handler input next ih_handler ih_next =>
      -- A panic of the nested invocation leaves out what comes next, so that
      -- this is not one call and then another.
      have hinner := Heedless.respondBy scene config ih_handler input
      constructor
      case after =>
        intro w past
        rw [Action.run, Action.run]
        simp only [hinner.after]
        generalize respondBy scene config _ input w = answer
        obtain ⟨response, w'⟩ := answer
        cases response with
        | ok r => exact (ih_next r).after w' past
        | error p => rfl
      case hook =>
        intro w hopen
        have hnested := hinner.hook w hopen
        rw [Action.run]
        generalize respondBy scene config _ input w = answer at hnested ⊢
        obtain ⟨response, w'⟩ := answer
        cases response with
        | ok r => exact (ih_next r).hook w' hnested
        | error p => exact hnested

end Invocation
