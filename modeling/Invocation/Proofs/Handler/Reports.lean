import Invocation.Proofs.Handler.Run

/-!
# What a handler reports

Which events an action puts on the trace depends, like its ending, on the context
and the store alone, as long as a panic that is raised will be caught: nobody who
watches for panics has anything to say then.  A nested adapter reports the form
of its input before its handler acts and the outcome after it.  An action without
nested adapters reports nothing but what its log, its store and its database are
asked to say.
-/

namespace Invocation

/-- The event is caused by a call of a handler: to its log, its store or its
database. -/
def Event.ofHandler : Event → Bool
  | .logged .. | .storeReadRefused _ | .storeWriteRefused _
  | .queryRefused _ => true
  | .inputFault .. | .inputDrained _ | .envelopeParsed .. | .documentWhole
  | .rawText _ | .handlerFailed _ | .handlerResponded _ | .handlerValued
  | .responseWritten .. | .responseUndelivered .. | .panicUncaught _
  | .failureUndelivered _ | .invocationFinished .. => false

/-- What is reported of how a handler has ended: nothing if a panic leaves. -/
def settledEvents (config : Config) (ending : Ending) : List Event :=
  ((Outcome.ofEnding config.catchPanics ending).toOption.map
    Outcome.event).toList

/-- What an adapter reports between an input and its response, when its handler
reports `own` and ends like this. -/
def respondEvents (config : Config) (input : List UInt8) (own : List Event)
    (ending : Ending) : List Event :=
  (Request.form input).event config :: (own ++ settledEvents config ending)

namespace Action

/-- The events that an action reports, in their order. -/
def reported (context : Context) : Action → Store → List Event
  | .reply _, _ => []
  | .fail _, _ => []
  | .panic _, _ => []
  | .get key next, s =>
    s.getEvents key ++ reported context (next (s.get? key)) s
  | .set key value next, s =>
    s.setEvents key ++ reported context next (s.set key value)
  | .log level message next, s =>
    .logged level context.functionName message :: reported context next s
  | .query sql next, s =>
    context.database.queryEvents sql ++
      reported context (next (context.database.query sql)) s
  | .functionName next, s => reported context (next context.functionName) s
  | .respond config handler input next, s =>
    let request := Request.normalize config input
    let inner := answer context (handler request) s
    respondEvents config input (reported context (handler request) s) inner.1 ++
      match conclude config inner.1 with
      | .ok r => reported context (next r) inner.2
      | .error _ => []

/-- The action calls no adapter, whatever it is answered. -/
def Alone : Action → Prop
  | .reply _ | .fail _ | .panic _ => True
  | .get _ next => ∀ value, (next value).Alone
  | .set _ _ next => next.Alone
  | .log _ _ next => next.Alone
  | .query _ next => ∀ rows, (next rows).Alone
  | .functionName next => ∀ name, (next name).Alone
  | .respond .. => False

end Action

/-! ## Traces that grow -/

/-- The trace of a world has grown by these events. -/
def Adds (scene : Scene) (events : List Event) (w w' : World) : Prop :=
  w'.trace = w.trace ++ events.map (Entry.mk scene.invocation)

section Adds

variable {scene : Scene} {events later : List Event} {w w' w'' : World}

theorem Adds.refl (scene : Scene) (w : World) : Adds scene [] w w :=
  (List.append_nil w.trace).symm

theorem Adds.trans (h : Adds scene events w w')
    (hlater : Adds scene later w' w'') : Adds scene (events ++ later) w w'' := by
  unfold Adds at h hlater ⊢
  rw [hlater, h, List.append_assoc, List.map_append]

theorem adds_report (scene : Scene) (events : List Event) (w : World) :
    Adds scene events w (w.report scene events) := rfl

end Adds

/-- While panics are being caught, nobody answers them. -/
theorem panicked_of_catching {w : World} (h : w.catching = true) (scene : Scene)
    (p : Payload) : w.panicked scene p = w := by
  unfold World.panicked
  cases scene.watch with
  | nobody => rfl
  | guardOnly => rfl
  | answering config => exact if_pos h

/-! ## Invocations -/

/-- A call reports what the action says, as long as panics will be caught. -/
def Reports (scene : Scene) (a : Action) (call : World → Ending × World) :
    Prop :=
  ∀ w, w.catching = true →
    Adds scene (a.reported scene.context w.store) w (call w).2

section Invocation

variable {scene : Scene} {a : Action} {call : World → Ending × World} {w : World}

/-- It is enough that the adapter that makes the call catches panics. -/
theorem adds_attempted (h : Reports scene a call) {catches : Bool}
    (hmark : catches = true ∨ w.catching = true) :
    Adds scene (a.reported scene.context w.store) w
      (attempted catches call w).2 := by
  cases catches with
  -- Setting the mark and putting it back are not reported.
  | true => exact h { w with catching := true } rfl
  | false => exact h w (hmark.resolve_left Bool.false_ne_true)

theorem adds_settle (scene : Scene) (config : Config) (r : Ending × World) :
    Adds scene (settledEvents config r.1) r.2 (settle scene config r).2 := by
  obtain ⟨ending, w⟩ := r
  simp only [settledEvents, settle]
  cases Outcome.ofEnding config.catchPanics ending with
  | ok o => exact adds_report scene [o.event] w
  | error p => exact .refl scene w

end Invocation

/-- An adapter reports the form of its input, then what its handler reports, and
then how the handler has ended. -/
theorem adds_respondBy {scene : Scene} {handler : Handler}
    {called : Request → List Request} {call : Request → World → Ending × World}
    (hperforms : ∀ request,
      Performs scene (handler request) (called request) (call request))
    (hreports : ∀ request, Reports scene (handler request) (call request))
    (config : Config) (input : List UInt8) {w : World}
    (hmark : config.catchPanics = true ∨ w.catching = true) :
    let a := handler (.normalize config input)
    Adds scene
      (respondEvents config input (a.reported scene.context w.store)
        (a.answer scene.context w.store).1)
      w (respondBy scene config call input w).2 := by
  intro a
  let start := w.report scene [(Request.form input).event config]
  let r := attempted config.catchPanics (call (.normalize config input)) start
  have hending : r.1 = (a.answer scene.context w.store).1 :=
    (follows_attempted (hperforms _) config.catchPanics start).1
  have hstart : Adds scene [(Request.form input).event config] w start :=
    adds_report scene _ w
  have hown : Adds scene (a.reported scene.context w.store) start r.2 :=
    adds_attempted (hreports _) hmark
  have hsettled := adds_settle scene config r
  rw [hending] at hsettled
  rw [respondBy_eq_settle]
  exact hstart.trans (hown.trans hsettled)

/-! ## Runs -/

/-- A run of an action reports what the action says. -/
theorem reports_run (scene : Scene) (a : Action) :
    Reports scene a (a.run scene) := by
  induction a with
  | reply r => exact fun w _ => .refl scene w
  | fail e => exact fun w _ => .refl scene w
  | panic p =>
      intro w hmark
      rw [Action.run, panicked_of_catching hmark]
      exact .refl scene w
  | get key next ih =>
      intro w hmark
      have hasked := adds_report scene (w.store.getEvents key) w
      exact hasked.trans (ih (w.store.get? key) _ hmark)
  | set key value next ih =>
      intro w hmark
      have hset : Adds scene (w.store.setEvents key) w
          ({ w with store := w.store.set key value }.report scene
            (w.store.setEvents key)) := rfl
      exact hset.trans (ih _ hmark)
  | log level message next ih =>
      intro w hmark
      have hlogged := adds_report scene
        [.logged level scene.context.functionName message] w
      exact hlogged.trans (ih _ hmark)
  | query sql next ih =>
      intro w hmark
      have hqueried :=
        adds_report scene (scene.context.database.queryEvents sql) w
      exact hqueried.trans (ih (scene.context.database.query sql) _ hmark)
  | functionName next ih =>
      exact fun w hmark => ih scene.context.functionName w hmark
  | respond config handler input next ih_handler ih_next =>
      intro w hmark
      have hperforms := fun request => performs_run scene (handler request)
      obtain ⟨hresult, h⟩ :=
        follows_respondBy (fun _ => []) hperforms config input w
      have hinner := adds_respondBy hperforms ih_handler config input (.inr hmark)
      rw [Action.run, Action.reported]
      -- Of the nested invocation only what it answers and leaves is used.
      generalize respondBy scene config
        (fun request w => (handler request).run scene w) input w = result
        at hresult h hinner ⊢
      obtain ⟨response, w'⟩ := result
      simp only [← hresult]
      cases response with
      | ok r =>
          -- The mark is still up, since the invocation has put it back.
          have hnext := ih_next r w' (h.catching.trans hmark)
          rw [h.store] at hnext
          exact hinner.trans hnext
      | error p =>
          rw [List.append_nil]
          exact hinner

/-! ## Handlers without adapters -/

theorem Store.ofHandler_of_mem_events {s : Store} {key : String} {e : Event}
    (h : e ∈ s.getEvents key ∨ e ∈ s.setEvents key) : e.ofHandler = true := by
  cases s with
  | absent =>
      rcases h with h | h <;> rw [List.mem_singleton.1 h] <;> rfl
  | memory entries => rcases h with h | h <;> cases h

theorem Database.ofHandler_of_mem_events {d : Database} {sql : String}
    {e : Event} (h : e ∈ d.queryEvents sql) : e.ofHandler = true := by
  cases d with
  | absent => rw [List.mem_singleton.1 h]; rfl
  | fixed rows => cases h

/-- An action that calls no adapter reports only what its own calls cause. -/
theorem Action.Alone.ofHandler_of_mem {a : Action} (h : a.Alone)
    (context : Context) {s : Store} {e : Event}
    (he : e ∈ a.reported context s) : e.ofHandler = true := by
  induction a generalizing s with
  | reply r => cases he
  | fail f => cases he
  | panic p => cases he
  | get key next ih =>
      rcases List.mem_append.1 he with hasked | hlater
      · exact Store.ofHandler_of_mem_events (.inl hasked)
      · exact ih _ (h _) hlater
  | set key value next ih =>
      rcases List.mem_append.1 he with hset | hlater
      · exact Store.ofHandler_of_mem_events (.inr hset)
      · exact ih h hlater
  | log level message next ih =>
      rcases List.mem_cons.1 he with rfl | hlater
      · rfl
      · exact ih h hlater
  | query sql next ih =>
      rcases List.mem_append.1 he with hqueried | hlater
      · exact Database.ofHandler_of_mem_events hqueried
      · exact ih _ (h _) hlater
  | functionName next ih => exact ih _ (h _) he
  | respond config handler input next => exact h.elim

end Invocation
