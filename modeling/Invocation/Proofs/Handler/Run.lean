import Invocation.Proofs.Handler.Panics

/-!
# Running a handler

A run of an action ends as the action's answer says and leaves the store it
says.  The mark that panics will be caught is what it was, and the guard has
been asked for exactly the panics that nobody around them catches.  The last is
an invariant of the mark: it is set if and only if some invocation around the
action catches panics, which every nested invocation keeps by setting the mark
for its handler and putting it back.
-/

namespace Invocation

/-- The guard's flag and the output on which it answers. -/
def World.guarded (w : World) : Bool × Channel.Sink := (w.delivered, w.hook)

/-- An uncaught panic comes to the guard. -/
def answerPanic (config : Config) (side : Bool × Channel.Sink) (p : Payload) :
    Bool × Channel.Sink :=
  (true, (Delivery.attempt config side.1 (.ofRaised "<location>" p) side.2).sink)

/-- What running an action inside invocations with the settings `inner` makes of
a world, when the requests put on record are `called`. -/
structure Follows (scene : Scene) (a : Action) (inner : List Bool)
    (called : List Request) (w w' : World) : Prop where
  store : w'.store = (a.answer scene.context w.store).2
  calls : w'.calls = w.calls ++ called
  catching : w'.catching = w.catching
  /-- The mark tells whether an invocation around the action catches panics. -/
  guarded : ∀ config around, scene.watch = .answering config →
    (w.catching = true ↔ true ∈ around) →
    w'.guarded = (uncaught (a.raised scene.context (inner ++ around)
      w.store)).foldl (answerPanic config) w.guarded

/-- A call makes what running the action would make. -/
def Performs (scene : Scene) (a : Action) (called : List Request)
    (call : World → Ending × World) : Prop :=
  ∀ w, (call w).1 = (a.answer scene.context w.store).1 ∧
    Follows scene a [] called w (call w).2

/-! ## Panics -/

theorem guarded_panicked {scene : Scene} {config : Config}
    (hwatch : scene.watch = .answering config) (w : World) (p : Payload) :
    (w.panicked scene p).guarded =
      if w.catching then w.guarded else answerPanic config w.guarded p := by
  unfold World.panicked
  rw [hwatch]
  cases hcatch : w.catching with
  | true => simp
  | false => simp [World.guarded, World.report, answerPanic]

theorem panicked_frame (scene : Scene) (w : World) (p : Payload) :
    (w.panicked scene p).store = w.store ∧
    (w.panicked scene p).calls = w.calls ∧
    (w.panicked scene p).catching = w.catching := by
  unfold World.panicked
  cases scene.watch with
  | nobody => exact ⟨rfl, rfl, rfl⟩
  | guardOnly => exact ⟨rfl, rfl, rfl⟩
  | answering config =>
      cases hcatch : w.catching with
      | true => simp [hcatch]
      | false => simp [World.report]

theorem follows_panicked (scene : Scene) (w : World) (p : Payload) :
    Follows scene (.panic p) [] [] w (w.panicked scene p) := by
  obtain ⟨hstore, hcalls, hcatching⟩ := panicked_frame scene w p
  refine ⟨hstore, by rw [hcalls, List.append_nil], hcatching, ?_⟩
  intro config around hwatch hmark
  rw [guarded_panicked hwatch]
  cases hcatch : w.catching with
  | true =>
      have hcaught : true ∈ around := hmark.1 hcatch
      simp [Action.raised, uncaught, Raise.Uncaught, hcaught]
  | false =>
      have hfree : true ∉ around := by
        intro hmem
        rw [hmark.2 hmem] at hcatch
        cases hcatch
      simp [Action.raised, uncaught, Raise.Uncaught, hfree]

/-! ## Invocations -/

section Invocation

variable {scene : Scene} {a : Action} {called : List Request}
  {call : World → Ending × World}

/-- An attempt at a call has the setting of its adapter around it. -/
theorem follows_attempted (h : Performs scene a called call) (catches : Bool)
    (w : World) :
    (attempted catches call w).1 = (a.answer scene.context w.store).1 ∧
      Follows scene a [catches] called w (attempted catches call w).2 := by
  cases catches with
  | true =>
      -- Under the mark the invariant holds whatever is around the adapter.
      obtain ⟨hending, hworld⟩ := h { w with catching := true }
      refine ⟨hending, hworld.store, hworld.calls, rfl, ?_⟩
      intro config around hwatch _
      exact hworld.guarded config (true :: around) hwatch (by simp)
  | false =>
      obtain ⟨hending, hworld⟩ := h w
      refine ⟨hending, hworld.store, hworld.calls, hworld.catching, ?_⟩
      intro config around hwatch hmark
      exact hworld.guarded config (false :: around) hwatch (by simpa using hmark)

/-- Settling an ending only reports. -/
theorem follows_settle {inner : List Bool} {w : World} {r : Ending × World}
    (config : Config) (h : Follows scene a inner called w r.2) :
    (settle scene config r).1 = Outcome.ofEnding config.catchPanics r.1 ∧
      Follows scene a inner called w (settle scene config r).2 := by
  obtain ⟨ending, w'⟩ := r
  simp only [settle]
  cases Outcome.ofEnding config.catchPanics ending with
  | ok o => exact ⟨rfl, h.store, h.calls, h.catching, h.guarded⟩
  | error p => exact ⟨rfl, h⟩

end Invocation

/-- What an adapter answers is what the outcome of its handler is made, in the
world that settling has left. -/
theorem respondBy_eq_settle (scene : Scene) (config : Config)
    (call : Request → World → Ending × World) (input : List UInt8) (w : World) :
    respondBy scene config call input w =
      Prod.map (Except.map (Response.ofOutcome config)) id
        (settle scene config (attempted config.catchPanics
          (call (.ofForm config (Request.form input)))
          (w.report scene [(Request.form input).event config]))) := by
  unfold respondBy
  simp only
  generalize settle scene config (attempted config.catchPanics
    (call (.ofForm config (Request.form input)))
    (w.report scene [(Request.form input).event config])) = settled
  obtain ⟨outcome, w'⟩ := settled
  cases outcome <;> rfl

/-- An adapter's response is what the ending of its handler is made, and the
handler runs with the adapter's setting around it. -/
theorem follows_respondBy {scene : Scene} {handler : Handler}
    (called : Request → List Request)
    {call : Request → World → Ending × World}
    (h : ∀ request, Performs scene (handler request) (called request)
      (call request))
    (config : Config) (input : List UInt8) (w : World) :
    let request := Request.normalize config input
    (respondBy scene config call input w).1 =
        conclude config ((handler request).answer scene.context w.store).1 ∧
      Follows scene (handler request) [config.catchPanics] (called request) w
        (respondBy scene config call input w).2 := by
  intro request
  obtain ⟨hending, hworld⟩ := follows_attempted (h request) config.catchPanics
    (w.report scene [(Request.form input).event config])
  obtain ⟨houtcome, hworld⟩ := follows_settle config hworld
  rw [hending] at houtcome
  rw [respondBy_eq_settle]
  -- Reporting changes nothing of what `Follows` speaks of.
  exact ⟨congrArg (Except.map (Response.ofOutcome config)) houtcome,
    hworld.store, hworld.calls, hworld.catching, hworld.guarded⟩

/-! ## Runs -/

theorem Follows.refl (scene : Scene) {a : Action} (w : World)
    (hstore : (a.answer scene.context w.store).2 = w.store)
    (hraised : ∀ around, a.raised scene.context around w.store = []) :
    Follows scene a [] [] w w := by
  refine ⟨hstore.symm, by simp, rfl, ?_⟩
  intro config around _ _
  rw [List.nil_append, hraised]
  rfl

section Nested

variable {scene : Scene} {config : Config} {handler : Handler}
  {input : List UInt8} {next : Response → Action} {w w' w'' : World}

/-- After a nested invocation that has given a response, the action goes on in
the world that the invocation left. -/
theorem Follows.respond {r : Response}
    (h : Follows scene (handler (.normalize config input))
      [config.catchPanics] [] w w')
    (hresponse : conclude config ((handler (.normalize config input)).answer
      scene.context w.store).1 = .ok r)
    (hnext : Follows scene (next r) [] [] w' w'') :
    Follows scene (.respond config handler input next) [] [] w w'' := by
  constructor
  case store =>
    rw [Action.answer]
    simp only [hresponse]
    rw [hnext.store, h.store]
  case calls => rw [hnext.calls, h.calls, List.append_nil]
  case catching => rw [hnext.catching, h.catching]
  case guarded =>
    intro config' around hwatch hmark
    have hnested := h.guarded config' around hwatch hmark
    rw [hnext.guarded config' around hwatch (by rw [h.catching]; exact hmark),
      hnested, ← List.foldl_append, ← uncaught_append, Action.raised]
    simp only [hresponse, h.store, List.nil_append, List.singleton_append]

/-- A panic that leaves a nested invocation ends the action. -/
theorem Follows.leave {p : Payload}
    (h : Follows scene (handler (.normalize config input))
      [config.catchPanics] [] w w')
    (hpanic : conclude config ((handler (.normalize config input)).answer
      scene.context w.store).1 = .error p) :
    Follows scene (.respond config handler input next) [] [] w w' := by
  constructor
  case store =>
    rw [Action.answer]
    simp only [hpanic]
    exact h.store
  case calls => exact h.calls
  case catching => exact h.catching
  case guarded =>
    intro config' around hwatch hmark
    rw [h.guarded config' around hwatch hmark, List.nil_append, Action.raised]
    simp only [hpanic, List.singleton_append, List.append_nil]

end Nested

/-- A run of an action performs it. -/
theorem performs_run (scene : Scene) (a : Action) :
    Performs scene a [] (a.run scene) := by
  induction a with
  | reply r => exact fun w => ⟨rfl, .refl scene w rfl fun _ => rfl⟩
  | fail e => exact fun w => ⟨rfl, .refl scene w rfl fun _ => rfl⟩
  | panic p => exact fun w => ⟨rfl, follows_panicked scene w p⟩
  | get key next ih =>
      intro w
      obtain ⟨hending, h⟩ := ih (w.store.get? key)
        (w.report scene (w.store.getEvents key))
      exact ⟨hending, h.store, h.calls, h.catching, h.guarded⟩
  | set key value next ih =>
      intro w
      obtain ⟨hending, h⟩ :=
        ih ({ w with store := w.store.set key value }.report scene
          (w.store.setEvents key))
      exact ⟨hending, h.store, h.calls, h.catching, h.guarded⟩
  | log level message next ih =>
      intro w
      obtain ⟨hending, h⟩ := ih
        (w.report scene [.logged level scene.context.functionName message])
      exact ⟨hending, h.store, h.calls, h.catching, h.guarded⟩
  | query sql next ih =>
      intro w
      obtain ⟨hending, h⟩ := ih (scene.context.database.query sql)
        (w.report scene (scene.context.database.queryEvents sql))
      exact ⟨hending, h.store, h.calls, h.catching, h.guarded⟩
  | functionName next ih =>
      intro w
      obtain ⟨hending, h⟩ := ih scene.context.functionName w
      exact ⟨hending, h.store, h.calls, h.catching, h.guarded⟩
  | respond config handler input next ih_handler ih_next =>
      intro w
      obtain ⟨hresult, h⟩ :=
        follows_respondBy (fun _ => []) ih_handler config input w
      rw [Action.run]
      -- Of the nested invocation only what it answers and leaves is used.
      generalize respondBy scene config
        (fun request w => (handler request).run scene w) input w = result
        at hresult h ⊢
      obtain ⟨response, w'⟩ := result
      cases response with
      | ok r =>
          obtain ⟨hending, hnext⟩ := ih_next r w'
          refine ⟨?_, h.respond hresult.symm hnext⟩
          rw [Action.answer]
          simp only [← hresult]
          rw [hending, h.store]
      | error p =>
          refine ⟨?_, h.leave hresult.symm⟩
          rw [Action.answer]
          simp only [← hresult]

end Invocation
