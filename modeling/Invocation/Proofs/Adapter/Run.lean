import Invocation.Adapter
import Invocation.Proofs.Channel.Exchange
import Invocation.Proofs.Handler.Run
import Invocation.Proofs.Response.Finish

/-!
# One run of an adapter

What comes of a run depends on the bytes drained, the context and the store
alone; the output has no part in it.  A run of an adapter that catches panics
always has a response.  Under a guard that watches for panics a run leaves one
message in all: its response on the output, or the guard's answer to the one
panic that nobody catches.
-/

namespace Invocation

/-- The bytes that an adapter drains from a source. -/
def inputOf (config : Config) (source : Channel.Source) : List UInt8 :=
  (source.drain (Channel.Source.bufferSize config.chunkSize)).bytes

theorem performs_callHandler (scene : Scene) (handler : Handler)
    (request : Request) :
    Performs scene (handler request) [request]
      (callHandler scene handler request) := by
  intro w
  obtain ⟨hending, h⟩ := performs_run scene (handler request)
    { w with calls := w.calls ++ [request] }
  refine ⟨hending, h.store, ?_, h.catching, h.guarded⟩
  exact h.calls.trans (List.append_nil _)

/-- The response of an adapter is told by the context and the store. -/
theorem respond_eq (scene : Scene) (config : Config) (handler : Handler)
    (input : List UInt8) (w : World) :
    (respond scene config handler input w).1 =
      conclude config ((handler (.normalize config input)).answer
        scene.context w.store).1 :=
  (follows_respondBy (fun request => [request])
    (performs_callHandler scene handler) config input w).1

/-! ## The steps of a run -/

/-- The output of a run that comes to this result: only a response is
written. -/
def outputOf (sink : Channel.Sink) : Except Payload Response → Channel.Sink
  | .ok r => (r.write sink).2
  | .error _ => sink

/-- The guard's output after a run that comes to this result: only a panic that
leaves the run is answered there. -/
def hookOf (config : Config) (hook : Channel.Sink) :
    Except Payload Response → Channel.Sink
  | .ok _ => hook
  | .error p =>
    ((Response.ofOutcome config (.failure (.ofRaised "<location>" p))).write
      hook).2

/-- What a run makes of the world that its handler has left. -/
structure Leaves (before : Channel.Sink) (w : World)
    (answer : Except Payload Response) (out : Run) : Prop where
  result : out.result = answer
  sink : out.sink = outputOf before answer
  store : out.world.store = w.store
  calls : out.world.calls = w.calls
  catching : out.world.catching = w.catching
  hook : out.world.hook = w.hook

section Run

variable (scene : Scene) (config : Config) (handler : Handler)
  (source : Channel.Source) (sink : Channel.Sink) (w : World)

/-- A run arms the guard, lets the handler act with the adapter's setting
around it, and leaves what the ending comes to. -/
theorem follows_run :
    let request := Request.normalize config (inputOf config source)
    ∃ w', Follows (scene.within config) (handler request) [config.catchPanics]
        [request] { w with delivered := false } w' ∧
      Leaves sink w'
        (conclude config ((handler request).answer scene.context w.store).1)
        (run scene config handler source sink w) := by
  intro request
  obtain ⟨hresult, h⟩ := follows_respondBy (fun request => [request])
    (performs_callHandler (scene.within config) handler) config
    (source.drain (Channel.Source.bufferSize config.chunkSize)).bytes
    ({ w with delivered := false }.report (scene.within config) (drainEvents
      (source.drain (Channel.Source.bufferSize config.chunkSize))))
  refine ⟨_, ⟨h.store, h.calls, h.catching, h.guarded⟩, ?_⟩
  unfold run respond
  simp only
  generalize respondBy (scene.within config) config
    (callHandler (scene.within config) handler)
    (source.drain (Channel.Source.bufferSize config.chunkSize)).bytes
    ({ w with delivered := false }.report (scene.within config) (drainEvents
      (source.drain (Channel.Source.bufferSize config.chunkSize)))) = answer
    at hresult ⊢
  obtain ⟨result, w'⟩ := answer
  change result = conclude config
    ((handler request).answer scene.context w.store).1 at hresult
  rw [← hresult]
  cases result with
  | ok r => exact ⟨rfl, by rw [outputOf], rfl, rfl, rfl, rfl⟩
  | error p => exact ⟨rfl, rfl, rfl, rfl, rfl, rfl⟩

/-- What a run gives is what the ending of its handler comes to. -/
theorem result_run :
    (run scene config handler source sink w).result =
      conclude config
        ((handler (.normalize config (inputOf config source))).answer
          scene.context w.store).1 := by
  obtain ⟨w', -, hleaves⟩ := follows_run scene config handler source sink w
  exact hleaves.result

theorem sink_run :
    (run scene config handler source sink w).sink =
      outputOf sink (run scene config handler source sink w).result := by
  obtain ⟨w', -, hleaves⟩ := follows_run scene config handler source sink w
  rw [hleaves.result]
  exact hleaves.sink

/-- A run leaves the store as its handler does. -/
theorem store_run :
    (run scene config handler source sink w).world.store =
      ((handler (.normalize config (inputOf config source))).answer
        scene.context w.store).2 := by
  obtain ⟨w', h, hleaves⟩ := follows_run scene config handler source sink w
  exact hleaves.store.trans h.store

/-- The handler of a run is called once, with the request of the bytes
drained. -/
theorem calls_run :
    (run scene config handler source sink w).world.calls =
      w.calls ++ [Request.normalize config (inputOf config source)] := by
  obtain ⟨w', h, hleaves⟩ := follows_run scene config handler source sink w
  exact hleaves.calls.trans h.calls

/-- The mark that panics will be caught is put back by the end of a run, so that
one run after the other starts without it. -/
theorem catching_run :
    (run scene config handler source sink w).world.catching = w.catching := by
  obtain ⟨w', h, hleaves⟩ := follows_run scene config handler source sink w
  exact hleaves.catching.trans h.catching

/-- The panics that leave a run are those that no invocation around them
catches. -/
theorem result_run_eq_error_iff (p : Payload) :
    (run scene config handler source sink w).result = .error p ↔
      ∃ raise ∈ (handler (.normalize config (inputOf config source))).raised
        scene.context [config.catchPanics] w.store,
        raise.Uncaught ∧ raise.payload = p := by
  rw [result_run, ← mem_leaving,
    ← uncaught_within (uncaught_raised _ _ _) config List.not_mem_nil,
    mem_uncaught]

/-- A guard that watches a run answers the panic that leaves it, and no
other. -/
theorem hook_run (hwatch : scene.watch = .answering config)
    (hmark : w.catching = false) :
    (run scene config handler source sink w).world.hook =
      hookOf config w.hook (run scene config handler source sink w).result := by
  obtain ⟨w', h, hleaves⟩ := follows_run scene config handler source sink w
  have hguarded := h.guarded config [] hwatch (by simp [hmark])
  rw [List.append_nil, uncaught_within (uncaught_raised _ _ _) config
    List.not_mem_nil] at hguarded
  change w'.guarded = (leaving (conclude config
    ((handler (.normalize config (inputOf config source))).answer
      scene.context w.store).1)).foldl (answerPanic config)
        (false, w.hook) at hguarded
  -- Arming has put the flag down, so the one panic there may be is answered.
  rw [hleaves.result, hleaves.hook]
  generalize conclude config _ = result at hguarded ⊢
  have hhook := congrArg Prod.snd hguarded
  cases result with
  | ok r => exact hhook
  | error p =>
      rw [leaving, List.foldl_cons, List.foldl_nil, answerPanic] at hhook
      simp only [(Delivery.attempt_of_armed config _ _).2] at hhook
      rw [hookOf]
      exact hhook

end Run

/-! ## Adapters that catch panics -/

/-- A run of an adapter that catches panics calls its handler once and has a
response, whatever the input, the handler and the output do.  It is the one
that the bytes drained are answered with anywhere, and it has one content type.
Of it, and of nothing else, the output takes a first part, which is all of it
exactly if no answer given to its writes refuses the rest.  So an output that
takes every message has the response added to it as it is on the wire. -/
theorem run_answers_of_catching (scene : Scene) {config : Config}
    (hcatch : config.catchPanics = true) (handler : Handler)
    (source : Channel.Source) (w : World) :
    ∃ r : Response,
      (∀ scene' w', scene'.context = scene.context → w'.store = w.store →
        (respond scene' config handler (inputOf config source) w').1 = .ok r) ∧
      r.headers.count Response.contentType = 1 ∧
      ∀ sink, let out := run scene config handler source sink w
        out.result = .ok r ∧
        out.world.calls =
          w.calls ++ [Request.normalize config (inputOf config source)] ∧
        (∃ (given : List Channel.Answer) (taken : List UInt8),
          sink.answers = given ++ out.sink.answers ∧
          out.sink.accepted = sink.accepted ++ taken ∧
          taken <+: r.bytes ∧ (taken = r.bytes ↔ ∀ a ∈ given, a.Takes)) ∧
        (sink.TakesAll → out.sink.accepted = sink.accepted ++ r.bytes) := by
  let ending := ((handler (.normalize config (inputOf config source))).answer
    scene.context w.store).1
  obtain ⟨o, -, ho⟩ := conclude_of_catching hcatch ending
  refine ⟨.ofOutcome config o, ?_, Response.count_contentType config o, ?_⟩
  · intro scene' w' hcontext hstore
    rw [respond_eq, hcontext, hstore]
    exact ho
  · intro sink out
    have hresult : out.result = .ok (.ofOutcome config o) :=
      (result_run scene config handler source sink w).trans ho
    have hsink : out.sink = ((Response.ofOutcome config o).write sink).2 := by
      rw [sink_run, hresult, outputOf]
    rw [hsink]
    exact ⟨hresult, calls_run scene config handler source sink w,
      Response.exists_given_write _ sink,
      fun htakes => (Response.write_of_takesAll _ htakes).1⟩

/-- A handler that panics, an input that breaks off and an output that breaks
down are no way out of a run.  An output that takes its time and cannot be
flushed has all of the response in the end. -/
theorem run_answers_of_panic :
    let handler : Handler := fun _ => .panic (.text "boom")
    let source : Channel.Source :=
      [.data [0x7B] none, .fault ⟨.other, "gone"⟩]
    let broken : Channel.Sink :=
      { answers := [.accept 1, .fault ⟨.brokenPipe, "gone"⟩] }
    let slow : Channel.Sink :=
      { answers := [.accept 1, .fault ⟨.interrupted, "again"⟩, .accept 2]
        flushFault := some ⟨.brokenPipe, "gone"⟩ }
    ∃ r : Response, r.headers.count Response.contentType = 1 ∧
      (run {} {} handler source broken {}).result = .ok r ∧
      (run {} {} handler source slow {}).result = .ok r ∧
      (run {} {} handler source slow {}).sink.accepted = r.bytes := by
  intro handler source broken slow
  have hcatch : ({} : Config).catchPanics = true := rfl
  have hslow : slow.TakesAll := by
    simp [slow, Channel.Sink.TakesAll, Channel.Answer.Takes]
  obtain ⟨r, -, hcount, hrun⟩ :=
    run_answers_of_catching {} hcatch handler source {}
  obtain ⟨hresult, -, -, haccepted⟩ := hrun slow
  exact ⟨r, hcount, (hrun broken).1, hresult,
    (haccepted hslow).trans (List.nil_append _)⟩

/-! ## Runs under a guard -/

/-- A run under a guard leaves one message in all.  Either it has a response,
which is what the output has taken, and the guard has written nothing; or the
output has taken nothing, and the guard has written the failure of the panic
that left the run, one that no invocation around it catches.  The latter is so
whenever there is such a panic. -/
theorem run_leaves_one_message (scene : Scene) (config : Config) (handler : Handler)
    (source : Channel.Source) (sink : Channel.Sink) (w : World)
    (hwatch : scene.watch = .answering config) (hmark : w.catching = false)
    (hsink : sink.TakesAll) (hhook : w.hook.TakesAll) :
    let raises := (handler (.normalize config (inputOf config source))).raised
      scene.context [config.catchPanics] w.store
    let out := run scene config handler source sink w
    ((∃ r, out.result = .ok r ∧
        out.sink.accepted = sink.accepted ++ r.bytes ∧
        out.world.hook = w.hook) ∨
      ∃ raise ∈ raises, raise.Uncaught ∧ out.result = .error raise.payload ∧
        out.sink = sink ∧
        ∃ (r : Response) (trace : String),
          r = .ofOutcome config (.failure (.ofRaised "<location>" raise.payload)) ∧
          out.world.hook.accepted = w.hook.accepted ++ r.bytes ∧
          r.status = 500 ∧
          Json.parse r.body = .ok (.object [
            ("error", .string (if raise.payload.message = "" then
              "handler failed" else raise.payload.message)),
            ("stack", .string trace)])) ∧
    ((∃ p, out.result = .error p) ↔ ∃ raise ∈ raises, raise.Uncaught) := by
  intro raises out
  have hpanic := result_run_eq_error_iff scene config handler source sink w
  have hguard := hook_run scene config handler source sink w hwatch hmark
  have houtput := sink_run scene config handler source sink w
  constructor
  · cases hresult : out.result with
    | ok r =>
        rw [hresult, hookOf] at hguard
        rw [hresult, outputOf] at houtput
        refine Or.inl ⟨r, rfl, ?_, hguard⟩
        rw [houtput]
        exact (r.write_of_takesAll hsink).1
    | error p =>
        obtain ⟨raise, hraise, hfree, rfl⟩ := (hpanic p).1 hresult
        rw [hresult, hookOf] at hguard
        rw [hresult, outputOf] at houtput
        refine Or.inr ⟨raise, hraise, hfree, rfl, houtput, _, _, rfl, ?_, rfl,
          Response.parse_body_failure config _⟩
        rw [hguard]
        exact (Response.write_of_takesAll _ hhook).1
  · constructor
    · rintro ⟨p, hresult⟩
      obtain ⟨raise, hraise, hfree, -⟩ := (hpanic p).1 hresult
      exact ⟨raise, hraise, hfree⟩
    · rintro ⟨raise, hraise, hfree⟩
      exact ⟨raise.payload, (hpanic _).2 ⟨raise, hraise, hfree, rfl⟩⟩

/-- A handler that survives the panic of a nested invocation and then panics
itself is answered by the guard. -/
theorem run_leaves_message_of_second_panic :
    ∃ p, (run { watch := .answering { catchPanics := false } }
      { catchPanics := false }
      (fun _ => .respond {} (fun _ => .panic (.text "first")) []
        fun _ => .panic (.text "second"))
      [.data [0x31] none] { answers := [.accept 2] } {}).result = .error p :=
  (run_leaves_one_message { watch := .answering { catchPanics := false } }
    { catchPanics := false } _ _ _ {} rfl rfl (by
      intro a ha
      rw [List.mem_singleton.1 ha]
      exact Nat.succ_ne_zero 1)
    Channel.Sink.takesAll_empty).2.2
    ⟨⟨.text "second", [false]⟩, by
      simp [Action.raised, Action.answer, conclude, Outcome.ofEnding,
        Except.map], by decide⟩

end Invocation
