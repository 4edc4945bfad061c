import Invocation.Proofs.Adapter.Run

/-!
# Who delivers

Whether an adapter catches the panics of its handler decides who answers a
panic, and nothing else.  A handler that ends otherwise is answered alike in
both cases.  A panic is answered by the adapter that catches it or by the guard
that sees it go uncaught; the two answers have the same status, the same headers
and the same message, and only their traces tell which of the two it was.
-/

namespace Invocation

/-- The settings with panics caught or not. -/
def Config.catching (config : Config) (catches : Bool) : Config :=
  { config with catchPanics := catches }

/-- A run with a guard that has the settings of the adapter. -/
def guardedRun (scene : Scene) (config : Config) (handler : Handler)
    (source : Channel.Source) (sink : Channel.Sink) (w : World) : Run :=
  run { scene with watch := .answering config } config handler source sink w

/-! ## What an ending comes to -/

/-- An ending that is no panic comes to the same whether panics are caught or
not. -/
theorem conclude_catching {config : Config} {ending : Ending} {r : Response}
    (h : conclude (config.catching false) ending = .ok r) :
    conclude (config.catching true) ending = .ok r := by
  cases ending with
  | reply reply => exact h
  | fail e => exact h
  | panic p => cases h

/-- The panic that leaves an adapter is answered as a caught one if panics are
caught. -/
theorem conclude_catching_of_error {config : Config} {ending : Ending}
    {p : Payload} (h : conclude (config.catching false) ending = .error p) :
    conclude (config.catching true) ending =
      .ok (.ofOutcome config (.failure (.ofPanic p))) := by
  cases ending with
  | reply reply => cases h
  | fail e => cases h
  | panic q =>
      cases h
      rfl

/-- All failures have the same headers. -/
theorem Response.headers_failure (config : Config) (f g : Failure) :
    (ofOutcome config (.failure f)).headers =
      (ofOutcome config (.failure g)).headers := by
  have hdraft : (draft (.failure f)).headers = (draft (.failure g)).headers :=
    rfl
  rw [ofOutcome, ofOutcome, finish, finish, hdraft]

/-! ## Runs -/

section Run

variable (scene : Scene) (config : Config) (handler : Handler)
  (source : Channel.Source) (sink : Channel.Sink) (w : World)

theorem result_guardedRun :
    (guardedRun scene config handler source sink w).result =
      conclude config
        ((handler (.normalize config (inputOf config source))).answer
          scene.context w.store).1 :=
  result_run _ config handler source sink w

/-- What a run with a guard gives its two outputs, when they take everything. -/
theorem accepted_guardedRun (hmark : w.catching = false) (hsink : sink.TakesAll)
    (hhook : w.hook.TakesAll) :
    let out := guardedRun scene config handler source sink w
    (∀ r, out.result = .ok r → out.sink.accepted = sink.accepted ++ r.bytes ∧
      out.world.hook = w.hook) ∧
    ∀ p, out.result = .error p → out.sink = sink ∧
      out.world.hook.accepted = w.hook.accepted ++
        (Response.ofOutcome config
          (.failure (.ofRaised "<location>" p))).bytes := by
  intro out
  have houtput : out.sink = outputOf sink out.result :=
    sink_run _ config handler source sink w
  have hguard : out.world.hook = hookOf config w.hook out.result :=
    hook_run _ config handler source sink w rfl hmark
  constructor
  · intro r hresult
    rw [hresult, outputOf] at houtput
    rw [hresult, hookOf] at hguard
    refine ⟨?_, hguard⟩
    rw [houtput]
    exact (r.write_of_takesAll hsink).1
  · intro p hresult
    rw [hresult, outputOf] at houtput
    rw [hresult, hookOf] at hguard
    refine ⟨houtput, ?_⟩
    rw [hguard]
    exact (Response.write_of_takesAll _ hhook).1

/-- Two runs under guards, of which one catches panics and one does not, call
the handler with the same request and leave the same store.  Where the one that
catches none returns, both return the same response, which is all that is
written.  Where a panic leaves it, its guard writes a response that differs from
that of the other run in its trace only. -/
theorem guardedRun_catching (hmark : w.catching = false)
    (hsink : sink.TakesAll) (hhook : w.hook.TakesAll) :
    let out := fun catches =>
      guardedRun scene (config.catching catches) handler source sink w
    (∃ request, ∀ catches, (out catches).world.calls = w.calls ++ [request]) ∧
    (out true).world.store = (out false).world.store ∧
    (∀ r, (out false).result = .ok r →
      ∀ catches, (out catches).result = .ok r ∧
        (out catches).sink.accepted = sink.accepted ++ r.bytes ∧
        (out catches).world.hook = w.hook) ∧
    ∀ p, (out false).result = .error p →
      let message := if p.message = "" then "handler failed" else p.message
      ∃ r answer : Response,
        ((out true).result = .ok r ∧
          (out true).sink.accepted = sink.accepted ++ r.bytes ∧
          (out true).world.hook = w.hook) ∧
        ((out false).sink = sink ∧
          (out false).world.hook.accepted = w.hook.accepted ++ answer.bytes) ∧
        r.status = 500 ∧ answer.status = 500 ∧ r.headers = answer.headers ∧
        Json.parse r.body = .ok (.object [
          ("error", .string message),
          ("stack", .string ("panic in handler: " ++ p.message))]) ∧
        Json.parse answer.body = .ok (.object [
          ("error", .string message),
          ("stack", .string ("panic at <location>: " ++ p.message))]) := by
  intro out
  -- Both runs come from one answer of the handler, which cannot tell whether
  -- it is caught.
  have hresult : ∀ catches, (out catches).result =
      conclude (config.catching catches)
        ((handler (.normalize config (inputOf config source))).answer
          scene.context w.store).1 :=
    fun catches => result_guardedRun scene _ handler source sink w
  have haccepted : ∀ catches r, (out catches).result = .ok r →
      (out catches).sink.accepted = sink.accepted ++ r.bytes ∧
      (out catches).world.hook = w.hook :=
    fun catches => (accepted_guardedRun scene _ handler source sink w hmark
      hsink hhook).1
  have hcalls : ∀ catches, (out catches).world.calls =
      w.calls ++ [Request.normalize config (inputOf config source)] :=
    fun catches =>
      calls_run _ (config.catching catches) handler source sink w
  have hstore : ∀ catches, (out catches).world.store =
      ((handler (.normalize config (inputOf config source))).answer
        scene.context w.store).2 :=
    fun catches =>
      store_run _ (config.catching catches) handler source sink w
  refine ⟨⟨_, hcalls⟩, (hstore true).trans (hstore false).symm, ?_, ?_⟩
  · intro r hfalse catches
    have hcatches : (out catches).result = .ok r := by
      cases catches with
      | false => exact hfalse
      | true =>
          rw [hresult] at hfalse ⊢
          exact conclude_catching hfalse
    exact ⟨hcatches, haccepted catches r hcatches⟩
  · intro p hfalse
    have hguard := (accepted_guardedRun scene _ handler source sink w hmark
      hsink hhook).2 p hfalse
    have htrue : (out true).result =
        .ok (.ofOutcome config (.failure (.ofPanic p))) := by
      rw [hresult] at hfalse ⊢
      exact conclude_catching_of_error hfalse
    exact ⟨_, _, ⟨htrue, haccepted true _ htrue⟩, hguard, rfl, rfl,
      Response.headers_failure config _ _, Response.parse_body_failure config _,
      Response.parse_body_failure _ _⟩

end Run

/-- A handler that sets a key and panics with what is no text. -/
theorem guardedRun_catching_of_other :
    ∃ r, (guardedRun {} (({} : Config).catching true)
      (fun _ => .set "k" "v" (.panic .other)) [.data [0x31] none] {}
      {}).result = .ok r ∧ r.status = 500 := by
  have hanswer : ∀ p, ∃ r, (guardedRun {} (({} : Config).catching true)
      (fun _ => .set "k" "v" (.panic p)) [.data [0x31] none] {}
      {}).result = .ok r ∧ r.status = 500 := by
    intro p
    have hpanic : (guardedRun {} (({} : Config).catching false)
        (fun _ => .set "k" "v" (.panic p)) [.data [0x31] none] {}
        {}).result = .error p := by
      rw [result_guardedRun]
      rfl
    obtain ⟨r, -, ⟨hresult, -⟩, -, hstatus, -⟩ :=
      (guardedRun_catching {} {} (fun _ => .set "k" "v" (.panic p))
        [.data [0x31] none] {} {} rfl Channel.Sink.takesAll_empty
        Channel.Sink.takesAll_empty).2.2.2 p hpanic
    exact ⟨r, hresult, hstatus⟩
  exact hanswer .other

end Invocation
