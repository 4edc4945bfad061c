import Invocation.Proofs.Adapter.Run
import Invocation.Proofs.Channel.Calls
import Invocation.Proofs.Diagnostics.Levels
import Invocation.Proofs.Handler.Reports
import Invocation.Proofs.Response.Report

/-!
# The story of a run

The diagnostics of a run follow its steps: draining comes first, then the form of
the input, the handler's own events and its outcome, and the report of the output
last.  At the level `info` the steps that went well are not mentioned except the
last, so what is shown besides the handler's own events is a warning if the input
broke off, an error if the handler failed, and one line on the response.
-/

namespace Invocation

open Channel (Fault Source)

/-! ## The trace of a run -/

/-- The outcome of a call is what the ending of the handler is for its adapter. -/
theorem invoke_fst (scene : Scene) (config : Config) (handler : Handler)
    (request : Request) (w : World) :
    (invoke scene config handler request w).1 =
      Outcome.ofEnding config.catchPanics
        ((handler request).answer scene.context w.store).1 := by
  obtain ⟨hending, h⟩ := follows_attempted
    (performs_callHandler scene handler request) config.catchPanics w
  rw [← hending]
  exact (follows_settle config h).1

theorem reports_callHandler (scene : Scene) (handler : Handler)
    (request : Request) :
    Reports scene (handler request) (callHandler scene handler request) :=
  fun w hmark =>
    reports_run scene (handler request)
      { w with calls := w.calls ++ [request] } hmark

/-- A run that has a response reports last what became of it. -/
theorem adds_run_of_respond {scene : Scene} {config : Config} {handler : Handler}
    {source : Source} {sink : Channel.Sink} {w : World} {r : Response} :
    let d := source.drain (Source.bufferSize config.chunkSize)
    let start := { w with delivered := false }.report (scene.within config)
      (drainEvents d)
    let out := run scene config handler source sink w
    out.result = .ok r →
      Adds (scene.within config) [writeEvent r (r.write sink).1]
        (respond (scene.within config) config handler d.bytes start).2
        out.world := by
  dsimp only
  unfold run
  dsimp only
  generalize respond (scene.within config) config handler _ _ = answer
  obtain ⟨result, w'⟩ := answer
  cases result with
  | ok r' =>
      intro hresult
      obtain rfl : r' = r := Except.ok.inj hresult
      rfl
  | error p => exact nofun

/-- A run of an adapter that catches panics reports what it drained, what it
answers, and what became of the answer. -/
theorem adds_run (scene : Scene) {config : Config}
    (hcatch : config.catchPanics = true) (handler : Handler)
    (source : Source) (sink : Channel.Sink) (w : World) {r : Response} :
    let d := source.drain (Source.bufferSize config.chunkSize)
    let a := handler (.normalize config (inputOf config source))
    let out := run scene config handler source sink w
    out.result = .ok r →
    Adds (scene.within config)
      (drainEvents d ++
        (respondEvents config (inputOf config source)
          (a.reported scene.context w.store)
          (a.answer scene.context w.store).1 ++
        [writeEvent r (r.write sink).1]))
      w out.world := by
  intro d a out hresult
  let start := { w with delivered := false }.report (scene.within config)
    (drainEvents d)
  -- Arming the guard leaves the trace alone.
  have hdrained : Adds (scene.within config) (drainEvents d) w start := rfl
  have hanswered := adds_respondBy
    (performs_callHandler (scene.within config) handler)
    (reports_callHandler (scene.within config) handler) config
    (inputOf config source) (w := start) (.inl hcatch)
  exact hdrained.trans (hanswered.trans (adds_run_of_respond hresult))

/-! ## What is shown of it -/

/-- What is shown of draining: the fault, if one has ended it. -/
def Channel.Source.Drained.warnings (d : Source.Drained) : List Event :=
  (d.fault.map fun f =>
    .inputFault d.bytes.length (.inputRead f.message)).toList

/-- What is shown of an outcome: a failure. -/
def Outcome.failures : Outcome → List Event
  | .failure f => [.handlerFailed f.message]
  | .response _ => []
  | .value _ => []

theorem filter_drainEvents (d : Source.Drained) :
    (drainEvents d).filter (·.upTo .info) = d.warnings := by
  unfold drainEvents Source.Drained.warnings
  cases d.fault <;> rfl

theorem upTo_info_form (config : Config) (form : Request.Form) :
    (form.event config).upTo .info = false := by
  cases form <;> rfl

theorem filter_respondEvents {config : Config} {ending : Ending} {o : Outcome}
    (ho : Outcome.ofEnding config.catchPanics ending = .ok o)
    (input : List UInt8) (own : List Event) :
    (respondEvents config input own ending).filter (·.upTo .info) =
      own.filter (·.upTo .info) ++ o.failures := by
  have hsettled : settledEvents config ending = [o.event] := by
    rw [settledEvents, ho]
    rfl
  have houtcome : [o.event].filter (·.upTo .info) = o.failures := by
    cases o <;> rfl
  rw [respondEvents, hsettled,
    List.filter_cons_of_neg (Bool.eq_false_iff.1 (upTo_info_form config _)),
    List.filter_append, houtcome]

theorem filter_writeEvent (r : Response) (written : Except AdapterError Nat) :
    [writeEvent r written].filter (·.upTo .info) = [writeEvent r written] := by
  cases written <;> rfl

/-- What a subscriber at the level `info` is shown of a run. -/
theorem shown_run (scene : Scene) {config : Config}
    (hcatch : config.catchPanics = true) (handler : Handler)
    (source : Source) (sink : Channel.Sink) (w : World) (format : LogFormat) :
    let d := source.drain (Source.bufferSize config.chunkSize)
    let a := handler (.normalize config (inputOf config source))
    let out := run scene config handler source sink w
    let s : Subscriber := ⟨.upTo .info, format⟩
    ∀ o, Outcome.ofEnding config.catchPanics
        (a.answer scene.context w.store).1 = .ok o →
      ∀ r, out.result = .ok r →
        s.shown out.world.trace = s.shown w.trace ++
          (d.warnings ++
            (a.reported scene.context w.store).filter (·.upTo .info) ++
            o.failures ++ [writeEvent r (r.write sink).1]).map
            (Entry.mk (some config.functionName)) := by
  intro d a out s o ho r hresult
  have htrace := adds_run scene hcatch handler source sink w hresult
  unfold Adds at htrace
  rw [htrace, Subscriber.shown_append, Scene.within,
    Subscriber.shown_map_upTo (Nat.le_refl _), List.filter_append,
    List.filter_append, filter_drainEvents, filter_respondEvents ho,
    filter_writeEvent]
  simp only [List.append_assoc, d, a, s]

/-! ## What the adapter's own events tell -/

/-- What an event tells: how serious it is, its message and its fields. -/
def Event.telling (e : Event) : Level × String × List (String × FieldValue) :=
  (e.level, e.message, e.fields)

theorem telling_warnings {d : Source.Drained} {f : Fault}
    (h : d.fault = some f) :
    d.warnings.map Event.telling = [(.warn,
      "treating input fault as end of stream",
      [("channel", .text "input(0)"), ("bytes", .count d.bytes.length),
        ("error", .text ("failed to read input channel: " ++ f.message))])] := by
  unfold Source.Drained.warnings
  rw [h]
  rfl

theorem failures_eq_nil {o : Outcome} (h : o.isFailure = false) :
    o.failures = [] := by
  cases o with
  | failure f => cases h
  | response r => rfl
  | value v => rfl

section Written

variable {r : Response} {s : Channel.Sink}

/-- A response that went out is reported with its length. -/
theorem telling_writeEvent
    (h : (r.write s).2.accepted = s.accepted ++ r.bytes ∧ s.flushFault = none) :
    (writeEvent r (r.write s).1).telling = (.info, "response written",
      [("channel", .text "output(1)"), ("status", .count r.status.toNat),
        ("bytes", .count r.bytes.length)]) := by
  rw [(r.write_eq_ok_iff s r.bytes.length).2 ⟨h.1, h.2, rfl⟩]
  -- The length is a number like any other here; it is not to be computed.
  generalize r.bytes.length = n
  rfl

/-- A response that did not go out is reported with the fault of the output. -/
theorem exists_telling_writeEvent
    (h : ¬ ((r.write s).2.accepted = s.accepted ++ r.bytes ∧
      s.flushFault = none)) :
    ∃ f : Fault, (writeEvent r (r.write s).1).telling =
      (.error, "response not delivered",
        [("channel", .text "output(1)"), ("status", .count r.status.toNat),
          ("error",
            .text ("failed to write output channel: " ++ f.message))]) := by
  cases hwritten : (r.write s).1 with
  | ok n =>
      obtain ⟨haccepted, hflush, -⟩ := (r.write_eq_ok_iff s n).1 hwritten
      exact absurd ⟨haccepted, hflush⟩ h
  | error e =>
      obtain ⟨f, rfl⟩ := Response.exists_fault_of_write_error hwritten
      exact ⟨f, rfl⟩

end Written

/-! ## What the handler has no part in -/

theorem ofHandler_of_mem_warnings {d : Source.Drained} {e : Event}
    (he : e ∈ d.warnings) : e.ofHandler = false := by
  unfold Source.Drained.warnings at he
  cases hfault : d.fault with
  | none => simp [hfault] at he
  | some f =>
      rw [hfault] at he
      rw [List.mem_singleton.1 he]
      rfl

theorem ofHandler_of_mem_failures {o : Outcome} {e : Event}
    (he : e ∈ o.failures) : e.ofHandler = false := by
  cases o with
  | failure f => rw [List.mem_singleton.1 he]; rfl
  | response r => cases he
  | value v => cases he

theorem ofHandler_writeEvent (r : Response) (written : Except AdapterError Nat) :
    (writeEvent r written).ofHandler = false := by
  cases written <;> rfl

/-! ## The story -/

/-- A run of an adapter that catches panics, under a configuration that shows the
level `info`, is told in this order, each part once: a warning if and only if the
input was ended by a fault, with the number of bytes kept; the events of its
handler that are serious enough, and nothing else is caused by the handler; an
error if and only if the outcome of the handler's call is a failure, with its
message; and one line on the response, which says that it was written, and with
how many bytes, if all of its bytes were accepted and the output was flushed, and
else that it was not delivered. -/
theorem run_tells_story_once (scene : Scene) {config : Config}
    (hcatch : config.catchPanics = true) (hfilter : config.logFilter = "info")
    {handler : Handler} (halone : ∀ request, (handler request).Alone)
    (source : Source) (sink : Channel.Sink) (w : World) :
    let kept := inputOf config source
    let request := Request.normalize config kept
    let out := run scene config handler source sink w
    ∃ (s : Subscriber) (o : Outcome) (r : Response)
      (warnings own failures : List Event) (last : Event),
      Subscriber.ofConfig none config = some s ∧
      (invoke scene config handler request w).1 = .ok o ∧
      out.result = .ok r ∧ r = .ofOutcome config o ∧
      s.shown out.world.trace = s.shown w.trace ++
        (warnings ++ own ++ failures ++ [last]).map
          (Entry.mk (some config.functionName)) ∧
      own = ((handler request).reported scene.context w.store).filter
        (·.upTo .info) ∧
      (∀ e ∈ own, e.ofHandler = true) ∧
      (∀ e ∈ warnings ++ failures ++ [last], e.ofHandler = false) ∧
      (∀ f, (Source.ending source).head? = some (.fault f) →
        warnings.map Event.telling = [(.warn,
          "treating input fault as end of stream",
          [("channel", .text "input(0)"), ("bytes", .count kept.length),
            ("error",
              .text ("failed to read input channel: " ++ f.message))])]) ∧
      ((∀ f, (Source.ending source).head? ≠ some (.fault f)) →
        warnings = []) ∧
      (∀ f, o = .failure f → failures.map Event.telling =
        [(.error, "handler failed", [("error", .text f.message)])]) ∧
      (o.isFailure = false → failures = []) ∧
      (out.sink.accepted = sink.accepted ++ r.bytes ∧ sink.flushFault = none →
        last.telling = (.info, "response written",
          [("channel", .text "output(1)"), ("status", .count r.status.toNat),
            ("bytes", .count r.bytes.length)])) ∧
      (¬ (out.sink.accepted = sink.accepted ++ r.bytes ∧
          sink.flushFault = none) →
        ∃ f : Fault, last.telling = (.error, "response not delivered",
          [("channel", .text "output(1)"), ("status", .count r.status.toNat),
            ("error",
              .text ("failed to write output channel: " ++ f.message))])) := by
  intro kept request out
  let d := source.drain (Source.bufferSize config.chunkSize)
  obtain ⟨o, ho, hresponse⟩ := conclude_of_catching hcatch
    ((handler request).answer scene.context w.store).1
  rw [← hcatch] at ho
  let r := Response.ofOutcome config o
  have hresult : out.result = .ok r :=
    (result_run scene config handler source sink w).trans hresponse
  have hsink : out.sink = (r.write sink).2 := by
    rw [sink_run, hresult, outputOf]
  have hfault : ∀ f, d.fault = some f ↔
      (Source.ending source).head? = some (.fault f) := fun f =>
    Source.fault_drain_eq_some_iff (Source.bufferSize_pos config.chunkSize)
  refine ⟨_, o, r, d.warnings, _, o.failures, writeEvent r (r.write sink).1,
    Subscriber.ofConfig_of_info hfilter,
    (invoke_fst scene config handler request w).trans ho, hresult, rfl,
    shown_run scene hcatch handler source sink w config.logFormat o ho r hresult,
    rfl, ?caused, ?unrelated, ?faulted, ?ended, ?failed, ?unfailed, ?written,
    ?undelivered⟩
  case caused =>
    intro e he
    exact (halone request).ofHandler_of_mem _ (List.mem_filter.1 he).1
  case unrelated =>
    intro e he
    rcases List.mem_append.1 he with hbefore | hlast
    · rcases List.mem_append.1 hbefore with hwarning | hfailure
      · exact ofHandler_of_mem_warnings hwarning
      · exact ofHandler_of_mem_failures hfailure
    · rw [List.mem_singleton.1 hlast]
      exact ofHandler_writeEvent r _
  case faulted => exact fun f hending => telling_warnings ((hfault f).2 hending)
  case ended =>
    intro hending
    have hnone : d.fault = none :=
      Option.eq_none_iff_forall_ne_some.2 fun f hf => hending f ((hfault f).1 hf)
    rw [Source.Drained.warnings, hnone]
    rfl
  case failed =>
    rintro f rfl
    rfl
  case unfailed => exact failures_eq_nil
  case written =>
    rw [hsink]
    exact telling_writeEvent
  case undelivered =>
    rw [hsink]
    exact exists_telling_writeEvent

/-- A handler that panics between an input that breaks off and an output that is
not flushed.  Its message at the level `debug` is not shown. -/
theorem run_tells_story_once_of_panic :
    let handler : Handler := fun _ =>
      .log .debug "quiet" (.log .warn "loud" (.panic (.text "boom")))
    let out := run {} {} handler
      [.data [0x7B] none, .fault ⟨.brokenPipe, "gone"⟩]
      { flushFault := some ⟨.other, "stuck"⟩ } {}
    ∃ (s : Subscriber) (f : Fault), Subscriber.ofConfig none {} = some s ∧
      (s.shown out.world.trace).map (fun e => e.event.telling) =
        [(.warn, "treating input fault as end of stream",
            [("channel", .text "input(0)"), ("bytes", .count 1),
              ("error", .text "failed to read input channel: gone")]),
          (.warn, "loud", [("function", .text "function")]),
          (.error, "handler failed", [("error", .text "boom")]),
          (.error, "response not delivered",
            [("channel", .text "output(1)"), ("status", .count 500),
              ("error",
                .text ("failed to write output channel: " ++ f.message))])] := by
  intro handler out
  have hcatch : ({} : Config).catchPanics = true := rfl
  have halone : ∀ request, (handler request).Alone := fun _ => trivial
  have hkept : (inputOf {} [.data [0x7B] none,
      .fault ⟨.brokenPipe, "gone"⟩]).length = 1 := by decide +kernel
  obtain ⟨s, o, r, warnings, own, failures, last, hs, ho, -, hr, hshown, hown, -, -,
    hwarning, -, hfailure, -, -, hlast⟩ :=
    run_tells_story_once {} hcatch rfl halone
      [.data [0x7B] none, .fault ⟨.brokenPipe, "gone"⟩]
      { flushFault := some ⟨.other, "stuck"⟩ } {}
  obtain rfl : .failure (.ofPanic (.text "boom")) = o := Except.ok.inj ho
  obtain ⟨f, hlast⟩ := hlast fun h => Option.some_ne_none _ h.2
  have hwarning := hwarning _ rfl
  rw [hkept] at hwarning
  refine ⟨s, f, hs, ?_⟩
  rw [hshown, List.map_append, List.map_map]
  change [] ++ (warnings ++ own ++ failures ++ [last]).map Event.telling = _
  rw [List.nil_append, List.map_append, List.map_append, List.map_append,
    hwarning, hfailure _ rfl, hown, List.map_singleton, hlast, hr]
  rfl

end Invocation
