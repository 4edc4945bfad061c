import Invocation.Diagnostics.Report
import Invocation.Proofs.Adapter.Run
import Invocation.Proofs.Channel.Source

/-!
# What a run does not depend on

How the input arrives, how much of it is read at a time, what ends it and how a
run is watched have no part in what comes of the run.  Two runs that are
delivered the same bytes, in the same context and store, call their handler with
the same request and come to the same result and the same output.
-/

namespace Invocation

/-- An adapter drains what its source delivers. -/
theorem inputOf_eq_arrived (config : Config) (source : Channel.Source) :
    inputOf config source = source.arrived :=
  Channel.Source.bytes_drain (Channel.Source.bufferSize_pos _) source

/-- A run with its diagnostics: the run, and what is reported of it, unless no
filter is in force. -/
def watchedRun (environment : Option String) (scene : Scene) (config : Config)
    (handler : Handler) (source : Channel.Source) (sink : Channel.Sink)
    (w : World) : Run × Option (List Subscriber.Report) :=
  let out := run scene config handler source sink w
  (out, (Subscriber.ofConfig environment config).map
    (·.reports out.world.trace))

/-- Runs that differ only in how the same bytes arrive, in the size of the
buffer and in the settings of diagnostics give the handler the same request,
once, and come to the same result and the same output, its calls included. -/
theorem run_eq_of_arrived_eq {scene scene' : Scene}
    (hcontext : scene.context = scene'.context) {w w' : World}
    (hstore : w.store = w'.store) {source source' : Channel.Source}
    (harrived : source.arrived = source'.arrived) (config : Config)
    (chunk : UInt64) (filter : String) (format : LogFormat)
    (environment environment' : Option String) (handler : Handler)
    (sink : Channel.Sink) :
    let config' := { config with
      chunkSize := chunk, logFilter := filter, logFormat := format }
    let out := (watchedRun environment scene config handler source sink w).1
    let out' :=
      (watchedRun environment' scene' config' handler source' sink w').1
    (∃ request, out.world.calls = w.calls ++ [request] ∧
      out'.world.calls = w'.calls ++ [request]) ∧
    out.result = out'.result ∧
    out.sink.accepted = out'.sink.accepted ∧
    out.sink.writes = out'.sink.writes ∧
    out.sink.flushes = out'.sink.flushes := by
  intro config' out out'
  -- Normalizing reads neither the size of the buffer nor what is watched.
  have hrequest : Request.normalize config' (inputOf config' source') =
      Request.normalize config (inputOf config source) := by
    rw [inputOf_eq_arrived, inputOf_eq_arrived, harrived]
    rfl
  have hcalls := calls_run scene config handler source sink w
  have hcalls' := calls_run scene' config' handler source' sink w'
  rw [hrequest] at hcalls'
  have hresult : out.result = out'.result := by
    have h := result_run scene config handler source sink w
    have h' := result_run scene' config' handler source' sink w'
    rw [hrequest, ← hcontext, ← hstore] at h'
    exact h.trans h'.symm
  have hsink : out.sink = out'.sink := by
    have h := sink_run scene config handler source sink w
    have h' := sink_run scene' config' handler source' sink w'
    change out.sink = outputOf sink out.result at h
    change out'.sink = outputOf sink out'.result at h'
    rw [h, h', hresult]
  exact ⟨⟨_, hcalls, hcalls'⟩, hresult, by rw [hsink], by rw [hsink],
    by rw [hsink]⟩

/-- A text whose last character comes in two reads is answered as one that comes
whole, byte by byte, from a source that then breaks off. -/
theorem run_eq_of_split_character :
    let handler : Handler := fun r => .reply (.value r.body)
    (watchedRun none {} {} handler
      [.data [0x68, 0xC3] none, .data [0xA9] none] {} {}).1.result =
    (watchedRun (some "trace") {}
      { chunkSize := 1, logFilter := "off", logFormat := .json } handler
      [.data [0x68, 0xC3, 0xA9] none, .fault ⟨.other, "gone"⟩]
      {} {}).1.result := by
  intro handler
  have harrived : Channel.Source.arrived
      [.data [0x68, 0xC3] none, .data [0xA9] none] =
        Channel.Source.arrived
          [.data [0x68, 0xC3, 0xA9] none, .fault ⟨.other, "gone"⟩] := rfl
  exact (run_eq_of_arrived_eq rfl rfl harrived {} 1 "off" .json none
    (some "trace") handler {}).2.1

end Invocation
