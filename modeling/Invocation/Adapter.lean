import Invocation.Channel.Source
import Invocation.Handler

/-!
# Adapters

One run of an adapter is one invocation: the guard is armed, the input drained
and made a request, the handler called, its outcome made a response, and the
response written.  Reading and writing faults are reported and change nothing
else; only a panic that the adapter does not catch leaves a run.
-/

namespace Invocation

/-- Calls the invocation's own handler, which is put on record. -/
def callHandler (scene : Scene) (handler : Handler) (request : Request)
    (w : World) : Ending × World :=
  (handler request).run scene { w with calls := w.calls ++ [request] }

/-- Calls a handler and tells what came of it. -/
def invoke (scene : Scene) (config : Config) (handler : Handler)
    (request : Request) (w : World) : Except Payload Outcome × World :=
  settle scene config
    (attempted config.catchPanics (callHandler scene handler request) w)

/-- The response of an adapter to an input, or the panic that leaves it. -/
def respond (scene : Scene) (config : Config) (handler : Handler)
    (input : List UInt8) (w : World) : Except Payload Response × World :=
  respondBy scene config (callHandler scene handler) input w

/-- What draining reports. -/
def drainEvents (d : Channel.Source.Drained) : List Event :=
  (d.fault.map fun f =>
    .inputFault d.bytes.length (.inputRead f.message)).toList ++
  [.inputDrained d.bytes.length]

/-- What writing a response reports. -/
def writeEvent (r : Response) : Except AdapterError Nat → Event
  | .ok bytes => .responseWritten r.status bytes
  | .error e => .responseUndelivered r.status e

/-- What came of a run: the response or the panic that left it, the number of
read calls, what is left of the input, the output, and the world after it. -/
structure Run where
  result : Except Payload Response
  reads : Nat
  source : Channel.Source
  sink : Channel.Sink
  world : World

/-- The scene of an adapter's run. -/
def Scene.within (scene : Scene) (config : Config) : Scene :=
  { scene with invocation := some config.functionName }

/-- Runs an adapter on an input and an output. -/
def run (scene : Scene) (config : Config) (handler : Handler)
    (source : Channel.Source) (sink : Channel.Sink) (w : World) : Run :=
  let scene := scene.within config
  let d := source.drain (Channel.Source.bufferSize config.chunkSize)
  let w := { w with delivered := false }.report scene (drainEvents d)
  match respond scene config handler d.bytes w with
  | (.error p, w) => ⟨.error p, d.calls, d.rest, sink, w⟩
  | (.ok r, w) =>
    let (written, sink) := r.write sink
    ⟨.ok r, d.calls, d.rest, sink,
      { w with delivered := true }.report scene [writeEvent r written]⟩

end Invocation
