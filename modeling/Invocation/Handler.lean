import Invocation.Guard
import Invocation.Request
import Invocation.Store

/-!
# Handlers

A handler takes a request and acts: it asks and sets keys, logs, queries, calls
other adapters in turn, and ends by a reply, an error or a panic.  An `Action`
is the tree of all this, and running it is recursion on the tree, so that every
handler ends.

A panic runs up to the next adapter that catches it.  Before it does, whoever
watches for panics sees it and, if nobody will catch it, answers through the
guard.  Whether it will be caught is told by a mark: an adapter that catches
panics sets it for its handler and puts it back afterwards.
-/

namespace Invocation

/-- What a handler does from some point on. -/
inductive Action where
  /-- Ends with a reply. -/
  | reply (r : Reply)
  /-- Ends with an error. -/
  | fail (e : ErrorChain)
  /-- Panics. -/
  | panic (p : Payload)
  /-- Asks for a key. -/
  | get (key : String) (next : Option String → Action)
  /-- Sets a key. -/
  | set (key value : String) (next : Action)
  /-- Logs a message. -/
  | log (level : Level) (message : String) (next : Action)
  /-- Sends a query to the database. -/
  | query (sql : String) (next : Except AdapterError (List Json) → Action)
  /-- Asks for the name of the function. -/
  | functionName (next : String → Action)
  /-- Has an adapter answer an input by a handler of its own. -/
  | respond (config : Config) (handler : Request → Action)
      (input : List UInt8) (next : Response → Action)

/-- A function from requests to what is done about them. -/
abbrev Handler := Request → Action

/-- What a handler is given besides its request. -/
structure Context where
  functionName : String := "function"
  database : Database := .absent

/-- Whoever watches for panics: a guard whose failures go to an output of their
own, or only the guard, or nobody. -/
inductive Watch where
  | nobody
  | guardOnly
  | answering (config : Config)

/-- Everything that running a handler can change. -/
structure World where
  store : Store := .absent
  /-- The requests that the invocation's own handler was called with. -/
  calls : List Request := []
  /-- The guard's flag. -/
  delivered : Bool := false
  /-- The mark that a panic raised now will be caught. -/
  catching : Bool := false
  /-- The output of the failures of panics. -/
  hook : Channel.Sink := {}
  /-- What was reported. -/
  trace : List Entry := []

/-- What stays the same while a handler runs. -/
structure Scene where
  context : Context := {}
  watch : Watch := .nobody
  /-- The function whose invocation is around. -/
  invocation : Option String := none

/-- How a handler ends. -/
inductive Ending where
  | reply (r : Reply)
  | fail (e : ErrorChain)
  | panic (p : Payload)

namespace World

/-- Reports events. -/
def report (w : World) (scene : Scene) (events : List Event) : World :=
  { w with trace := w.trace ++ events.map (⟨scene.invocation, ·⟩) }

/-- A panic is raised.  If nobody will catch it, it is answered by the failure
of where it was raised, unless there is an answer already. -/
def panicked (w : World) (scene : Scene) (p : Payload) : World :=
  match scene.watch with
  | .answering config =>
    if w.catching then w
    else
      let d := Delivery.attempt config w.delivered
        (.ofRaised "<location>" p) w.hook
      { w with delivered := true, hook := d.sink }.report scene d.events
  | _ => w

end World

namespace Request

/-- What is reported of the form of an input. -/
def Form.event (config : Config) : Form → Event
  | .envelope fields body =>
    let r := ofForm config (.envelope fields body)
    .envelopeParsed r.method r.uri r.headers.size
  | .whole _ => .documentWhole
  | .raw text => .rawText text.utf8ByteSize

end Request

namespace Outcome

/-- What is reported of an outcome. -/
def event : Outcome → Event
  | .failure f => .handlerFailed f.message
  | .response r => .handlerResponded r.status
  | .value _ => .handlerValued

/-- The outcome of an ending; a panic has one only for an adapter that catches
it. -/
def ofEnding (catches : Bool) : Ending → Except Payload Outcome
  | .reply r => .ok (ofReply r)
  | .fail e => .ok (.failure (.ofError e))
  | .panic p => if catches then .ok (.failure (.ofPanic p)) else .error p

end Outcome

/-- Makes a call whose panics will be caught.  The mark is set for as long as the
call takes and then put back to what it was, however the call has ended. -/
def marked (call : World → Ending × World) (w : World) : Ending × World :=
  let r := call { w with catching := true }
  (r.1, { r.2 with catching := w.catching })

/-- Makes a call as an adapter does that may or may not catch its panics. -/
def attempted (catches : Bool) (call : World → Ending × World) (w : World) :
    Ending × World :=
  if catches then marked call w else call w

/-- The outcome of a call that has ended, which is reported, or the panic that
leaves it. -/
def settle (scene : Scene) (config : Config) :
    Ending × World → Except Payload Outcome × World
  | (ending, w) =>
    match Outcome.ofEnding config.catchPanics ending with
    | .ok o => (.ok o, w.report scene [o.event])
    | .error p => (.error p, w)

/-- The response of an adapter to an input, given how its handler is called, or
the panic that leaves it. -/
def respondBy (scene : Scene) (config : Config)
    (call : Request → World → Ending × World) (input : List UInt8)
    (w : World) : Except Payload Response × World :=
  let form := Request.form input
  let w := w.report scene [form.event config]
  match settle scene config
      (attempted config.catchPanics (call (.ofForm config form)) w) with
  | (.ok o, w) => (.ok (.ofOutcome config o), w)
  | (.error p, w) => (.error p, w)

namespace Action

/-- Runs an action. -/
def run (scene : Scene) : Action → World → Ending × World
  | .reply r, w => (.reply r, w)
  | .fail e, w => (.fail e, w)
  | .panic p, w => (.panic p, w.panicked scene p)
  | .get key next, w =>
    run scene (next (w.store.get? key))
      (w.report scene (w.store.getEvents key))
  | .set key value next, w =>
    run scene next
      ({ w with store := w.store.set key value }.report scene
        (w.store.setEvents key))
  | .log level message next, w =>
    run scene next
      (w.report scene [.logged level scene.context.functionName message])
  | .query sql next, w =>
    run scene (next (scene.context.database.query sql))
      (w.report scene (scene.context.database.queryEvents sql))
  | .functionName next, w => run scene (next scene.context.functionName) w
  | .respond config handler input next, w =>
    match respondBy scene config
        (fun request w => run scene (handler request) w) input w with
    | (.ok r, w) => run scene (next r) w
    | (.error p, w) => (.panic p, w)

end Action
end Invocation
