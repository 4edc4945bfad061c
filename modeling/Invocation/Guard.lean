import Invocation.Channel.Sink
import Invocation.Diagnostics.Event
import Invocation.Outcome

/-!
# The delivery guard

A guard holds a flag that says whether the invocation has been answered.  Two
parties may answer, the adapter at the end of its run and whoever sees a panic
that nobody catches; the latter has to claim the flag, so that there is no
second answer.  Clones of a guard share its flag.
-/

namespace Invocation

namespace Response

/-- Writes a response to a sink and flushes it: the number of bytes, or the
error of the fault that stopped it.  A message that was not taken whole is not
flushed. -/
def write (r : Response) (sink : Channel.Sink) :
    Except AdapterError Nat × Channel.Sink :=
  match sink.writeAll r.bytes with
  | (some f, sink) => (.error (.outputWrite f.message), sink)
  | (none, sink) =>
    match sink.flush with
    | (some f, sink) => (.error (.outputWrite f.message), sink)
    | (none, sink) => (.ok r.bytes.length, sink)

end Response

/-- What came of a delivery: whether it claimed the flag, the sink after it and
what it reports. -/
structure Delivery where
  claimed : Bool
  sink : Channel.Sink
  events : List Event

namespace Delivery

/-- Answers a failure unless the flag says that there is an answer already. -/
def attempt (config : Config) (delivered : Bool) (failure : Failure)
    (sink : Channel.Sink) : Delivery :=
  if delivered then ⟨false, sink, []⟩
  else
    let response := Response.ofOutcome config (.failure failure)
    match response.write sink with
    | (.ok _, sink) => ⟨true, sink, [.panicUncaught failure.message]⟩
    | (.error e, sink) =>
      ⟨true, sink, [.panicUncaught failure.message, .failureUndelivered e]⟩

end Delivery

/-- A guard: the number of its flag, and the settings by which it answers. -/
structure Guard where
  flag : Nat
  config : Config

/-- Guards and their flags. -/
structure Guards where
  flags : List Bool
  guards : List Guard

namespace Guards

/-- One guard whose flag is down. -/
def one (config : Config) : Guards := ⟨[false], [⟨0, config⟩]⟩

/-- The guard of a number. -/
def guard? (g : Guards) (i : Nat) : Option Guard := g.guards[i]?

/-- The flag of a guard says that there is an answer. -/
def delivered (g : Guards) (guard : Guard) : Bool :=
  (g.flags[guard.flag]?).getD false

/-- Sets the flag of a guard. -/
def setFlag (g : Guards) (i : Nat) (value : Bool) : Guards :=
  match g.guard? i with
  | none => g
  | some guard => { g with flags := g.flags.set guard.flag value }

/-- Adds a guard with a flag of its own, which is down. -/
def new (g : Guards) (config : Config) : Guards :=
  ⟨g.flags ++ [false], g.guards ++ [⟨g.flags.length, config⟩]⟩

/-- Adds a guard that shares the flag of another. -/
def clone (g : Guards) (i : Nat) : Guards :=
  match g.guard? i with
  | none => g
  | some guard => { g with guards := g.guards ++ [guard] }

/-- Starts an invocation: there is no answer yet. -/
def arm (g : Guards) (i : Nat) : Guards := g.setFlag i false

/-- There is an answer. -/
def mark (g : Guards) (i : Nat) : Guards := g.setFlag i true

/-- Answers a failure through a guard. -/
def deliver (g : Guards) (i : Nat) (failure : Failure) (sink : Channel.Sink) :
    Delivery × Guards :=
  match g.guard? i with
  | none => (⟨false, sink, []⟩, g)
  | some guard =>
    (.attempt guard.config (g.delivered guard) failure sink, g.mark i)

/-- The flags of all guards. -/
def states (g : Guards) : List Bool := g.guards.map g.delivered

end Guards
end Invocation
