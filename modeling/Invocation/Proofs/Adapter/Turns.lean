import Invocation.Proofs.Adapter.Run
import Invocation.Proofs.Handler.Past

/-!
# Invocations one after the other

One adapter with its guard and its context takes any number of turns, and every
turn may end in its own way, also by a panic that leaves it.  From one turn to
the next there remain the store, the flag of the guard, the mark that panics
will be caught and the records.  The mark is put back by every run, the flag is
put down by the next one, and no run looks at the records, so that only the
store tells one turn from the same turn taken alone.
-/

namespace Invocation

/-! ## Runs and the past -/

section Run

variable (scene : Scene) (config : Config) (handler : Handler)
  (source : Channel.Source) (sink : Channel.Sink)

theorem heedless_callHandler (request : Request) :
    Heedless (callHandler scene handler request) := by
  have hrun := heedless_run scene (handler request)
  constructor
  case after =>
    intro w past
    have hcalls : { w.after past with
        calls := (w.after past).calls ++ [request] } =
        World.after { w with calls := w.calls ++ [request] } past := by
      simp [World.after, List.append_assoc]
    rw [callHandler, callHandler, hcalls]
    exact hrun.after _ past
  case hook => exact fun w => hrun.hook { w with calls := w.calls ++ [request] }

/-- What lies before a run has no part in it and stands before what the run
leaves. -/
theorem run_after (w past : World) :
    run scene config handler source sink (w.after past) =
      { run scene config handler source sink w with
        world :=
          (run scene config handler source sink w).world.after past } := by
  have hrespond := Heedless.respondBy (scene.within config) config
    (heedless_callHandler (scene.within config) handler)
    (source.drain (Channel.Source.bufferSize config.chunkSize)).bytes
  unfold run respond
  simp only
  generalize source.drain (Channel.Source.bufferSize config.chunkSize) = d
    at hrespond ⊢
  -- Arming and draining are heedless of the past as well.
  have hdrained : World.report { w.after past with delivered := false }
      (scene.within config) (drainEvents d) =
        ((World.report { w with delivered := false } (scene.within config)
          (drainEvents d)).after past) :=
    World.report_after (scene.within config) (drainEvents d)
      { w with delivered := false } past
  rw [hdrained, hrespond.after]
  generalize respondBy (scene.within config) config
    (callHandler (scene.within config) handler) d.bytes
    (World.report { w with delivered := false } (scene.within config)
      (drainEvents d)) = answer
  obtain ⟨result, w'⟩ := answer
  cases result with
  | ok r =>
      simp only [World.after, World.report, List.append_assoc]
  | error p => rfl

theorem open_run {w : World} (h : w.hook.Open) :
    (run scene config handler source sink w).world.hook.Open := by
  have hrespond := Heedless.respondBy (scene.within config) config
    (heedless_callHandler (scene.within config) handler)
    (source.drain (Channel.Source.bufferSize config.chunkSize)).bytes
  have hanswer := hrespond.hook (World.report { w with delivered := false }
    (scene.within config) (drainEvents
      (source.drain (Channel.Source.bufferSize config.chunkSize)))) h
  unfold run respond
  simp only
  generalize respondBy (scene.within config) config
    (callHandler (scene.within config) handler) _ _ = answer at hanswer ⊢
  obtain ⟨result, w'⟩ := answer
  cases result <;> exact hanswer

end Run

/-! ## Turns -/

/-- One invocation of several: its handler, input and output, and whether the
guard's flag is put up before it. -/
structure Turn where
  handler : Handler
  source : Channel.Source
  sink : Channel.Sink := {}
  marked : Bool := false

namespace Turn

section Turn

variable (scene : Scene) (config : Config)

/-- Takes a turn. -/
def run (turn : Turn) (w : World) : Run :=
  Invocation.run scene config turn.handler turn.source turn.sink
    { w with delivered := w.delivered || turn.marked }

/-- The runs of turns that are taken one after the other, each in the world that
the one before it has left. -/
def runs : World → List Turn → List Run
  | _, [] => []
  | w, turn :: turns =>
    let out := turn.run scene config w
    out :: runs out.world turns

/-- The world that turns leave. -/
def worldAfter (w : World) (turns : List Turn) : World :=
  turns.foldl (fun w turn => (turn.run scene config w).world) w

theorem length_runs (w : World) (turns : List Turn) :
    (runs scene config w turns).length = turns.length := by
  induction turns generalizing w with
  | nil => rfl
  | cons turn turns ih => rw [runs, List.length_cons, ih, List.length_cons]

theorem runs_append (w : World) (earlier later : List Turn) :
    runs scene config w (earlier ++ later) =
      runs scene config w earlier ++
        runs scene config (worldAfter scene config w earlier) later := by
  induction earlier generalizing w with
  | nil => rfl
  | cons turn earlier ih =>
      rw [List.cons_append, runs, runs, ih, List.cons_append]
      rfl

theorem catching_worldAfter (w : World) (turns : List Turn) :
    (worldAfter scene config w turns).catching = w.catching := by
  induction turns generalizing w with
  | nil => rfl
  | cons turn turns ih =>
      have hturn : (turn.run scene config w).world.catching = w.catching :=
        catching_run scene config turn.handler turn.source turn.sink _
      exact (ih _).trans hturn

theorem open_worldAfter {w : World} (h : w.hook.Open) (turns : List Turn) :
    (worldAfter scene config w turns).hook.Open := by
  induction turns generalizing w with
  | nil => exact h
  | cons turn turns ih =>
      exact ih (open_run scene config turn.handler turn.source turn.sink h)

/-- A turn is what it is alone, after what lies before it. -/
theorem run_eq_alone (turn : Turn) {w : World} (h : w.catching = false) :
    turn.run scene config w =
      { turn.run scene config w.afresh with
        world := (turn.run scene config w.afresh).world.after w } := by
  have hafter := run_after scene config turn.handler turn.source turn.sink
    { w.afresh with delivered := w.delivered } w
  rw [World.afresh_after h] at hafter
  -- Both runs put the flag of the guard down before they do anything else.
  exact hafter

/-- Whatever turns were taken before it, a turn comes to what it comes to when
it is taken alone, with a fresh guard and with the store as the others have left
it: the response or the panic that leaves it, what it reads and writes, the
calls of its handler, what its guard writes and the flag that is left, and what
it reports.  An output of the guard that takes everything is as good as new
before every turn. -/
theorem turn_as_alone (w : World) (hmark : w.catching = false)
    (earlier later : List Turn) (turn : Turn) :
    let before := worldAfter scene config w earlier
    let alone := turn.run scene config before.afresh
    (w.hook.Open → before.afresh = { store := before.store }) ∧
    ∃ out,
      (runs scene config w (earlier ++ turn :: later))[earlier.length]? =
        some out ∧
      out.result = alone.result ∧
      out.reads = alone.reads ∧
      out.source = alone.source ∧
      out.sink = alone.sink ∧
      out.world.calls = before.calls ++ alone.world.calls ∧
      out.world.delivered = alone.world.delivered ∧
      out.world.store = alone.world.store ∧
      out.world.hook.accepted =
        before.hook.accepted ++ alone.world.hook.accepted ∧
      out.world.hook.writes = before.hook.writes + alone.world.hook.writes ∧
      out.world.hook.flushes = before.hook.flushes + alone.world.hook.flushes ∧
      out.world.trace = before.trace ++ alone.world.trace := by
  intro before alone
  have hcatching : before.catching = false :=
    (catching_worldAfter scene config w earlier).trans hmark
  refine ⟨fun hopen => ?_, turn.run scene config before, ?_, ?_⟩
  · exact World.afresh_of_open (open_worldAfter scene config hopen earlier)
  · -- As many runs come first as there are turns before this one.
    have hlength := length_runs scene config w earlier
    rw [runs_append, List.getElem?_append_right (by omega), hlength,
      Nat.sub_self]
    rfl
  · rw [run_eq_alone scene config turn hcatching]
    exact ⟨rfl, rfl, rfl, rfl, rfl, rfl, rfl, rfl, rfl, rfl, rfl⟩

/-- A turn that finds the flag up, after one that was left by a panic. -/
theorem turn_as_alone_after_panic :
    let scene : Scene := { watch := .answering { catchPanics := false } }
    let config : Config := { catchPanics := false }
    let first : Turn := ⟨fun _ => .set "k" "v" (.panic .other),
      [.fault ⟨.other, "gone"⟩], {}, false⟩
    let second : Turn := ⟨fun _ => .get "k" fun v =>
      .reply (.value (.string (v.getD ""))), [.data [0x31] none],
      { answers := [.accept 2] }, true⟩
    ({ store := .memory [] } : World).catching = false ∧
    ∃ out, (runs scene config { store := .memory [] } [first, second])[1]? =
        some out ∧
      out.result =
        (second.run scene config { store := .memory [("k", "v")] }).result := by
  intro scene config first second
  obtain ⟨hafresh, out, hout, hresult, -⟩ := turn_as_alone scene config
    { store := .memory [] } rfl [first] [] second
  refine ⟨rfl, out, hout, ?_⟩
  have hstore :
      (worldAfter scene config { store := .memory [] } [first]).store =
        .memory [("k", "v")] := rfl
  rw [hafresh ⟨rfl, rfl⟩, hstore] at hresult
  exact hresult

end Turn

end Turn
end Invocation
