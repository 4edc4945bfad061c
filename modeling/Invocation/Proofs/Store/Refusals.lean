import Invocation.Proofs.Adapter.Story
import Invocation.Proofs.Store.History

/-!
# What the stand-in for a store says

The stand-in for a store that the host does not have keeps nothing and warns of
every access.  So the accesses of a handler can be read off the diagnostics: what
a run reports of its store is one warning for each access that its handler makes,
and those of nested adapters, in the order of execution, and nothing else.  The
reason is that an action reports an access where it makes it, and that all else
that an adapter reports is of another kind.
-/

namespace Invocation

/-- The event is about a store that is not there. -/
def Event.ofStore : Event → Bool
  | .storeReadRefused _ | .storeWriteRefused _ => true
  | .inputFault .. | .inputDrained _ | .envelopeParsed .. | .documentWhole
  | .rawText _ | .handlerFailed _ | .handlerResponded _ | .handlerValued
  | .responseWritten .. | .responseUndelivered .. | .queryRefused _
  | .logged .. | .panicUncaught _ | .failureUndelivered _
  | .invocationFinished .. => false

/-- What the stand-in for a store says of an access. -/
def Access.refusal : Access → Event
  | .got key _ => .storeReadRefused key
  | .set key _ => .storeWriteRefused key

theorem Access.level_refusal (access : Access) :
    access.refusal.level = .warn := by
  cases access <;> rfl

/-! ## The stand-in -/

/-- The stand-in stays what it is. -/
theorem Serves.eq_absent {h : History} {s : Store} (hserves : Serves .absent h s) :
    s = .absent := by
  generalize hstart : Store.absent = start at hserves
  induction hserves with
  | done s => rfl
  | got key hrest ih => exact ih hstart
  | set key value hrest ih =>
      subst hstart
      exact ih rfl

theorem Action.answer_absent (context : Context) (a : Action) :
    (a.answer context .absent).2 = .absent :=
  (tells_accesses context a .absent).1.eq_absent

/-! ## What is reported besides -/

theorem ofStore_outcome (o : Outcome) : o.event.ofStore = false := by
  cases o <;> rfl

theorem ofStore_form (config : Config) (form : Request.Form) :
    (form.event config).ofStore = false := by
  cases form <;> rfl

theorem filter_ofStore_query (d : Database) (sql : String) :
    (d.queryEvents sql).filter Event.ofStore = [] := by
  cases d <;> rfl

theorem filter_ofStore_drain (d : Channel.Source.Drained) :
    (drainEvents d).filter Event.ofStore = [] := by
  unfold drainEvents
  cases d.fault <;> rfl

theorem filter_ofStore_write (r : Response) (written : Except AdapterError Nat) :
    [writeEvent r written].filter Event.ofStore = [] := by
  cases written <;> rfl

theorem filter_ofStore_settled (config : Config) (ending : Ending) :
    (settledEvents config ending).filter Event.ofStore = [] := by
  unfold settledEvents
  cases Outcome.ofEnding config.catchPanics ending with
  | ok o => exact List.filter_cons_of_neg (Bool.eq_false_iff.1 (ofStore_outcome o))
  | error p => rfl

/-- Of what an adapter reports between an input and its response only what its
handler reports can be about the store. -/
theorem filter_ofStore_respond (config : Config) (input : List UInt8)
    (own : List Event) (ending : Ending) :
    (respondEvents config input own ending).filter Event.ofStore =
      own.filter Event.ofStore := by
  rw [respondEvents,
    List.filter_cons_of_neg (Bool.eq_false_iff.1 (ofStore_form config _)),
    List.filter_append, filter_ofStore_settled, List.append_nil]

/-! ## Actions and runs -/

/-- An action that is given the stand-in reports a refusal of each of its
accesses. -/
theorem Action.filter_ofStore_reported (context : Context) (a : Action) :
    (a.reported context .absent).filter Event.ofStore =
      (a.accesses context .absent).map Access.refusal := by
  induction a with
  | reply r => rfl
  | fail e => rfl
  | panic p => rfl
  | get key next ih => exact congrArg (_ :: ·) (ih none)
  | set key value next ih => exact congrArg (_ :: ·) ih
  | log level message next ih => exact ih
  | query sql next ih =>
      rw [reported, List.filter_append, filter_ofStore_query, List.nil_append]
      exact ih _
  | functionName next ih => exact ih context.functionName
  | respond config handler input next ih_handler ih_next =>
      rw [reported, accesses]
      simp only [List.filter_append, List.map_append, filter_ofStore_respond,
        ih_handler, answer_absent]
      cases conclude config
          ((handler (.normalize config input)).answer context .absent).1 with
      | ok r => exact congrArg (_ ++ ·) (ih_next r)
      | error p => rfl

/-- What is reported of the accesses of a history that are refused inside an
invocation. -/
def History.refusals (h : History) (function : String) : List Entry :=
  h.map (⟨some function, ·.refusal⟩)

theorem History.level_of_mem_refusals {h : History} {function : String}
    {e : Entry} (he : e ∈ h.refusals function) : e.event.level = .warn := by
  obtain ⟨access, -, rfl⟩ := List.mem_map.1 he
  exact access.level_refusal

/-- Refusals are serious enough to be shown by default. -/
theorem History.shown_refusals (h : History) (function : String)
    (format : LogFormat) :
    (⟨.upTo .info, format⟩ : Subscriber).shown (h.refusals function) =
      h.refusals function := by
  have hserious : (h.map Access.refusal).filter (·.upTo .info) =
      h.map Access.refusal := by
    refine List.filter_eq_self.2 fun e he => ?_
    obtain ⟨access, -, rfl⟩ := List.mem_map.1 he
    rw [Event.upTo, access.level_refusal]
    rfl
  have hshown := Subscriber.shown_map_upTo (Nat.le_refl _) format (some function)
    (h.map Access.refusal)
  rw [hserious, List.map_map] at hshown
  exact hshown

/-- What a run with the stand-in reports of its store: a refusal of each access
of its handler, inside its invocation. -/
theorem filter_ofStore_run (scene : Scene) {config : Config}
    (hcatch : config.catchPanics = true) (handler : Handler)
    (source : Channel.Source) (sink : Channel.Sink) {w : World}
    (hstore : w.store = .absent) :
    let a := handler (.normalize config (inputOf config source))
    (run scene config handler source sink w).world.trace.filter
        (·.event.ofStore) =
      w.trace.filter (·.event.ofStore) ++
        (a.accesses scene.context .absent).refusals config.functionName := by
  intro a
  obtain ⟨o, -, hresult⟩ := conclude_of_catching hcatch
    (a.answer scene.context w.store).1
  have hadds := adds_run scene hcatch handler source sink w
    ((result_run scene config handler source sink w).trans hresult)
  -- Of the three parts of the trace only the handler's is about the store.
  have hevents : ∀ invocation (events : List Event),
      (events.map (Entry.mk invocation)).filter (·.event.ofStore) =
        (events.filter Event.ofStore).map (Entry.mk invocation) :=
    fun invocation events => List.filter_map
  rw [hadds, List.filter_append, hevents, List.filter_append,
    filter_ofStore_drain, List.filter_append, filter_ofStore_respond,
    filter_ofStore_write, List.nil_append, List.append_nil, hstore,
    Action.filter_ofStore_reported, List.map_map]
  rfl

end Invocation
