import Mathlib.Tactic
import Invocation.Handler

/-!
# Panics and the invocations around them

What a handler comes to, told without a world: how an action ends and what it
leaves in the store depend on the context and the store alone.  On this rest
the panics that an action raises, each with the settings of the invocations
around it.  A panic that no invocation around it catches ends the action, so
there is at most one, and there is one exactly if the action ends by a panic.
-/

namespace Invocation

/-- The response of an adapter whose handler has ended, or the panic that
leaves it. -/
def conclude (config : Config) (ending : Ending) : Except Payload Response :=
  (Outcome.ofEnding config.catchPanics ending).map (.ofOutcome config)

/-- A panic, with whether each of the invocations around it catches panics, the
innermost first. -/
structure Raise where
  payload : Payload
  around : List Bool

/-- No invocation around the panic catches it. -/
def Raise.Uncaught (raise : Raise) : Prop := true ∉ raise.around

instance (raise : Raise) : Decidable raise.Uncaught :=
  inferInstanceAs (Decidable (true ∉ raise.around))

/-- The payloads of the panics that nobody catches. -/
def uncaught (raises : List Raise) : List Payload :=
  (raises.filter fun raise => decide raise.Uncaught).map Raise.payload

/-- The payload of the panic that leaves an adapter. -/
def leaving : Except Payload Response → List Payload
  | .ok _ => []
  | .error p => [p]

/-- The payload of the panic by which an action ends. -/
def Ending.payloads : Ending → List Payload
  | .panic p => [p]
  | _ => []

namespace Action

/-- How an action ends and the store it leaves. -/
def answer (context : Context) : Action → Store → Ending × Store
  | .reply r, s => (.reply r, s)
  | .fail e, s => (.fail e, s)
  | .panic p, s => (.panic p, s)
  | .get key next, s => answer context (next (s.get? key)) s
  | .set key value next, s => answer context next (s.set key value)
  | .log _ _ next, s => answer context next s
  | .query sql next, s => answer context (next (context.database.query sql)) s
  | .functionName next, s => answer context (next context.functionName) s
  | .respond config handler input next, s =>
    let inner := answer context (handler (.normalize config input)) s
    match conclude config inner.1 with
    | .ok r => answer context (next r) inner.2
    | .error p => (.panic p, inner.2)

/-- The panics that an action raises, in their order, in the midst of
invocations with these settings. -/
def raised (context : Context) : Action → List Bool → Store → List Raise
  | .reply _, _, _ => []
  | .fail _, _, _ => []
  | .panic p, around, _ => [⟨p, around⟩]
  | .get key next, around, s => raised context (next (s.get? key)) around s
  | .set key value next, around, s =>
    raised context next around (s.set key value)
  | .log _ _ next, around, s => raised context next around s
  | .query sql next, around, s =>
    raised context (next (context.database.query sql)) around s
  | .functionName next, around, s =>
    raised context (next context.functionName) around s
  | .respond config handler input next, around, s =>
    let request := Request.normalize config input
    let inner := answer context (handler request) s
    raised context (handler request) (config.catchPanics :: around) s ++
      match conclude config inner.1 with
      | .ok r => raised context (next r) around inner.2
      | .error _ => []

end Action

/-! ## What an adapter makes of an ending -/

/-- An adapter that catches panics always has a response. -/
theorem conclude_of_catching {config : Config} (h : config.catchPanics = true)
    (ending : Ending) :
    ∃ o, Outcome.ofEnding true ending = .ok o ∧
      conclude config ending = .ok (.ofOutcome config o) := by
  unfold conclude
  rw [h]
  cases ending with
  | reply r => exact ⟨_, rfl, rfl⟩
  | fail e => exact ⟨_, rfl, rfl⟩
  | panic p => exact ⟨_, rfl, rfl⟩

theorem mem_leaving {result : Except Payload Response} {p : Payload} :
    p ∈ leaving result ↔ result = .error p := by
  cases result with
  | ok r => simp [leaving]
  | error q => simp [leaving, eq_comm]

theorem leaving_of_catching {config : Config} (h : config.catchPanics = true)
    (ending : Ending) : leaving (conclude config ending) = [] := by
  obtain ⟨o, -, hresponse⟩ := conclude_of_catching h ending
  rw [hresponse]
  rfl

/-- The panic that leaves an adapter that does not catch panics is the one by
which its handler ends. -/
theorem leaving_of_not_catching {config : Config}
    (h : config.catchPanics = false) (ending : Ending) :
    leaving (conclude config ending) = ending.payloads := by
  unfold conclude
  rw [h]
  cases ending with
  | reply r => rfl
  | fail e => rfl
  | panic p => rfl

/-! ## Uncaught panics -/

theorem uncaught_append (raises others : List Raise) :
    uncaught (raises ++ others) = uncaught raises ++ uncaught others := by
  simp [uncaught]

/-- The panics raised inside an invocation that catches them are caught. -/
theorem uncaught_raised_of_catching (context : Context) (a : Action)
    {around : List Bool} (h : true ∈ around) (s : Store) :
    uncaught (a.raised context around s) = [] := by
  induction a generalizing around s with
  | reply r => rfl
  | fail e => rfl
  | panic p => simp [Action.raised, uncaught, Raise.Uncaught, h]
  | get key next ih => exact ih _ h s
  | set key value next ih => exact ih h (s.set key value)
  | log level message next ih => exact ih h s
  | query sql next ih => exact ih _ h s
  | functionName next ih => exact ih _ h s
  | respond config handler input next ih_handler ih_next =>
      have hinner := ih_handler (.normalize config input)
        (List.mem_cons_of_mem config.catchPanics h) s
      rw [Action.raised, uncaught_append, hinner, List.nil_append]
      split
      · exact ih_next _ h _
      · rfl

/-- An adapter inside invocations that do not catch panics lets through the
uncaught panics of its handler if it does not catch them itself. -/
theorem uncaught_within {context : Context} {a : Action} {s : Store}
    (h : ∀ around, true ∉ around →
      uncaught (a.raised context around s) = (a.answer context s).1.payloads)
    (config : Config) {around : List Bool} (hfree : true ∉ around) :
    uncaught (a.raised context (config.catchPanics :: around) s) =
      leaving (conclude config (a.answer context s).1) := by
  cases hcatch : config.catchPanics with
  | true =>
      rw [uncaught_raised_of_catching _ _ List.mem_cons_self,
        leaving_of_catching hcatch]
  | false =>
      rw [h _ (by simpa using hfree), leaving_of_not_catching hcatch]

/-- An action inside invocations that do not catch panics raises an uncaught
one exactly if it ends by it. -/
theorem uncaught_raised (context : Context) (a : Action) (s : Store)
    (around : List Bool) (h : true ∉ around) :
    uncaught (a.raised context around s) = (a.answer context s).1.payloads := by
  -- A nested invocation puts its own setting in front of `around`.
  induction a generalizing around s with
  | reply r => rfl
  | fail e => rfl
  | panic p =>
      simp [Action.raised, uncaught, Raise.Uncaught, h, Action.answer,
        Ending.payloads]
  | get key next ih => exact ih _ s around h
  | set key value next ih => exact ih (s.set key value) around h
  | log level message next ih => exact ih s around h
  | query sql next ih => exact ih _ s around h
  | functionName next ih => exact ih _ s around h
  | respond config handler input next ih_handler ih_next =>
      have hinner := uncaught_within
        (ih_handler (.normalize config input) s) config h
      rw [Action.raised, uncaught_append, hinner, Action.answer]
      cases conclude config
          ((handler (.normalize config input)).answer context s).1 with
      | ok r => exact ih_next r _ around h
      | error p => rfl

theorem mem_uncaught {raises : List Raise} {p : Payload} :
    p ∈ uncaught raises ↔
      ∃ raise ∈ raises, raise.Uncaught ∧ raise.payload = p := by
  simp [uncaught, and_assoc]

end Invocation
