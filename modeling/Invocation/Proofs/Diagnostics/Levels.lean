import Invocation.Diagnostics.Report

/-!
# Filters that name a level only

A filter that names nothing but a level shows every event up to the level and no
other, inside an invocation and outside.  From `info` on it lets invocations open
their spans, so that what a subscriber shows of a trace is a part of it, with
nothing about the entries changed.
-/

namespace Invocation

/-- The event is no less serious than the level. -/
def Event.upTo (l : Level) (e : Event) : Bool := decide (e.level.rank ≤ l.rank)

theorem Level.rank_pos (l : Level) : 0 < l.rank := by
  cases l <;> exact Nat.succ_pos _

namespace Filter

theorem parse_info : parse "info" = .ok (.upTo .info) := rfl

/-- Without an environment a configuration with the level `info` shows all that
is that serious. -/
theorem inForce_of_info {config : Config} (h : config.logFilter = "info") :
    inForce none config = some (.upTo .info) := by
  unfold inForce
  simp only [Option.map_none]
  rw [h, parse_info]

theorem showsAnywhere_upTo (l : Level) (e : Event) :
    (upTo l).showsAnywhere e = e.upTo l := rfl

/-- No directive of such a filter is about spans. -/
theorem showsInside_upTo (l : Level) (function : String) (e : Event) :
    (upTo l).showsInside function e = false := by
  have hinside : (upTo l).inside function = 0 := rfl
  rw [showsInside, hinside, decide_eq_false (Nat.not_le.2 e.level.rank_pos),
    Bool.and_false]

theorem shows_upTo (l : Level) (e : Entry) :
    (upTo l).shows e = e.event.upTo l := by
  unfold shows
  rw [showsAnywhere_upTo]
  cases e.invocation with
  | none => exact Bool.or_false _
  | some function => simp only [showsInside_upTo, Bool.or_false]

theorem opensSpan_upTo (l : Level) :
    (upTo l).opensSpan = decide (Level.info.rank ≤ l.rank) := by
  cases l <;> rfl

end Filter

namespace Subscriber

theorem ofConfig_of_info {config : Config} (h : config.logFilter = "info") :
    ofConfig none config = some ⟨.upTo .info, config.logFormat⟩ := by
  rw [ofConfig, Filter.inForce_of_info h, Option.map_some]

theorem shown_append (s : Subscriber) (trace later : List Entry) :
    s.shown (trace ++ later) = s.shown trace ++ s.shown later := by
  simp only [shown, List.filter_append, List.map_append]

/-- What is shown of the entries of some events are the entries of these events
among what is shown. -/
theorem shown_filter (s : Subscriber) (among : Event → Bool)
    (trace : List Entry) :
    s.shown (trace.filter (among ·.event)) =
      (s.shown trace).filter (among ·.event) := by
  rw [shown, shown, List.filter_map, List.filter_filter, List.filter_filter]
  simp only [Function.comp_apply, Bool.and_comm]

/-- A subscriber that is shown everything up to a level is shown the events of an
invocation that are serious enough, in their order and each inside the
invocation. -/
theorem shown_map_upTo {l : Level} (hl : Level.info.rank ≤ l.rank)
    (format : LogFormat) (invocation : Option String) (events : List Event) :
    (⟨.upTo l, format⟩ : Subscriber).shown (events.map (Entry.mk invocation)) =
      (events.filter (·.upTo l)).map (Entry.mk invocation) := by
  have hspan : ∀ e, (⟨.upTo l, format⟩ : Subscriber).span? e = e.invocation := by
    intro e
    rw [span?, Filter.opensSpan_upTo, decide_eq_true hl, if_pos rfl]
  have hshows : (Filter.upTo l).shows ∘ Entry.mk invocation =
      fun e => e.upTo l :=
    funext fun e => Filter.shows_upTo l ⟨invocation, e⟩
  rw [shown, List.filter_map, List.map_map, hshows]
  refine List.map_congr_left fun e _ => ?_
  exact congrArg (Entry.mk · e) (hspan ⟨invocation, e⟩)

end Subscriber
end Invocation
