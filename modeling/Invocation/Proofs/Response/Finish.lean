import Invocation.Outcome
import Invocation.Proofs.Json.RoundTrip

/-!
# Finished responses

Finishing adds headers and touches nothing else.  A finished response has
exactly one content type, in whatever case it is spelled: one at least, because
it is added where it is missing and adding the runtime tag takes no header
away, and one at most, because no response has a name twice.
-/

namespace Invocation

namespace ResponseHeaders

/-- How many headers have this name, ignoring case. -/
def count (h : ResponseHeaders) (name : String) : Nat :=
  h.entries.countP (·.hasName name)

theorem count_le_one (h : ResponseHeaders) (name : String) :
    h.count name ≤ 1 := by
  obtain ⟨entries, unique⟩ := h
  unfold count
  induction entries with
  | nil => simp
  | cons e entries ih =>
      have ⟨he, hrest⟩ := List.pairwise_cons.1 unique
      rw [List.countP_cons]
      by_cases hname : e.hasName name
      · have hsame : Header.SameName e.name name := by
          simpa [Header.hasName] using hname
        have hnone : entries.countP (·.hasName name) = 0 := by
          refine List.countP_eq_zero.2 fun x hx hother => he x hx ?_
          have hother : Header.SameName x.name name := by
            simpa [Header.hasName] using hother
          exact hsame.trans hother.symm
        simp [hname, hnone]
      · simpa [hname] using ih hrest

theorem contains_iff_count (h : ResponseHeaders) (name : String) :
    h.contains name = true ↔ 0 < h.count name := by
  rw [contains, get?, Option.isSome_map, List.find?_isSome, count,
    List.countP_pos_iff]

theorem contains_insert (h : ResponseHeaders) (name value other : String) :
    (h.insert name value).contains other =
      (decide (Header.SameName name other) || h.contains other) := by
  rw [contains, get?_insert, contains]
  by_cases hsame : Header.SameName name other
  · simp [hsame]
  · simp [hsame]

theorem contains_congr (h : ResponseHeaders) {name other : String}
    (hsame : Header.SameName name other) :
    h.contains name = h.contains other := by
  have hname := fun e : Header => e.hasName_congr hsame
  rw [contains, get?, contains, get?, funext hname]

/-- After setting a header where it is missing, it is there, and so is every
header that was there. -/
theorem contains_insertIfAbsent (h : ResponseHeaders)
    (name value other : String) :
    (h.insertIfAbsent name value).contains other =
      (decide (Header.SameName name other) || h.contains other) := by
  unfold insertIfAbsent
  split
  case isTrue hthere =>
    by_cases hsame : Header.SameName name other
    · rw [← h.contains_congr hsame, hthere, Bool.or_true]
    · simp [hsame]
  case isFalse => exact h.contains_insert name value other

theorem insertIfAbsent_of_contains {h : ResponseHeaders} {name : String}
    (hthere : h.contains name = true) (value : String) :
    h.insertIfAbsent name value = h :=
  if_pos hthere

end ResponseHeaders

namespace Response

theorem contains_contentType_finish (config : Config) (r : Response) :
    (r.finish config).headers.contains contentType = true := by
  have hadded : (r.headers.insertIfAbsent contentType
      config.defaultContentType).contains contentType = true := by
    rw [ResponseHeaders.contains_insertIfAbsent]
    simp [Header.SameName]
  unfold finish
  cases config.runtimeHeader with
  | none => exact hadded
  | some tag =>
      simp only
      rw [ResponseHeaders.contains_insertIfAbsent, hadded, Bool.or_true]

/-- A finished response has exactly one content type. -/
theorem count_contentType (config : Config) (o : Outcome) :
    (ofOutcome config o).headers.count contentType = 1 := by
  have hthere := ((ofOutcome config o).headers.contains_iff_count _).1
    (contains_contentType_finish config (draft o))
  have hmost := (ofOutcome config o).headers.count_le_one contentType
  omega

theorem contains_runtimeTag_finish {config : Config} {tag : String}
    (htag : config.runtimeHeader = some tag) (r : Response) :
    (r.finish config).headers.contains runtimeTag = true := by
  unfold finish
  rw [htag]
  simp only
  rw [ResponseHeaders.contains_insertIfAbsent]
  simp [Header.SameName]

/-- A response that is finished stays as it is. -/
theorem finish_finish (config : Config) (r : Response) :
    (r.finish config).finish config = r.finish config := by
  have htype := ResponseHeaders.insertIfAbsent_of_contains
    (contains_contentType_finish config r) config.defaultContentType
  have htag : ∀ tag, config.runtimeHeader = some tag →
      (r.finish config).headers.insertIfAbsent runtimeTag tag =
        (r.finish config).headers := fun tag htag =>
    ResponseHeaders.insertIfAbsent_of_contains
      (contains_runtimeTag_finish htag r) tag
  -- Both headers are there already, so that nothing is added.
  generalize r.finish config = finished at htype htag
  unfold finish
  rw [htype]
  cases hconfig : config.runtimeHeader with
  | none => rfl
  | some tag =>
      simp only
      rw [htag tag hconfig]

/-- The body of a failure is an object of its message and its trace. -/
theorem parse_body_failure (config : Config) (f : Failure) :
    Json.parse (ofOutcome config (.failure f)).body = .ok (.object [
      ("error", .string
        (if f.message = "" then namelessFailure else f.message)),
      ("stack", .string f.trace)]) := by
  refine Json.parse_text ?_
  constructor
  · change ["error", "stack"].Nodup
    decide
  · intro field hfield
    simp only [List.mem_cons, List.not_mem_nil, or_false] at hfield
    rcases hfield with rfl | rfl <;> trivial

end Response
end Invocation
