import Invocation.Proofs.Header.Edits

/-!
# What finishing adds

Finishing leaves the status, the body and every header of a response as they
are.  What it adds stands after them: the content type of the settings if the
response has none, and then the runtime tag if the settings have one and the
response has not.  Whether one of the two is missing does not depend on whether
the other was added, because their names differ.
-/

namespace Invocation

namespace ResponseHeaders

/-- What is added for a header that ought to be there: nothing if it has no
value or is there in some spelling. -/
def missing (h : ResponseHeaders) (name : String) (value : Option String) :
    List Header :=
  if ∃ e ∈ h.entries, Header.SameName e.name name then []
  else (value.map (Header.mk name)).toList

theorem missing_none (h : ResponseHeaders) (name : String) :
    h.missing name none = [] :=
  ite_self []

theorem missing_empty (name : String) (value : Option String) :
    empty.missing name value = (value.map (Header.mk name)).toList :=
  if_neg fun ⟨_, he, _⟩ => List.not_mem_nil he

/-- Headers miss the same as others that have the name when they have it. -/
theorem missing_congr {h h' : ResponseHeaders} {name : String}
    (hcontains : h.contains name = h'.contains name) (value : Option String) :
    h.missing name value = h'.missing name value := by
  unfold missing
  simp only [← contains_iff_exists, hcontains]

/-- A header that is missing is added after the others. -/
theorem entries_insertIfAbsent (h : ResponseHeaders) (name value : String) :
    (h.insertIfAbsent name value).entries =
      h.entries ++ h.missing name (some value) := by
  have hthere := h.contains_iff_exists name
  unfold insertIfAbsent missing
  split
  case isTrue hcontains =>
    rw [if_pos (hthere.1 hcontains), List.append_nil]
  case isFalse hcontains =>
    rw [if_neg fun hmem => hcontains (hthere.2 hmem)]
    refine put_of_new fun e he hsame => ?_
    exact hcontains (hthere.2 ⟨e, he, hsame⟩)

end ResponseHeaders

namespace Response

/-- Finishing adds the content type and the runtime tag where they are missing,
in this order and after the headers that are there. -/
theorem entries_finish (config : Config) (r : Response) :
    (r.finish config).headers.entries =
      r.headers.entries ++
        r.headers.missing contentType (some config.defaultContentType) ++
        r.headers.missing runtimeTag config.runtimeHeader := by
  have hother : ¬ Header.SameName contentType runtimeTag := by decide +kernel
  -- The content type that is added is no runtime tag.
  have htag : (r.headers.insertIfAbsent contentType
      config.defaultContentType).contains runtimeTag =
        r.headers.contains runtimeTag := by
    rw [ResponseHeaders.contains_insertIfAbsent, decide_eq_false hother,
      Bool.false_or]
  unfold finish
  cases config.runtimeHeader with
  | none =>
      rw [ResponseHeaders.missing_none, List.append_nil]
      exact ResponseHeaders.entries_insertIfAbsent _ _ _
  | some tag =>
      simp only
      rw [ResponseHeaders.entries_insertIfAbsent,
        ResponseHeaders.missing_congr htag,
        ResponseHeaders.entries_insertIfAbsent]

/-- The response of an outcome before anything is added: the handler's own, one
with status 200 and no headers for a value, and one with status 500 and no
headers for a failure. -/
inductive Drafted : Outcome → Response → Prop
  | response (r : Response) : Drafted (.response r) r
  | text (s : String) :
      Drafted (.value (.string s))
        { status := 200, headers := .empty, body := s }
  | value {v : Json} (h : ∀ s, v ≠ .string s) :
      Drafted (.value v)
        { status := 200, headers := .empty, body := v.text }
  | failure (f : Failure) :
      Drafted (.failure f)
        { status := 500
          headers := .empty
          body := Json.text <| .object [
            ("error", .string
              (if f.message = "" then "handler failed" else f.message)),
            ("stack", .string f.trace)] }

theorem drafted_draft (o : Outcome) : Drafted o (draft o) := by
  cases o with
  | response r => exact .response r
  | failure f => exact .failure f
  | value v =>
      cases v with
      | string s => exact .text s
      | null => exact .value fun _ h => by cases h
      | bool b => exact .value fun _ h => by cases h
      | number n => exact .value fun _ h => by cases h
      | array items => exact .value fun _ h => by cases h
      | object fields => exact .value fun _ h => by cases h

/-- The response of an outcome has the status, the body and the headers of its
draft, and after them the content type and the runtime tag as far as they were
missing.  It has exactly one content type and no name twice, and finishing it
once more changes nothing. -/
theorem ofOutcome_adds_missing (config : Config) (o : Outcome) :
    let s := draft o
    let r := ofOutcome config o
    Drafted o s ∧
    r.status = s.status ∧
    r.body = s.body ∧
    r.headers.entries =
      s.headers.entries ++
        s.headers.missing "Content-Type" (some config.defaultContentType) ++
        s.headers.missing "X-Runtime" config.runtimeHeader ∧
    r.headers.count "Content-Type" = 1 ∧
    r.headers.entries.Pairwise (fun a b => ¬ Header.SameName a.name b.name) ∧
    ofOutcome config (.response r) = r := by
  intro s r
  exact ⟨drafted_draft o, rfl, rfl, entries_finish config s,
    count_contentType config o, r.headers.unique, finish_finish config s⟩

end Response
end Invocation
