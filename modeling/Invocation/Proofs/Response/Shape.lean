import Invocation.Outcome
import Invocation.Proofs.Response.Wire

/-!
# Values in the shape of a response

A handler may hand back a response as a JSON value.  A value counts as one by
its shape alone: it is an object of no other fields than those of a response,
and its status is an integer.  A value of that shape is the response it tells,
unless it is unusable, and then the call has failed.  The document of a response
has the shape, so that it is never taken for a plain value; it is read as the
very response if the status is one that a handler may give.
-/

namespace Invocation

namespace Json

theorem integer?_eq_some_iff {v : Json} {n : Integer} :
    v.integer? = some n ↔ v = .number (.integer n) := by
  cases v with
  | number x => cases x <;> simp [integer?]
  | null | bool b | string s | array items | object fields => simp [integer?]

end Json

namespace Response

/-- A status that a handler may give. -/
def ValidStatus (n : Int) : Prop := 100 ≤ n ∧ n ≤ 999

/-- The fields have the shape of a response with this status. -/
structure Shaped (fields : Json.Fields) (status : Integer) : Prop where
  status : fields.get? "status" = some (.number (.integer status))
  names : ∀ field ∈ fields, field.1 ∈ ["status", "headers", "body"]

/-- The fields have headers that are neither null nor an object. -/
def BadHeaders (fields : Json.Fields) : Prop :=
  ∃ v, fields.get? "headers" = some v ∧ v ≠ .null ∧ ∀ fs, v ≠ .object fs

theorem shaped_iff {fields : Json.Fields} :
    Outcome.isResponseShaped fields = true ↔ ∃ n, Shaped fields n := by
  have hstatus : ((fields.get? "status").bind Json.integer?).isSome = true ↔
      ∃ n, fields.get? "status" = some (.number (.integer n)) := by
    rw [Option.isSome_iff_exists]
    simp only [Option.bind_eq_some_iff, Json.integer?_eq_some_iff]
    constructor
    · rintro ⟨n, v, hv, rfl⟩
      exact ⟨n, hv⟩
    · rintro ⟨n, hn⟩
      exact ⟨n, _, hn, rfl⟩
  have hnames : (fields.all fun field =>
      Outcome.responseFields.contains field.1) = true ↔
      ∀ field ∈ fields, field.1 ∈ ["status", "headers", "body"] := by
    simp only [List.all_eq_true, List.contains_iff_mem]
    rfl
  rw [Outcome.isResponseShaped, Bool.and_eq_true, hstatus, hnames]
  constructor
  · rintro ⟨⟨n, hn⟩, h⟩
    exact ⟨n, hn, h⟩
  · rintro ⟨n, hn, h⟩
    exact ⟨⟨n, hn⟩, h⟩

theorem statusOf?_of_status {fields : Json.Fields} {n : Integer}
    (h : fields.get? "status" = some (.number (.integer n))) :
    statusOf? fields =
      if 100 ≤ n.val ∧ n.val ≤ 999 then some (UInt16.ofNat n.val.toNat)
      else none := by
  rw [statusOf?, h]
  rfl

theorem headersOf?_eq_none_iff {fields : Json.Fields} :
    headersOf? fields = none ↔ BadHeaders fields := by
  unfold headersOf? BadHeaders
  cases fields.get? "headers" with
  | none => simp
  | some v => cases v <;> simp [ResponseHeaders.ofJson?]

/-- Fields in the shape of a response are none exactly if the status or the
headers are unusable. -/
theorem ofFields?_eq_none_iff {fields : Json.Fields} {n : Integer}
    (h : Shaped fields n) :
    ofFields? fields = none ↔ ¬ ValidStatus n.val ∨ BadHeaders fields := by
  rw [← headersOf?_eq_none_iff, ofFields?, statusOf?_of_status h.status,
    ValidStatus]
  by_cases hvalid : 100 ≤ n.val ∧ n.val ≤ 999
  · rw [if_pos hvalid]
    cases headersOf? fields <;> simp [hvalid]
  · rw [if_neg hvalid]
    simp [hvalid]

end Response

namespace Outcome

theorem ofValue_of_shaped {fields : Json.Fields} {n : Integer}
    (h : Response.Shaped fields n) :
    ofValue (.object fields) =
      (Response.ofFields? fields).elim
        (.failure (unusable (.object fields))) .response := by
  rw [ofValue, if_pos (Response.shaped_iff.2 ⟨n, h⟩)]
  cases Response.ofFields? fields <;> rfl

theorem ofValue_of_not_shaped {v : Json}
    (h : ∀ fields n, v = .object fields → ¬ Response.Shaped fields n) :
    ofValue v = .value v := by
  cases v with
  | object fields =>
      have hshape : ¬ isResponseShaped fields = true := fun hshape => by
        obtain ⟨n, hn⟩ := Response.shaped_iff.1 hshape
        exact h fields n rfl hn
      rw [ofValue, if_neg hshape]
  | null | bool b | number n | string s | array items => rfl

/-- A value is a failed call exactly if it has the shape of a response and is
none. -/
theorem ofValue_eq_failure_iff {v : Json} {f : Failure} :
    ofValue v = .failure f ↔
      ∃ fields n, v = .object fields ∧ Response.Shaped fields n ∧
        (¬ Response.ValidStatus n.val ∨ Response.BadHeaders fields) ∧
        f = unusable v := by
  by_cases hshape : ∃ fields n, v = .object fields ∧ Response.Shaped fields n
  · obtain ⟨fields, n, rfl, hshape⟩ := hshape
    have hnone := Response.ofFields?_eq_none_iff hshape
    rw [ofValue_of_shaped hshape]
    constructor
    · intro h
      cases hread : Response.ofFields? fields with
      | none =>
          rw [hread] at h
          cases h
          exact ⟨fields, n, rfl, hshape, hnone.1 hread, rfl⟩
      | some r =>
          rw [hread] at h
          cases h
    · rintro ⟨fields', n', hv, hshape', hbad, rfl⟩
      cases hv
      rw [(Response.ofFields?_eq_none_iff hshape').2 hbad]
      rfl
  · -- A value of another shape is a plain value, whatever it holds.
    have hplain : ofValue v = .value v :=
      ofValue_of_not_shaped fun fields n hv hn => hshape ⟨fields, n, hv, hn⟩
    rw [hplain]
    constructor
    · intro h
      cases h
    · rintro ⟨fields, n, hv, hn, -⟩
      exact absurd ⟨fields, n, hv, hn⟩ hshape

end Outcome

namespace Response

/-! ## Documents of responses -/

/-- The fields of the document of a response. -/
def documentFields (r : Response) : Json.Fields := [
  ("status", .number (.integer (.ofUInt16 r.status))),
  ("headers", r.headers.toJson),
  ("body", .string r.body)]

theorem shaped_documentFields (r : Response) :
    Shaped r.documentFields (.ofUInt16 r.status) := by
  refine ⟨rfl, fun field hfield => ?_⟩
  simp only [documentFields, List.mem_cons, List.not_mem_nil, or_false]
    at hfield
  rcases hfield with rfl | rfl | rfl <;> simp

theorem ofFields?_documentFields (r : Response)
    (hvalid : ValidStatus (r.status.toNat : Int)) :
    ofFields? r.documentFields = some r := by
  have hstatus : statusOf? r.documentFields = some r.status := by
    rw [statusOf?_of_status r.shaped_documentFields.status]
    exact (if_pos hvalid).trans (by
      rw [Integer.ofUInt16, Int.toNat_natCast, UInt16.ofNat_toNat])
  have hheaders : headersOf? r.documentFields = some r.headers := by
    change ResponseHeaders.ofJson? r.headers.toJson = _
    rw [ResponseHeaders.toJson, ResponseHeaders.ofJson?,
      ResponseHeaders.ofFields_entries]
  rw [ofFields?, hstatus, hheaders]
  rfl

/-- The document of a response is read as the response, if its status is one
that a handler may give. -/
theorem ofValue_toJson (r : Response)
    (hvalid : ValidStatus (r.status.toNat : Int)) :
    Outcome.ofValue r.toJson = .response r := by
  have hshaped := Outcome.ofValue_of_shaped r.shaped_documentFields
  rw [r.ofFields?_documentFields hvalid] at hshaped
  exact hshaped

/-- The document of a response with any other status is a failed call. -/
theorem ofValue_toJson_of_not_valid (r : Response)
    (hinvalid : ¬ ValidStatus (r.status.toNat : Int)) :
    Outcome.ofValue r.toJson = .failure (Outcome.unusable r.toJson) :=
  Outcome.ofValue_eq_failure_iff.2
    ⟨r.documentFields, _, rfl, r.shaped_documentFields, Or.inl hinvalid, rfl⟩

end Response
end Invocation
