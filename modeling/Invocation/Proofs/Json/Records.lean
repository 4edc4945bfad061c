import Invocation.Proofs.Json.Agreement.Containers

/-!
# Records of one field

A record that has one field, and has to have it, is converted from an object in
which the field stands, whatever else stands there and in whichever place, or
from an array of the field's value alone.  Reading the fields of an object passes
over all of other names, so that only the field counts, and it is met at most
once where no name stands twice.
-/

namespace Invocation.Json.Decoder.Record

variable {σ α : Type} {r : Record σ} {name : String} {inner : Decoder α}
  {put : α → σ → σ}

/-- Both ways of reading a record of one field come to the same if those of the
field do. -/
theorem agrees_single (hr : r.fields = [.of name true inner put])
    (h : inner.Agrees) : r.decoder.Agrees := by
  refine agrees_decoder r fun f hf => ?_
  rw [hr] at hf
  obtain rfl := List.mem_singleton.1 hf
  exact agrees_map h put

/-- The fields of other names are passed over. -/
theorem ofFields_of_not_mem (hr : r.fields = [.of name true inner put])
    {fields : Fields} (hother : name ∉ fields.map Prod.fst) (met : List String)
    (v : σ) : r.ofFields fields met v = r.finish met v := by
  induction fields with
  | nil => rfl
  | cons field fields ih =>
      rw [List.map_cons, List.mem_cons, not_or] at hother
      have hunknown : r.field? field.1 = none := by
        simp [field?, hr, Field.of, hother.1]
      rw [ofFields, hunknown]
      exact ih hother.2

/-- Of an object without repeated names the value of the field is converted. -/
theorem ofFields_single (hr : r.fields = [.of name true inner put])
    {fields : Fields} (hnames : (fields.map Prod.fst).Nodup) (v : σ) :
    r.ofFields fields [] v =
      match Fields.get? fields name with
      | none => .error (.missingField name)
      | some w => (inner.ofJson w).map (put · v) := by
  induction fields with
  | nil => simp [ofFields, finish, hr, Field.of, Fields.get?]
  | cons field fields ih =>
      obtain ⟨other, w⟩ := field
      obtain ⟨hnew, hrest⟩ := List.nodup_cons.1 hnames
      rw [ofFields]
      by_cases hname : other = name
      · subst hname
        have hfield : r.field? other = some (.of other true inner put) := by
          simp [field?, hr, Field.of]
        have hmet : r.finish [other] = .ok := by
          funext u
          simp [finish, hr, Field.of]
        have hfound : Fields.get? ((other, w) :: fields) other = some w := by
          simp [Fields.get?]
        simp only [hfield, hfound, Field.of, Decoder.map, List.contains_nil,
          Bool.false_eq_true, if_false]
        cases inner.ofJson w with
        | error m => rfl
        | ok y =>
            -- What follows the field sets nothing more.
            exact (ofFields_of_not_mem hr hnew _ _).trans (congrFun hmet _)
      · have hunknown : r.field? other = none := by
          simp [field?, hr, Field.of, Ne.symm hname]
        have hpassed : Fields.get? ((other, w) :: fields) name =
            Fields.get? fields name := by
          simp [Fields.get?, hname]
        rw [hunknown, hpassed]
        exact ih hrest

/-- An array is converted if it holds the value of the field and nothing
else. -/
theorem ofItems_single_iff (hr : r.fields = [.of name true inner put])
    {total : Nat} {items : List Json} {v x : σ} :
    r.ofItems total r.fields 0 v items = .ok x ↔
      ∃ w, items = [w] ∧ (inner.ofJson w).map (put · v) = .ok x := by
  rw [hr]
  cases items with
  | nil => simp [ofItems, Field.of]
  | cons w more =>
      rw [ofItems]
      simp only [Field.of, Decoder.map]
      cases hw : inner.ofJson w with
      | error m => cases more <;> simp [Except.map, hw]
      | ok y => cases more <;> simp [Except.map, ofItems, hw]

/-- What a record of one field is converted from: an object in which the field
stands, or an array of its value alone. -/
theorem ofJson_single_iff (hr : r.fields = [.of name true inner put]) {v : Json}
    (hnames : ∀ fields, v = .object fields → (fields.map Prod.fst).Nodup)
    {x : σ} :
    r.decoder.ofJson v = .ok x ↔
      ∃ w, (v = .array [w] ∨
          ∃ fields, v = .object fields ∧ Fields.get? fields name = some w) ∧
        (inner.ofJson w).map (put · r.start) = .ok x := by
  cases v with
  | object fields =>
      have hsingle := ofFields_single hr (hnames fields rfl) r.start
      change r.ofFields fields [] r.start = .ok x ↔ _
      rw [hsingle]
      cases hfield : Fields.get? fields name <;> simp [hfield]
  | array items =>
      change r.ofItems items.length r.fields 0 r.start items = .ok x ↔ _
      rw [ofItems_single_iff hr]
      simp
  | null => simp [decoder]
  | bool b => simp [decoder]
  | number n => simp [decoder]
  | string s => simp [decoder]

end Invocation.Json.Decoder.Record
