import Mathlib.Data.List.Nodup
import Invocation.Json.Value

/-!
# Fields in another order

Where no name stands twice, a field is found by its name wherever it stands.  So
looking up a name gives the same in any order of the fields, and fields of other
names make no difference to it.
-/

namespace Invocation.Json.Fields

theorem get?_eq_some_iff {fields : Fields}
    (hnames : (fields.map Prod.fst).Nodup) {name : String} {v : Json} :
    fields.get? name = some v ↔ (name, v) ∈ fields := by
  induction fields with
  | nil => simp [get?]
  | cons field fields ih =>
      obtain ⟨hnew, hrest⟩ := List.nodup_cons.1 hnames
      rw [List.mem_cons]
      by_cases hname : field.1 = name
      · have hfound : get? (field :: fields) name = some field.2 := by
          simp [get?, hname]
        -- The name stands in no later field.
        have hlater : (name, v) ∉ fields := fun hmem =>
          hnew (hname ▸ List.mem_map_of_mem hmem)
        rw [hfound, or_iff_left hlater, Option.some.injEq, ← hname,
          Prod.ext_iff]
        simp [eq_comm]
      · have hpassed : get? (field :: fields) name = get? fields name := by
          simp [get?, hname]
        have hother : (name, v) ≠ field := by
          rintro rfl
          exact hname rfl
        rw [hpassed, ih hrest, or_iff_right hother]

/-- Looking up a name gives the same in any order of the fields. -/
theorem get?_perm {fields fields' : Fields} (hperm : fields.Perm fields')
    (hnames : (fields.map Prod.fst).Nodup) (name : String) :
    fields.get? name = fields'.get? name := by
  have hnames' := (hperm.map Prod.fst).nodup_iff.1 hnames
  ext v
  rw [get?_eq_some_iff hnames, get?_eq_some_iff hnames', hperm.mem_iff]

/-- Looking up a name that is kept gives the same when other fields are left
out. -/
theorem get?_filter (keep : String → Bool) {name : String}
    (hkeep : keep name = true) (fields : Fields) :
    get? (fields.filter (keep ·.1)) name = fields.get? name := by
  induction fields with
  | nil => rfl
  | cons field fields ih =>
      by_cases hname : field.1 = name
      · have hkept : keep field.1 = true := hname ▸ hkeep
        rw [List.filter_cons, if_pos hkept]
        simp [get?, hname]
      · have hpassed : get? (field :: fields) name = get? fields name := by
          simp [get?, hname]
        rw [hpassed, ← ih, List.filter_cons]
        split
        · simp [get?, hname]
        · rfl

end Invocation.Json.Fields
