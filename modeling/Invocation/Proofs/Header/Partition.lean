import Invocation.Proofs.Header.Grouping

/-!
# What grouping keeps

Grouped by name, the headers of a request are parted into the groups of their
names: every entry stands in one group and in no other.  A name that has been
seen is passed over in whatever spelling it comes again, so that the groups
stand in the order of their first entries and are spelled as these are.  No
look-up tells the groups from the headers as they arrived.
-/

namespace Invocation.RequestHeaders

/-! ## The order of names -/

/-- Of the names that have not been seen each is kept once, where it comes
first. -/
theorem keys_firstSpellings (seen names : List String) :
    (firstSpellings seen names).map Header.key =
      ((names.map Header.key).filter fun key => !seen.contains key).eraseDups := by
  fun_induction firstSpellings seen names with
  | case1 => rfl
  | case2 seen name rest hseen ih =>
      rw [ih, List.map_cons, List.filter_cons, hseen]
      rfl
  | case3 seen name rest hseen ih =>
      have hnew : (!seen.contains (Header.key name)) = true := by simpa using hseen
      rw [List.map_cons, ih, List.map_cons, List.filter_cons, if_pos hnew,
        List.eraseDups_cons, List.filter_filter]
      congr 3
      funext key
      rw [List.contains_cons, Bool.not_or]

/-- What has been seen is no spelling of a name that is new. -/
theorem not_sameName_of_seen {seen names : List String} {name other : String}
    (h : name ∈ firstSpellings seen names)
    (hseen : Header.key other ∈ seen) : ¬ Header.SameName other name := by
  intro hsame
  have hnew := (mem_firstSpellings h).2
  rw [← hsame] at hnew
  exact hnew hseen

/-- A name is spelled as its first entry is. -/
theorem find?_firstSpellings {seen names : List String} {name : String}
    (h : name ∈ firstSpellings seen names) :
    names.find? (fun other => decide (Header.SameName other name)) =
      some name := by
  fun_induction firstSpellings seen names with
  | case1 => cases h
  | case2 seen other rest hseen ih =>
      have hother := not_sameName_of_seen h (by simpa using hseen)
      rw [List.find?_cons_of_neg (by simpa using hother)]
      exact ih h
  | case3 seen other rest hseen ih =>
      rcases List.mem_cons.1 h with rfl | h
      · exact List.find?_cons_of_pos (decide_eq_true rfl)
      · have hother := not_sameName_of_seen h List.mem_cons_self
        rw [List.find?_cons_of_neg (by simpa using hother)]
        exact ih h

theorem keys_names (h : RequestHeaders) :
    h.names.map Header.key =
      (h.entries.map fun e => Header.key e.name).eraseDups := by
  rw [names, keys_firstSpellings, List.map_map]
  simp [Function.comp_def]

theorem find?_names (h : RequestHeaders) {name : String} (hname : name ∈ h.names) :
    ∃ e, h.entries.find? (·.hasName name) = some e ∧ e.name = name := by
  have hfirst := find?_firstSpellings hname
  rw [List.find?_map, Option.map_eq_some_iff] at hfirst
  exact hfirst

/-! ## Groups -/

/-- Groups of names that are apart hold every entry once, if every entry has one
of the names. -/
theorem flatMap_filter_perm {names : List String} (hapart : Apart names)
    {entries : List Header}
    (hnames : ∀ e ∈ entries, ∃ name ∈ names, Header.SameName e.name name) :
    (names.flatMap fun name => entries.filter (·.hasName name)).Perm entries := by
  induction names generalizing entries with
  | nil =>
      have hempty : entries = [] := by
        refine List.eq_nil_iff_forall_not_mem.2 fun e he => ?_
        obtain ⟨name, hname, -⟩ := hnames e he
        cases hname
      rw [hempty]
      exact List.Perm.refl []
  | cons first names ih =>
      obtain ⟨hother, hapart⟩ := List.pairwise_cons.1 hapart
      let others := entries.filter fun e => !e.hasName first
      have hothers : ∀ e ∈ others,
          ∃ name ∈ names, Header.SameName e.name name := by
        intro e he
        obtain ⟨hmem, hdiffers⟩ := List.mem_filter.1 he
        obtain ⟨name, hname, hsame⟩ := hnames e hmem
        rcases List.mem_cons.1 hname with rfl | hname
        · simp [Header.hasName, hsame] at hdiffers
        · exact ⟨name, hname, hsame⟩
      -- The groups after the first are those of the entries outside it.
      have hgroups : ∀ name ∈ names,
          entries.filter (·.hasName name) = others.filter (·.hasName name) := by
        intro name hname
        rw [List.filter_filter]
        refine List.filter_congr fun e _ => ?_
        by_cases hsame : Header.SameName e.name name
        · have hfirst : ¬ Header.SameName e.name first := fun h =>
            hother name hname (h.symm.trans hsame)
          simp [Header.hasName, hsame, hfirst]
        · simp [Header.hasName, hsame]
      rw [List.flatMap_cons, List.flatMap_congr hgroups]
      exact ((ih hapart hothers).append_left _).trans
        (List.filter_append_perm (·.hasName first) entries)

/-- The groups of the names hold every entry once. -/
theorem groups_perm (h : RequestHeaders) :
    (h.names.flatMap fun name => h.entries.filter (·.hasName name)).Perm
      h.entries := by
  refine flatMap_filter_perm h.apart_names fun e he => ?_
  rcases exists_firstSpelling [] (List.mem_map_of_mem he) with
    hold | ⟨name, hname, hsame⟩
  · cases hold
  · exact ⟨name, hname, hsame.symm⟩

/-! ## Look-ups -/

theorem get?_eq_head? (h : RequestHeaders) (name : String) :
    h.get? name = (h.getAll name).head? := by
  rw [get?, getAll, List.head?_map, List.head?_filter]

/-- Grouping shows in no look-up. -/
theorem lookups_grouped (h : RequestHeaders) (name : String) :
    h.grouped.getAll name = h.getAll name ∧
    h.grouped.get? name = h.get? name ∧
    h.grouped.first name = h.first name ∧
    h.grouped.contains name = h.contains name := by
  have hget : h.grouped.get? name = h.get? name := by
    rw [get?_eq_head?, get?_eq_head?, getAll_grouped]
  rw [first, first, contains, contains, hget]
  exact ⟨h.getAll_grouped name, rfl, rfl, rfl⟩

theorem parse_toJson (h : RequestHeaders) :
    Json.parse h.toJson.text = .ok h.toJson :=
  Json.parse_text (h.exact_toJson 125)

/-- The document form of the headers of a request has one field for each name
that they have, in the order in which the names came first and spelled as they
came first, and no name twice.  A field holds the values of its name in order of
arrival, of which there is one at least, and the fields together hold every
entry once.  The text of the document is read as headers in which every look-up,
in any spelling, gives what it gave before, and which have the same text. -/
theorem toJson_parts_entries (h : RequestHeaders) :
    ∃ fields, h.toJson = .object fields ∧
      (fields.map fun field => Header.key field.1) =
        (h.entries.map fun e => Header.key e.name).eraseDups ∧
      (fields.Pairwise fun a b => ¬ Header.SameName a.1 b.1) ∧
      (∀ field ∈ fields,
        (∃ e, h.entries.find? (·.hasName field.1) = some e ∧
          e.name = field.1) ∧
        field.2 = .array ((h.getAll field.1).map .string) ∧
        h.getAll field.1 =
          (h.entries.filter (·.hasName field.1)).map Header.value ∧
        h.getAll field.1 ≠ []) ∧
      (fields.flatMap fun field =>
        h.entries.filter (·.hasName field.1)).Perm h.entries ∧
      ∃ v, Json.parse h.toJson.text = .ok v ∧
        (∀ name,
          (ofJson v).getAll name = h.getAll name ∧
          (ofJson v).get? name = h.get? name ∧
          (ofJson v).first name = h.first name ∧
          (ofJson v).contains name = h.contains name) ∧
        (ofJson v).toJson.text = h.toJson.text := by
  refine ⟨_, rfl, ?_, ?_, ?_, ?_, h.toJson, h.parse_toJson, ?_⟩
  · rw [List.map_map]
    exact h.keys_names
  · exact List.pairwise_map.2 h.apart_names
  · intro field hfield
    obtain ⟨name, hname, rfl⟩ := List.mem_map.1 hfield
    exact ⟨h.find?_names hname, rfl, rfl,
      (h.getAll_ne_nil_iff name).2 ⟨name, hname, rfl⟩⟩
  · rw [List.flatMap_map]
    exact h.groups_perm
  · rw [ofJson_toJson, toJson_grouped]
    exact ⟨h.lookups_grouped, rfl⟩

end Invocation.RequestHeaders
