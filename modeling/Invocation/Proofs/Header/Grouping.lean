import Mathlib.Tactic
import Invocation.Header
import Invocation.Proofs.Json.RoundTrip

/-!
# Headers grouped by name

The document form of a request's headers puts all values of a name in one array
under the first spelling of that name.  Reading it again gives the headers
grouped: their order among different names may change, but every look-up gives
the same values in the same order, and the document form is the same again.
-/

namespace Invocation.RequestHeaders

/-! ## First spellings -/

/-- Names that are spellings of different names. -/
def Apart (names : List String) : Prop :=
  names.Pairwise fun a b => ¬ Header.SameName a b

theorem mem_firstSpellings {seen names : List String} {name : String}
    (h : name ∈ firstSpellings seen names) :
    name ∈ names ∧ Header.key name ∉ seen := by
  fun_induction firstSpellings seen names with
  | case1 => cases h
  | case2 seen other rest hseen ih =>
      obtain ⟨hmem, hnew⟩ := ih h
      exact ⟨List.mem_cons_of_mem other hmem, hnew⟩
  | case3 seen other rest hseen ih =>
      rcases List.mem_cons.1 h with rfl | h
      · exact ⟨List.mem_cons_self, by simpa using hseen⟩
      · obtain ⟨hmem, hnew⟩ := ih h
        exact ⟨List.mem_cons_of_mem other hmem,
          fun hold => hnew (List.mem_cons_of_mem _ hold)⟩

theorem apart_firstSpellings (seen names : List String) :
    Apart (firstSpellings seen names) := by
  fun_induction firstSpellings seen names with
  | case1 => exact List.Pairwise.nil
  | case2 seen other rest hseen ih => exact ih
  | case3 seen other rest hseen ih =>
      refine List.pairwise_cons.2 ⟨fun name hname hsame => ?_, ih⟩
      have hnew := (mem_firstSpellings hname).2
      rw [← hsame] at hnew
      exact hnew List.mem_cons_self

/-- Every name has been seen or has a first spelling. -/
theorem exists_firstSpelling (seen : List String) {names : List String}
    {name : String} (h : name ∈ names) :
    Header.key name ∈ seen ∨
      ∃ first ∈ firstSpellings seen names, Header.SameName first name := by
  fun_induction firstSpellings seen names with
  | case1 => cases h
  | case2 seen other rest hseen ih =>
      rcases List.mem_cons.1 h with rfl | h
      · exact Or.inl (by simpa using hseen)
      · exact ih h
  | case3 seen other rest hseen ih =>
      rcases List.mem_cons.1 h with rfl | h
      · exact Or.inr ⟨name, List.mem_cons_self, rfl⟩
      rcases ih h with hold | ⟨first, hfirst, hsame⟩
      · rcases List.mem_cons.1 hold with hkey | hold
        · exact Or.inr ⟨other, List.mem_cons_self, hkey.symm⟩
        · exact Or.inl hold
      · exact Or.inr ⟨first, List.mem_cons_of_mem other hfirst, hsame⟩

/-- Spellings of a name that has been seen are passed over. -/
theorem firstSpellings_replicate {seen : List String} {name : String}
    (h : Header.key name ∈ seen) (n : Nat) (rest : List String) :
    firstSpellings seen (List.replicate n name ++ rest) =
      firstSpellings seen rest := by
  induction n with
  | zero => rfl
  | succ n ih =>
      rw [List.replicate_succ, List.cons_append, firstSpellings,
        if_pos (by simpa using h), ih]

/-- Names that are apart, each repeated on the spot, have themselves as first
spellings. -/
theorem firstSpellings_repeated (count : String → Nat) {names : List String}
    (hcount : ∀ name ∈ names, 0 < count name) (hapart : Apart names)
    (seen : List String) (hnew : ∀ name ∈ names, Header.key name ∉ seen) :
    firstSpellings seen
        (names.flatMap fun name => List.replicate (count name) name) =
      names := by
  induction names generalizing seen with
  | nil => rfl
  | cons name names ih =>
      obtain ⟨hother, hapart⟩ := List.pairwise_cons.1 hapart
      obtain ⟨n, hn⟩ := Nat.exists_eq_succ_of_ne_zero
        (Nat.ne_of_gt (hcount name List.mem_cons_self))
      have hfirst : seen.contains (Header.key name) = false := by
        simpa using hnew name List.mem_cons_self
      rw [List.flatMap_cons, hn, List.replicate_succ, List.cons_append,
        firstSpellings, hfirst, if_neg Bool.false_ne_true,
        firstSpellings_replicate List.mem_cons_self]
      congr 1
      -- The name is seen now, and the others are still new because they are
      -- apart from it.
      refine ih (fun other h => hcount other (List.mem_cons_of_mem name h))
        hapart (Header.key name :: seen) fun other h hold => ?_
      rcases List.mem_cons.1 hold with hkey | hold
      · exact hother other h hkey.symm
      · exact hnew other (List.mem_cons_of_mem name h) hold

/-! ## Names and values -/

theorem apart_names (h : RequestHeaders) : Apart h.names :=
  apart_firstSpellings [] _

theorem nodup_names (h : RequestHeaders) : h.names.Nodup :=
  h.apart_names.imp fun hapart heq => hapart (by rw [heq]; rfl)

/-- Spellings of one name have the same values. -/
theorem getAll_congr (h : RequestHeaders) {name other : String}
    (hsame : Header.SameName name other) : h.getAll name = h.getAll other := by
  have hname := fun e : Header => e.hasName_congr hsame
  rw [getAll, getAll, funext hname]

/-- A name has values exactly if it is among the names in some spelling. -/
theorem getAll_ne_nil_iff (h : RequestHeaders) (name : String) :
    h.getAll name ≠ [] ↔ ∃ first ∈ h.names, Header.SameName first name := by
  have hentry : h.getAll name ≠ [] ↔
      ∃ e ∈ h.entries, Header.SameName e.name name := by
    simp [getAll, Header.hasName]
  rw [hentry]
  constructor
  · rintro ⟨e, he, hsame⟩
    rcases exists_firstSpelling [] (List.mem_map_of_mem he) with
      hold | ⟨first, hfirst, hother⟩
    · cases hold
    · exact ⟨first, hfirst, hother.trans hsame⟩
  · rintro ⟨first, hfirst, hsame⟩
    obtain ⟨e, he, rfl⟩ := List.mem_map.1 (mem_firstSpellings hfirst).1
    exact ⟨e, he, hsame⟩

/-- Of names that are apart, at most one is a spelling of a given name. -/
theorem flatMap_sameName {names : List String} (hapart : Apart names)
    (name : String) (values : List String) :
    (names.flatMap fun other =>
        if Header.SameName other name then values else []) =
      if ∃ other ∈ names, Header.SameName other name then values else [] := by
  induction names with
  | nil => simp
  | cons first names ih =>
      obtain ⟨hother, hapart⟩ := List.pairwise_cons.1 hapart
      rw [List.flatMap_cons, ih hapart]
      by_cases hsame : Header.SameName first name
      · have hnone : ¬ ∃ other ∈ names, Header.SameName other name := by
          rintro ⟨other, hmem, h⟩
          exact hother other hmem (hsame.trans h.symm)
        simp [hsame, hnone]
      · simp [hsame]

/-! ## Grouping -/

/-- The headers grouped by name. -/
def grouped (h : RequestHeaders) : RequestHeaders :=
  ⟨h.names.flatMap fun name => (h.getAll name).map fun value => ⟨name, value⟩⟩

theorem texts_strings (values : List String) :
    Header.texts (.array (values.map .string)) = values := by
  rw [Header.texts, List.filterMap_map]
  exact List.filterMap_some

/-- Reading the document form groups the headers. -/
theorem ofJson_toJson (h : RequestHeaders) : ofJson h.toJson = h.grouped := by
  rw [toJson, ofJson, grouped, List.flatMap_map]
  simp only [texts_strings]

/-- Grouping keeps what every look-up gives. -/
theorem getAll_grouped (h : RequestHeaders) (name : String) :
    h.grouped.getAll name = h.getAll name := by
  -- A group answers for all spellings of its name or for none.
  have hname : ∀ other, (((h.getAll other).map fun value =>
      (⟨other, value⟩ : Header)).filter (·.hasName name)).map Header.value =
        if Header.SameName other name then h.getAll name else [] := by
    intro other
    by_cases hsame : Header.SameName other name
    · rw [if_pos hsame, ← h.getAll_congr hsame]
      simp [List.filter_map, Function.comp_def, Header.hasName, hsame]
    · rw [if_neg hsame]
      simp [Header.hasName, hsame]
  rw [getAll, grouped, List.filter_flatMap, List.map_flatMap]
  simp only [hname]
  rw [flatMap_sameName h.apart_names]
  by_cases hthere : h.getAll name = []
  · rw [hthere, ite_self]
  · rw [if_pos ((h.getAll_ne_nil_iff name).1 hthere)]

/-- Grouping keeps the names and their order. -/
theorem names_grouped (h : RequestHeaders) : h.grouped.names = h.names := by
  have hrepeated : h.grouped.entries.map Header.name =
      h.names.flatMap fun name =>
        List.replicate (h.getAll name).length name := by
    rw [grouped, List.map_flatMap]
    simp [Function.comp_def]
  have hvalues : ∀ name ∈ h.names, 0 < (h.getAll name).length := by
    intro name hname
    exact List.length_pos_of_ne_nil
      ((h.getAll_ne_nil_iff name).2 ⟨name, hname, rfl⟩)
  rw [names, hrepeated]
  exact firstSpellings_repeated (fun name => (h.getAll name).length) hvalues
    h.apart_names [] fun _ _ => List.not_mem_nil

/-- Headers have the document form of their groups. -/
theorem toJson_grouped (h : RequestHeaders) : h.grouped.toJson = h.toJson := by
  rw [toJson, toJson, names_grouped]
  simp only [getAll_grouped]

/-- The document form is read back exactly. -/
theorem exact_toJson (h : RequestHeaders) (depth : Nat) :
    h.toJson.Exact (depth + 2) := by
  constructor
  · have hnames : (h.names.map fun name =>
        (name, Json.array ((h.getAll name).map .string))).map Prod.fst =
          h.names := by
      simp [Function.comp_def]
    rw [hnames]
    exact h.nodup_names
  · intro field hfield
    obtain ⟨name, -, rfl⟩ := List.mem_map.1 hfield
    intro v hv
    obtain ⟨value, -, rfl⟩ := List.mem_map.1 hv
    cases depth <;> trivial

end Invocation.RequestHeaders
