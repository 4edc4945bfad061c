import Mathlib.Tactic
import Invocation.Proofs.Json.RoundTrip

/-!
# What a text is read as

A reader sets the fields of an object by name, so no object in what it has read
has a name twice, and it opens no more containers than it is allowed to.  A value
without repeated names comes back from its compact text when its numbers are
integers and it does not nest too deep.
-/

namespace Invocation.Json

/-! ## Inside a value -/

/-- A value stands somewhere inside another, or is it. -/
inductive Inside (v : Json) : Json → Prop
  | self : Inside v v
  | item {items : List Json} {w : Json} (hmem : w ∈ items) (h : Inside v w) :
      Inside v (.array items)
  | field {fields : Fields} {field : String × Json} (hmem : field ∈ fields)
      (h : Inside v field.2) : Inside v (.object fields)

/-- Every number of a value is an integer. -/
def Integral (v : Json) : Prop :=
  ∀ n, Inside (.number n) v → ∃ i, n = .integer i

/-- No object of a value has a name twice. -/
def Distinct (v : Json) : Prop :=
  ∀ fields, Inside (.object fields) v → (fields.map Prod.fst).Nodup

mutual

/-- How many containers of a value stand inside one another. -/
def nesting : Json → Nat
  | .null => 0
  | .bool _ => 0
  | .number _ => 0
  | .string _ => 0
  | .array items => nestingOfItems items + 1
  | .object fields => nestingOfFields fields + 1

/-- The greatest nesting of some items. -/
def nestingOfItems : List Json → Nat
  | [] => 0
  | item :: rest => max (nesting item) (nestingOfItems rest)

/-- The greatest nesting of the values of some fields. -/
def nestingOfFields : List (String × Json) → Nat
  | [] => 0
  | (_, value) :: rest => max (nesting value) (nestingOfFields rest)

end

theorem nesting_item {items : List Json} {v : Json} (h : v ∈ items) :
    nesting v < nesting (.array items) := by
  rw [nesting, Nat.lt_succ_iff]
  induction items with
  | nil => cases h
  | cons item items ih =>
      rw [nestingOfItems]
      rcases List.mem_cons.1 h with rfl | h
      · exact Nat.le_max_left _ _
      · exact (ih h).trans (Nat.le_max_right _ _)

theorem nesting_field {fields : Fields} {field : String × Json}
    (h : field ∈ fields) : nesting field.2 < nesting (.object fields) := by
  rw [nesting, Nat.lt_succ_iff]
  induction fields with
  | nil => cases h
  | cons first fields ih =>
      rw [nestingOfFields]
      rcases List.mem_cons.1 h with rfl | h
      · exact Nat.le_max_left _ _
      · exact (ih h).trans (Nat.le_max_right _ _)

/-- What stands inside a value nests no deeper than the value. -/
theorem nesting_inside {v w : Json} (h : Inside v w) : nesting v ≤ nesting w := by
  induction h with
  | self => exact Nat.le_refl _
  | item hmem _ ih => exact ih.trans (nesting_item hmem).le
  | field hmem _ ih => exact ih.trans (nesting_field hmem).le

/-- A value of integers and of objects without repeated names is said exactly by
its text as far down as it nests. -/
theorem exact_of_nesting {depth : Nat} {v : Json} (hintegral : Integral v)
    (hdistinct : Distinct v) (hnesting : nesting v ≤ depth) :
    Exact depth v := by
  induction depth generalizing v with
  | zero =>
      cases v with
      | number n =>
          obtain ⟨i, rfl⟩ := hintegral n .self
          trivial
      | array items => simp [nesting] at hnesting
      | object fields => simp [nesting] at hnesting
      | null => trivial
      | bool b => trivial
      | string s => trivial
  | succ depth ih =>
      cases v with
      | number n =>
          obtain ⟨i, rfl⟩ := hintegral n .self
          trivial
      | array items =>
          -- What stands inside an item stands inside the array, so that both
          -- conditions go down with the depth.
          intro v hv
          have hless := nesting_item hv
          exact ih (fun n hn => hintegral n (.item hv hn))
            (fun fields hf => hdistinct fields (.item hv hf)) (by omega)
      | object fields =>
          refine ⟨hdistinct fields .self, fun field hfield => ?_⟩
          have hless := nesting_field hfield
          exact ih (fun n hn => hintegral n (.field hfield hn))
            (fun fields hf => hdistinct fields (.field hfield hf)) (by omega)
      | null => trivial
      | bool b => trivial
      | string s => trivial

/-! ## Distinct names -/

/-- A value that is no container has no names. -/
theorem distinct_scalar {v : Json} (h : nesting v = 0) : Distinct v := by
  intro fields hinside
  cases hinside with
  | self => cases h
  | item hmem hinside => cases h
  | field hmem hinside => cases h

theorem distinct_array {items : List Json} (h : ∀ v ∈ items, Distinct v) :
    Distinct (.array items) := by
  intro fields hinside
  cases hinside with
  | item hmem hinside => exact h _ hmem fields hinside

theorem distinct_object {fields : Fields} (hnames : (fields.map Prod.fst).Nodup)
    (h : ∀ field ∈ fields, Distinct field.2) :
    Distinct (.object fields) := by
  intro fields' hinside
  cases hinside with
  | self => exact hnames
  | field hmem hinside => exact h _ hmem fields' hinside

theorem mem_insert {fields : Fields} {name : String} {v : Json}
    {field : String × Json} (h : field ∈ fields.insert name v) :
    field ∈ fields ∨ field = (name, v) := by
  induction fields with
  | nil => exact Or.inr (List.mem_singleton.1 h)
  | cons first fields ih =>
      rw [Fields.insert] at h
      split at h
      case isTrue hname =>
        rcases List.mem_cons.1 h with rfl | h
        · exact Or.inr (by rw [eq_of_beq hname])
        · exact Or.inl (List.mem_cons_of_mem first h)
      case isFalse =>
        rcases List.mem_cons.1 h with rfl | h
        · exact Or.inl List.mem_cons_self
        · exact (ih h).imp_left (List.mem_cons_of_mem first)

/-- Setting a field repeats no name. -/
theorem nodup_insert {fields : Fields} (h : (fields.map Prod.fst).Nodup)
    (name : String) (v : Json) :
    ((fields.insert name v).map Prod.fst).Nodup := by
  induction fields with
  | nil => exact List.nodup_singleton name
  | cons first fields ih =>
      obtain ⟨hnew, hrest⟩ := List.nodup_cons.1 h
      rw [Fields.insert]
      split
      case isTrue => exact h
      case isFalse hname =>
        -- The first name does not come again: it was not in the rest, and had
        -- it been the one to set, its own field would have been set.
        refine List.nodup_cons.2 ⟨fun hmem => ?_, ih hrest⟩
        obtain ⟨field, hfield, heq⟩ := List.mem_map.1 hmem
        rcases mem_insert hfield with hold | rfl
        · exact hnew (heq ▸ List.mem_map_of_mem hold)
        · exact hname (by simp [← heq])

/-- Fields as a reader collects them: no name twice, and each value as `P`
says. -/
def Collected (P : Json → Prop) (fields : Fields) : Prop :=
  (fields.map Prod.fst).Nodup ∧ ∀ field ∈ fields, P field.2

theorem collected_insert {P : Json → Prop} {fields : Fields}
    (h : Collected P fields) (name : String) {v : Json} (hv : P v) :
    Collected P (fields.insert name v) := by
  refine ⟨nodup_insert h.1 name v, fun field hfield => ?_⟩
  rcases mem_insert hfield with hold | rfl
  · exact h.2 field hold
  · exact hv

/-! ## Readers -/

section Items

variable {ε α : Type} {lift : Cause → ε} {item : Reader ε α}

/-- A turn of the loop over items that comes to a result ends the array, or
reads one more item and goes on. -/
theorem itemsFrom_ok_iff {tick : Char} {clock text rest : List Char}
    {first : Bool} {done vs : List α} :
    itemsFrom lift item (tick :: clock) first done text = .ok (vs, rest) ↔
      (nextItem first text = .ok (false, rest) ∧ vs = done.reverse) ∨
      ∃ start v tail, nextItem first text = .ok (true, start) ∧
        item start = .ok (v, tail) ∧
        itemsFrom lift item clock false (v :: done) tail = .ok (vs, rest) := by
  constructor
  · intro hread
    rw [itemsFrom] at hread
    split at hread
    case h_1 => cases hread
    case h_2 hnext =>
      cases hread
      exact Or.inl ⟨hnext, rfl⟩
    case h_3 start hnext =>
      split at hread
      case h_1 => cases hread
      case h_2 v tail hv => exact Or.inr ⟨start, v, tail, hnext, hv, hread⟩
  · rintro (⟨hnext, rfl⟩ | ⟨start, v, tail, hnext, hv, hloop⟩)
    · rw [itemsFrom, hnext]
    · rw [itemsFrom, hnext]
      simp only [hv]
      exact hloop

/-- What every item read has, every item of an array has. -/
theorem itemsFrom_all {P : α → Prop}
    (hitem : ∀ text v rest, item text = .ok (v, rest) → P v)
    {clock text rest : List Char} {first : Bool} {done vs : List α}
    (hread : itemsFrom lift item clock first done text = .ok (vs, rest))
    (hdone : ∀ v ∈ done, P v) : ∀ v ∈ vs, P v := by
  induction clock generalizing first done text with
  | nil => cases hread
  | cons tick clock ih =>
      rcases itemsFrom_ok_iff.1 hread with
        ⟨-, rfl⟩ | ⟨start, v, tail, -, hv, hloop⟩
      · simpa using hdone
      · refine ih hloop fun w hw => ?_
        rcases List.mem_cons.1 hw with rfl | hw
        · exact hitem start w tail hv
        · exact hdone w hw

end Items

section Fields

variable {ε α σ : Type} {lift : Cause → ε} {item : Reader ε α}
  {add : σ → String → α → σ}

/-- A turn of the loop over fields that comes to a result ends the object, or
reads one more field and goes on. -/
theorem fieldsFrom_ok_iff {tick : Char} {clock text rest : List Char}
    {first : Bool} {done s : σ} :
    fieldsFrom lift item add (tick :: clock) first done text = .ok (s, rest) ↔
      (nextField first text = .ok (none, rest) ∧ s = done) ∨
      ∃ name middle start v tail, nextField first text = .ok (some name, middle) ∧
        colon middle = .ok start ∧ item start = .ok (v, tail) ∧
        fieldsFrom lift item add clock false (add done name v) tail =
          .ok (s, rest) := by
  constructor
  · intro hread
    rw [fieldsFrom] at hread
    split at hread
    case h_1 => cases hread
    case h_2 hnext =>
      cases hread
      exact Or.inl ⟨hnext, rfl⟩
    case h_3 name middle hnext =>
      split at hread
      case h_1 => cases hread
      case h_2 start hcolon =>
        split at hread
        case h_1 => cases hread
        case h_2 v tail hv =>
          exact Or.inr
            ⟨name, middle, start, v, tail, hnext, hcolon, hv, hread⟩
  · rintro (⟨hnext, rfl⟩ |
      ⟨name, middle, start, v, tail, hnext, hcolon, hv, hloop⟩)
    · rw [fieldsFrom, hnext]
    · rw [fieldsFrom, hnext]
      simp only [hcolon, hv]
      exact hloop

/-- What setting a field keeps, reading the fields of an object keeps. -/
theorem fieldsFrom_keeps {P : α → Prop} {I : σ → Prop}
    (hitem : ∀ text v rest, item text = .ok (v, rest) → P v)
    (hadd : ∀ s name v, I s → P v → I (add s name v))
    {clock text rest : List Char} {first : Bool} {done s : σ}
    (hread : fieldsFrom lift item add clock first done text = .ok (s, rest))
    (hdone : I done) : I s := by
  induction clock generalizing first done text with
  | nil => cases hread
  | cons tick clock ih =>
      rcases fieldsFrom_ok_iff.1 hread with
        ⟨-, rfl⟩ | ⟨name, middle, start, v, tail, -, -, hv, hloop⟩
      · exact hdone
      · exact ih hloop (hadd done name v hdone (hitem start v tail hv))

end Fields

theorem Reader.of_map_ok {ε α β : Type} {f : α → β} {r : Reader ε α}
    {text rest : List Char} {v : β} (h : r.map f text = .ok (v, rest)) :
    ∃ w, r text = .ok (w, rest) ∧ v = f w := by
  unfold Reader.map at h
  split at h
  case h_1 w tail hread =>
    cases h
    exact ⟨w, hread, rfl⟩
  case h_2 => cases h

/-- A word stands for its value. -/
theorem eq_of_word_ok {read : Except (Fault Cause) (List Char)} {v w : Json}
    {rest : List Char} (h : read.map (w, ·) = .ok (v, rest)) : v = w := by
  cases read with
  | error e => cases h
  | ok tail =>
      cases h
      rfl

/-- A reader of values with `Q`, where containers of such values have `P`. -/
structure Feeds (item : Reader Cause Json) (Q P : Json → Prop) : Prop where
  read : ∀ text v rest, item text = .ok (v, rest) → Q v
  array : ∀ items, (∀ v ∈ items, Q v) → P (.array items)
  object : ∀ fields, Collected Q fields → P (.object fields)

section Feeds

variable {item : Reader Cause Json} {Q P : Json → Prop}

theorem Feeds.items (h : Feeds item Q P) {text rest : List Char} {v : Json}
    (hread : (items id item).map .array text = .ok (v, rest)) : P v := by
  obtain ⟨vs, hitems, rfl⟩ := Reader.of_map_ok hread
  exact h.array vs (itemsFrom_all h.read hitems (by simp))

theorem Feeds.fields (h : Feeds item Q P) {text rest : List Char} {v : Json}
    (hread : (fields id item Fields.insert []).map .object text =
      .ok (v, rest)) : P v := by
  obtain ⟨fs, hfields, rfl⟩ := Reader.of_map_ok hread
  have hempty : Collected Q [] := ⟨List.nodup_nil, by simp⟩
  have hadd : ∀ fields name v, Collected Q fields → Q v →
      Collected Q (Fields.insert fields name v) :=
    fun _ name _ h hv => collected_insert h name hv
  exact h.object fs (fieldsFrom_keeps h.read hadd hfields hempty)

/-- What scalars have, and containers of what the inner reader reads, every
value has that is read. -/
theorem valueWith_has {inner : Option (Reader Cause Json)}
    (hscalar : ∀ v, nesting v = 0 → P v)
    (hinner : ∀ item ∈ inner, Feeds item Q P)
    {text rest : List Char} {v : Json}
    (hread : valueWith inner text = .ok (v, rest)) : P v := by
  rw [valueWith] at hread
  split at hread
  case h_1 => cases hread
  case h_2 =>
    rw [eq_of_word_ok hread]
    exact hscalar _ rfl
  case h_3 =>
    rw [eq_of_word_ok hread]
    exact hscalar _ rfl
  case h_4 =>
    rw [eq_of_word_ok hread]
    exact hscalar _ rfl
  case h_5 =>
    obtain ⟨s, -, rfl⟩ := Reader.of_map_ok hread
    exact hscalar _ rfl
  case h_6 =>
    obtain ⟨n, -, rfl⟩ := Reader.of_map_ok hread
    exact hscalar _ rfl
  case h_7 =>
    cases inner with
    | none => cases hread
    | some item => exact (hinner item rfl).items hread
  case h_8 =>
    cases inner with
    | none => cases hread
    | some item => exact (hinner item rfl).fields hread
  case h_9 =>
    split at hread
    case isTrue =>
      obtain ⟨n, -, rfl⟩ := Reader.of_map_ok hread
      exact hscalar _ rfl
    case isFalse => cases hread

end Feeds

theorem value_distinct (depth : Nat) {text rest : List Char} {v : Json}
    (hread : value depth text = .ok (v, rest)) : Distinct v := by
  induction depth generalizing text rest v with
  | zero =>
      have hinner : ∀ item ∈ (none : Option (Reader Cause Json)),
          Feeds item Distinct Distinct := by
        intro item hitem
        cases hitem
      exact valueWith_has (fun v => distinct_scalar) hinner hread
  | succ depth ih =>
      have hinner : ∀ item ∈ some (value depth),
          Feeds item Distinct Distinct := by
        intro item hitem
        cases hitem
        exact ⟨fun text v rest => ih, fun items => distinct_array,
          fun fields h => distinct_object h.1 h.2⟩
      exact valueWith_has (fun v => distinct_scalar) hinner hread

theorem nesting_array_le {depth : Nat} {items : List Json}
    (h : ∀ v ∈ items, nesting v ≤ depth) :
    nesting (.array items) ≤ depth + 1 := by
  rw [nesting, Nat.add_le_add_iff_right]
  induction items with
  | nil => exact Nat.zero_le depth
  | cons item items ih =>
      rw [nestingOfItems]
      exact Nat.max_le.2 ⟨h item List.mem_cons_self,
        ih fun v hv => h v (List.mem_cons_of_mem item hv)⟩

theorem nesting_object_le {depth : Nat} {fields : Fields}
    (h : ∀ field ∈ fields, nesting field.2 ≤ depth) :
    nesting (.object fields) ≤ depth + 1 := by
  rw [nesting, Nat.add_le_add_iff_right]
  induction fields with
  | nil => exact Nat.zero_le depth
  | cons field fields ih =>
      rw [nestingOfFields]
      exact Nat.max_le.2 ⟨h field List.mem_cons_self,
        ih fun f hf => h f (List.mem_cons_of_mem field hf)⟩

/-- What has been read nests no deeper than the reader allows. -/
theorem value_nesting (depth : Nat) {text rest : List Char} {v : Json}
    (hread : value depth text = .ok (v, rest)) : nesting v ≤ depth := by
  induction depth generalizing text rest v with
  | zero =>
      have hinner : ∀ item ∈ (none : Option (Reader Cause Json)),
          Feeds item (nesting · ≤ 0) (nesting · ≤ 0) := by
        intro item hitem
        cases hitem
      exact valueWith_has (fun v hv => hv.le) hinner hread
  | succ depth ih =>
      have hinner : ∀ item ∈ some (value depth),
          Feeds item (nesting · ≤ depth) (nesting · ≤ depth + 1) := by
        intro item hitem
        cases hitem
        exact ⟨fun text v rest => ih, fun items => nesting_array_le,
          fun fields h => nesting_object_le h.2⟩
      exact valueWith_has (fun v hv => hv.le.trans (Nat.zero_le _)) hinner hread

/-! ## Whole texts -/

theorem isBlank_of_skipBlanks_eq_nil {text : List Char}
    (h : skipBlanks text = []) : ∀ c ∈ text, isBlank c = true := by
  induction text with
  | nil => simp
  | cons c text ih =>
      rw [skipBlanks] at h
      split at h
      case isTrue hc => simpa [hc] using ih h
      case isFalse => cases h

/-- Only blanks follow the value of a document. -/
theorem value_of_read {text : List Char} {v : Json}
    (hread : read text = .ok v) :
    ∃ rest, value maxDepth text = .ok (v, rest) ∧
      ∀ c ∈ rest, isBlank c = true := by
  unfold read at hread
  split at hread
  case h_1 => cases hread
  case h_2 w rest hvalue =>
    unfold atEnd at hread
    cases hrest : skipBlanks rest with
    | nil =>
        simp only [hrest] at hread
        cases hread
        exact ⟨rest, hvalue, isBlank_of_skipBlanks_eq_nil hrest⟩
    | cons c tail =>
        simp only [hrest] at hread
        cases hread

theorem read_of_parse {text : String} {v : Json} (h : parse text = .ok v) :
    read text.toList = .ok v := by
  unfold parse at h
  split at h
  case h_1 w hread =>
    cases h
    exact hread
  case h_2 => cases h

/-- A document that has been read repeats no name in any object. -/
theorem read_distinct {text : List Char} {v : Json}
    (hread : read text = .ok v) : Distinct v := by
  obtain ⟨rest, hvalue, -⟩ := value_of_read hread
  exact value_distinct maxDepth hvalue

/-- Such a document nests no deeper than a reader allows. -/
theorem read_nesting {text : List Char} {v : Json}
    (hread : read text = .ok v) : nesting v ≤ maxDepth := by
  obtain ⟨rest, hvalue, -⟩ := value_of_read hread
  exact value_nesting maxDepth hvalue

end Invocation.Json
