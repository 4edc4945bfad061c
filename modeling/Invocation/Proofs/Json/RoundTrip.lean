import Invocation.Proofs.Json.Containers

/-!
# Compact texts read back

A value whose numbers are integers of 64 bits and whose objects have each name
once is read back from its compact text, as long as it does not nest deeper
than the reader allows.  The induction is on the depth still allowed, which is
what the reader itself recurs on; whatever follows the text is left alone.
-/

namespace Invocation.Json

/-- A value that its compact text says exactly, with at most `depth`
containers inside one another: its numbers are integers, and no object has a
name twice. -/
def Exact : Nat → Json → Prop
  | _, .null => True
  | _, .bool _ => True
  | _, .string _ => True
  | _, .number (.integer _) => True
  | _, .number (.float _) => False
  | 0, .array _ => False
  | 0, .object _ => False
  | depth + 1, .array items => ∀ v ∈ items, Exact depth v
  | depth + 1, .object fields =>
    (fields.map Prod.fst).Nodup ∧ ∀ field ∈ fields, Exact depth field.2

/-! ## Scalars -/

theorem valueWith_null (inner : Option (Reader Cause Json)) (rest : List Char) :
    valueWith inner (chars .null ++ rest) = .ok (.null, rest) := rfl

theorem valueWith_bool (inner : Option (Reader Cause Json)) (b : Bool)
    (rest : List Char) :
    valueWith inner (chars (.bool b) ++ rest) = .ok (.bool b, rest) := by
  cases b <;> rfl

theorem valueWith_string (inner : Option (Reader Cause Json)) (s : String)
    (rest : List Char) :
    valueWith inner (chars (.string s) ++ rest) = .ok (.string s, rest) := by
  rw [chars, quoteChars_append, valueWith, skipBlanks_nonblank _ (by decide)]
  change Reader.map Json.string stringBody _ = _
  rw [Reader.map, stringBody_escape]

theorem isBlank_of_isDigit {c : Char} (h : isDigit c = true) :
    isBlank c = false := by
  simp only [isBlank, Bool.or_eq_false_iff, beq_eq_false_iff_ne]
  refine ⟨⟨⟨?_, ?_⟩, ?_⟩, ?_⟩ <;>
    (rintro rfl; exact absurd h (by decide))

theorem valueWith_digit (inner : Option (Reader Cause Json)) {c : Char}
    (hc : isDigit c = true) (rest : List Char) :
    valueWith inner (c :: rest) =
      Reader.map .number (unsignedNumber false) (c :: rest) := by
  rw [valueWith, skipBlanks_nonblank rest (isBlank_of_isDigit hc)]
  split
  case h_1 heq => cases heq
  case h_9 d rest' _ _ _ _ _ _ _ heq =>
    cases heq
    rw [hc]
    rfl
  all_goals
    rename_i heq
    cases heq
    exact absurd hc (by decide)

theorem ofInt?_val (n : Integer) : Integer.ofInt? n.val = some n := by
  rw [Integer.ofInt?, dif_pos n.bounds]

/-- The integer of a sign and digits. -/
theorem wholeNumber_natAbs (n : Integer) :
    wholeNumber (decide (n.val < 0)) n.val.natAbs = .integer n := by
  unfold wholeNumber
  by_cases hneg : n.val < 0
  · have hzero : n.val.natAbs ≠ 0 := by omega
    have habs : -(n.val.natAbs : Int) = n.val := by omega
    rw [decide_eq_true hneg, if_pos rfl, if_neg hzero, habs, ofInt?_val]
  · have habs : (n.val.natAbs : Int) = n.val := by omega
    rw [decide_eq_false hneg, if_neg (by decide), habs, ofInt?_val]

theorem natAbs_lt_size (n : Integer) : n.val.natAbs < UInt64.size := by
  have h := n.bounds
  have hsize : UInt64.size = 0x10000000000000000 := rfl
  omega

theorem valueWith_integer (inner : Option (Reader Cause Json)) (n : Integer)
    {rest : List Char} (hrest : EndsNumber rest) :
    valueWith inner (chars (.number (.integer n)) ++ rest) =
      .ok (.number (.integer n), rest) := by
  have hread := fun negative =>
    unsignedNumber_toDigits negative (natAbs_lt_size n) hrest
  have hwhole := wholeNumber_natAbs n
  change valueWith inner (intChars n.val ++ rest) = _
  unfold intChars
  by_cases hneg : n.val < 0
  · rw [if_pos hneg, List.cons_append, valueWith,
      skipBlanks_nonblank _ (by decide)]
    change Reader.map Json.number (unsignedNumber true) _ = _
    rw [Reader.map, hread]
    rw [decide_eq_true hneg] at hwhole
    rw [hwhole]
  · rw [if_neg hneg]
    obtain ⟨c, cs, hcs, hc⟩ := toDigits_eq_cons n.val.natAbs
    have hfirst := valueWith_digit inner hc (cs ++ rest)
    rw [← List.cons_append, ← hcs] at hfirst
    rw [hfirst, Reader.map, hread]
    rw [decide_eq_false hneg] at hwhole
    rw [hwhole]

theorem intChars_starts (n : Int) :
    ∃ c cs, intChars n = c :: cs ∧ StartsValue c := by
  have hdigits : ∃ c cs, Nat.toDigits 10 n.natAbs = c :: cs ∧ StartsValue c := by
    obtain ⟨c, cs, hcs, hc⟩ := toDigits_eq_cons n.natAbs
    refine ⟨c, cs, hcs, isBlank_of_isDigit hc, ?_, ?_, ?_⟩ <;>
      (rintro rfl; exact absurd hc (by decide))
  unfold intChars
  split
  · exact ⟨'-', _, rfl, by unfold StartsValue; decide⟩
  · exact hdigits

/-! ## Values -/

/-- Every compact text starts like a value. -/
theorem chars_starts {depth : Nat} {v : Json} (h : Exact depth v) :
    ∃ c cs, chars v = c :: cs ∧ StartsValue c := by
  cases v with
  | null => exact ⟨_, _, rfl, by unfold StartsValue; decide⟩
  | bool b => cases b <;> exact ⟨_, _, rfl, by unfold StartsValue; decide⟩
  | string s => exact ⟨_, _, rfl, by unfold StartsValue; decide⟩
  | array items => exact ⟨_, _, rfl, by unfold StartsValue; decide⟩
  | object fields => exact ⟨_, _, rfl, by unfold StartsValue; decide⟩
  | number n =>
      cases n with
      | integer n => exact intChars_starts n.val
      | float x => cases depth <;> exact h.elim

theorem itemTexts_eq_map (items : List Json) :
    itemTexts items = items.map chars := by
  induction items with
  | nil => rfl
  | cons v items ih => rw [itemTexts, ih, List.map_cons]

theorem fieldTexts_eq_fieldParts (fields : Fields) :
    fieldTexts fields =
      fieldParts (fields.map fun field => (field.1, chars field.2, field.2)) := by
  induction fields with
  | nil => rfl
  | cons field fields ih =>
      obtain ⟨name, v⟩ := field
      rw [fieldTexts, ih]
      rfl

theorem insert_of_not_mem (fields : Fields) {name : String} (v : Json)
    (h : name ∉ fields.map Prod.fst) :
    fields.insert name v = fields ++ [(name, v)] := by
  induction fields with
  | nil => rfl
  | cons field fields ih =>
      rw [List.map_cons, List.mem_cons, not_or] at h
      have hne : (field.1 == name) = false := beq_false_of_ne (Ne.symm h.1)
      rw [Fields.insert, hne, ih h.2]
      rfl

/-- Fields of different names are set one after the other. -/
theorem foldl_insert (done fields : Fields)
    (h : ((done ++ fields).map Prod.fst).Nodup) :
    fields.foldl (fun s field => Fields.insert s field.1 field.2) done =
      done ++ fields := by
  induction fields generalizing done with
  | nil => simp
  | cons field fields ih =>
      have hnew : field.1 ∉ done.map Prod.fst := by
        rw [List.map_append, List.map_cons] at h
        intro hmem
        exact (List.nodup_append.1 h).2.2 _ hmem _ List.mem_cons_self rfl
      rw [List.foldl_cons, insert_of_not_mem done field.2 hnew]
      change List.foldl _ (done ++ [field]) fields = _
      rw [ih (done ++ [field]) (by simpa using h)]
      simp

theorem valueWith_scalar (inner : Option (Reader Cause Json)) {v : Json}
    (h : Exact 0 v) {rest : List Char} (hrest : EndsNumber rest) :
    valueWith inner (chars v ++ rest) = .ok (v, rest) := by
  cases v with
  | null => exact valueWith_null inner rest
  | bool b => exact valueWith_bool inner b rest
  | string s => exact valueWith_string inner s rest
  | array items => exact h.elim
  | object fields => exact h.elim
  | number n =>
      cases n with
      | integer n => exact valueWith_integer inner n hrest
      | float x => exact h.elim

theorem valueWith_array (item : Reader Cause Json) (vs : List Json)
    (h : ∀ v ∈ vs, Reads item (chars v) v) (rest : List Char) :
    valueWith (some item) (chars (.array vs) ++ rest) =
      .ok (.array vs, rest) := by
  obtain ⟨text, htext, hread⟩ := items_bracket id item
    (vs.map fun v => (chars v, v))
    (by
      intro p hp
      obtain ⟨v, hv, rfl⟩ := List.mem_map.1 hp
      exact h v hv)
    rest
  have hparts : (vs.map fun v => (chars v, v)).map Prod.fst = itemTexts vs := by
    rw [itemTexts_eq_map, List.map_map]
    rfl
  have hvalues : (vs.map fun v => (chars v, v)).map Prod.snd = vs := by
    rw [List.map_map]
    exact List.map_id vs
  rw [hparts] at htext
  rw [hvalues] at hread
  rw [chars, htext, valueWith, skipBlanks_nonblank _ (by decide)]
  change Reader.map Json.array (items id item) text = _
  rw [Reader.map, hread]

theorem valueWith_object (item : Reader Cause Json) (fs : Fields)
    (hnames : (fs.map Prod.fst).Nodup)
    (h : ∀ field ∈ fs, Reads item (chars field.2) field.2) (rest : List Char) :
    valueWith (some item) (chars (.object fs) ++ rest) =
      .ok (.object fs, rest) := by
  obtain ⟨text, htext, hread⟩ := fields_bracket id item Fields.insert
    (fs.map fun field => (field.1, chars field.2, field.2))
    (by
      intro p hp
      obtain ⟨field, hfield, rfl⟩ := List.mem_map.1 hp
      exact h field hfield)
    [] rest
  have hvalues := foldl_insert [] fs (by simpa using hnames)
  rw [← fieldTexts_eq_fieldParts] at htext
  rw [List.foldl_map, hvalues] at hread
  rw [chars, htext, valueWith, skipBlanks_nonblank _ (by decide)]
  change Reader.map Json.object (fields id item Fields.insert []) text = _
  rw [Reader.map, hread]
  rfl

/-- A value that its text says exactly is read back from it. -/
theorem reads_chars (depth : Nat) (v : Json) (h : Exact depth v) :
    Reads (value depth) (chars v) v := by
  -- The reader of items is the reader of values one level further in.
  induction depth generalizing v with
  | zero => exact ⟨chars_starts h, fun rest => valueWith_scalar none h⟩
  | succ depth ih =>
      refine ⟨chars_starts h, fun rest hrest => ?_⟩
      change valueWith (some (value depth)) _ = _
      cases v with
      | array vs =>
          exact valueWith_array _ vs (fun v hv => ih v (h v hv)) rest
      | object fs =>
          exact valueWith_object _ fs h.1
            (fun field hfield => ih field.2 (h.2 field hfield)) rest
      | null => exact valueWith_scalar _ (v := .null) trivial hrest
      | bool b => exact valueWith_scalar _ (v := .bool b) trivial hrest
      | string s => exact valueWith_scalar _ (v := .string s) trivial hrest
      | number n =>
          cases n with
          | integer n =>
              exact valueWith_scalar _ (v := .number (.integer n)) trivial hrest
          | float x => exact h.elim

/-! ## No control characters -/

theorem le_of_mem_intChars {n : Int} {c : Char} (h : c ∈ intChars n) :
    0x20 ≤ c.toNat := by
  have hdigit : ∀ d ∈ Nat.toDigits 10 n.natAbs, 0x20 ≤ d.toNat := by
    intro d hd
    have h := isDigit_of_mem_toDigits hd
    simp only [isDigit, decide_eq_true_eq] at h
    have hle : '0'.toNat ≤ d.toNat := h.1
    have hzero : '0'.toNat = 0x30 := rfl
    omega
  unfold intChars at h
  split at h
  · rcases List.mem_cons.1 h with rfl | h
    · decide
    · exact hdigit c h
  · exact hdigit c h

theorem le_of_mem_bracket {left right : Char} (hleft : 0x20 ≤ left.toNat)
    (hright : 0x20 ≤ right.toNat) {parts : List (List Char)}
    (hparts : ∀ part ∈ parts, ∀ c ∈ part, 0x20 ≤ c.toNat) {c : Char}
    (h : c ∈ bracket left right parts) : 0x20 ≤ c.toNat := by
  have hfollowing : ∀ rest : List (List Char),
      (∀ part ∈ rest, ∀ c ∈ part, 0x20 ≤ c.toNat) →
        c ∈ following rest → 0x20 ≤ c.toNat := by
    intro rest hrest hc
    obtain ⟨part, hpart, hc⟩ := List.mem_flatMap.1 hc
    rcases List.mem_cons.1 hc with rfl | hc
    · decide
    · exact hrest part hpart c hc
  cases parts with
  | nil =>
      simp only [bracket, List.intercalate, List.intersperse_nil,
        List.flatten_nil, List.nil_append, List.mem_cons, List.not_mem_nil,
        or_false] at h
      rcases h with rfl | rfl
      · exact hleft
      · exact hright
  | cons part parts =>
      rw [bracket, intercalate_cons] at h
      simp only [List.mem_cons, List.mem_append, List.not_mem_nil,
        or_false] at h
      rcases h with rfl | (h | h) | rfl
      · exact hleft
      · exact hparts part (by simp) c h
      · exact hfollowing parts
          (fun p hp => hparts p (List.mem_cons_of_mem part hp)) h
      · exact hright

theorem le_of_mem_scalar {v : Json} (h : Exact 0 v) :
    ∀ c ∈ chars v, 0x20 ≤ c.toNat := by
  cases v with
  | null => simp [chars]
  | bool b => cases b <;> simp [chars]
  | string s => exact fun c hc => le_of_mem_quoteChars hc
  | array vs => exact h.elim
  | object fs => exact h.elim
  | number n =>
      cases n with
      | integer n => exact fun c hc => le_of_mem_intChars hc
      | float x => exact h.elim

/-- The text of such a value has no character below `0x20`. -/
theorem le_of_mem_chars {depth : Nat} {v : Json} (h : Exact depth v) :
    ∀ c ∈ chars v, 0x20 ≤ c.toNat := by
  induction depth generalizing v with
  | zero => exact le_of_mem_scalar h
  | succ depth ih =>
      cases v with
      | array vs =>
          intro c hc
          rw [chars, itemTexts_eq_map] at hc
          refine le_of_mem_bracket (by decide) (by decide) ?_ hc
          intro part hpart
          obtain ⟨v, hv, rfl⟩ := List.mem_map.1 hpart
          exact ih (h v hv)
      | object fs =>
          intro c hc
          rw [chars, fieldTexts_eq_fieldParts, fieldParts, List.map_map] at hc
          refine le_of_mem_bracket (by decide) (by decide) ?_ hc
          intro part hpart
          obtain ⟨field, hfield, rfl⟩ := List.mem_map.1 hpart
          intro d hd
          simp only [Function.comp_apply, fieldChars, List.mem_append,
            List.mem_cons] at hd
          rcases hd with hd | rfl | hd
          · exact le_of_mem_quoteChars hd
          · decide
          · exact ih (h.2 field hfield) d hd
      | null => exact le_of_mem_scalar (v := .null) trivial
      | bool b => exact le_of_mem_scalar (v := .bool b) trivial
      | string s => exact le_of_mem_scalar (v := .string s) trivial
      | number n =>
          cases n with
          | integer n =>
              exact le_of_mem_scalar (v := .number (.integer n)) trivial
          | float x => exact h.elim

/-! ## Whole texts -/

theorem read_chars {v : Json} (h : Exact maxDepth v) :
    read (chars v) = .ok v := by
  have hread := (reads_chars maxDepth v h).read [] endsNumber_nil
  rw [List.append_nil] at hread
  rw [read, hread]
  rfl

/-- Parsing the compact text of a value gives the value back. -/
theorem parse_text {v : Json} (h : Exact maxDepth v) :
    parse v.text = .ok v := by
  unfold parse text
  rw [String.toList_ofList, read_chars h]

end Invocation.Json
