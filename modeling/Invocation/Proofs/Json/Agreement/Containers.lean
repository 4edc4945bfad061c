import Invocation.Proofs.Json.Agreement

/-!
# The two ways through containers

A loop over the text of a container and the recursion over its items or fields
take the same turns.  The text that a loop still has to read is written
`listed`: the first part has no comma before it only at the start, so that one
induction covers the first turn and all others.
-/

namespace Invocation.Json

/-! ## Parts still to be read -/

/-- Parts as they follow the opening bracket, if `first`, or other parts. -/
def listed (first : Bool) : List (List Char) → List Char
  | [] => []
  | part :: parts => (if first then part else ',' :: part) ++ following parts

theorem bracket_eq_listed (left right : Char) (parts : List (List Char))
    (rest : List Char) :
    bracket left right parts ++ rest =
      left :: (listed true parts ++ right :: rest) := by
  cases parts with
  | nil => exact bracket_nil left right rest
  | cons part parts =>
      rw [bracket_cons, listed, if_pos rfl, List.append_assoc]

theorem listed_false (parts : List (List Char)) :
    listed false parts = following parts := by
  cases parts with
  | nil => rfl
  | cons part parts => rfl

theorem endsNumber_listed (parts : List (List Char)) {right : Char}
    (hright : ∀ rest, EndsNumber (right :: rest)) (rest : List Char) :
    EndsNumber (listed false parts ++ right :: rest) := by
  rw [listed_false]
  exact endsNumber_following parts hright rest

/-- A text of parts is a clock for reading them. -/
theorem length_lt_listed {parts : List (List Char)}
    (h : ∀ part ∈ parts, part ≠ []) (first : Bool) (right : Char)
    (rest : List Char) :
    parts.length < (listed first parts ++ right :: rest).length := by
  cases parts with
  | nil => simp [listed]
  | cons part parts =>
      have hpart := List.length_pos_of_ne_nil (h part List.mem_cons_self)
      have hrest := length_following parts
      cases first with
      | true =>
          rw [listed, if_pos rfl]
          simp only [List.length_append, List.length_cons]
          omega
      | false =>
          rw [listed_false, following_cons]
          simp only [List.length_append, List.length_cons]
          omega

theorem nextItem_listed {part : List Char}
    (h : ∃ c cs, part = c :: cs ∧ StartsValue c) (first : Bool)
    (parts : List (List Char)) (rest : List Char) :
    nextItem first (listed first (part :: parts) ++ rest) =
      .ok (true, part ++ (listed false parts ++ rest)) := by
  cases first with
  | true =>
      rw [listed, if_pos rfl, List.append_assoc, listed_false]
      exact nextItem_first h _
  | false =>
      rw [listed_false, following_cons, listed_false]
      exact nextItem_following h _

theorem nextField_listed (name : String) (inner : List Char) (first : Bool)
    (parts : List (List Char)) (rest : List Char) :
    nextField first (listed first (fieldChars name inner :: parts) ++ rest) =
      .ok (some name, ':' :: (inner ++ (listed false parts ++ rest))) := by
  cases first with
  | true =>
      rw [listed, if_pos rfl, List.append_assoc, listed_false,
        fieldChars_append]
      exact nextField_first name _
  | false =>
      rw [listed_false, following_cons, listed_false, fieldChars_append]
      exact nextField_following name _

theorem length_lt_items {depth : Nat} {vs : List Json}
    (h : ∀ v ∈ vs, Exact depth v) (rest : List Char) :
    vs.length < (listed true (vs.map chars) ++ ']' :: rest).length := by
  have hparts : ∀ part ∈ vs.map chars, part ≠ [] := by
    intro part hpart
    obtain ⟨v, hv, rfl⟩ := List.mem_map.1 hpart
    obtain ⟨c, cs, hchars, -⟩ := chars_starts (h v hv)
    rw [hchars]
    exact List.cons_ne_nil c cs
  have hless := length_lt_listed hparts true ']' rest
  rwa [List.length_map] at hless

theorem length_lt_fieldTexts (fs : Fields) (rest : List Char) :
    fs.length < (listed true (fieldTexts fs) ++ '\x7d' :: rest).length := by
  have htexts := fieldTexts_eq_fieldParts fs
  have hparts : ∀ part ∈ fieldTexts fs, part ≠ [] := by
    rw [htexts, fieldParts, List.map_map]
    intro part hpart
    obtain ⟨field, -, rfl⟩ := List.mem_map.1 hpart
    exact List.cons_ne_nil _ _
  have hless := length_lt_listed hparts true '\x7d' rest
  have hlength : (fieldTexts fs).length = fs.length := by
    rw [htexts, fieldParts, List.length_map, List.length_map]
  rwa [hlength] at hless

/-! ## Lists -/

section Except

variable {α β δ : Type} {f : β → Except δ α} {v : β}

theorem mapM_cons_error {m : δ} (h : f v = .error m) (vs : List β) :
    (v :: vs).mapM f = .error m := by
  rw [List.mapM_cons, h]
  rfl

/-- What has been done comes first, the latest at the end. -/
theorem map_mapM_cons {x : α} (h : f v = .ok x) (vs : List β) (done : List α) :
    ((v :: vs).mapM f).map (done.reverse ++ ·) =
      (vs.mapM f).map ((x :: done).reverse ++ ·) := by
  rw [List.mapM_cons, h]
  cases hrest : vs.mapM f with
  | error m => rfl
  | ok xs =>
      change Except.ok (done.reverse ++ x :: xs) =
        Except.ok ((x :: done).reverse ++ xs)
      rw [List.reverse_cons, List.append_assoc]
      rfl

theorem map_append_nil (r : Except δ (List α)) :
    r.map (([] : List α).reverse ++ ·) = r := by
  cases r with
  | error m => rfl
  | ok xs => rfl

end Except

namespace Decoder

theorem itemsFrom_agree {α : Type} {d : Decoder α} (hd : d.Agrees) {depth : Nat}
    {vs : List Json} (hvs : ∀ v ∈ vs, Exact depth v) (rest : List Char)
    {clock : List Char} (hclock : vs.length < clock.length) (first : Bool)
    (done : List α) :
    Agree rest
      (itemsFrom .grammar (d.ofText depth) clock first done
        (listed first (vs.map chars) ++ ']' :: rest))
      ((vs.mapM d.ofJson).map (done.reverse ++ ·)) := by
  induction vs generalizing clock first done with
  | nil =>
      obtain ⟨tick, clock, rfl⟩ :=
        List.exists_cons_of_length_pos (Nat.zero_lt_of_lt hclock)
      refine Or.inl ⟨done.reverse, congrArg _ (List.append_nil _), ?_⟩
      rw [List.map_nil, listed, List.nil_append, itemsFrom, nextItem_end]
  | cons v vs ih =>
      obtain ⟨tick, clock, rfl⟩ :=
        List.exists_cons_of_length_pos (Nat.zero_lt_of_lt hclock)
      have hv : Exact depth v := hvs v List.mem_cons_self
      have hends := endsNumber_listed (vs.map chars) endsNumber_bracket rest
      rw [List.map_cons, itemsFrom, nextItem_listed (chars_starts hv)]
      rcases hd depth v hv _ hends with
        ⟨x, hvalue, htext⟩ | ⟨m, e, hvalue, htext⟩
      · simp only [htext]
        rw [map_mapM_cons hvalue]
        exact ih (fun w hw => hvs w (List.mem_cons_of_mem v hw))
          (Nat.lt_of_succ_lt_succ hclock) false (x :: done)
      · simp only [htext]
        rw [mapM_cons_error hvalue]
        exact Or.inr ⟨m, e, rfl, rfl⟩

theorem agrees_list {α : Type} {inner : Decoder α} (h : inner.Agrees) :
    (list inner).Agrees := by
  intro depth v hv rest hrest
  by_cases hkind : ∃ vs, v = .array vs
  case pos =>
    obtain ⟨vs, rfl⟩ := hkind
    cases depth with
    | zero => exact hv.elim
    | succ depth =>
        have hloop :=
          itemsFrom_agree h hv rest (length_lt_items hv rest) true []
        rw [map_append_nil] at hloop
        rw [chars, itemTexts_eq_map, bracket_eq_listed]
        exact hloop
  case neg =>
    refine agree_of_kind hv ?_ (fun c cs hc => ?_) rest
    · cases v <;> first | exact ⟨_, rfl⟩ | exact absurd ⟨_, rfl⟩ hkind
    · rw [list]
      simp only
      rw [skipBlanks_nonblank _ hc.nonblank]
      split
      case h_1 heq => exact absurd (hc.array.1 (List.cons.inj heq).1) hkind
      case h_2 => exact ⟨_, rfl⟩

/-! ## Mappings -/

/-- An entry of a mapping, from a field. -/
def entry {α : Type} (d : Decoder α) (field : String × Json) :
    Except Mismatch (String × α) :=
  (d.ofJson field.2).map (field.1, ·)

theorem fieldsFrom_agree {α : Type} {d : Decoder α} (hd : d.Agrees) {depth : Nat}
    {fs : Fields} (hfs : ∀ field ∈ fs, Exact depth field.2) (rest : List Char)
    {clock : List Char} (hclock : fs.length < clock.length) (first : Bool)
    (done : List (String × α)) :
    Agree rest
      (Reader.map List.reverse
        (fieldsFrom .grammar (d.ofText depth) pushEntry clock first done)
        (listed first (fieldTexts fs) ++ '\x7d' :: rest))
      ((fs.mapM d.entry).map (done.reverse ++ ·)) := by
  induction fs generalizing clock first done with
  | nil =>
      obtain ⟨tick, clock, rfl⟩ :=
        List.exists_cons_of_length_pos (Nat.zero_lt_of_lt hclock)
      refine Or.inl ⟨done.reverse, congrArg _ (List.append_nil _), ?_⟩
      rw [fieldTexts, listed, List.nil_append, Reader.map, fieldsFrom,
        nextField_end]
  | cons field fs ih =>
      obtain ⟨tick, clock, rfl⟩ :=
        List.exists_cons_of_length_pos (Nat.zero_lt_of_lt hclock)
      obtain ⟨name, v⟩ := field
      have hv : Exact depth v := hfs (name, v) List.mem_cons_self
      have hends := endsNumber_listed (fieldTexts fs) endsNumber_brace rest
      rw [fieldTexts, Reader.map, fieldsFrom, nextField_listed]
      simp only [colon_append]
      rcases hd depth v hv _ hends with
        ⟨x, hvalue, htext⟩ | ⟨m, e, hvalue, htext⟩
      · have hentry : d.entry (name, v) = .ok (name, x) := by
          rw [entry, hvalue]
          rfl
        simp only [htext]
        rw [map_mapM_cons hentry]
        exact ih (fun f hf => hfs f (List.mem_cons_of_mem _ hf))
          (Nat.lt_of_succ_lt_succ hclock) false ((name, x) :: done)
      · have hentry : d.entry (name, v) = .error m := by
          rw [entry, hvalue]
          rfl
        simp only [htext]
        rw [mapM_cons_error hentry]
        exact Or.inr ⟨m, e, rfl, rfl⟩

theorem agrees_entries {α : Type} (expected : String) {inner : Decoder α}
    (h : inner.Agrees) : (entries expected inner).Agrees := by
  intro depth v hv rest hrest
  by_cases hkind : ∃ fs, v = .object fs
  case pos =>
    obtain ⟨fs, rfl⟩ := hkind
    cases depth with
    | zero => exact hv.elim
    | succ depth =>
        have hloop :=
          fieldsFrom_agree h hv.2 rest (length_lt_fieldTexts fs rest) true []
        rw [map_append_nil] at hloop
        rw [chars, bracket_eq_listed]
        exact hloop
  case neg =>
    refine agree_of_kind hv ?_ (fun c cs hc => ?_) rest
    · cases v <;> first | exact ⟨_, rfl⟩ | exact absurd ⟨_, rfl⟩ hkind
    · rw [entries]
      simp only
      rw [skipBlanks_nonblank _ hc.nonblank]
      split
      case h_1 heq => exact absurd (hc.object.1 (List.cons.inj heq).1) hkind
      case h_2 => exact ⟨_, rfl⟩

/-! ## Records -/

namespace Record

variable {σ : Type} (r : Record σ)

theorem mem_of_field? {name : String} {f : Field σ}
    (h : r.field? name = some f) : f ∈ r.fields :=
  List.mem_of_find?_eq_some h

/-- The fields of an object are set alike, in their order, and what no field is
for is passed over. -/
theorem objectFrom_agree (hr : ∀ f ∈ r.fields, f.set.Agrees) {depth : Nat}
    {fs : Fields} (hfs : ∀ field ∈ fs, Exact depth field.2) (rest : List Char)
    {clock : List Char} (hclock : fs.length < clock.length) (first : Bool)
    (met : List String) (v : σ) :
    Agree rest
      (r.objectFrom depth clock first met v
        (listed first (fieldTexts fs) ++ '\x7d' :: rest))
      (r.ofFields fs met v) := by
  induction fs generalizing clock first met v with
  | nil =>
      obtain ⟨tick, clock, rfl⟩ :=
        List.exists_cons_of_length_pos (Nat.zero_lt_of_lt hclock)
      rw [fieldTexts, listed, List.nil_append, objectFrom, nextField_end,
        ofFields]
      simp only
      cases r.finish met v with
      | error m => exact Or.inr ⟨m, _, rfl, rfl⟩
      | ok w => exact Or.inl ⟨w, rfl, rfl⟩
  | cons field fs ih =>
      obtain ⟨tick, clock, rfl⟩ :=
        List.exists_cons_of_length_pos (Nat.zero_lt_of_lt hclock)
      obtain ⟨name, w⟩ := field
      have hw : Exact depth w := hfs (name, w) List.mem_cons_self
      have hends := endsNumber_listed (fieldTexts fs) endsNumber_brace rest
      have hless : fs.length < clock.length := Nat.lt_of_succ_lt_succ hclock
      have hrest := ih (fun f hf => hfs f (List.mem_cons_of_mem _ hf)) hless
        false
      rw [fieldTexts, objectFrom, nextField_listed, ofFields]
      cases hfield : r.field? name with
      | none =>
          have hskip : (colon (':' :: (chars w ++ (listed false (fieldTexts fs) ++
              '\x7d' :: rest))) >>= skipValue) =
              .ok (listed false (fieldTexts fs) ++ '\x7d' :: rest) := by
            rw [colon_append]
            exact skipValue_chars hw hends
          simp only [hfield, hskip]
          exact hrest met v
      | some f =>
          simp only [hfield]
          split
          case isTrue => exact Or.inr ⟨_, _, rfl, rfl⟩
          case isFalse =>
            simp only [colon_append]
            rcases hr f (r.mem_of_field? hfield) depth w hw _ hends with
              ⟨set, hvalue, htext⟩ | ⟨m, e, hvalue, htext⟩
            · simp only [htext, hvalue]
              exact hrest (name :: met) (set v)
            · simp only [htext, hvalue]
              exact Or.inr ⟨m, _, rfl, rfl⟩

/-- An array that goes on cannot be closed. -/
theorem closeArray_listed {part : List Char}
    (h : ∃ c cs, part = c :: cs ∧ StartsValue c) (first : Bool)
    (parts : List (List Char)) (rest : List Char) :
    ∃ e, closeArray (listed first (part :: parts) ++ rest) = .error e := by
  cases first with
  | true =>
      rw [listed, if_pos rfl, List.append_assoc, closeArray, skipBlanks_append h]
      obtain ⟨c, cs, rfl, -, hcomma, hbracket, -⟩ := h
      rw [List.cons_append]
      split
      case h_1 => exact ⟨_, rfl⟩
      case h_2 heq => exact absurd (List.cons.inj heq).1 hbracket
      case h_3 heq => exact absurd (List.cons.inj heq).1 hcomma
      case h_4 => exact ⟨_, rfl⟩
  | false =>
      rw [listed_false, following_cons, closeArray,
        skipBlanks_nonblank _ (by decide)]
      simp only [skipBlanks_append h]
      split
      case h_1 => exact ⟨_, rfl⟩
      case h_2 => exact ⟨_, rfl⟩

/-- Reads the fields of an array in order, and the end of the array. -/
def arrayWhole (depth : Nat) (fields : List (Field σ)) (count : Nat) (v : σ)
    (text : List Char) : Except Stop (σ × List Char) :=
  (r.arrayFrom depth fields count v text).bind fun read =>
    ((closeArray read.2).mapError Stop.grammar).map (read.1, ·)

theorem arrayWhole_of_ok {depth : Nat} {fields : List (Field σ)} {count : Nat}
    {v w : σ} {text tail : List Char}
    (h : r.arrayFrom depth fields count v text = .ok (w, tail)) :
    r.arrayWhole depth fields count v text =
      ((closeArray tail).mapError Stop.grammar).map (w, ·) := by
  rw [arrayWhole, h]
  rfl

/-- The items of an array are taken for the fields in order, and the array has
to end with them. -/
theorem arrayWhole_agree (total : Nat) {fields : List (Field σ)}
    (hfields : ∀ f ∈ fields, f.set.Agrees) {depth : Nat} {vs : List Json}
    (hvs : ∀ v ∈ vs, Exact depth v) (rest : List Char) (count : Nat) (v : σ) :
    Agree rest
      (r.arrayWhole depth fields count v
        (listed (count = 0) (vs.map chars) ++ ']' :: rest))
      (r.ofItems total fields count v vs) := by
  induction fields generalizing vs count v with
  | nil =>
      cases vs with
      | nil => exact Or.inl ⟨v, rfl, rfl⟩
      | cons w vs =>
          obtain ⟨e, he⟩ := closeArray_listed
            (chars_starts (hvs w List.mem_cons_self)) (count = 0) (vs.map chars)
            (']' :: rest)
          rw [List.map_cons, r.arrayWhole_of_ok (arrayFrom.eq_1 ..), he]
          exact Or.inr ⟨_, _, rfl, rfl⟩
  | cons f more ih =>
      cases vs with
      | nil =>
          rw [List.map_nil, listed, List.nil_append, arrayWhole, arrayFrom,
            nextItem_end, ofItems]
          simp only
          cases (f :: more).findIdx? (·.required) with
          | some i => exact Or.inr ⟨_, _, rfl, rfl⟩
          | none => exact Or.inl ⟨v, rfl, rfl⟩
      | cons w vs =>
          have hw : Exact depth w := hvs w List.mem_cons_self
          have hends := endsNumber_listed (vs.map chars) endsNumber_bracket rest
          rw [List.map_cons, arrayWhole, arrayFrom,
            nextItem_listed (chars_starts hw), ofItems]
          simp only
          rcases hfields f List.mem_cons_self depth w hw _ hends with
            ⟨set, hvalue, htext⟩ | ⟨m, e, hvalue, htext⟩
          · simp only [htext, hvalue]
            exact ih (fun g hg => hfields g (List.mem_cons_of_mem f hg))
              (fun u hu => hvs u (List.mem_cons_of_mem w hu)) (count + 1) (set v)
          · simp only [htext, hvalue]
            exact Or.inr ⟨m, _, rfl, rfl⟩

theorem decoder_object (depth : Nat) (text : List Char) {rest : List Char}
    {fromValue : Except Mismatch σ}
    (h : Agree rest (r.objectFrom depth text true [] r.start text) fromValue) :
    Agree rest (r.decoder.ofText (depth + 1) ('\x7b' :: text)) fromValue := by
  rw [decoder]
  simp only
  rw [skipBlanks_nonblank _ (by decide)]
  simp only [opened]
  rcases h with ⟨w, hvalue, htext⟩ | ⟨m, stop, hvalue, htext⟩
  · exact Or.inl ⟨w, hvalue, by simp only [htext]⟩
  · cases stop with
    | fault e => exact Or.inr ⟨m, e, hvalue, by simp only [htext]⟩
    | mismatch m' tail => exact Or.inr ⟨m, _, hvalue, by simp only [htext]; rfl⟩

theorem decoder_array (depth : Nat) (text : List Char) {rest : List Char}
    {fromValue : Except Mismatch σ}
    (h : Agree rest (r.arrayWhole depth r.fields 0 r.start text) fromValue) :
    Agree rest (r.decoder.ofText (depth + 1) ('[' :: text)) fromValue := by
  rw [decoder]
  simp only
  rw [skipBlanks_nonblank _ (by decide)]
  simp only [opened]
  cases hread : r.arrayFrom depth r.fields 0 r.start text with
  | ok read =>
      obtain ⟨w, tail⟩ := read
      rw [r.arrayWhole_of_ok hread] at h
      cases hclose : closeArray tail with
      | ok rest' =>
          rw [hclose] at h
          rcases h with ⟨w', hvalue, htext⟩ | ⟨m, stop, -, htext⟩
          · cases htext
            exact Or.inl ⟨w, hvalue, by simp only [hclose]⟩
          · cases htext
      | error e =>
          rw [hclose] at h
          rcases h with ⟨w', -, htext⟩ | ⟨m, stop, hvalue, -⟩
          · cases htext
          · exact Or.inr ⟨m, _, hvalue, by simp only [hclose]; rfl⟩
  | error stop =>
      rw [arrayWhole, hread] at h
      rcases h with ⟨w', -, htext⟩ | ⟨m, stop', hvalue, -⟩
      · cases htext
      · cases stop with
        | fault e => exact Or.inr ⟨m, e, hvalue, rfl⟩
        | mismatch m' tail => exact Or.inr ⟨m, _, hvalue, rfl⟩

theorem agrees_decoder (hr : ∀ f ∈ r.fields, f.set.Agrees) :
    r.decoder.Agrees := by
  intro depth v hv rest hrest
  by_cases hobject : ∃ fs, v = .object fs
  case pos =>
    obtain ⟨fs, rfl⟩ := hobject
    cases depth with
    | zero => exact hv.elim
    | succ depth =>
        have hloop := r.objectFrom_agree hr hv.2 rest
          (length_lt_fieldTexts fs rest) true [] r.start
        rw [chars, bracket_eq_listed]
        exact r.decoder_object depth _ hloop
  by_cases harray : ∃ vs, v = .array vs
  case pos =>
    obtain ⟨vs, rfl⟩ := harray
    cases depth with
    | zero => exact hv.elim
    | succ depth =>
        have hloop := r.arrayWhole_agree vs.length hr hv rest 0 r.start
        rw [chars, itemTexts_eq_map, bracket_eq_listed]
        exact r.decoder_array depth _ hloop
  refine agree_of_kind hv ?_ (fun c cs hc => ?_) rest
  · cases v <;> first
      | exact ⟨_, rfl⟩
      | exact absurd ⟨_, rfl⟩ hobject
      | exact absurd ⟨_, rfl⟩ harray
  · rw [decoder]
    simp only
    rw [skipBlanks_nonblank _ hc.nonblank]
    split
    case h_1 heq => exact absurd (hc.object.1 (List.cons.inj heq).1) hobject
    case h_2 heq => exact absurd (hc.array.1 (List.cons.inj heq).1) harray
    case h_3 => exact ⟨_, rfl⟩

end Record

/-! ## Named alternatives -/

section Variants

variable {α : Type} (known : List (String × α))

theorem variantName_agree (name : String) (rest : List Char) :
    Agree rest (variantName known (escape name.toList ++ '"' :: rest))
      (variant? known name) := by
  rw [variantName, stringBody_escape]
  simp only
  cases variant? known name with
  | ok v => exact Or.inl ⟨v, rfl, rfl⟩
  | error m => exact Or.inr ⟨m, _, rfl, rfl⟩

/-- Only one field makes an alternative, and its value is null. -/
theorem ofJson_object {name : String} {alternative : α}
    (h : variant? known name = .ok alternative) (v : Json) (more : Fields) :
    (variant known).ofJson (.object ((name, v) :: more)) =
      if more = [] then (unit.ofJson v).map fun _ => alternative
      else .error (.value .map "map with a single key") := by
  cases more with
  | nil => simp [variant, h]
  | cons field more => rfl

theorem variantObject_agree {depth : Nat} {fs : Fields}
    (hfs : ∀ field ∈ fs, Exact depth field.2) (rest : List Char) :
    Agree rest
      (variantObject known depth
        (listed true (fieldTexts fs) ++ '\x7d' :: rest))
      ((variant known).ofJson (.object fs)) := by
  cases fs with
  | nil => exact Or.inr ⟨_, _, rfl, rfl⟩
  | cons field more =>
      obtain ⟨name, v⟩ := field
      have hv : Exact depth v := hfs (name, v) List.mem_cons_self
      have hends := endsNumber_listed (fieldTexts more) endsNumber_brace rest
      rw [fieldTexts, listed, if_pos rfl, List.append_assoc, fieldChars_append,
        quoteChars_append, ← listed_false, variantObject,
        skipBlanks_nonblank _ (by decide)]
      simp only
      rcases variantName_agree known name
        (':' :: (chars v ++ (listed false (fieldTexts more) ++ '\x7d' :: rest)))
        with ⟨alternative, hvalue, htext⟩ | ⟨m, e, hvalue, htext⟩
      · rw [ofJson_object known hvalue]
        simp only [htext, colon_append]
        rcases agrees_unit depth v hv _ hends with
          ⟨_, hunit, hnull⟩ | ⟨m, e, hunit, hnull⟩
        · simp only [hnull, hunit]
          cases more with
          | nil => exact Or.inl ⟨alternative, rfl, rfl⟩
          | cons field more => exact Or.inr ⟨_, _, rfl, rfl⟩
        · simp only [hnull, hunit]
          cases more with
          | nil => exact Or.inr ⟨_, _, rfl, rfl⟩
          | cons field more => exact Or.inr ⟨_, _, rfl, rfl⟩
      · simp only [htext]
        cases more with
        | nil => exact Or.inr ⟨m, e, by simp only [variant, hvalue], rfl⟩
        | cons field more => exact Or.inr ⟨_, _, rfl, rfl⟩

theorem agrees_variant : (variant known).Agrees := by
  intro depth v hv rest hrest
  by_cases hstring : ∃ s, v = .string s
  case pos =>
    obtain ⟨s, rfl⟩ := hstring
    rw [chars, quoteChars_append]
    exact variantName_agree known s rest
  by_cases hobject : ∃ fs, v = .object fs
  case pos =>
    obtain ⟨fs, rfl⟩ := hobject
    cases depth with
    | zero => exact hv.elim
    | succ depth =>
        rw [chars, bracket_eq_listed]
        exact variantObject_agree known hv.2 rest
  refine agree_of_kind hv ?_ (fun c cs hc => ?_) rest
  · cases v <;> first
      | exact ⟨_, rfl⟩
      | exact absurd ⟨_, rfl⟩ hobject
      | exact absurd ⟨_, rfl⟩ hstring
  · rw [variant]
    simp only
    rw [skipBlanks_nonblank _ hc.nonblank]
    split
    case h_1 => exact ⟨_, rfl⟩
    case h_2 heq => exact absurd (hc.string.1 (List.cons.inj heq).1) hstring
    case h_3 heq => exact absurd (hc.object.1 (List.cons.inj heq).1) hobject
    case h_4 => exact ⟨_, rfl⟩

end Variants

end Decoder
end Invocation.Json
