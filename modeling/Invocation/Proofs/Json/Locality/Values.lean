import Invocation.Proofs.Json.Documents
import Invocation.Proofs.Json.Locality.Numbers

/-!
# How far a reader of values looks

Arrays and objects are followed item by item up to their closing bracket.  The
clock of a loop is part of the text, so that a longer text has a longer clock;
that changes nothing.
-/

namespace Invocation.Json

/-! ## Arrays -/

/-- The next item of an array stands after blanks, and after a comma if it is
not the first; at the end stands the bracket. -/
theorem nextItem_cases {first again : Bool} {text rest : List Char}
    (hread : nextItem first text = .ok (again, rest)) :
    (again = false ∧ skipBlanks text = ']' :: rest) ∨
      ∃ c tail, again = true ∧ rest = c :: tail ∧ c ≠ ']' ∧
        ((first = true ∧ skipBlanks text = rest) ∨
          first = false ∧ ∃ middle, skipBlanks text = ',' :: middle ∧
            skipBlanks middle = rest) := by
  unfold nextItem at hread
  split at hread
  case h_1 => cases hread
  case h_2 heq =>
    cases hread
    exact Or.inl ⟨rfl, heq⟩
  case h_3 middle heq =>
    cases first with
    | true =>
        cases hread
        exact Or.inr ⟨',', middle, rfl, rfl, by decide, Or.inl ⟨rfl, heq⟩⟩
    | false =>
        simp only [Bool.false_eq_true, if_false] at hread
        split at hread
        case h_1 => cases hread
        case h_2 => cases hread
        case h_3 hnil hbracket =>
          cases hread
          cases hrest : skipBlanks middle with
          | nil => exact absurd hrest hnil
          | cons c tail =>
              refine Or.inr ⟨c, tail, rfl, rfl, ?_,
                Or.inr ⟨rfl, middle, heq, hrest⟩⟩
              rintro rfl
              exact hbracket tail hrest
  case h_4 hnil hbracket hcomma =>
    cases first with
    | true =>
        cases hread
        cases hrest : skipBlanks text with
        | nil => exact absurd hrest hnil
        | cons c tail =>
            refine Or.inr ⟨c, tail, rfl, rfl, ?_, Or.inl ⟨rfl, rfl⟩⟩
            rintro rfl
            exact hbracket tail hrest
    | false =>
        simp only [Bool.false_eq_true, if_false] at hread
        cases hread

theorem nextItem_of_head {text tail : List Char} {c : Char}
    (htext : skipBlanks text = c :: tail) (hbracket : c ≠ ']') :
    nextItem true text = .ok (true, c :: tail) := by
  rw [nextItem, htext]
  split
  case h_1 heq => cases heq
  case h_2 heq => cases heq; exact absurd rfl hbracket
  case h_3 heq => cases heq; rfl
  case h_4 => rfl

theorem nextItem_of_comma {text middle tail : List Char} {c : Char}
    (htext : skipBlanks text = ',' :: middle)
    (hmiddle : skipBlanks middle = c :: tail) (hbracket : c ≠ ']') :
    nextItem false text = .ok (true, c :: tail) := by
  rw [nextItem, htext]
  simp only [Bool.false_eq_true, if_false, hmiddle]
  split
  case h_1 heq => cases heq
  case h_2 heq => cases heq; exact absurd rfl hbracket
  case h_3 => rfl

/-- An item that comes next comes next in every longer text. -/
theorem nextItem_leads {first : Bool} {text rest : List Char}
    (hread : nextItem first text = .ok (true, rest)) :
    Leads (nextItem first) text (fun rest => .ok (true, rest)) rest := by
  rcases nextItem_cases hread with
    ⟨hagain, -⟩ | ⟨c, tail, -, rfl, hbracket, ⟨rfl, htext⟩ |
      ⟨rfl, middle, htext, hmiddle⟩⟩
  · cases hagain
  · refine ⟨htext ▸ skipBlanks_suffix text, fun _ more => ?_⟩
    exact nextItem_of_head (skipBlanks_extend htext more) hbracket
  · have hsuffix : middle <:+ text :=
      (List.suffix_cons ',' middle).trans (htext ▸ skipBlanks_suffix text)
    refine ⟨(hmiddle ▸ skipBlanks_suffix middle).trans hsuffix,
      fun _ more => ?_⟩
    exact nextItem_of_comma (skipBlanks_extend htext more)
      (skipBlanks_extend hmiddle more) hbracket

/-- The end of an array is seen at its bracket. -/
theorem nextItem_leads_end {first : Bool} {text rest : List Char}
    (hread : nextItem first text = .ok (false, rest)) :
    Leads (nextItem first) text (fun rest => .ok (false, rest.tail))
      (']' :: rest) := by
  rcases nextItem_cases hread with ⟨-, htext⟩ | ⟨c, tail, hagain, -⟩
  · refine ⟨htext ▸ skipBlanks_suffix text, fun _ more => ?_⟩
    rw [nextItem, skipBlanks_extend htext more]
    rfl
  · cases hagain

section Items

variable {ε α : Type} (lift : Cause → ε) {item : Reader ε α}

/-- The items of an array are read alike as long as the clock is the same. -/
theorem itemsFrom_closed (hitem : Local item) (clock : List Char)
    (first : Bool) (done : List α) :
    Closed (itemsFrom lift item clock first done) ']' := by
  induction clock generalizing first done with
  | nil => intro text v rest hread; cases hread
  | cons tick clock ih =>
      intro text vs rest hread
      rcases itemsFrom_ok_iff.1 hread with
        ⟨hnext, rfl⟩ | ⟨start, v, tail, hnext, hv, hloop⟩
      · have hlead := nextItem_leads_end hnext
        refine ⟨hlead.suffix, fun hrest more => ?_⟩
        exact itemsFrom_ok_iff.2 (Or.inl ⟨hlead.extend hrest more, rfl⟩)
      · -- The loop goes on, so that neither the next item nor its text has
        -- come to the end.
        have hlead := nextItem_leads hnext
        have hvalue := hitem start v tail hv
        have hgoes := ih false (v :: done) tail vs rest hloop
        refine ⟨hgoes.suffix.trans (hvalue.suffix.trans hlead.suffix),
          fun hrest more => ?_⟩
        have htail := ne_nil_of_suffix hgoes.suffix hrest
        have hstart := ne_nil_of_suffix hvalue.suffix htail
        exact itemsFrom_ok_iff.2 (Or.inr ⟨_, v, _, hlead.extend hstart more,
          hvalue.extend htail more, hgoes.extend hrest more⟩)

/-- A longer clock changes nothing. -/
theorem itemsFrom_clock (clock ticks : List Char) {first : Bool}
    {done vs : List α} {text rest : List Char}
    (hread : itemsFrom lift item clock first done text = .ok (vs, rest)) :
    itemsFrom lift item (clock ++ ticks) first done text = .ok (vs, rest) := by
  induction clock generalizing first done text with
  | nil => cases hread
  | cons tick clock ih =>
      refine itemsFrom_ok_iff.2 ?_
      rcases itemsFrom_ok_iff.1 hread with
        hend | ⟨start, v, tail, hnext, hv, hloop⟩
      · exact Or.inl hend
      · exact Or.inr ⟨start, v, tail, hnext, hv, ih hloop⟩

theorem items_closed (hitem : Local item) : Closed (items lift item) ']' := by
  intro text vs rest hread
  have hlead := itemsFrom_closed lift hitem text true [] text vs rest hread
  refine ⟨hlead.suffix, fun hrest more => ?_⟩
  exact itemsFrom_clock lift text more (hlead.extend hrest more)

end Items

/-! ## Objects -/

/-- The next field of an object starts with its quoted name, after blanks, and
after a comma if it is not the first; at the end stands the brace. -/
theorem nextField_cases {first : Bool} {text rest : List Char}
    {name : Option String} (hread : nextField first text = .ok (name, rest)) :
    (name = none ∧ skipBlanks text = '\x7d' :: rest) ∨
      ∃ quoted, fieldName quoted = .ok (name, rest) ∧
        ((first = true ∧ skipBlanks text = '"' :: quoted) ∨
          first = false ∧ ∃ middle, skipBlanks text = ',' :: middle ∧
            skipBlanks middle = '"' :: quoted) := by
  unfold nextField at hread
  split at hread
  case h_1 => cases hread
  case h_2 heq =>
    cases hread
    exact Or.inl ⟨rfl, heq⟩
  case h_3 c middle hbrace heq =>
    cases first with
    | true =>
        rw [if_pos rfl] at hread
        split at hread
        case isTrue hquote =>
          rw [hquote] at heq
          exact Or.inr ⟨middle, hread, Or.inl ⟨rfl, heq⟩⟩
        case isFalse => cases hread
    | false =>
        rw [if_neg (by decide)] at hread
        split at hread
        case isTrue hcomma =>
          rw [hcomma] at heq
          split at hread
          case h_1 => cases hread
          case h_2 quoted hquoted =>
            exact Or.inr ⟨quoted, hread, Or.inr ⟨rfl, middle, heq, hquoted⟩⟩
          case h_3 => cases hread
          case h_4 => cases hread
        case isFalse => cases hread

theorem nextField_of_quote {text quoted : List Char}
    (htext : skipBlanks text = '"' :: quoted) :
    nextField true text = fieldName quoted := by
  rw [nextField, htext]
  rfl

theorem nextField_of_comma {text middle quoted : List Char}
    (htext : skipBlanks text = ',' :: middle)
    (hmiddle : skipBlanks middle = '"' :: quoted) :
    nextField false text = fieldName quoted := by
  rw [nextField, htext]
  simp [hmiddle]

theorem fieldName_local : Local fieldName := by
  have hname : fieldName = Reader.map some stringBody := by
    funext text
    rw [fieldName, Reader.map]
    cases stringBody text <;> rfl
  rw [hname]
  exact stringBody_local.map some

/-- A field that comes next comes next in every longer text. -/
theorem nextField_leads {first : Bool} {text rest : List Char} {name : String}
    (hread : nextField first text = .ok (some name, rest)) :
    Leads (nextField first) text (fun rest => .ok (some name, rest)) rest := by
  rcases nextField_cases hread with
    ⟨hnone, -⟩ | ⟨quoted, hquoted, ⟨rfl, htext⟩ | ⟨rfl, middle, htext, hmiddle⟩⟩
  · cases hnone
  · have hname := fieldName_local quoted _ rest hquoted
    have hsuffix : quoted <:+ text :=
      (List.suffix_cons '"' quoted).trans (htext ▸ skipBlanks_suffix text)
    refine ⟨hname.suffix.trans hsuffix, fun hrest more => ?_⟩
    rw [nextField_of_quote (skipBlanks_extend htext more)]
    exact hname.extend hrest more
  · have hname := fieldName_local quoted _ rest hquoted
    have hsuffix : middle <:+ text :=
      (List.suffix_cons ',' middle).trans (htext ▸ skipBlanks_suffix text)
    have hsuffix' : quoted <:+ middle :=
      (List.suffix_cons '"' quoted).trans (hmiddle ▸ skipBlanks_suffix middle)
    refine ⟨hname.suffix.trans (hsuffix'.trans hsuffix), fun hrest more => ?_⟩
    rw [nextField_of_comma (skipBlanks_extend htext more)
      (skipBlanks_extend hmiddle more)]
    exact hname.extend hrest more

/-- The end of an object is seen at its brace. -/
theorem nextField_leads_end {first : Bool} {text rest : List Char}
    (hread : nextField first text = .ok (none, rest)) :
    Leads (nextField first) text (fun rest => .ok (none, rest.tail))
      ('\x7d' :: rest) := by
  rcases nextField_cases hread with ⟨-, htext⟩ | ⟨quoted, hquoted, -⟩
  · refine ⟨htext ▸ skipBlanks_suffix text, fun _ more => ?_⟩
    rw [nextField, skipBlanks_extend htext more]
    rfl
  · unfold fieldName at hquoted
    split at hquoted <;> cases hquoted

theorem colon_leads {text rest : List Char} (hread : colon text = .ok rest) :
    Leads colon text .ok rest := by
  unfold colon at hread
  split at hread
  case h_1 => cases hread
  case h_2 htext =>
    cases hread
    refine ⟨(List.suffix_cons ':' rest).trans (htext ▸ skipBlanks_suffix text),
      fun _ more => ?_⟩
    rw [colon, skipBlanks_extend htext more]
    rfl
  case h_3 => cases hread

section Fields

variable {ε α σ : Type} (lift : Cause → ε) {item : Reader ε α}
  (add : σ → String → α → σ)

/-- The fields of an object are read alike as long as the clock is the same. -/
theorem fieldsFrom_closed (hitem : Local item) (clock : List Char)
    (first : Bool) (done : σ) :
    Closed (fieldsFrom lift item add clock first done) '\x7d' := by
  induction clock generalizing first done with
  | nil => intro text v rest hread; cases hread
  | cons tick clock ih =>
      intro text s rest hread
      rcases fieldsFrom_ok_iff.1 hread with ⟨hnext, rfl⟩ |
        ⟨name, middle, start, v, tail, hnext, hcolon, hv, hloop⟩
      · have hlead := nextField_leads_end hnext
        refine ⟨hlead.suffix, fun hrest more => ?_⟩
        exact fieldsFrom_ok_iff.2 (Or.inl ⟨hlead.extend hrest more, rfl⟩)
      · -- Of the four points that are passed here, the last is not the end of
        -- the text, so that none of them is.
        have hlead := nextField_leads hnext
        have hpast := colon_leads hcolon
        have hvalue := hitem start v tail hv
        have hgoes := ih false (add done name v) tail s rest hloop
        refine ⟨hgoes.suffix.trans (hvalue.suffix.trans
          (hpast.suffix.trans hlead.suffix)), fun hrest more => ?_⟩
        have htail := ne_nil_of_suffix hgoes.suffix hrest
        have hstart := ne_nil_of_suffix hvalue.suffix htail
        have hmiddle := ne_nil_of_suffix hpast.suffix hstart
        exact fieldsFrom_ok_iff.2 (Or.inr ⟨name, _, _, v, _,
          hlead.extend hmiddle more, hpast.extend hstart more,
          hvalue.extend htail more, hgoes.extend hrest more⟩)

theorem fieldsFrom_clock (clock ticks : List Char) {first : Bool}
    {done s : σ} {text rest : List Char}
    (hread : fieldsFrom lift item add clock first done text = .ok (s, rest)) :
    fieldsFrom lift item add (clock ++ ticks) first done text =
      .ok (s, rest) := by
  induction clock generalizing first done text with
  | nil => cases hread
  | cons tick clock ih =>
      refine fieldsFrom_ok_iff.2 ?_
      rcases fieldsFrom_ok_iff.1 hread with hend |
        ⟨name, middle, start, v, tail, hnext, hcolon, hv, hloop⟩
      · exact Or.inl hend
      · exact Or.inr ⟨name, middle, start, v, tail, hnext, hcolon, hv,
          ih hloop⟩

theorem fields_closed (hitem : Local item) (start : σ) :
    Closed (fields lift item add start) '\x7d' := by
  intro text s rest hread
  have hlead := fieldsFrom_closed lift add hitem text true start text s rest
    hread
  refine ⟨hlead.suffix, fun hrest more => ?_⟩
  exact fieldsFrom_clock lift add text more (hlead.extend hrest more)

end Fields

/-! ## Values -/

theorem word_local {α : Type} (letters : List Char) (v : α) :
    Local fun text => (word letters text).map (v, ·) := by
  intro text w rest hread
  cases hword : word letters text with
  | error e =>
      simp only [hword] at hread
      cases hread
  | ok tail =>
      simp only [hword] at hread
      cases hread
      exact (word_leads hword).map fun result => result.map (v, ·)

theorem valueWith_skipBlanks (inner : Option (Reader Cause Json))
    (text : List Char) :
    valueWith inner text = valueWith inner (skipBlanks text) := by
  rw [valueWith, valueWith, skipBlanks_skipBlanks]

theorem value_skipBlanks (depth : Nat) (text : List Char) :
    value depth text = value depth (skipBlanks text) := by
  cases depth with
  | zero => exact valueWith_skipBlanks none text
  | succ depth => exact valueWith_skipBlanks _ text

/-- A value is read alike in every longer text if the values inside it are. -/
theorem valueWith_local {inner : Option (Reader Cause Json)}
    (hinner : ∀ item ∈ inner, Local item) : Local (valueWith inner) := by
  intro text v rest hread
  rw [valueWith_skipBlanks] at hread
  refine Leads.after_blanks (valueWith_skipBlanks inner) ?_
  cases htext : skipBlanks text with
  | nil =>
      rw [htext] at hread
      cases hread
  | cons c tail =>
      rw [htext] at hread
      have hfirst := hread
      rw [valueWith, skipBlanks_nonblank tail (isBlank_skipBlanks htext)]
        at hfirst
      split at hfirst
      case h_1 heq => cases heq
      case h_2 heq =>
        cases heq
        exact (word_local _ _).step_over (fun _ => rfl) hread
      case h_3 heq =>
        cases heq
        exact (word_local _ _).step_over (fun _ => rfl) hread
      case h_4 heq =>
        cases heq
        exact (word_local _ _).step_over (fun _ => rfl) hread
      case h_5 heq =>
        cases heq
        exact (stringBody_local.map _).step_over (fun _ => rfl) hread
      case h_6 heq =>
        cases heq
        exact ((unsignedNumber_local true).map _).step_over (fun _ => rfl) hread
      case h_7 heq =>
        cases heq
        cases inner with
        | none => cases hfirst
        | some item =>
            have hitems := (items_closed id (hinner item rfl)).local
            exact (hitems.map _).step_over (fun _ => rfl) hread
      case h_8 heq =>
        cases heq
        cases inner with
        | none => cases hfirst
        | some item =>
            have hfields :=
              (fields_closed id Fields.insert (hinner item rfl) []).local
            exact (hfields.map _).step_over (fun _ => rfl) hread
      case h_9 heq =>
        cases heq
        split at hfirst
        case isTrue hdigit =>
          exact ((unsignedNumber_local false).map _).step_onto
            (valueWith_digit inner hdigit) hread
        case isFalse => cases hfirst

theorem value_local (depth : Nat) : Local (value depth) := by
  induction depth with
  | zero =>
      refine valueWith_local fun item hitem => ?_
      cases hitem
  | succ depth ih =>
      refine valueWith_local fun item hitem => ?_
      cases hitem
      exact ih

/-- An object ends at its closing brace, whatever follows. -/
theorem value_brace_closed (depth : Nat) :
    Closed (fun text => value depth ('\x7b' :: text)) '\x7d' := by
  intro text v rest hread
  cases depth with
  | zero => cases hread
  | succ depth =>
      have hfields := fields_closed id Fields.insert (value_local depth) []
      change Reader.map Json.object (fields id (value depth) Fields.insert [])
        text = _ at hread
      unfold Reader.map at hread
      split at hread
      case h_1 fs rest' hfs =>
        cases hread
        have hlead := hfields text fs rest hfs
        refine ⟨hlead.suffix, fun hrest more => ?_⟩
        change Reader.map Json.object
          (fields id (value depth) Fields.insert []) (text ++ more) = _
        rw [Reader.map, hlead.extend hrest more]
      case h_2 => cases hread

end Invocation.Json
