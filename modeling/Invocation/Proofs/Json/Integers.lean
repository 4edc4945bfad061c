import Invocation.Proofs.Json.Documents
import Invocation.Proofs.Json.Locality.Values

/-!
# Which numbers are integers

A number that is read is an integer exactly if it is written as the compact text
of an integer of 64 bits.  So one that has a point or an exponent is none, even
if it has no fraction, and neither is a zero with a sign or a number that takes
more bits.  The reader of a number makes an integer in one place only, where
nothing has followed the digits and none of them was dropped, and there the
digits are those of the number itself, because the first of several is no zero.
-/

namespace Invocation.Json

/-! ## Floating point numbers -/

/-- Whatever is read is a floating point number. -/
def MakesFloats (r : Reader Cause Number) : Prop :=
  ∀ text v rest, r text = .ok (v, rest) → ∃ x, v = .float x

theorem floatNumber_makesFloats (negative : Bool) (significand : Nat)
    (e : Int) : MakesFloats (floatNumber negative significand e) := by
  intro text v rest hread
  unfold floatNumber at hread
  split at hread
  case h_1 x _ =>
    cases hread
    exact ⟨x, rfl⟩
  case h_2 => cases hread

theorem exponentPart_makesFloats (negative : Bool) (significand : Nat)
    (base : Int) : MakesFloats (exponentPart negative significand base) := by
  intro text v rest hread
  obtain ⟨sign, minus, c, middle, rfl, hstep⟩ :=
    exponentPart_eq_exponentFrom negative significand base hread
  rw [hstep, exponentFrom] at hread
  split at hread
  case h_1 => exact floatNumber_makesFloats _ _ _ _ _ _ hread
  case h_2 =>
    split at hread
    case isTrue => cases hread
    case isFalse =>
      cases hread
      exact ⟨_, rfl⟩

theorem floatEnd_makesFloats (negative : Bool) (significand : Nat) (e : Int) :
    MakesFloats (floatEnd negative significand e) := by
  intro text v rest hread
  unfold floatEnd at hread
  split at hread
  case h_1 => exact exponentPart_makesFloats _ _ _ _ _ _ hread
  case h_2 => exact exponentPart_makesFloats _ _ _ _ _ _ hread
  case h_3 => exact floatNumber_makesFloats _ _ _ _ _ _ hread

theorem fractionPart_makesFloats (negative : Bool) (significand : Nat)
    (e : Int) : MakesFloats (fractionPart negative significand e) := by
  intro text v rest hread
  unfold fractionPart at hread
  simp only at hread
  split at hread
  case isTrue => split at hread <;> cases hread
  case isFalse => exact floatEnd_makesFloats _ _ _ _ _ _ hread

theorem not_integer_of_makesFloats {r : Reader Cause Number}
    (h : MakesFloats r) {text rest : List Char} {n : Integer} :
    r text ≠ .ok (.integer n, rest) := by
  intro hread
  obtain ⟨x, hx⟩ := h text _ rest hread
  cases hx

/-! ## Digits -/

/-- The digits that are taken are those that make up the significand. -/
theorem takeDigits_split (significand count : Nat) (text : List Char) :
    ∃ ds, text = ds ++ (takeDigits significand count text).2.2 ∧
      (∀ d ∈ ds, isDigit d = true) ∧
      (takeDigits significand count text).1 =
        Nat.ofDigitChars 10 ds significand := by
  fun_induction takeDigits significand count text with
  | case1 => exact ⟨[], rfl, by simp, rfl⟩
  | case2 significand count c text hdigit m hfits ih =>
      obtain ⟨ds, htext, hds, hvalue⟩ := ih
      refine ⟨c :: ds, congrArg (c :: ·) htext, ?_, ?_⟩
      · simpa [hdigit] using hds
      · rw [hvalue, Nat.ofDigitChars_cons, Nat.mul_comm]
        rfl
  | case3 significand count c text hdigit m hfull =>
      exact ⟨[], rfl, by simp, rfl⟩
  | case4 significand count c text hdigit => exact ⟨[], rfl, by simp, rfl⟩

theorem le_dropDigits (count : Nat) (text : List Char) :
    count ≤ (dropDigits count text).1 := by
  fun_induction dropDigits count text with
  | case1 => exact Nat.le_refl _
  | case2 count c text hdigit ih => omega
  | case3 count c text hdigit => exact Nat.le_refl _

/-- Where no digit was dropped, there is none. -/
theorem dropDigits_eq_zero {text : List Char}
    (h : (dropDigits 0 text).1 = 0) :
    (dropDigits 0 text).2 = text ∧ ∀ c ∈ text.head?, isDigit c = false := by
  cases text with
  | nil => exact ⟨rfl, by simp⟩
  | cons c text =>
      by_cases hc : isDigit c = true
      · rw [dropDigits, if_pos hc] at h
        have hle := le_dropDigits (0 + 1) text
        omega
      · rw [dropDigits, if_neg hc]
        refine ⟨rfl, fun d hd => ?_⟩
        cases hd
        exact Bool.eq_false_iff.2 hc

theorem digitChar_digitValue {c : Char} (hc : isDigit c = true) :
    digitValue c < 10 ∧ (digitValue c).digitChar = c := by
  have hchar : ∀ n < 10, n.digitChar.toNat = n + '0'.toNat := by decide
  simp only [isDigit, decide_eq_true_eq] at hc
  have hlow : '0'.toNat ≤ c.toNat := hc.1
  have hhigh : c.toNat ≤ '9'.toNat := hc.2
  have hnine : '9'.toNat = '0'.toNat + 9 := rfl
  have hsmall : digitValue c < 10 := by
    rw [digitValue]
    omega
  refine ⟨hsmall, Char.toNat_inj.1 ?_⟩
  rw [hchar _ hsmall, digitValue]
  omega

/-- Digits of which the first is no zero are the digits of their number. -/
theorem toDigits_ofDigitChars {c : Char} (hzero : c ≠ '0') (ds : List Char)
    (hds : ∀ d ∈ c :: ds, isDigit d = true) :
    Nat.toDigits 10 (Nat.ofDigitChars 10 (c :: ds) 0) = c :: ds := by
  obtain ⟨hsmall, hfirst⟩ := digitChar_digitValue (hds c List.mem_cons_self)
  have hpos : ∀ ds, 0 < Nat.ofDigitChars 10 (c :: ds) 0 := by
    intro ds
    refine lt_of_lt_of_le (Nat.pos_of_ne_zero fun h => hzero ?_)
      (le_ofDigitChars ds (10 * 0 + digitValue c))
    rw [Nat.mul_zero, Nat.zero_add] at h
    rw [← hfirst, h]
    rfl
  induction ds using List.reverseRecOn with
  | nil =>
      change Nat.toDigits 10 (10 * 0 + digitValue c) = [c]
      rw [Nat.mul_zero, Nat.zero_add, Nat.toDigits_of_lt_base hsmall, hfirst]
  | append_singleton ds d ih =>
      have ih := ih fun e he => hds e (by
        rcases List.mem_cons.1 he with rfl | he <;> simp [*])
      obtain ⟨hlast, hd⟩ := digitChar_digitValue (hds d (by simp))
      have hvalue : Nat.ofDigitChars 10 (c :: (ds ++ [d])) 0 =
          10 * Nat.ofDigitChars 10 (c :: ds) 0 + digitValue d := by
        rw [← List.cons_append, Nat.ofDigitChars_append]
        rfl
      have hmore := hpos ds
      have hdiv : (10 * Nat.ofDigitChars 10 (c :: ds) 0 + digitValue d) / 10 =
          Nat.ofDigitChars 10 (c :: ds) 0 := by omega
      have hmod : (10 * Nat.ofDigitChars 10 (c :: ds) 0 + digitValue d) % 10 =
          digitValue d := by omega
      rw [hvalue, Nat.toDigits_eq_if (by decide), if_neg (by omega), hdiv, hmod,
        ih, hd]
      rfl

/-! ## Numbers -/

/-- An integer is made where nothing follows the digits and none was dropped. -/
theorem numberEnd_integer {negative : Bool} {significand dropped : Nat}
    {text rest : List Char} {n : Integer}
    (hread : numberEnd negative significand dropped text =
      .ok (.integer n, rest)) :
    dropped = 0 ∧ rest = text ∧
      wholeNumber negative significand = .integer n ∧
      ∀ c ∈ text.head?, c ≠ '.' ∧ c ≠ 'e' ∧ c ≠ 'E' := by
  unfold numberEnd at hread
  split at hread
  case h_1 =>
    exact absurd hread
      (not_integer_of_makesFloats (fractionPart_makesFloats _ _ _))
  case h_2 =>
    exact absurd hread
      (not_integer_of_makesFloats (exponentPart_makesFloats _ _ _))
  case h_3 =>
    exact absurd hread
      (not_integer_of_makesFloats (exponentPart_makesFloats _ _ _))
  case h_4 hpoint hlower hupper =>
    split at hread
    case isFalse =>
      exact absurd hread
        (not_integer_of_makesFloats (floatNumber_makesFloats _ _ _))
    case isTrue hdropped =>
      injection hread with hread
      injection hread with hnumber hrest
      refine ⟨hdropped, hrest.symm, hnumber, fun c hc => ?_⟩
      cases text with
      | nil => cases hc
      | cons d text =>
          cases hc
          exact ⟨fun h => hpoint text (by rw [h]),
            fun h => hlower text (by rw [h]), fun h => hupper text (by rw [h])⟩

/-- An integer is read from the digits of its absolute value. -/
theorem unsignedNumber_integer {negative : Bool} {text rest : List Char}
    {n : Integer}
    (hread : unsignedNumber negative text = .ok (.integer n, rest)) :
    ∃ k, text = Nat.toDigits 10 k ++ rest ∧ EndsNumber rest ∧
      wholeNumber negative k = .integer n := by
  cases text with
  | nil => cases hread
  | cons c text =>
      by_cases hc : isDigit c = true
      case neg =>
        rw [unsignedNumber_nondigit negative (Bool.eq_false_iff.2 hc)] at hread
        cases hread
      case pos =>
        by_cases hzero : c = '0'
        · -- No digit follows a zero, so that it is the whole number.
          subst hzero
          have hstep : unsignedNumber negative ('0' :: text) =
              numberEnd negative 0 0 text ∧
              ∀ d ∈ text.head?, isDigit d = false := by
            cases text with
            | nil => exact ⟨rfl, by simp⟩
            | cons d text =>
                by_cases hd : isDigit d = true
                · simp only [unsignedNumber, hd, if_true] at hread
                  cases hread
                · have hd := Bool.eq_false_iff.2 hd
                  refine ⟨unsignedNumber_zero negative hd text, fun e he => ?_⟩
                  cases he
                  exact hd
          rw [hstep.1] at hread
          obtain ⟨-, rfl, hnumber, hplain⟩ := numberEnd_integer hread
          exact ⟨0, rfl, fun d hd => ⟨hstep.2 d hd, hplain d hd⟩, hnumber⟩
        · rw [unsignedNumber_digit negative hc hzero] at hread
          obtain ⟨hdropped, hrest, hnumber, hplain⟩ := numberEnd_integer hread
          obtain ⟨hsame, hnodigit⟩ := dropDigits_eq_zero hdropped
          rw [hsame] at hrest hplain
          obtain ⟨ds, htext, hds, hvalue⟩ := takeDigits_split 0 0 (c :: text)
          rw [← hrest] at htext hplain hnodigit
          refine ⟨_, ?_, fun d hd => ⟨hnodigit d hd, hplain d hd⟩, hnumber⟩
          rw [hvalue]
          -- The first digit is the first character, which is a digit.
          cases ds with
          | nil =>
              rw [List.nil_append] at htext
              have h := hnodigit c (by rw [← htext]; rfl)
              rw [hc] at h
              cases h
          | cons d ds =>
              have hhead : c = d := (List.cons.inj htext).1
              subst hhead
              rw [toDigits_ofDigitChars hzero ds hds]
              exact htext

/-- The sign and the digits of an integer make up its compact text. -/
theorem intChars_of_wholeNumber {negative : Bool} {k : Nat} {n : Integer}
    (h : wholeNumber negative k = .integer n) :
    intChars n.val =
      (if negative then ['-'] else []) ++ Nat.toDigits 10 k := by
  have hval : ∀ {m : Int}, Integer.ofInt? m = some n → n.val = m := by
    intro m hm
    unfold Integer.ofInt? at hm
    split at hm
    case isTrue =>
      cases hm
      rfl
    case isFalse => cases hm
  unfold wholeNumber at h
  cases negative with
  | true =>
      rw [if_pos rfl] at h
      split at h
      case isTrue => cases h
      case isFalse hk =>
        split at h
        case h_2 => cases h
        case h_1 m hm =>
          cases h
          have hneg := hval hm
          rw [intChars, if_pos (by omega), hneg, Int.natAbs_neg,
            Int.natAbs_natCast]
          rfl
  | false =>
      rw [if_neg Bool.false_ne_true] at h
      split at h
      case h_2 => cases h
      case h_1 m hm =>
        cases h
        have hpos := hval hm
        rw [intChars, if_neg (by omega), hpos, Int.natAbs_natCast]
        rfl

/-- A value that is read as an integer has its compact text. -/
theorem valueWith_integer_of_ok {inner : Option (Reader Cause Json)}
    {text rest : List Char} {n : Integer}
    (hread : valueWith inner text = .ok (.number (.integer n), rest)) :
    skipBlanks text = intChars n.val ++ rest ∧ EndsNumber rest := by
  have hnumber : ∀ (negative : Bool) {text : List Char},
      (unsignedNumber negative).map Json.number text =
        .ok (.number (.integer n), rest) →
      (if negative then ['-'] else []) ++ text = intChars n.val ++ rest ∧
        EndsNumber rest := by
    intro negative text hread
    obtain ⟨m, hm, heq⟩ := Reader.of_map_ok hread
    cases heq
    obtain ⟨k, rfl, hrest, hwhole⟩ := unsignedNumber_integer hm
    rw [intChars_of_wholeNumber hwhole, List.append_assoc]
    exact ⟨rfl, hrest⟩
  rw [valueWith] at hread
  split at hread
  case h_1 => cases hread
  case h_2 => cases eq_of_word_ok hread
  case h_3 => cases eq_of_word_ok hread
  case h_4 => cases eq_of_word_ok hread
  case h_5 =>
    obtain ⟨s, -, heq⟩ := Reader.of_map_ok hread
    cases heq
  case h_6 rest' htext =>
    rw [htext]
    exact hnumber true hread
  case h_7 =>
    cases inner with
    | none => cases hread
    | some item =>
        obtain ⟨vs, -, heq⟩ := Reader.of_map_ok hread
        cases heq
  case h_8 =>
    cases inner with
    | none => cases hread
    | some item =>
        obtain ⟨fs, -, heq⟩ := Reader.of_map_ok hread
        cases heq
  case h_9 c rest' _ _ _ _ _ _ _ htext =>
    rw [htext]
    split at hread
    case isTrue => exact hnumber false hread
    case isFalse => cases hread

/-- Wherever a value is read, it is an integer exactly if the compact text of
that integer stands there and ends there. -/
theorem value_integer_iff {depth : Nat} {text rest : List Char} {n : Integer} :
    value depth text = .ok (.number (.integer n), rest) ↔
      skipBlanks text = intChars n.val ++ rest ∧ EndsNumber rest := by
  constructor
  · intro hread
    cases depth with
    | zero => exact valueWith_integer_of_ok hread
    | succ depth => exact valueWith_integer_of_ok hread
  · rintro ⟨htext, hrest⟩
    rw [value_skipBlanks, htext]
    cases depth with
    | zero => exact valueWith_integer none n hrest
    | succ depth => exact valueWith_integer _ n hrest

end Invocation.Json
