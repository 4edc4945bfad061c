import Invocation.Proofs.Json.Locality

/-!
# How far a reader of numbers looks

A number ends where its text ends or at a character that does not belong to it,
which is the one character that its reader looks at without taking it.  The
digits come first; what may follow them is read by one function after the other,
each of which stops as the one it calls last does.
-/

namespace Invocation.Json

/-! ## Digits -/

theorem takeDigits_leads (significand count : Nat) (text : List Char) :
    Leads (takeDigits significand count) text
      (fun rest => ((takeDigits significand count text).1,
        (takeDigits significand count text).2.1, rest))
      (takeDigits significand count text).2.2 := by
  fun_induction takeDigits significand count text with
  | case1 => exact Leads.nil
  | case2 significand count c text hdigit m hfits ih =>
      exact ih.step fun tail => by simp [takeDigits, hdigit, m, hfits]
  | case3 significand count c text hdigit m hfull =>
      exact Leads.stop fun more => by simp [takeDigits, hdigit, m, hfull]
  | case4 significand count c text hdigit =>
      exact Leads.stop fun more => by simp [takeDigits, hdigit]

theorem dropDigits_leads (count : Nat) (text : List Char) :
    Leads (dropDigits count) text
      (fun rest => ((dropDigits count text).1, rest))
      (dropDigits count text).2 := by
  fun_induction dropDigits count text with
  | case1 => exact Leads.nil
  | case2 count c text hdigit ih =>
      exact ih.step fun tail => by simp [dropDigits, hdigit]
  | case3 count c text hdigit =>
      exact Leads.stop fun more => by simp [dropDigits, hdigit]

theorem exponentDigits_leads (n : Nat) (text : List Char) :
    Leads (exponentDigits n) text
      (fun rest => ((exponentDigits n text).1, rest))
      (exponentDigits n text).2 := by
  fun_induction exponentDigits n text with
  | case1 => exact Leads.nil
  | case2 n c text hdigit m hfits ih =>
      exact ih.step fun tail => by simp [exponentDigits, hdigit, m, hfits]
  | case3 n c text hdigit m hfull =>
      -- The digit that is too much is taken, and the rest is left.
      refine Leads.step (fun tail => ?_) (Leads.stop fun _ => rfl)
      simp [exponentDigits, hdigit, m, hfull]
  | case4 n c text hdigit =>
      exact Leads.stop fun more => by simp [exponentDigits, hdigit]

/-- A floating point number is made without a look at what follows it. -/
theorem floatNumber_local (negative : Bool) (significand : Nat) (e : Int) :
    Local (floatNumber negative significand e) := by
  intro text v rest hread
  unfold floatNumber at hread
  split at hread
  case h_1 x hx =>
    cases hread
    refine Leads.stop fun more => ?_
    rw [floatNumber, hx]
  case h_2 => cases hread

/-- Reads the digits of an exponent after its sign; `c` is the first of them. -/
def exponentFrom (negative minus : Bool) (significand : Nat) (base : Int)
    (c : Char) : Reader Cause Number := fun text =>
  match exponentDigits (digitValue c) text with
  | (some n, rest) =>
    floatNumber negative significand (if minus then base - n else base + n) rest
  | (none, rest) =>
    if significand ≠ 0 ∧ !minus then .error (.here .numberOutOfRange rest)
    else .ok (.float (.zero negative), (dropDigits 0 rest).2)

section Exponent

variable (negative : Bool) (significand : Nat) (base : Int)

theorem exponentPart_plus {c : Char} (hc : isDigit c = true)
    (tail : List Char) :
    exponentPart negative significand base ('+' :: c :: tail) =
      exponentFrom negative false significand base c tail := by
  simp only [exponentPart, hc, if_true]
  rfl

theorem exponentPart_minus {c : Char} (hc : isDigit c = true)
    (tail : List Char) :
    exponentPart negative significand base ('-' :: c :: tail) =
      exponentFrom negative true significand base c tail := by
  simp only [exponentPart, hc, if_true]
  rfl

theorem exponentPart_digit {c : Char} (hc : isDigit c = true)
    (tail : List Char) :
    exponentPart negative significand base (c :: tail) =
      exponentFrom negative false significand base c tail := by
  have hplus : c ≠ '+' := by rintro rfl; exact absurd hc (by decide)
  have hminus : c ≠ '-' := by rintro rfl; exact absurd hc (by decide)
  unfold exponentPart
  split
  case h_1 minus text hsign =>
    split at hsign
    case h_1 hhead => cases hhead; exact absurd rfl hplus
    case h_2 hhead => cases hhead; exact absurd rfl hminus
    case h_3 =>
      cases hsign
      simp only [hc, if_true]
      rfl

theorem exponentFrom_local (minus : Bool) (c : Char) :
    Local (exponentFrom negative minus significand base c) := by
  intro text v rest hread
  have hdigits := exponentDigits_leads (digitValue c) text
  unfold exponentFrom at hread
  split at hread
  case h_1 n middle hn =>
    rw [hn] at hdigits
    have hfloat := floatNumber_local _ _ _ middle v rest hread
    have hhead : Leads (exponentFrom negative minus significand base c) text
        (floatNumber negative significand
          (if minus then base - n else base + n)) middle := by
      refine ⟨hdigits.suffix, fun hmiddle more => ?_⟩
      rw [exponentFrom, hdigits.extend hmiddle more]
    exact hhead.trans hfloat
  case h_2 middle hn =>
    rw [hn] at hdigits
    split at hread
    case isTrue => cases hread
    case isFalse hsmall =>
      cases hread
      have hdrop := dropDigits_leads 0 middle
      refine ⟨hdrop.suffix.trans hdigits.suffix, fun hrest more => ?_⟩
      have hmiddle := ne_nil_of_suffix hdrop.suffix hrest
      rw [exponentFrom, hdigits.extend hmiddle more]
      simp only
      rw [if_neg hsmall, hdrop.extend hrest more]

/-- An exponent that is read has its sign, if it has one, and then its first
digit. -/
theorem exponentPart_eq_exponentFrom {text rest : List Char} {v : Number}
    (hread : exponentPart negative significand base text = .ok (v, rest)) :
    ∃ sign minus c middle, text = sign ++ [c] ++ middle ∧
      ∀ tail, exponentPart negative significand base (sign ++ [c] ++ tail) =
        exponentFrom negative minus significand base c tail := by
  -- Each way to write the sign is a step to the first digit.
  unfold exponentPart at hread
  split at hread
  case h_1 minus digits hsign =>
    cases digits with
    | nil => cases hread
    | cons c middle =>
        simp only at hread
        by_cases hc : isDigit c = true
        · split at hsign
          case h_1 =>
            cases hsign
            exact ⟨['+'], false, c, middle, rfl,
              exponentPart_plus _ _ _ hc⟩
          case h_2 =>
            cases hsign
            exact ⟨['-'], true, c, middle, rfl,
              exponentPart_minus _ _ _ hc⟩
          case h_3 =>
            cases hsign
            exact ⟨[], false, c, middle, rfl,
              exponentPart_digit _ _ _ hc⟩
        · rw [if_neg hc] at hread
          cases hread

theorem exponentPart_local :
    Local (exponentPart negative significand base) := by
  intro text v rest hread
  obtain ⟨sign, minus, c, middle, rfl, hstep⟩ :=
    exponentPart_eq_exponentFrom negative significand base hread
  rw [hstep] at hread
  exact (Leads.over _ hstep middle).trans
    (exponentFrom_local negative significand base minus c middle v rest hread)

end Exponent

/-- What may follow the digits of a floating point number. -/
theorem floatEnd_local (negative : Bool) (significand : Nat) (e : Int) :
    Local (floatEnd negative significand e) := by
  have hfloat := floatNumber_local negative significand e
  have hexponent := exponentPart_local negative significand e
  intro text v rest hread
  cases text with
  | nil => exact hfloat.step_nil hread
  | cons c text =>
      by_cases hlower : c = 'e'
      · subst hlower
        exact hexponent.step_over (fun _ => rfl) hread
      by_cases hupper : c = 'E'
      · subst hupper
        exact hexponent.step_over (fun _ => rfl) hread
      refine hfloat.step_onto (fun tail => ?_) hread
      rw [floatEnd]
      · exact fun _ h => hlower (List.cons.inj h).1
      · exact fun _ h => hupper (List.cons.inj h).1

theorem fractionPart_local (negative : Bool) (significand : Nat) (e : Int) :
    Local (fractionPart negative significand e) := by
  intro text v rest hread
  have htake := takeDigits_leads significand 0 text
  have hdrop := dropDigits_leads 0 (takeDigits significand 0 text).2.2
  unfold fractionPart at hread
  simp only at hread
  split at hread
  case isTrue => split at hread <;> cases hread
  case isFalse hdigits =>
    have hend := floatEnd_local _ _ _ _ v rest hread
    refine ⟨hend.suffix.trans (hdrop.suffix.trans htake.suffix),
      fun hrest more => ?_⟩
    have htail := ne_nil_of_suffix hend.suffix hrest
    have hmiddle := ne_nil_of_suffix hdrop.suffix htail
    rw [fractionPart, htake.extend hmiddle more]
    simp only [hdrop.extend htail more]
    rw [if_neg hdigits, hend.extend hrest more]

/-- A number without a point and an exponent has ended where its digits have. -/
theorem numberEnd_plain (negative : Bool) (significand dropped : Nat)
    {text : List Char}
    (hplain : ∀ c ∈ text.head?, c ≠ '.' ∧ c ≠ 'e' ∧ c ≠ 'E') :
    numberEnd negative significand dropped text =
      if dropped = 0 then .ok (wholeNumber negative significand, text)
      else floatNumber negative significand dropped text := by
  have hhead : ∀ c tail, text = c :: tail → c ≠ '.' ∧ c ≠ 'e' ∧ c ≠ 'E' := by
    rintro c tail rfl
    exact hplain c rfl
  rw [numberEnd]
  · exact fun _ h => (hhead _ _ h).1 rfl
  · exact fun _ h => (hhead _ _ h).2.1 rfl
  · exact fun _ h => (hhead _ _ h).2.2 rfl

theorem numberEnd_local (negative : Bool) (significand dropped : Nat) :
    Local (numberEnd negative significand dropped) := by
  have hexponent := exponentPart_local negative significand dropped
  have hfloat := floatNumber_local negative significand dropped
  have hplain : Local fun text =>
      if dropped = 0 then .ok (wholeNumber negative significand, text)
      else floatNumber negative significand dropped text := by
    by_cases hdropped : dropped = 0
    · intro text v rest hread
      simp only [if_pos hdropped] at hread ⊢
      cases hread
      exact Leads.stop fun _ => rfl
    · simpa only [if_neg hdropped] using hfloat
  intro text v rest hread
  cases text with
  | nil =>
      rw [numberEnd_plain negative significand dropped (by simp)] at hread
      exact hplain.step_nil hread
  | cons c text =>
      by_cases hpoint : c = '.'
      · subst hpoint
        exact (fractionPart_local negative significand dropped).step_over
          (fun _ => rfl) hread
      by_cases hlower : c = 'e'
      · subst hlower
        exact hexponent.step_over (fun _ => rfl) hread
      by_cases hupper : c = 'E'
      · subst hupper
        exact hexponent.step_over (fun _ => rfl) hread
      refine hplain.step_onto (fun tail => ?_) hread
      exact numberEnd_plain negative significand dropped
        (by simpa using ⟨hpoint, hlower, hupper⟩)

theorem unsignedNumber_zero (negative : Bool) {d : Char}
    (hd : isDigit d = false) (tail : List Char) :
    unsignedNumber negative ('0' :: d :: tail) =
      numberEnd negative 0 0 (d :: tail) := by
  simp only [unsignedNumber, hd, Bool.false_eq_true, if_false]

theorem unsignedNumber_digit (negative : Bool) {c : Char}
    (hc : isDigit c = true) (hzero : c ≠ '0') (tail : List Char) :
    unsignedNumber negative (c :: tail) =
      numberEnd negative (takeDigits 0 0 (c :: tail)).1
        (dropDigits 0 (takeDigits 0 0 (c :: tail)).2.2).1
        (dropDigits 0 (takeDigits 0 0 (c :: tail)).2.2).2 := by
  rw [unsignedNumber]
  · rw [if_pos hc]
  · exact hzero

theorem unsignedNumber_nondigit (negative : Bool) {c : Char}
    (hc : isDigit c = false) (tail : List Char) :
    unsignedNumber negative (c :: tail) =
      .error ⟨.invalidNumber, c :: tail, 1⟩ := by
  rw [unsignedNumber]
  · rw [if_neg (by simp [hc])]
  · rintro rfl
    exact absurd hc (by decide)

/-- A number is read up to a character that does not belong to it. -/
theorem unsignedNumber_local (negative : Bool) :
    Local (unsignedNumber negative) := by
  intro text v rest hread
  cases text with
  | nil => cases hread
  | cons c text =>
      by_cases hc : isDigit c = true
      case neg =>
        rw [unsignedNumber_nondigit negative (Bool.eq_false_iff.2 hc)] at hread
        cases hread
      case pos =>
        by_cases hzero : c = '0'
        · -- A zero is the only digit before a point or an exponent.
          subst hzero
          cases text with
          | nil => exact (numberEnd_local negative 0 0).step_nil hread
          | cons d text =>
              by_cases hd : isDigit d = true
              · simp only [unsignedNumber, hd, if_true] at hread
                cases hread
              have hstep := unsignedNumber_zero negative
                (Bool.eq_false_iff.2 hd)
              rw [hstep] at hread
              have hend := numberEnd_local negative 0 0 _ v rest hread
              refine ⟨hend.suffix.trans (List.suffix_cons _ _),
                fun hrest more => ?_⟩
              rw [List.cons_append, List.cons_append, hstep]
              exact hend.extend hrest more
        · have htake := takeDigits_leads 0 0 (c :: text)
          have hdrop := dropDigits_leads 0 (takeDigits 0 0 (c :: text)).2.2
          have hstep := unsignedNumber_digit negative hc hzero
          rw [hstep] at hread
          have hend := numberEnd_local negative _ _ _ v rest hread
          refine ⟨hend.suffix.trans (hdrop.suffix.trans htake.suffix),
            fun hrest more => ?_⟩
          have htail := ne_nil_of_suffix hend.suffix hrest
          have hmiddle := ne_nil_of_suffix hdrop.suffix htail
          rw [List.cons_append, hstep, ← List.cons_append,
            htake.extend hmiddle more]
          simp only [hdrop.extend htail more]
          exact hend.extend hrest more

end Invocation.Json
