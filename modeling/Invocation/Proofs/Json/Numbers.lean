import Mathlib.Tactic
import Invocation.Json.Printer
import Invocation.Json.Reader

/-!
# Integers read back

The digits of an integer of 64 bits are read back as that integer, provided
that nothing follows by which the number would go on.  The significand never
overflows on the way, because it only grows and ends as the integer itself.
-/

namespace Invocation.Json

/-- What follows a number and cannot be taken for a part of it. -/
def EndsNumber (rest : List Char) : Prop :=
  ∀ c ∈ rest.head?, isDigit c = false ∧ c ≠ '.' ∧ c ≠ 'e' ∧ c ≠ 'E'

theorem endsNumber_nil : EndsNumber [] := by
  intro c hc
  simp at hc

theorem endsNumber_cons {c : Char} (rest : List Char)
    (h : isDigit c = false ∧ c ≠ '.' ∧ c ≠ 'e' ∧ c ≠ 'E') :
    EndsNumber (c :: rest) := by
  intro d hd
  simp only [List.head?_cons, Option.mem_def, Option.some.injEq] at hd
  rw [← hd]
  exact h

/-! ## Digits -/

theorem isDigit_of_mem_toDigits {n : Nat} {c : Char}
    (h : c ∈ Nat.toDigits 10 n) : isDigit c = true := by
  have hdigit := Nat.isDigit_of_mem_toDigits (by decide) (by decide) h
  simp only [Char.isDigit, Bool.and_eq_true, decide_eq_true_eq] at hdigit
  simp only [isDigit, decide_eq_true_eq]
  exact hdigit

theorem toDigits_eq_cons (n : Nat) :
    ∃ c cs, Nat.toDigits 10 n = c :: cs ∧ isDigit c = true := by
  obtain ⟨c, cs, hdigits⟩ := List.exists_cons_of_ne_nil
    (Nat.toDigits_ne_nil : Nat.toDigits 10 n ≠ [])
  refine ⟨c, cs, hdigits, isDigit_of_mem_toDigits (n := n) ?_⟩
  rw [hdigits]
  exact List.mem_cons_self

/-- A number other than zero does not start with a zero. -/
theorem head_toDigits {n : Nat} (hn : n ≠ 0) :
    ∃ c cs, Nat.toDigits 10 n = c :: cs ∧ c ≠ '0' := by
  induction n using Nat.strong_induction_on with
  | h n ih =>
      rw [Nat.toDigits_eq_if (by decide)]
      split
      case isTrue h =>
        refine ⟨n.digitChar, [], rfl, ?_⟩
        have hall : ∀ m < 10, m ≠ 0 → m.digitChar ≠ '0' := by decide
        exact hall n h hn
      case isFalse h =>
        obtain ⟨c, cs, hcs, hc⟩ := ih (n / 10) (by omega) (by omega)
        exact ⟨c, cs ++ [(n % 10).digitChar], by rw [hcs]; rfl, hc⟩

theorem le_ofDigitChars (ds : List Char) (init : Nat) :
    init ≤ Nat.ofDigitChars 10 ds init := by
  induction ds generalizing init with
  | nil => simp
  | cons d ds ih =>
      rw [Nat.ofDigitChars_cons]
      have h := ih (10 * init + (d.toNat - '0'.toNat))
      omega

theorem takeDigits_nondigit (significand count : Nat) {rest : List Char}
    (hrest : ∀ c ∈ rest.head?, isDigit c = false) :
    takeDigits significand count rest = (significand, count, rest) := by
  cases rest with
  | nil => rfl
  | cons c rest =>
      have hc : isDigit c = false := hrest c rfl
      rw [takeDigits, hc]
      rfl

/-- Digits are added up as long as they fit the significand. -/
theorem takeDigits_digits (ds rest : List Char) (significand count : Nat)
    (hds : ∀ c ∈ ds, isDigit c = true)
    (hfits : Nat.ofDigitChars 10 ds significand < UInt64.size)
    (hrest : ∀ c ∈ rest.head?, isDigit c = false) :
    takeDigits significand count (ds ++ rest) =
      (Nat.ofDigitChars 10 ds significand, count + ds.length, rest) := by
  induction ds generalizing significand count with
  | nil => simpa using takeDigits_nondigit significand count hrest
  | cons d ds ih =>
      have hd : isDigit d = true := hds d (by simp)
      rw [Nat.ofDigitChars_cons] at hfits
      have hnext : significand * 10 + digitValue d =
          10 * significand + (d.toNat - '0'.toNat) := by
        rw [digitValue]
        omega
      have hsmall : significand * 10 + digitValue d < UInt64.size := by
        rw [hnext]
        exact (le_ofDigitChars _ _).trans_lt hfits
      rw [List.cons_append, takeDigits, hd]
      simp only [if_true, hsmall]
      rw [hnext, ih _ _ (fun c hc => hds c (List.mem_cons_of_mem d hc)) hfits,
        Nat.ofDigitChars_cons, List.length_cons]
      simp only [Prod.mk.injEq, true_and, and_true]
      omega

theorem dropDigits_nondigit (count : Nat) {rest : List Char}
    (hrest : ∀ c ∈ rest.head?, isDigit c = false) :
    dropDigits count rest = (count, rest) := by
  cases rest with
  | nil => rfl
  | cons c rest =>
      have hc : isDigit c = false := hrest c rfl
      rw [dropDigits, hc]
      rfl

/-! ## Integers -/

theorem numberEnd_of_endsNumber (negative : Bool) (significand : Nat)
    {rest : List Char} (hrest : EndsNumber rest) :
    numberEnd negative significand 0 rest =
      .ok (wholeNumber negative significand, rest) := by
  cases rest with
  | nil => rfl
  | cons c rest =>
      obtain ⟨-, hpoint, he, hE⟩ := hrest c rfl
      unfold numberEnd
      split
      · simp_all
      · simp_all
      · simp_all
      · simp

/-- The digits of a number below `2 ^ 64` are read as that number. -/
theorem unsignedNumber_toDigits (negative : Bool) {n : Nat}
    (hn : n < UInt64.size) {rest : List Char} (hrest : EndsNumber rest) :
    unsignedNumber negative (Nat.toDigits 10 n ++ rest) =
      .ok (wholeNumber negative n, rest) := by
  have hnodigit : ∀ c ∈ rest.head?, isDigit c = false :=
    fun c hc => (hrest c hc).1
  -- Zero is read apart, because no digit may follow it.
  by_cases hzero : n = 0
  · subst hzero
    rw [Nat.toDigits_zero]
    cases rest with
    | nil => rfl
    | cons c rest =>
        have hc : isDigit c = false := hnodigit c rfl
        simp only [unsignedNumber, List.singleton_append, hc,
          Bool.false_eq_true, if_false]
        exact numberEnd_of_endsNumber negative 0 hrest
  · obtain ⟨c, cs, hdigits, hc⟩ := head_toDigits hzero
    have hall : ∀ d ∈ c :: cs, isDigit d = true := by
      intro d hd
      rw [← hdigits] at hd
      exact isDigit_of_mem_toDigits hd
    have hvalue : Nat.ofDigitChars 10 (c :: cs) 0 = n := by
      rw [← hdigits]
      exact Nat.ofDigitChars_ten_toDigits
    have htake := takeDigits_digits (c :: cs) rest 0 0 hall
      (by rw [hvalue]; exact hn) hnodigit
    rw [hvalue, List.cons_append] at htake
    rw [hdigits, List.cons_append, unsignedNumber]
    · simp only [hall c (by simp), if_true, htake,
        dropDigits_nondigit 0 hnodigit]
      exact numberEnd_of_endsNumber negative n hrest
    · exact hc

end Invocation.Json
