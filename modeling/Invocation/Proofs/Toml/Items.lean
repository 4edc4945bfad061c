import Mathlib.Tactic
import Invocation.Proofs.Json.Numbers
import Invocation.Proofs.Toml.Strings
import Invocation.Toml.Document

/-!
# TOML values read back

The text of a string, of a truth value and of an integer that a document can
hold is read as that value where a line ends after it.  Dates start with digits
as integers do and are tried first; they are told apart by the character after
the digits, which a line break is not.
-/

namespace Invocation.Toml

open Json (isDigit)

/-- A text that, at the end of a line, is read as a value: the item that it is
depends on where it stands only by its span. -/
structure ReadsAs (value : List Char) (made : Span → Item) : Prop where
  starts : ∀ c ∈ value.head?, c ≠ ' ' ∧ c ≠ '\t'
  reads : ∀ rest, item maxDepth (value ++ '\n' :: rest) =
    some (made ⟨value ++ '\n' :: rest, '\n' :: rest⟩, '\n' :: rest)

/-- Brackets and braces apart, it does not matter how deep a value may nest. -/
theorem item_eq (depth : Nat) : ∃ inner, item depth = itemWith inner := by
  cases depth with
  | zero => exact ⟨none, rfl⟩
  | succ depth => exact ⟨some (item depth), rfl⟩

/-! ## Truth values -/

theorem readsAs_true : ReadsAs ['t', 'r', 'u', 'e'] (.boolean true) := by
  refine ⟨by simp, fun rest => ?_⟩
  obtain ⟨inner, hinner⟩ := item_eq maxDepth
  rw [hinner]
  rfl

theorem readsAs_false : ReadsAs ['f', 'a', 'l', 's', 'e'] (.boolean false) := by
  refine ⟨by simp, fun rest => ?_⟩
  obtain ⟨inner, hinner⟩ := item_eq maxDepth
  rw [hinner]
  rfl

/-! ## Strings -/

theorem itemWith_quote (inner : Option (Reader Item)) {q : Char}
    (hq : q = '"' ∨ q = '\'') (text : List Char) :
    itemWith inner (q :: text) =
      (stringChars (q :: text)).map fun read =>
        (.string (String.ofList read.1) ⟨q :: text, read.2⟩, read.2) := by
  rcases hq with rfl | rfl
  · rfl
  · rfl

theorem readsAs_string (s : String) : ReadsAs (stringText s) (.string s) := by
  obtain ⟨q, text, htext, hq⟩ := stringText_starts s
  constructor
  case starts =>
    intro c hc
    rw [htext] at hc
    obtain rfl : q = c := by simpa using hc
    rcases hq with rfl | rfl
    · decide
    · decide
  case reads =>
    intro rest
    have hread : stringChars (stringText s ++ '\n' :: rest) =
        some (s.toList, '\n' :: rest) := stringChars_stringText s (by simp)
    obtain ⟨inner, hinner⟩ := item_eq maxDepth
    rw [htext, List.cons_append] at hread ⊢
    rw [hinner, itemWith_quote inner hq, hread, Option.map_some,
      String.ofList_toList]

/-! ## Integers -/

theorem digitsFrom_digits (done : List Char) {ds : List Char}
    (hds : ∀ c ∈ ds, isDigit c = true) (rest : List Char) :
    digitsFrom isDigit done (ds ++ '\n' :: rest) =
      some (done.reverse ++ ds, '\n' :: rest) := by
  induction ds generalizing done with
  | nil => simp [digitsFrom, isDigit]
  | cons d ds ih =>
      have hd : isDigit d = true := hds d List.mem_cons_self
      have hscore : d ≠ '_' := by
        rintro rfl
        exact absurd hd (by decide)
      rw [List.cons_append, digitsFrom, if_pos hd,
        ih _ fun c hc => hds c (List.mem_cons_of_mem d hc)]
      · simp
      · exact hscore

/-- No date starts with digits and a line break after them. -/
theorem date?_digits {ds : List Char} (hds : ∀ c ∈ ds, isDigit c = true)
    (rest : List Char) : date? (ds ++ '\n' :: rest) = none := by
  have hline : isDigit '\n' = false := by decide
  rcases ds with _ | ⟨a, _ | ⟨b, _ | ⟨c, _ | ⟨d, _ | ⟨e, ds⟩⟩⟩⟩⟩
  · rcases rest with _ | ⟨b, _ | ⟨c, _ | ⟨d, rest⟩⟩⟩ <;> simp [date?, hline]
  · rcases rest with _ | ⟨c, _ | ⟨d, rest⟩⟩ <;> simp [date?, hline]
  · rcases rest with _ | ⟨d, rest⟩ <;> simp [date?, hline]
  · simp [date?, hline]
  · simp [date?, expect]
  · have he : '-' ≠ e := by
      rintro rfl
      exact absurd (hds '-' (by simp)) (by decide)
    simp [date?, expect, he]

/-- Neither does a time. -/
theorem time?_digits {ds : List Char} (hds : ∀ c ∈ ds, isDigit c = true)
    (rest : List Char) : time? (ds ++ '\n' :: rest) = none := by
  have hline : isDigit '\n' = false := by decide
  have hcolon : ∀ c ∈ ds, ':' ≠ c := by
    rintro c hc rfl
    exact absurd (hds ':' hc) (by decide)
  rcases ds with _ | ⟨a, _ | ⟨b, _ | ⟨c, ds⟩⟩⟩
  · rcases rest with _ | ⟨b, rest⟩ <;> simp [time?, twoDigits, hline]
  · simp [time?, twoDigits, hline]
  · by_cases hin : inBase 10 [a, b] ≤ 23
    · simp [time?, twoDigits, hds, hin, expect]
    · simp [time?, twoDigits, hds, hin]
  · have hc : ':' ≠ c := hcolon c (by simp)
    by_cases hin : inBase 10 [a, b] ≤ 23
    · simp [time?, twoDigits, hds, hin, expect, hc]
    · simp [time?, twoDigits, hds, hin]

theorem digit_ne {c d : Char} (hc : isDigit c = true) (hd : isDigit d = false) :
    c ≠ d := by
  rintro rfl
  exact absurd (hc.symm.trans hd) (by decide)

/-- A number that starts with a digit has no sign and is in no other base,
unless a letter says so. -/
theorem numeral_digit {a : Char} (ha : isDigit a = true) {text : List Char}
    (htext : ∀ c ∈ text.head?, c ≠ 'x' ∧ c ≠ 'o' ∧ c ≠ 'b') :
    numeral (a :: text) = decimal false (a :: text) := by
  have hbase : ∀ c ∈ ['x', 'o', 'b'], ∀ rest, text ≠ c :: rest := by
    rintro c hc rest rfl
    have h := htext c rfl
    simp at hc
    tauto
  have hsigned : signed false (a :: text) = decimal false (a :: text) := by
    rw [signed]
    · exact fun rest h => digit_ne ha (by decide) (List.cons.inj h).1
    · exact fun rest h => digit_ne ha (by decide) (List.cons.inj h).1
  rw [numeral, hsigned]
  · exact fun rest h => digit_ne ha (by decide) (List.cons.inj h).1
  · exact fun rest h => digit_ne ha (by decide) (List.cons.inj h).1
  · exact fun rest h => hbase 'x' (by simp) rest (List.cons.inj h).2
  · exact fun rest h => hbase 'o' (by simp) rest (List.cons.inj h).2
  · exact fun rest h => hbase 'b' (by simp) rest (List.cons.inj h).2

theorem inBase_digits {ds : List Char} (hds : ∀ c ∈ ds, isDigit c = true)
    (init : Nat) :
    ds.foldl (fun n c => n * 10 + (Json.hexValue? c).getD 0) init =
      Nat.ofDigitChars 10 ds init := by
  induction ds generalizing init with
  | nil => rfl
  | cons d ds ih =>
      have hd : isDigit d = true := hds d List.mem_cons_self
      have hvalue : Json.hexValue? d = some (d.toNat - '0'.toNat) := by
        rw [Json.hexValue?, if_pos (by simpa [isDigit] using hd)]
      rw [List.foldl_cons, Nat.ofDigitChars_cons, hvalue, Option.getD_some,
        ih (fun c hc => hds c (List.mem_cons_of_mem d hc)), Nat.mul_comm init]

/-- The digits of a number are read as digits of which only a single one starts
with zero. -/
theorem wholeDigits_toDigits (n : Nat) (rest : List Char) :
    wholeDigits (Nat.toDigits 10 n ++ '\n' :: rest) =
      some (Nat.toDigits 10 n, '\n' :: rest) := by
  by_cases hzero : n = 0
  · subst hzero
    rfl
  · obtain ⟨c, cs, hdigits, hc⟩ := Json.head_toDigits hzero
    have hall : ∀ d ∈ c :: cs, isDigit d = true := by
      intro d hd
      rw [← hdigits] at hd
      exact Json.isDigit_of_mem_toDigits hd
    rw [hdigits, List.cons_append, wholeDigits, digits,
      if_pos (hall c List.mem_cons_self),
      digitsFrom_digits _ fun d hd => hall d (List.mem_cons_of_mem c hd)]
    · rfl
    · exact fun rest h => hc (List.cons.inj h).1

theorem decimal_integer {n : Nat} (hn : n < 0x8000000000000000)
    (rest : List Char) :
    decimal false (Nat.toDigits 10 n ++ '\n' :: rest) =
      some (.integer n, '\n' :: rest) := by
  have hvalue : inBase 10 (Nat.toDigits 10 n) = n := by
    rw [inBase, inBase_digits fun c hc => Json.isDigit_of_mem_toDigits hc]
    exact Nat.ofDigitChars_ten_toDigits
  have hrange : inRange n = true := by
    simp only [inRange, decide_eq_true_eq]
    omega
  rw [decimal, wholeDigits_toDigits]
  simp [decimal.integer, hvalue, hrange]

/-- A value that starts with a digit is a number or a date. -/
theorem itemWith_digit (inner : Option (Reader Item)) {c : Char}
    (hc : isDigit c = true) (text : List Char) :
    itemWith inner (c :: text) = numeric (c :: text) := by
  rw [itemWith]
  · have hquote : ¬ (c = '"' ∨ c = '\'') := by
      rintro (rfl | rfl)
      · exact absurd hc (by decide)
      · exact absurd hc (by decide)
    rw [if_neg hquote]
  · exact fun rest h => absurd h (digit_ne hc (by decide))
  · exact fun rest h => absurd h (digit_ne hc (by decide))
  · exact digit_ne hc (by decide)
  · exact digit_ne hc (by decide)

theorem readsAs_integer {n : Nat} (hn : n < 0x8000000000000000) :
    ReadsAs (Nat.toDigits 10 n) (.integer n) := by
  obtain ⟨a, ds, hdigits⟩ := List.exists_cons_of_ne_nil
    (Nat.toDigits_ne_nil : Nat.toDigits 10 n ≠ [])
  have hall : ∀ c ∈ a :: ds, isDigit c = true := by
    intro c hc
    rw [← hdigits] at hc
    exact Json.isDigit_of_mem_toDigits hc
  have ha : isDigit a = true := hall a List.mem_cons_self
  constructor
  case starts =>
    intro c hc
    rw [hdigits] at hc
    obtain rfl : a = c := by simpa using hc
    exact ⟨digit_ne ha (by decide), digit_ne ha (by decide)⟩
  case reads =>
    intro rest
    have hdate : datetime? (a :: ds ++ '\n' :: rest) = none := by
      rw [datetime?, date?_digits hall, time?_digits hall]
    have hletter : ∀ c ∈ (ds ++ '\n' :: rest).head?,
        c ≠ 'x' ∧ c ≠ 'o' ∧ c ≠ 'b' := by
      cases ds with
      | nil => simp
      | cons d ds =>
          have hd : isDigit d = true := hall d (by simp)
          intro c hc
          obtain rfl : d = c := by simpa using hc
          exact ⟨digit_ne hd (by decide), digit_ne hd (by decide),
            digit_ne hd (by decide)⟩
    have hnumeral := numeral_digit ha hletter
    have hdecimal := decimal_integer hn rest
    obtain ⟨inner, hinner⟩ := item_eq maxDepth
    rw [hdigits, List.cons_append] at *
    rw [hinner, itemWith_digit inner ha, numeric, hdate, hnumeral, hdecimal]
    rfl

end Invocation.Toml
