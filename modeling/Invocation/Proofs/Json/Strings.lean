import Mathlib.Tactic
import Invocation.Json.Printer
import Invocation.Json.Reader

/-!
# Strings read back

Escaping and reading a string are inverse to each other, character by
character: the reader undoes one escape at a time, whatever follows it.  An
escaped text has no character below `0x20`, whatever the text was.
-/

namespace Invocation.Json

/-! ## Hexadecimal digits -/

theorem hexValue?_hexDigit {n : Nat} (h : n < 16) :
    hexValue? (hexDigit n) = some n := by
  have hall : ∀ m < 16, hexValue? (hexDigit m) = some m := by decide
  exact hall n h

theorem le_hexDigit {n : Nat} (h : n < 16) : 0x20 ≤ (hexDigit n).toNat := by
  have hall : ∀ m < 16, 0x20 ≤ (hexDigit m).toNat := by decide
  exact hall n h

/-- The escape of a control character has its number. -/
theorem hex4?_control {n : Nat} (h : n < 0x20) :
    hex4? '0' '0' (hexDigit (n / 16)) (hexDigit (n % 16)) = some n := by
  have hzero : hexValue? '0' = some 0 := by decide
  unfold hex4?
  rw [hzero, hexValue?_hexDigit (by omega), hexValue?_hexDigit (by omega)]
  simp only [Option.some.injEq]
  omega

/-! ## One character -/

/-- The three forms of a character inside a string: a backslash and a letter
that is read as the character, the number of a control character, or the
character itself. -/
theorem escapeChar_cases (c : Char) :
    (∃ x, x ≠ 'u' ∧ 0x20 ≤ x.toNat ∧ simpleEscape? x = some c ∧
        escapeChar c = ['\\', x]) ∨
      (c.toNat < 0x20 ∧ escapeChar c =
        ['\\', 'u', '0', '0', hexDigit (c.toNat / 16), hexDigit (c.toNat % 16)]) ∨
      (c ≠ '"' ∧ c ≠ '\\' ∧ 0x20 ≤ c.toNat ∧ escapeChar c = [c]) := by
  have hsimple : ∀ x y : Char, c = y → x ≠ 'u' → 0x20 ≤ x.toNat →
      simpleEscape? x = some y → escapeChar y = ['\\', x] →
      ∃ x, x ≠ 'u' ∧ 0x20 ≤ x.toNat ∧ simpleEscape? x = some c ∧
        escapeChar c = ['\\', x] := by
    rintro x y rfl hu hlow hread hform
    exact ⟨x, hu, hlow, hread, hform⟩
  -- The characters with a letter of their own come first, as in `escapeChar`.
  by_cases hquote : c = '"'
  · exact Or.inl (hsimple '"' _ hquote (by decide) (by decide) rfl rfl)
  by_cases hslash : c = '\\'
  · exact Or.inl (hsimple '\\' _ hslash (by decide) (by decide) rfl rfl)
  by_cases hline : c = '\n'
  · exact Or.inl (hsimple 'n' _ hline (by decide) (by decide) rfl rfl)
  by_cases hreturn : c = '\r'
  · exact Or.inl (hsimple 'r' _ hreturn (by decide) (by decide) rfl rfl)
  by_cases htab : c = '\t'
  · exact Or.inl (hsimple 't' _ htab (by decide) (by decide) rfl rfl)
  by_cases hback : c = '\x08'
  · exact Or.inl (hsimple 'b' _ hback (by decide) (by decide) rfl rfl)
  by_cases hfeed : c = '\x0c'
  · exact Or.inl (hsimple 'f' _ hfeed (by decide) (by decide) rfl rfl)
  right
  unfold escapeChar
  rw [if_neg hquote, if_neg hslash, if_neg hline, if_neg hreturn, if_neg htab,
    if_neg hback, if_neg hfeed]
  by_cases hcontrol : c.toNat < 0x20
  · exact Or.inl ⟨hcontrol, if_pos hcontrol⟩
  · exact Or.inr ⟨hquote, hslash, by omega, if_neg hcontrol⟩

theorem stringFrom_simple (done rest : List Char) {c x : Char} (hu : x ≠ 'u')
    (h : simpleEscape? x = some c) :
    stringFrom done ('\\' :: x :: rest) = stringFrom (c :: done) rest := by
  rw [stringFrom]
  · simp only [h]
  · exact hu

theorem stringFrom_control (done rest : List Char) {n : Nat} (h : n < 0x20) :
    stringFrom done ('\\' :: 'u' :: '0' :: '0' :: hexDigit (n / 16) ::
        hexDigit (n % 16) :: rest) =
      stringFrom (Char.ofNat n :: done) rest := by
  have hlow : isLowSurrogate n = false := by
    simp only [isLowSurrogate, decide_eq_false_iff_not]
    omega
  have hhigh : isHighSurrogate n = false := by
    simp only [isHighSurrogate, decide_eq_false_iff_not]
    omega
  rw [stringFrom]
  simp only [hex4?_control h, hlow, hhigh, Bool.false_eq_true, if_false]

theorem stringFrom_plain (done rest : List Char) {c : Char} (hquote : c ≠ '"')
    (hslash : c ≠ '\\') (hlow : 0x20 ≤ c.toNat) :
    stringFrom done (c :: rest) = stringFrom (c :: done) rest := by
  rw [stringFrom]
  · rw [if_neg (by omega)]
  · exact hquote
  · exact hslash

/-- The form of a character is read as that character. -/
theorem stringFrom_escapeChar (done rest : List Char) (c : Char) :
    stringFrom done (escapeChar c ++ rest) = stringFrom (c :: done) rest := by
  rcases escapeChar_cases c with
    ⟨x, hu, -, hread, hform⟩ | ⟨hcontrol, hform⟩ | ⟨hquote, hslash, hlow, hform⟩
  · rw [hform]
    exact stringFrom_simple done rest hu hread
  · have h := stringFrom_control done rest hcontrol
    rw [Char.ofNat_toNat] at h
    rw [hform]
    exact h
  · rw [hform]
    exact stringFrom_plain done rest hquote hslash hlow

/-- No form of a character has a control character in it. -/
theorem le_of_mem_escapeChar {c d : Char} (h : d ∈ escapeChar c) :
    0x20 ≤ d.toNat := by
  rcases escapeChar_cases c with
    ⟨x, -, hlow, -, hform⟩ | ⟨hcontrol, hform⟩ | ⟨-, -, hlow, hform⟩
  · rw [hform] at h
    simp only [List.mem_cons, List.not_mem_nil, or_false] at h
    rcases h with rfl | rfl
    · decide
    · exact hlow
  · rw [hform] at h
    simp only [List.mem_cons, List.not_mem_nil, or_false] at h
    rcases h with rfl | rfl | rfl | rfl | rfl | rfl
    · decide
    · decide
    · decide
    · decide
    · exact le_hexDigit (by omega)
    · exact le_hexDigit (by omega)
  · rw [hform, List.mem_singleton] at h
    rw [h]
    exact hlow

/-! ## Whole strings -/

theorem stringFrom_escape (done cs rest : List Char) :
    stringFrom done (escape cs ++ '"' :: rest) =
      .ok (done.reverse ++ cs, rest) := by
  induction cs generalizing done with
  | nil => simp [escape, stringFrom]
  | cons c cs ih =>
      rw [escape, List.flatMap_cons, List.append_assoc, stringFrom_escapeChar]
      change stringFrom (c :: done) (escape cs ++ '"' :: rest) = _
      rw [ih]
      simp

/-- A quoted string is read back, and nothing after its closing quote is
touched. -/
theorem stringBody_escape (s : String) (rest : List Char) :
    stringBody (escape s.toList ++ '"' :: rest) = .ok (s, rest) := by
  unfold stringBody
  rw [stringFrom_escape]
  simp

theorem quoteChars_append (s : String) (rest : List Char) :
    quoteChars s ++ rest = '"' :: (escape s.toList ++ '"' :: rest) := by
  simp [quoteChars]

/-- A quoted string has no control characters. -/
theorem le_of_mem_quoteChars {s : String} {d : Char} (h : d ∈ quoteChars s) :
    0x20 ≤ d.toNat := by
  rw [quoteChars, escape] at h
  simp only [List.mem_cons, List.mem_append, List.mem_flatMap,
    List.not_mem_nil, or_false] at h
  rcases h with rfl | ⟨c, -, hd⟩ | rfl
  · decide
  · exact le_of_mem_escapeChar hd
  · decide

end Invocation.Json
