import Mathlib.Tactic
import Invocation.Toml.Scalar
import Invocation.Toml.Writer

/-!
# TOML strings read back

Whatever the text, the string that is written of it is read back as that text.
Each of the four forms has its own reader, and what has to be shown of a form
depends on what it leaves as it is.  The two basic forms can hold any text,
because every character that could be mistaken has an escape, which the reader
undoes; the two literal forms are chosen only for texts in which no character
can be mistaken.  In the multi-line forms quotes stand as they are, so that the
text is taken apart by its runs of quotes: at most two in a row stand for
themselves, and those at the end are told from the delimiter by their number.
-/

namespace Invocation.Toml

/-! ## Escapes -/

/-- The forms of a character in a basic string, quotes and line breaks apart: a
backslash and a letter that is read as the character, its number, or the
character itself. -/
theorem escaped?_cases {c : Char} (hbreak : c ≠ '\n') :
    (∃ x, x ≠ 'u' ∧ x ≠ 'U' ∧ simpleEscape? x = some c ∧
        escaped? c = some ['\\', x]) ∨
      (∃ a b, numbered? ['0', '0', a, b] = some c ∧
        escaped? c = some ['\\', 'u', '0', '0', a, b]) ∨
      (c ≠ '\\' ∧ 0x20 ≤ c.toNat ∧ isPlain c = true ∧ escaped? c = none) := by
  have hsimple : ∀ x y : Char, c = y → x ≠ 'u' → x ≠ 'U' →
      simpleEscape? x = some y → escaped? y = some ['\\', x] →
      ∃ x, x ≠ 'u' ∧ x ≠ 'U' ∧ simpleEscape? x = some c ∧
        escaped? c = some ['\\', x] := by
    rintro x y rfl hu hU hread hform
    exact ⟨x, hu, hU, hread, hform⟩
  -- The characters with a letter of their own come first, as in `escaped?`.
  by_cases hback : c = '\x08'
  · exact Or.inl
      (hsimple 'b' _ hback (by decide) (by decide) (by decide) (by decide))
  by_cases htab : c = '\t'
  · exact Or.inl
      (hsimple 't' _ htab (by decide) (by decide) (by decide) (by decide))
  by_cases hfeed : c = '\x0c'
  · exact Or.inl
      (hsimple 'f' _ hfeed (by decide) (by decide) (by decide) (by decide))
  by_cases hreturn : c = '\r'
  · exact Or.inl
      (hsimple 'r' _ hreturn (by decide) (by decide) (by decide) (by decide))
  by_cases hslash : c = '\\'
  · exact Or.inl
      (hsimple '\\' _ hslash (by decide) (by decide) (by decide) (by decide))
  right
  by_cases hdelete : c = '\x7f'
  · subst hdelete
    exact Or.inl ⟨'7', 'F', by decide, by decide⟩
  unfold escaped?
  rw [if_neg hback, if_neg htab, if_neg hfeed, if_neg hreturn, if_neg hslash]
  by_cases hcontrol : c.toNat < 0x20
  · have hall : ∀ n < 0x20, numbered? ['0', '0', upperHex (n / 16),
        upperHex (n % 16)] = some (Char.ofNat n) := by decide
    have hnumber := hall c.toNat hcontrol
    rw [Char.ofNat_toNat] at hnumber
    exact Or.inl ⟨_, _, hnumber, if_pos (Or.inl hcontrol)⟩
  · have hlow : 0x20 ≤ c.toNat := by omega
    have hspace : ' ' ≤ c := hlow
    refine Or.inr ⟨hslash, hlow, ?_, if_neg ?_⟩
    · simp [isPlain, hspace, hdelete]
    · simp [hcontrol, hdelete]

/-! ## Basic strings on one line -/

theorem basicFrom_quote (done rest : List Char) :
    basicFrom done ('"' :: rest) = some (done.reverse, rest) := by
  rw [basicFrom]

theorem basicFrom_letter (done rest : List Char) {c x : Char} (hu : x ≠ 'u')
    (hU : x ≠ 'U') (h : simpleEscape? x = some c) :
    basicFrom done ('\\' :: x :: rest) = basicFrom (c :: done) rest := by
  rw [basicFrom]
  · simp only [h]
  · simp [hu]
  · simp [hU]

theorem basicFrom_number (done rest : List Char) {c a b : Char}
    (h : numbered? ['0', '0', a, b] = some c) :
    basicFrom done ('\\' :: 'u' :: '0' :: '0' :: a :: b :: rest) =
      basicFrom (c :: done) rest := by
  rw [basicFrom]
  simp only [h]

theorem basicFrom_plain (done rest : List Char) {c : Char} (hquote : c ≠ '"')
    (hslash : c ≠ '\\') (hplain : isPlain c = true) :
    basicFrom done (c :: rest) = basicFrom (c :: done) rest := by
  rw [basicFrom]
  · rw [if_pos ⟨hplain, hslash⟩]
  all_goals simp [hquote, hslash]

theorem basicFrom_basicChars (done cs rest : List Char) :
    basicFrom done (basicChars cs ++ '"' :: rest) =
      some (done.reverse ++ cs, rest) := by
  induction cs generalizing done with
  | nil =>
      rw [basicChars, List.nil_append, basicFrom_quote, List.append_nil]
  | cons c cs ih =>
      have hstep : basicFrom done (basicChars (c :: cs) ++ '"' :: rest) =
          basicFrom (c :: done) (basicChars cs ++ '"' :: rest) := by
        rw [basicChars]
        by_cases hquote : c = '"'
        · subst hquote
          exact basicFrom_letter done _ (by decide) (by decide) (by decide)
        by_cases hbreak : c = '\n'
        · subst hbreak
          exact basicFrom_letter done _ (by decide) (by decide) (by decide)
        rw [if_neg hquote, if_neg hbreak]
        rcases escaped?_cases hbreak with ⟨x, hu, hU, hread, hform⟩ |
          ⟨a, b, hnumber, hform⟩ | ⟨hslash, -, hplain, hform⟩
        · simp only [hform]
          exact basicFrom_letter done _ hu hU hread
        · simp only [hform]
          exact basicFrom_number done _ hnumber
        · simp only [hform]
          exact basicFrom_plain done _ hquote hslash hplain
      rw [hstep, ih]
      simp

/-! ## Literal strings on one line -/

theorem literalFrom_append (done : List Char) {cs : List Char}
    (hcs : ∀ c ∈ cs, c ≠ '\'' ∧ isPlain c = true) (rest : List Char) :
    literalFrom done (cs ++ '\'' :: rest) = some (done.reverse ++ cs, rest) := by
  induction cs generalizing done with
  | nil => rw [List.nil_append, literalFrom, List.append_nil]
  | cons c cs ih =>
      obtain ⟨hquote, hplain⟩ := hcs c List.mem_cons_self
      rw [List.cons_append, literalFrom, if_pos hplain,
        ih _ fun d hd => hcs d (List.mem_cons_of_mem c hd)]
      · simp
      · exact hquote

/-! ## Runs of quotes -/

/-- A text is a run of at most two quotes, or has such a run and another
character after it, or starts with three quotes. -/
theorem quotes_cases (q : Char) (cs : List Char) :
    (∃ k ≤ 2, cs = List.replicate k q) ∨
      (∃ k ≤ 2, ∃ c cs', c ≠ q ∧ cs = List.replicate k q ++ c :: cs') ∨
      ∃ cs', cs = q :: q :: q :: cs' := by
  match cs with
  | [] => exact Or.inl ⟨0, by decide, rfl⟩
  | a :: cs =>
      by_cases ha : a = q
      case neg => exact Or.inr (Or.inl ⟨0, by decide, a, cs, ha, rfl⟩)
      subst ha
      match cs with
      | [] => exact Or.inl ⟨1, by decide, rfl⟩
      | b :: cs =>
          by_cases hb : b = a
          case neg => exact Or.inr (Or.inl ⟨1, by decide, b, cs, hb, rfl⟩)
          subst hb
          match cs with
          | [] => exact Or.inl ⟨2, by decide, rfl⟩
          | c :: cs =>
              by_cases hc : c = b
              case neg => exact Or.inr (Or.inl ⟨2, by decide, c, cs, hc, rfl⟩)
              subst hc
              exact Or.inr (Or.inr ⟨cs, rfl⟩)

/-- How the readers of multi-line strings treat quotes: three in a row close the
string, up to two more being part of it, and fewer stand for themselves. -/
structure TakesQuotes (q : Char) (read : List Char → Reader (List Char)) :
    Prop where
  close : ∀ done rest, read done (q :: q :: q :: rest) = closing q done rest
  single : ∀ done text, (∀ rest, text ≠ q :: q :: rest) →
    read done (q :: text) = read (q :: done) text

section TakesQuotes

variable {q : Char} {read : List Char → Reader (List Char)}

theorem closing_quotes (done : List Char) {k : Nat} (hk : k ≤ 2)
    {rest : List Char} (hrest : ∀ c ∈ rest.head?, c ≠ q) :
    closing q done (List.replicate k q ++ rest) =
      some (done.reverse ++ List.replicate k q, rest) := by
  -- How much `closing` looks at depends on how much there is.
  obtain rfl | rfl | rfl : k = 0 ∨ k = 1 ∨ k = 2 := by omega
  · rcases rest with _ | ⟨a, _ | ⟨b, rest⟩⟩
    · simp [closing]
    · have ha : a ≠ q := hrest a rfl
      simp [closing, ha]
    · have ha : a ≠ q := hrest a rfl
      simp [closing, ha]
  · rcases rest with _ | ⟨a, rest⟩
    · simp [closing]
    · have ha : a ≠ q := hrest a rfl
      simp [closing, ha]
  · simp [closing, List.replicate]

/-- Quotes at the end of a string are read before its delimiter. -/
theorem TakesQuotes.end (h : TakesQuotes q read) (done : List Char) {k : Nat}
    (hk : k ≤ 2) {rest : List Char} (hrest : ∀ c ∈ rest.head?, c ≠ q) :
    read done (List.replicate k q ++ q :: q :: q :: rest) =
      some (done.reverse ++ List.replicate k q, rest) := by
  have hshift : List.replicate k q ++ q :: q :: q :: rest =
      q :: q :: q :: (List.replicate k q ++ rest) := by
    obtain rfl | rfl | rfl : k = 0 ∨ k = 1 ∨ k = 2 := by omega
    · rfl
    · rfl
    · rfl
  rw [hshift, h.close, closing_quotes done hk hrest]

/-- Quotes inside a string are read as they are. -/
theorem TakesQuotes.inside (h : TakesQuotes q read) (done : List Char) {k : Nat}
    (hk : k ≤ 2) {d : Char} (hd : d ≠ q) (text : List Char) :
    read done (List.replicate k q ++ d :: text) =
      read (List.replicate k q ++ done) (d :: text) := by
  obtain rfl | rfl | rfl : k = 0 ∨ k = 1 ∨ k = 2 := by omega
  · rfl
  · exact h.single done (d :: text) (by simp [hd])
  · change read done (q :: q :: d :: text) = read (q :: q :: done) (d :: text)
    rw [h.single done (q :: d :: text) (by simp [hd]),
      h.single (q :: done) (d :: text) (by simp [hd])]

end TakesQuotes

/-! ## Basic strings of several lines -/

theorem multiBasicFrom_takesQuotes :
    TakesQuotes '"' (multiBasicFrom .text) := by
  constructor
  case close =>
    intro done rest
    rw [multiBasicFrom.eq_def]
    simp
  case single =>
    intro done text htext
    rw [multiBasicFrom.eq_def]
    simp only [ne_eq, not_true_eq_false, false_and, if_false, Char.reduceEq,
      reduceCtorEq, if_true]

theorem multiBasicFrom_letter (done rest : List Char) {c x : Char} (hu : x ≠ 'u')
    (hU : x ≠ 'U') (h : simpleEscape? x = some c) :
    multiBasicFrom .text done ('\\' :: x :: rest) =
      multiBasicFrom .text (c :: done) rest := by
  rw [multiBasicFrom.eq_def]
  simp only [ne_eq, not_true_eq_false, false_and, if_false, Char.reduceEq,
    reduceCtorEq, if_true]
  split
  case h_1 heq => exact absurd (List.cons.inj heq).1 hu
  case h_2 heq => exact absurd (List.cons.inj heq).1 hU
  case h_3 heq =>
    cases heq
    simp only [h]
  case h_4 heq => cases heq

theorem multiBasicFrom_number (done rest : List Char) {c a b : Char}
    (h : numbered? ['0', '0', a, b] = some c) :
    multiBasicFrom .text done ('\\' :: 'u' :: '0' :: '0' :: a :: b :: rest) =
      multiBasicFrom .text (c :: done) rest := by
  rw [multiBasicFrom.eq_def]
  simp [h]

theorem multiBasicFrom_break (done rest : List Char) :
    multiBasicFrom .text done ('\n' :: rest) =
      multiBasicFrom .text ('\n' :: done) rest := by
  rw [multiBasicFrom.eq_def]
  simp

theorem multiBasicFrom_plain (done rest : List Char) {c : Char}
    (hquote : c ≠ '"') (hslash : c ≠ '\\') (hlow : 0x20 ≤ c.toNat)
    (hplain : isPlain c = true) :
    multiBasicFrom .text done (c :: rest) =
      multiBasicFrom .text (c :: done) rest := by
  have hbreak : c ≠ '\n' := by
    rintro rfl
    exact absurd hlow (by decide)
  have hreturn : c ≠ '\r' := by
    rintro rfl
    exact absurd hlow (by decide)
  rw [multiBasicFrom.eq_def]
  simp [hquote, hslash, hbreak, hreturn, hplain]

/-- The form of a character other than a quote starts with no quote, and is read
as the character. -/
theorem multiBasicChars_cons {c : Char} (hquote : c ≠ '"') (run : Nat)
    (cs : List Char) :
    ∃ d form, d ≠ '"' ∧ d ≠ '\r' ∧ (d = '\n' → c = '\n') ∧
      multiBasicChars run (c :: cs) = d :: (form ++ multiBasicChars 0 cs) ∧
      ∀ done rest, multiBasicFrom .text done (d :: (form ++ rest)) =
        multiBasicFrom .text (c :: done) rest := by
  rw [multiBasicChars, if_neg hquote]
  by_cases hbreak : c = '\n'
  · subst hbreak
    exact ⟨'\n', [], by decide, by decide, fun _ => rfl, by simp,
      multiBasicFrom_break⟩
  rw [if_neg hbreak]
  rcases escaped?_cases hbreak with ⟨x, hu, hU, hread, hform⟩ |
    ⟨a, b, hnumber, hform⟩ | ⟨hslash, hlow, hplain, hform⟩
  · refine ⟨'\\', [x], by decide, by decide, by simp, by simp [hform], ?_⟩
    exact fun done rest => multiBasicFrom_letter done rest hu hU hread
  · refine ⟨'\\', ['u', '0', '0', a, b], by decide, by decide, by simp,
      by simp [hform], ?_⟩
    exact fun done rest => multiBasicFrom_number done rest hnumber
  · refine ⟨c, [], hquote, ?_, fun h => absurd h hbreak, by simp [hform], ?_⟩
    · rintro rfl
      exact absurd hlow (by decide)
    · exact fun done rest => multiBasicFrom_plain done rest hquote hslash hlow
        hplain

theorem multiBasicChars_replicate {k : Nat} (hk : k ≤ 2) (cs : List Char)
    (hcs : ∀ c ∈ cs.head?, c ≠ '"') :
    multiBasicChars 0 (List.replicate k '"' ++ cs) =
      List.replicate k '"' ++ multiBasicChars 0 cs := by
  -- What comes after the quotes is written alike after any number of them.
  have hrun : ∀ run, multiBasicChars run cs = multiBasicChars 0 cs := by
    intro run
    cases cs with
    | nil => rfl
    | cons c cs =>
        have hc : c ≠ '"' := hcs c rfl
        rw [multiBasicChars, multiBasicChars, if_neg hc, if_neg hc]
  obtain rfl | rfl | rfl : k = 0 ∨ k = 1 ∨ k = 2 := by omega
  · rfl
  · simp [multiBasicChars, hrun]
  · simp [List.replicate, multiBasicChars, hrun]

theorem multiBasicFrom_multiBasicChars (done cs : List Char) {rest : List Char}
    (hrest : ∀ c ∈ rest.head?, c ≠ '"') :
    multiBasicFrom .text done
        (multiBasicChars 0 cs ++ '"' :: '"' :: '"' :: rest) =
      some (done.reverse ++ cs, rest) := by
  have htakes := multiBasicFrom_takesQuotes
  -- The text is shorter after each run of quotes and what follows it.
  induction hlength : cs.length using Nat.strong_induction_on
    generalizing cs done with
  | h n ih =>
      rcases quotes_cases '"' cs with
        ⟨k, hk, rfl⟩ | ⟨k, hk, c, cs', hc, rfl⟩ | ⟨cs', rfl⟩
      · have hchars := multiBasicChars_replicate hk [] (by simp)
        rw [List.append_nil] at hchars
        rw [hchars, multiBasicChars, List.append_nil]
        exact htakes.end done hk hrest
      · obtain ⟨d, form, hd, -, -, hchars, hread⟩ :=
          multiBasicChars_cons hc 0 cs'
        have hless : cs'.length < n := by
          rw [← hlength]
          simp only [List.length_append, List.length_cons]
          omega
        have hhead : ∀ x ∈ (c :: cs').head?, x ≠ '"' := by
          simpa using hc
        rw [multiBasicChars_replicate hk (c :: cs') hhead, hchars,
          List.append_assoc, List.cons_append, htakes.inside done hk hd,
          List.append_assoc, hread, ih _ hless _ cs' rfl]
        simp
      · have hless : cs'.length < n := by
          rw [← hlength]
          simp only [List.length_cons]
          omega
        have hchars : multiBasicChars 0 ('"' :: '"' :: '"' :: cs') =
            List.replicate 2 '"' ++ '\\' :: '"' :: multiBasicChars 0 cs' := rfl
        rw [hchars, List.append_assoc, List.cons_append,
          htakes.inside done (Nat.le_refl 2) (by decide), List.cons_append,
          multiBasicFrom_letter _ _ (by decide) (by decide)
            (show simpleEscape? '"' = some '"' by decide),
          ih _ hless _ cs' rfl]
        simp

/-! ## Literal strings of several lines -/

theorem multiLiteralFrom_takesQuotes : TakesQuotes '\'' multiLiteralFrom := by
  constructor
  case close =>
    intro done rest
    rw [multiLiteralFrom]
  case single =>
    intro done text htext
    rw [multiLiteralFrom]
    exact htext

theorem multiLiteralFrom_plain (done rest : List Char) {c : Char}
    (hquote : c ≠ '\'') (hreturn : c ≠ '\r')
    (hplain : c = '\n' ∨ isPlain c = true) :
    multiLiteralFrom done (c :: rest) = multiLiteralFrom (c :: done) rest := by
  rw [multiLiteralFrom]
  · rw [if_pos hplain]
  · exact hquote
  · exact hreturn

theorem longestRun_mono (q : Char) {run run' longest longest' : Nat}
    (hrun : run ≤ run') (hlongest : longest ≤ longest') (cs : List Char) :
    longestRun q run longest cs ≤ longestRun q run' longest' cs := by
  induction cs generalizing run run' longest longest' with
  | nil => exact hlongest
  | cons c cs ih =>
      rw [longestRun, longestRun]
      split
      · exact ih (by omega) (by omega)
      · exact ih (Nat.le_refl 0) hlongest

theorem le_longestRun (q : Char) (run longest : Nat) (cs : List Char) :
    longest ≤ longestRun q run longest cs := by
  induction cs generalizing run longest with
  | nil => exact Nat.le_refl longest
  | cons c cs ih =>
      rw [longestRun]
      split
      · exact (Nat.le_max_left _ _).trans (ih _ _)
      · exact ih _ _

theorem longestRun_tail (q c : Char) (cs : List Char) :
    longestRun q 0 0 cs ≤ longestRun q 0 0 (c :: cs) := by
  rw [longestRun]
  split
  · exact longestRun_mono q (Nat.zero_le _) (Nat.zero_le _) cs
  · exact Nat.le_refl _

theorem longestRun_suffix (q : Char) (part cs : List Char) :
    longestRun q 0 0 cs ≤ longestRun q 0 0 (part ++ cs) := by
  induction part with
  | nil => exact Nat.le_refl _
  | cons c part ih => exact ih.trans (longestRun_tail q c _)

theorem three_le_longestRun (q : Char) (cs : List Char) :
    3 ≤ longestRun q 0 0 (q :: q :: q :: cs) := by
  simp only [longestRun, if_true]
  exact le_longestRun q _ _ cs

theorem longestRun_eq_zero {q : Char} {cs : List Char}
    (h : longestRun q 0 0 cs = 0) : q ∉ cs := by
  intro hmem
  obtain ⟨part, rest, rfl⟩ := List.append_of_mem hmem
  have hsuffix := longestRun_suffix q part (q :: rest)
  have hone : 1 ≤ longestRun q 0 0 (q :: rest) := by
    simp only [longestRun, if_true]
    exact le_longestRun q _ _ rest
  omega

theorem multiLiteralFrom_append (done : List Char) {cs : List Char}
    (hcs : ∀ c ∈ cs, c ≠ '\r' ∧ (c = '\n' ∨ isPlain c = true))
    (hruns : longestRun '\'' 0 0 cs ≤ 2) {rest : List Char}
    (hrest : ∀ c ∈ rest.head?, c ≠ '\'') :
    multiLiteralFrom done (cs ++ '\'' :: '\'' :: '\'' :: rest) =
      some (done.reverse ++ cs, rest) := by
  have htakes := multiLiteralFrom_takesQuotes
  induction hlength : cs.length using Nat.strong_induction_on
    generalizing cs done with
  | h n ih =>
      rcases quotes_cases '\'' cs with
        ⟨k, hk, rfl⟩ | ⟨k, hk, c, cs', hc, rfl⟩ | ⟨cs', rfl⟩
      · exact htakes.end done hk hrest
      · have hless : cs'.length < n := by
          rw [← hlength]
          simp only [List.length_append, List.length_cons]
          omega
        have hmem : ∀ x ∈ c :: cs', x ∈ List.replicate k '\'' ++ c :: cs' :=
          fun x hx => List.mem_append_right _ hx
        obtain ⟨hreturn, hplain⟩ := hcs c (hmem c List.mem_cons_self)
        have hruns' : longestRun '\'' 0 0 cs' ≤ 2 :=
          ((longestRun_tail _ c cs').trans (longestRun_suffix _ _ _)).trans hruns
        rw [List.append_assoc, List.cons_append, htakes.inside done hk hc,
          multiLiteralFrom_plain _ _ hc hreturn hplain,
          ih _ hless _ (fun x hx => hcs x (hmem x (List.mem_cons_of_mem c hx)))
            hruns' rfl]
        simp
      · have hthree := three_le_longestRun '\'' cs'
        omega

/-! ## Strings in their forms -/

/-- A text without control characters can stand in a literal string, line breaks
apart. -/
theorem plain_of_not_control {c : Char} (h : isControl c = false) :
    c ≠ '\r' ∧ (c = '\n' ∨ isPlain c = true) := by
  constructor
  · rintro rfl
    exact absurd h (by decide)
  · by_cases hbreak : c = '\n'
    · exact Or.inl hbreak
    right
    by_cases htab : c = '\t'
    · simp [isPlain, htab]
    · have hother : ¬ (c.toNat < 0x20 ∨ c = '\x7f') := by
        simpa [isControl, hbreak, htab] using h
      rw [not_or] at hother
      have hspace : ' ' ≤ c := Nat.le_of_not_lt hother.1
      simp [isPlain, hspace, hother.2]

/-- What is known of a text by the form that is chosen for it. -/
theorem stringForm_cases (cs : List Char) :
    StringForm.of cs = .basic ∨
      (StringForm.of cs = .literal ∧ (∀ c ∈ cs, isControl c = false) ∧
        '\n' ∉ cs ∧ longestRun '\'' 0 0 cs = 0) ∨
      StringForm.of cs = .multiBasic ∨
      (StringForm.of cs = .multiLiteral ∧ (∀ c ∈ cs, isControl c = false) ∧
        longestRun '\'' 0 0 cs ≤ 2) := by
  unfold StringForm.of
  simp only
  split
  · exact Or.inl rfl
  split
  case isTrue h =>
    refine Or.inr (Or.inl ⟨rfl, ?_⟩)
    simpa [and_assoc] using h
  split
  · exact Or.inr (Or.inr (Or.inl rfl))
  split
  case isTrue h =>
    refine Or.inr (Or.inr (Or.inr ⟨rfl, ?_⟩))
    simpa using h
  split
  · exact Or.inr (Or.inr (Or.inl rfl))
  · exact Or.inl rfl

theorem afterDelimiter_of_head {text : List Char}
    (h : ∀ c ∈ text.head?, c ≠ '\n' ∧ c ≠ '\r') :
    afterDelimiter text = text := by
  rw [afterDelimiter]
  cases text with
  | nil => rfl
  | cons c text =>
      obtain ⟨hbreak, hreturn⟩ := h c rfl
      rw [lineBreak?]
      · rfl
      · simp [hbreak]
      · simp [hreturn]

/-- The line break after a delimiter does not belong to the text. -/
theorem afterDelimiter_multiLine {q : Char} (cs inner rest : List Char)
    (hhead : '\n' ∉ cs → ∀ c ∈ (inner ++ q :: q :: q :: rest).head?,
      c ≠ '\n' ∧ c ≠ '\r') :
    ∃ text, multiLine q cs inner ++ rest = q :: q :: q :: text ∧
      afterDelimiter text = inner ++ q :: q :: q :: rest := by
  refine ⟨_, by simp [multiLine]; rfl, ?_⟩
  by_cases hbreak : '\n' ∈ cs
  · simp [hbreak, afterDelimiter, lineBreak?]
  · simpa [hbreak] using afterDelimiter_of_head (hhead hbreak)

theorem stringChars_double {text : List Char}
    (h : ∀ rest, text ≠ '"' :: '"' :: rest) :
    stringChars ('"' :: text) = basicFrom [] text := by
  rw [stringChars]
  exact h

theorem stringChars_single {text : List Char}
    (h : ∀ rest, text ≠ '\'' :: '\'' :: rest) :
    stringChars ('\'' :: text) = literalFrom [] text := by
  rw [stringChars]
  exact h

/-- The text of a basic string does not start with a quote. -/
theorem basicChars_ne_quote (cs rest : List Char) :
    ∀ tail, basicChars cs ++ rest = '"' :: tail → cs = [] := by
  intro tail heq
  cases cs with
  | nil => rfl
  | cons c cs =>
      rw [basicChars] at heq
      by_cases hquote : c = '"'
      · simp [hquote] at heq
      by_cases hbreak : c = '\n'
      · simp [hbreak] at heq
      rw [if_neg hquote, if_neg hbreak] at heq
      rcases escaped?_cases hbreak with ⟨x, -, -, -, hform⟩ |
        ⟨a, b, -, hform⟩ | ⟨-, -, -, hform⟩
      · simp [hform] at heq
      · simp [hform] at heq
      · simp [hform, hquote] at heq

/-- The text of a multi-line basic string starts with a line break only if it
has one, and never with a carriage return. -/
theorem head_multiBasicChars {cs : List Char} (hbreak : '\n' ∉ cs)
    (rest : List Char) :
    ∀ c ∈ (multiBasicChars 0 cs ++ '"' :: rest).head?, c ≠ '\n' ∧ c ≠ '\r' := by
  cases cs with
  | nil => simp [multiBasicChars]
  | cons c cs =>
      by_cases hquote : c = '"'
      · simp [multiBasicChars, hquote]
      · obtain ⟨d, form, -, hreturn, hline, hchars, -⟩ :=
          multiBasicChars_cons hquote 0 cs
        have hnobreak : d ≠ '\n' := by
          rintro rfl
          exact hbreak (hline rfl ▸ List.mem_cons_self)
        simp [hchars, hreturn, hnobreak]

section Forms

variable {cs rest : List Char}

theorem stringChars_basic (hrest : ∀ c ∈ rest.head?, c ≠ '"') :
    stringChars ('"' :: (basicChars cs ++ '"' :: rest)) = some (cs, rest) := by
  have hstart : ∀ tail, basicChars cs ++ '"' :: rest ≠ '"' :: '"' :: tail := by
    intro tail heq
    rw [basicChars_ne_quote cs _ _ heq] at heq
    exact hrest '"' (by rw [(List.cons.inj heq).2]; rfl) rfl
  rw [stringChars_double hstart]
  exact basicFrom_basicChars [] cs rest

theorem stringChars_literal (hcontrol : ∀ c ∈ cs, isControl c = false)
    (hbreak : '\n' ∉ cs) (hquote : '\'' ∉ cs)
    (hrest : ∀ c ∈ rest.head?, c ≠ '\'') :
    stringChars ('\'' :: (cs ++ '\'' :: rest)) = some (cs, rest) := by
  have hstart : ∀ tail, cs ++ '\'' :: rest ≠ '\'' :: '\'' :: tail := by
    intro tail heq
    cases cs with
    | nil => exact hrest '\'' (by rw [(List.cons.inj heq).2]; rfl) rfl
    | cons c cs => exact hquote ((List.cons.inj heq).1 ▸ List.mem_cons_self)
  have hplain : ∀ c ∈ cs, c ≠ '\'' ∧ isPlain c = true := by
    intro c hc
    refine ⟨fun heq => hquote (heq ▸ hc), ?_⟩
    exact (plain_of_not_control (hcontrol c hc)).2.resolve_left
      fun heq => hbreak (heq ▸ hc)
  rw [stringChars_single hstart]
  exact literalFrom_append [] hplain rest

theorem stringChars_multiBasic (hrest : ∀ c ∈ rest.head?, c ≠ '"') :
    stringChars (multiLine '"' cs (multiBasicChars 0 cs) ++ rest) =
      some (cs, rest) := by
  obtain ⟨text, htext, hafter⟩ := afterDelimiter_multiLine cs
    (multiBasicChars 0 cs) rest fun hbreak => head_multiBasicChars hbreak _
  rw [htext, stringChars, hafter]
  exact multiBasicFrom_multiBasicChars [] cs hrest

theorem stringChars_multiLiteral (hcontrol : ∀ c ∈ cs, isControl c = false)
    (hruns : longestRun '\'' 0 0 cs ≤ 2)
    (hrest : ∀ c ∈ rest.head?, c ≠ '\'') :
    stringChars (multiLine '\'' cs cs ++ rest) = some (cs, rest) := by
  have hplain : ∀ c ∈ cs, c ≠ '\r' ∧ (c = '\n' ∨ isPlain c = true) :=
    fun c hc => plain_of_not_control (hcontrol c hc)
  have hhead : '\n' ∉ cs →
      ∀ c ∈ (cs ++ '\'' :: '\'' :: '\'' :: rest).head?, c ≠ '\n' ∧ c ≠ '\r' := by
    intro hbreak
    cases cs with
    | nil => simp
    | cons c cs =>
        have hreturn := (hplain c List.mem_cons_self).1
        have hline : c ≠ '\n' := fun heq => hbreak (heq ▸ List.mem_cons_self)
        simp [hreturn, hline]
  obtain ⟨text, htext, hafter⟩ := afterDelimiter_multiLine cs cs rest hhead
  rw [htext, stringChars, hafter]
  exact multiLiteralFrom_append [] hplain hruns hrest

end Forms

/-- The reader of strings takes what is written of a text for that text, if no
quote follows it. -/
theorem stringChars_stringText (s : String) {rest : List Char}
    (hrest : ∀ c ∈ rest.head?, c ≠ '"' ∧ c ≠ '\'') :
    stringChars (stringText s ++ rest) = some (s.toList, rest) := by
  have hdouble : ∀ c ∈ rest.head?, c ≠ '"' := fun c hc => (hrest c hc).1
  have hsingle : ∀ c ∈ rest.head?, c ≠ '\'' := fun c hc => (hrest c hc).2
  unfold stringText
  generalize s.toList = cs
  rcases stringForm_cases cs with
    hform | ⟨hform, hcontrol, hbreak, hruns⟩ | hform | ⟨hform, hcontrol, hruns⟩
  · simp only [hform, List.cons_append, List.append_assoc, List.nil_append]
    exact stringChars_basic hdouble
  · simp only [hform, List.cons_append, List.append_assoc, List.nil_append]
    exact stringChars_literal hcontrol hbreak (longestRun_eq_zero hruns) hsingle
  · simp only [hform]
    exact stringChars_multiBasic hdouble
  · simp only [hform]
    exact stringChars_multiLiteral hcontrol hruns hsingle

/-- What is written of a text starts with a quote. -/
theorem stringText_starts (s : String) :
    ∃ q text, stringText s = q :: text ∧ (q = '"' ∨ q = '\'') := by
  unfold stringText
  cases hform : StringForm.of s.toList with
  | basic =>
      simp only [hform]
      exact ⟨_, _, rfl, Or.inl rfl⟩
  | literal =>
      simp only [hform]
      exact ⟨_, _, rfl, Or.inr rfl⟩
  | multiBasic =>
      simp only [hform, multiLine, List.cons_append]
      exact ⟨_, _, rfl, Or.inl rfl⟩
  | multiLiteral =>
      simp only [hform, multiLine, List.cons_append]
      exact ⟨_, _, rfl, Or.inr rfl⟩

end Invocation.Toml
