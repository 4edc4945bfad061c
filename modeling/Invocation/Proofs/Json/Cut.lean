import Invocation.Proofs.Json.Locality.Values
import Invocation.Proofs.Text.Cut

/-!
# Objects that were cut

A reader that has come to the closing brace of an object never asks for what
follows.  A text that ends with the brace of its object is therefore a document
only as a whole: had the reader been content with a first part of it, it would
have left the rest unread.  The replacement character that stands for a cut
character is no help, since nothing that can be read starts or ends with it.
-/

namespace Invocation.Json

/-! ## From brace to brace -/

/-- Where an object is read, a brace opens it. -/
theorem brace_of_valueWith {inner : Option (Reader Cause Json)}
    {text rest : List Char} {fs : Fields}
    (hread : valueWith inner text = .ok (.object fs, rest)) :
    ∃ tail, skipBlanks text = '\x7b' :: tail := by
  rw [valueWith] at hread
  split at hread
  case h_1 => cases hread
  case h_2 => cases eq_of_word_ok hread
  case h_3 => cases eq_of_word_ok hread
  case h_4 => cases eq_of_word_ok hread
  case h_5 =>
    obtain ⟨_, -, hv⟩ := Reader.of_map_ok hread
    cases hv
  case h_6 =>
    obtain ⟨_, -, hv⟩ := Reader.of_map_ok hread
    cases hv
  case h_7 =>
    cases inner with
    | none => cases hread
    | some item =>
        obtain ⟨_, -, hv⟩ := Reader.of_map_ok hread
        cases hv
  case h_8 tail htext => exact ⟨tail, htext⟩
  case h_9 =>
    split at hread
    case isTrue =>
      obtain ⟨_, -, hv⟩ := Reader.of_map_ok hread
      cases hv
    case isFalse => cases hread

theorem brace_of_value {depth : Nat} {text rest : List Char} {fs : Fields}
    (hread : value depth text = .ok (.object fs, rest)) :
    ∃ tail, skipBlanks text = '\x7b' :: tail := by
  cases depth with
  | zero => exact brace_of_valueWith hread
  | succ depth => exact brace_of_valueWith hread

/-- Nothing is left of a text that ends with the brace of its object. -/
theorem value_of_read_brace {text : List Char} {v : Json}
    (hread : read text = .ok v) (hend : text.getLast? = some '\x7d') :
    value maxDepth text = .ok (v, []) := by
  obtain ⟨rest, hvalue, hblank⟩ := value_of_read hread
  obtain ⟨taken, rfl⟩ := (value_local maxDepth text v rest hvalue).suffix
  by_cases hrest : rest = []
  · rw [hrest] at hvalue ⊢
    exact hvalue
  · -- What is left is blank, and the brace would be the last of it.
    rw [List.getLast?_append_of_ne_nil _ hrest] at hend
    have hbrace := hblank _ (List.mem_of_getLast? hend)
    exact absurd hbrace (by decide)

/-! ## Cut texts -/

/-- Where a text ends with a closing brace and blanks, no character that is
neither stands at its end. -/
theorem eq_nil_of_brace_suffix {tail mark rest : List Char}
    (hsuffix : '\x7d' :: rest <:+ tail ++ mark)
    (hblank : ∀ c ∈ rest, isBlank c = true)
    (hmark : ∀ c ∈ mark, isBlank c = false ∧ c ≠ '\x7d') : mark = [] := by
  by_contra hsome
  obtain ⟨before, hbefore⟩ := hsuffix
  have hlast : mark.getLast? = ('\x7d' :: rest).getLast? := by
    calc
      mark.getLast? = (tail ++ mark).getLast? :=
        (List.getLast?_append_of_ne_nil tail hsome).symm
      _ = (before ++ '\x7d' :: rest).getLast? := by rw [hbefore]
      _ = ('\x7d' :: rest).getLast? :=
        List.getLast?_append_of_ne_nil before (List.cons_ne_nil _ rest)
  have hmem : mark.getLast hsome ∈ '\x7d' :: rest := by
    refine List.mem_of_getLast? ?_
    rw [← hlast, List.getLast?_eq_some_getLast hsome]
  have hends := hmark _ (List.getLast_mem hsome)
  rcases List.mem_cons.1 hmem with hbrace | hrest
  · exact hends.2 hbrace
  · rw [hblank _ hrest] at hends
    cases hends.1

/-- An object is no document any more when its end is missing, also if
characters stand in place of it that are neither blanks nor closing braces. -/
theorem read_cut {text : List Char} {fs : Fields}
    (hread : read text = .ok (.object fs)) (hend : text.getLast? = some '\x7d')
    {part more mark : List Char} (hwhole : text = part ++ more)
    (hpart : skipBlanks part ≠ []) (hmore : more ≠ [])
    (hmark : ∀ c ∈ mark, isBlank c = false ∧ c ≠ '\x7d') (v : Json) :
    read (part ++ mark) ≠ .ok v := by
  intro hcut
  obtain ⟨rest, hvalue, hblank⟩ := value_of_read hcut
  have hexact := value_of_read_brace hread hend
  -- The first part starts with the opening brace.
  obtain ⟨tail, htail⟩ : ∃ tail, skipBlanks part = '\x7b' :: tail := by
    obtain ⟨body, hbody⟩ := brace_of_value hexact
    cases hfirst : skipBlanks part with
    | nil => exact absurd hfirst hpart
    | cons c tail =>
        rw [hwhole, skipBlanks_extend hfirst more] at hbody
        exact ⟨tail, by rw [(List.cons.inj hbody).1]⟩
  rw [value_skipBlanks, skipBlanks_extend htail mark] at hvalue
  rw [hwhole, value_skipBlanks, skipBlanks_extend htail more] at hexact
  have hlead := value_brace_closed maxDepth (tail ++ mark) v rest hvalue
  -- The value ends with a brace, and only blanks follow it.
  have hnone : mark = [] := eq_nil_of_brace_suffix hlead.suffix hblank hmark
  subst hnone
  rw [List.append_nil] at hlead
  have hextend := hlead.extend (List.cons_ne_nil _ _) more
  have hsame := hexact.symm.trans hextend
  simp only [Except.ok.injEq, Prod.mk.injEq] at hsame
  exact hmore (List.append_eq_nil_iff.1 hsame.2.symm).2

theorem skipBlanks_append_of_eq_nil {blanks : List Char}
    (h : skipBlanks blanks = []) (text : List Char) :
    skipBlanks (blanks ++ text) = skipBlanks text := by
  induction blanks with
  | nil => rfl
  | cons c blanks ih =>
      rw [skipBlanks] at h
      split at h
      case isTrue hblank =>
        rw [List.cons_append, skipBlanks, if_pos hblank]
        exact ih h
      case isFalse => cases h

/-- Where nothing but blanks has come, no value has begun, and the replacement
of a character begins none. -/
theorem read_blanks {part mark : List Char} (hpart : skipBlanks part = [])
    (hmark : mark = [] ∨ mark = [Text.Utf8.replacement]) (v : Json) :
    read (part ++ mark) ≠ .ok v := by
  intro hread
  obtain ⟨rest, hvalue, -⟩ := value_of_read hread
  have hskip : skipBlanks (part ++ mark) = mark := by
    rw [skipBlanks_append_of_eq_nil hpart]
    rcases hmark with rfl | rfl <;> rfl
  rw [value_skipBlanks, hskip] at hvalue
  rcases hmark with rfl | rfl <;> cases hvalue

/-- What is decoded of a first part of an object is a document only if it is
the whole. -/
theorem eq_of_read_part {text : String} {fs : Fields}
    (hread : read text.toList = .ok (.object fs))
    (hend : text.toList.getLast? = some '\x7d') {part : List UInt8}
    (hpart : part <+: Text.Utf8.encode text) {v : Json}
    (hcut : read (Text.Utf8.decode part).toList = .ok v) :
    part = Text.Utf8.encode text := by
  obtain ⟨first, left, hwhole, hcases⟩ := Text.Utf8.decode_part hpart
  by_cases hleft : left = []
  · rcases hcases with ⟨hall, -⟩ | ⟨hne, -⟩
    · rw [hall, Text.Utf8.encode, hwhole, hleft, List.append_nil]
    · exact absurd hleft hne
  -- Something is missing, and in place of it stands at most a replacement.
  obtain ⟨mark, hmark, hdecode⟩ : ∃ mark,
      (mark = [] ∨ mark = [Text.Utf8.replacement]) ∧
        (Text.Utf8.decode part).toList = first ++ mark := by
    rcases hcases with ⟨-, hdecode⟩ | ⟨-, hdecode⟩
    · exact ⟨[], Or.inl rfl, by rw [hdecode, List.append_nil]⟩
    · exact ⟨_, Or.inr rfl, hdecode⟩
  rw [hdecode] at hcut
  by_cases hfirst : skipBlanks first = []
  · exact absurd hcut (read_blanks hfirst hmark v)
  · refine absurd hcut (read_cut hread hend hwhole hfirst hleft ?_ v)
    intro c hc
    rcases hmark with rfl | rfl
    · cases hc
    · rw [List.mem_singleton.1 hc]
      decide

end Invocation.Json
