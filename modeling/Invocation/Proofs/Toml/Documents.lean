import Mathlib.Tactic
import Invocation.Proofs.Toml.Items

/-!
# TOML documents of assignments

A document that consists of lines, each with a bare key, an equals sign and a
value, is read as the table of these keys and values, in their order.  This
needs that no key is assigned twice and nothing else: what a line is read as
depends on the lines after it only through the places of its key and value.
-/

namespace Invocation.Toml

/-- A line that assigns a value to a bare key. -/
structure Line where
  key : List Char
  value : List Char
  /-- The item that the value is read as, by where it stands. -/
  made : Span → Item
  key_ne_nil : key ≠ []
  key_bare : ∀ c ∈ key, isBare c = true
  readsAs : ReadsAs value made

namespace Line

/-- The text of a line. -/
def chars (l : Line) : List Char := l.key ++ [' ', '=', ' '] ++ l.value ++ ['\n']

/-- The text of a line and what comes after it. -/
theorem chars_append (l : Line) (rest : List Char) :
    l.chars ++ rest = l.key ++ ' ' :: '=' :: ' ' :: (l.value ++ '\n' :: rest) := by
  simp [chars]

/-- The key of a line, by the text after it. -/
def madeKey (l : Line) (rest : List Char) : Key :=
  ⟨String.ofList l.key, l.chars ++ rest,
    ' ' :: '=' :: ' ' :: (l.value ++ '\n' :: rest)⟩

/-- The item of a line, by the text after it. -/
def madeItem (l : Line) (rest : List Char) : Item :=
  l.made ⟨l.value ++ '\n' :: rest, '\n' :: rest⟩

end Line

/-- The text of some lines. -/
def textOf (ls : List Line) : List Char := ls.flatMap Line.chars

/-- The entries of some lines. -/
def entriesOf : List Line → List (Key × Item)
  | [] => []
  | l :: ls => (l.madeKey (textOf ls), l.madeItem (textOf ls)) :: entriesOf ls

/-! ## Reading a line -/

theorem skipBlanks_of_head {cs : List Char}
    (h : ∀ c ∈ cs.head?, c ≠ ' ' ∧ c ≠ '\t') : skipBlanks cs = cs := by
  cases cs with
  | nil => rfl
  | cons c cs =>
      have hc : ¬ (c = ' ' ∨ c = '\t') := not_or.2 (h c rfl)
      rw [skipBlanks, if_neg hc]

theorem bare_ne {c d : Char} (hc : isBare c = true) (hd : isBare d = false) :
    c ≠ d := by
  rintro rfl
  exact absurd (hc.symm.trans hd) (by decide)

/-- A bare key is read up to the blank after it. -/
theorem keyPart_bare {cs : List Char} (hne : cs ≠ [])
    (hbare : ∀ c ∈ cs, isBare c = true) (rest : List Char) :
    keyPart (cs ++ ' ' :: rest) =
      some (⟨String.ofList cs, cs ++ ' ' :: rest, ' ' :: rest⟩, ' ' :: rest) := by
  have htake : (cs ++ ' ' :: rest).takeWhile isBare = cs := by
    rw [List.takeWhile_append_of_pos hbare]
    simp [isBare]
  have hdrop : (cs ++ ' ' :: rest).dropWhile isBare = ' ' :: rest := by
    rw [List.dropWhile_append_of_pos hbare]
    simp [isBare]
  obtain ⟨c, cs', rfl⟩ := List.exists_cons_of_ne_nil hne
  have hc : isBare c = true := hbare c List.mem_cons_self
  unfold keyPart
  simp only [htake, hdrop]
  rw [List.cons_append]
  split
  case h_1 heq => exact absurd (List.cons.inj heq).1 (bare_ne hc (by decide))
  case h_2 heq => exact absurd (List.cons.inj heq).1 (bare_ne hc (by decide))
  case h_3 => rfl

theorem key_bare {cs : List Char} (hne : cs ≠ [])
    (hbare : ∀ c ∈ cs, isBare c = true) (rest : List Char) :
    key (cs ++ ' ' :: '=' :: rest) =
      some (([], ⟨String.ofList cs, cs ++ ' ' :: '=' :: rest,
        ' ' :: '=' :: rest⟩), '=' :: rest) := by
  have hstart : skipBlanks (cs ++ ' ' :: '=' :: rest) =
      cs ++ ' ' :: '=' :: rest := by
    apply skipBlanks_of_head
    obtain ⟨c, cs', rfl⟩ := List.exists_cons_of_ne_nil hne
    have hc : isBare c = true := hbare c List.mem_cons_self
    intro d hd
    obtain rfl : c = d := by simpa using hd
    exact ⟨bare_ne hc (by decide), bare_ne hc (by decide)⟩
  have hparts : keyParts (maxParts - 1) (cs ++ ' ' :: '=' :: rest) =
      some ([⟨String.ofList cs, cs ++ ' ' :: '=' :: rest,
        ' ' :: '=' :: rest⟩], '=' :: rest) := by
    have hmany : maxParts - 1 = 78 + 1 := rfl
    rw [hmany, keyParts, hstart, keyPart_bare hne hbare]
    rfl
  rw [key, hparts]
  rfl

theorem assignment_line (l : Line) (rest : List Char) :
    assignment (item maxDepth) (l.chars ++ rest) =
      some (([], l.madeKey rest, l.madeItem rest), '\n' :: rest) := by
  have hvalue : skipBlanks (' ' :: (l.value ++ '\n' :: rest)) =
      l.value ++ '\n' :: rest := by
    change skipBlanks (l.value ++ '\n' :: rest) = l.value ++ '\n' :: rest
    apply skipBlanks_of_head
    cases hhead : l.value with
    | nil => simp
    | cons c cs => simpa [hhead] using l.readsAs.starts
  have hequals : skipBlanks ('=' :: ' ' :: (l.value ++ '\n' :: rest)) =
      '=' :: ' ' :: (l.value ++ '\n' :: rest) := rfl
  rw [assignment, l.chars_append, key_bare l.key_ne_nil l.key_bare]
  simp only [hequals, hvalue, l.readsAs.reads, Option.map_some]
  rw [Line.madeKey, l.chars_append, Line.madeItem]

theorem head_line (l : Line) (rest : List Char) :
    ∃ c cs, l.chars ++ rest = c :: cs ∧ isBare c = true := by
  obtain ⟨c, cs, hkey⟩ := List.exists_cons_of_ne_nil l.key_ne_nil
  have hc : isBare c = true := l.key_bare c (hkey ▸ List.mem_cons_self)
  exact ⟨c, _, by rw [l.chars_append, hkey, List.cons_append], hc⟩

theorem statement_line (l : Line) (rest : List Char) :
    statement (l.chars ++ rest) =
      some (.assign [] (l.madeKey rest) (l.madeItem rest), rest) := by
  have hassignment := assignment_line l rest
  obtain ⟨c, cs, hchars, hc⟩ := head_line l rest
  rw [hchars] at hassignment ⊢
  have hbracket : c ≠ '[' := bare_ne hc (by decide)
  rw [statement, hassignment]
  · rfl
  · exact fun rest h => hbracket (List.cons.inj h).1
  · exact fun rest h => hbracket (List.cons.inj h).1

/-! ## Reading the lines -/

/-- The statements of some entries. -/
def assigns (es : List (Key × Item)) : List Statement :=
  es.map fun e => .assign [] e.1 e.2

theorem statementsFrom_bare {c : Char} {cs rest : List Char} {s : Statement}
    (hc : isBare c = true) (h : statement (c :: cs) = some (s, rest)) (x : Char)
    (clock : List Char) (done : List Statement) :
    statementsFrom (x :: clock) done (c :: cs) =
      statementsFrom clock (s :: done) rest := by
  have hskip : skipBlanks (c :: cs) = c :: cs := by
    apply skipBlanks_of_head
    intro d hd
    obtain rfl : c = d := by simpa using hd
    exact ⟨bare_ne hc (by decide), bare_ne hc (by decide)⟩
  have hbreak : lineBreak? (c :: cs) = none := by
    rw [lineBreak?]
    · exact fun rest h => bare_ne hc (by decide) (List.cons.inj h).1
    · exact fun rest h => bare_ne hc (by decide) (List.cons.inj h).1
  rw [statementsFrom, hskip]
  split
  case h_1 heq => cases heq
  case h_2 heq => exact absurd (List.cons.inj heq).1 (bare_ne hc (by decide))
  case h_3 => simp only [hbreak, h]

theorem statementsFrom_textOf (ls : List Line) {clock : List Char}
    (hclock : ls.length < clock.length) (done : List Statement) :
    statementsFrom clock done (textOf ls) =
      some (done.reverse ++ assigns (entriesOf ls)) := by
  -- One line is read with each step of the clock.
  induction ls generalizing clock done with
  | nil =>
      cases clock with
      | nil => exact absurd hclock (by simp)
      | cons _ clock =>
          simp [statementsFrom, textOf, skipBlanks, entriesOf, assigns]
  | cons l ls ih =>
      cases clock with
      | nil => exact absurd hclock (by simp)
      | cons x clock =>
          have hline := statement_line l (textOf ls)
          have hless : ls.length < clock.length := by simpa using hclock
          have htext : textOf (l :: ls) = l.chars ++ textOf ls := rfl
          obtain ⟨c, cs, hchars, hc⟩ := head_line l (textOf ls)
          rw [htext, hchars]
          rw [hchars] at hline
          rw [statementsFrom_bare hc hline, ih hless]
          simp [entriesOf, assigns]

theorem length_le_textOf (ls : List Line) : ls.length ≤ (textOf ls).length := by
  induction ls with
  | nil => exact Nat.zero_le _
  | cons l ls ih =>
      have htext : textOf (l :: ls) = l.chars ++ textOf ls := rfl
      have hline : 0 < l.chars.length := by simp [Line.chars]
      rw [htext, List.length_append, List.length_cons]
      omega

theorem statements?_textOf (ls : List Line) :
    statements? (textOf ls) = some (assigns (entriesOf ls)) := by
  have hmark : withoutMark (textOf ls) = textOf ls := by
    cases ls with
    | nil => rfl
    | cons l ls =>
        obtain ⟨c, cs, hchars, hc⟩ := head_line l (textOf ls)
        have htext : textOf (l :: ls) = c :: cs := hchars
        rw [htext, withoutMark]
        exact fun rest h => bare_ne hc (by decide) (List.cons.inj h).1
  have hclock : ls.length < ('\n' :: textOf ls).length :=
    Nat.lt_succ_of_le (length_le_textOf ls)
  rw [statements?, hmark, statementsFrom_textOf ls hclock]
  rfl

/-! ## Taking the assignments -/

/-- Assignments to new keys are added to the table they go to. -/
theorem foldlM_take (d : Draft) (old new : List (Key × Item))
    (hcurrent : d.current = ⟨.headed, none, old⟩)
    (hnames : ((old ++ new).map fun e => e.1.name).Nodup) :
    (assigns new).foldlM Draft.take d =
      some { d with current := ⟨.headed, none, old ++ new⟩ } := by
  induction new generalizing d old with
  | nil =>
      rw [List.append_nil, ← hcurrent]
      rfl
  | cons e new ih =>
      have hnew : d.current.get? e.1.name = none := by
        have hfresh : ∀ x ∈ old, x.1.name ≠ e.1.name := by
          intro x hx heq
          rw [List.map_append, List.nodup_append] at hnames
          exact hnames.2.2 _ (List.mem_map_of_mem hx) _ (by simp) heq
        simpa [hcurrent, TableOf.get?] using hfresh
      have htake : d.take (.assign [] e.1 e.2) =
          some { d with current := ⟨.headed, none, old ++ [e]⟩ } := by
        rw [Draft.take, Table.define, Table.change, hnew, hcurrent]
        rfl
      have hsplit : old ++ e :: new = (old ++ [e]) ++ new := by simp
      rw [hsplit] at hnames ⊢
      have hrest := ih { d with current := ⟨.headed, none, old ++ [e]⟩ }
        (old ++ [e]) rfl hnames
      rw [assigns, List.map_cons, List.foldlM_cons, htake]
      exact hrest

theorem names_entriesOf (ls : List Line) :
    (entriesOf ls).map (fun e => e.1.name) =
      ls.map fun l => String.ofList l.key := by
  induction ls with
  | nil => rfl
  | cons l ls ih => rw [entriesOf, List.map_cons, List.map_cons, ih, Line.madeKey]

/-- Lines whose keys differ are read as the table of their entries. -/
theorem read?_textOf {ls : List Line}
    (hkeys : (ls.map fun l => String.ofList l.key).Nodup) :
    read? (textOf ls) = some ⟨.headed, none, entriesOf ls⟩ := by
  have htake := foldlM_take .start [] (entriesOf ls) rfl
    (by rw [List.nil_append, names_entriesOf]; exact hkeys)
  rw [read?, statements?_textOf]
  change ((assigns (entriesOf ls)).foldlM Draft.take Draft.start).bind Draft.settle =
    _
  rw [htake]
  rfl

end Invocation.Toml
