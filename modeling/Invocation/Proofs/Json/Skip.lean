import Invocation.Json.Skip
import Invocation.Proofs.Json.RoundTrip

/-!
# Compact texts passed over

A reader that passes over a value leaves the text after it, if the value is the
compact text of one that its text says exactly.  The reader is a loop with a
stack of open brackets, so what is shown of a value is that the loop, entered
where the value starts and under whatever stack, comes to where the value ends
with that same stack.  Its clock stays as long as the text that is unread.
-/

namespace Invocation.Json

namespace Skip

/-! ## Scalars -/

theorem string_escapeChar (c : Char) (rest : List Char) :
    string (escapeChar c ++ rest) = string rest := by
  rcases escapeChar_cases c with
    ⟨x, hu, -, hread, hform⟩ | ⟨hcontrol, hform⟩ | ⟨hquote, hslash, hlow, hform⟩
  · rw [hform, List.cons_append, List.cons_append, List.nil_append, string]
    simp only [hread]
    exact hu
  · have hread := hex4?_control hcontrol
    rw [hform]
    simp only [List.cons_append, List.nil_append]
    rw [string]
    simp only [hread]
  · rw [hform, List.singleton_append, string, if_neg (by omega)]
    · exact hquote
    · exact hslash

theorem string_escape (cs rest : List Char) :
    string (escape cs ++ '"' :: rest) = .ok rest := by
  induction cs with
  | nil => simp [escape, string]
  | cons c cs ih =>
      rw [escape, List.flatMap_cons, List.append_assoc, string_escapeChar]
      exact ih

theorem dropDigits_digits (count : Nat) {ds rest : List Char}
    (hds : ∀ c ∈ ds, isDigit c = true)
    (hrest : ∀ c ∈ rest.head?, isDigit c = false) :
    (dropDigits count (ds ++ rest)).2 = rest := by
  induction ds generalizing count with
  | nil => rw [List.nil_append, dropDigits_nondigit count hrest]
  | cons d ds ih =>
      have hd : isDigit d = true := hds d List.mem_cons_self
      rw [List.cons_append, dropDigits, if_pos hd]
      exact ih _ fun c hc => hds c (List.mem_cons_of_mem d hc)

theorem numberEnd_of_endsNumber {rest : List Char} (h : EndsNumber rest) :
    numberEnd rest = .ok rest := by
  cases rest with
  | nil => rfl
  | cons c rest =>
      obtain ⟨-, hpoint, he, hE⟩ := h c rfl
      rw [numberEnd, fractionEnd]
      · simp [he]
      · simp [hE]
      · simp [hpoint]

theorem number_toDigits (n : Nat) {rest : List Char} (h : EndsNumber rest) :
    number (Nat.toDigits 10 n ++ rest) = .ok rest := by
  have hnodigit : ∀ c ∈ rest.head?, isDigit c = false := fun c hc => (h c hc).1
  by_cases hzero : n = 0
  · subst hzero
    cases rest with
    | nil => rfl
    | cons c rest =>
        have hc : isDigit c = false := hnodigit c rfl
        rw [Nat.toDigits_zero, List.singleton_append, number]
        simp only [hc, Bool.false_eq_true, if_false]
        exact numberEnd_of_endsNumber h
  · obtain ⟨c, cs, hdigits, hc⟩ := head_toDigits hzero
    have hall : ∀ d ∈ c :: cs, isDigit d = true := by
      intro d hd
      rw [← hdigits] at hd
      exact isDigit_of_mem_toDigits hd
    rw [hdigits, List.cons_append, number, if_pos (hall c List.mem_cons_self),
      dropDigits_digits 0 (fun d hd => hall d (List.mem_cons_of_mem c hd))
        hnodigit]
    · exact numberEnd_of_endsNumber h
    · simp [hc]

theorem step_digit (stack : List Bracket) {c : Char} (hc : isDigit c = true)
    (rest : List Char) :
    step stack (c :: rest) = number (c :: rest) >>= close stack := by
  rw [step, skipBlanks_nonblank rest (isBlank_of_isDigit hc)]
  split
  case h_1 heq => cases heq
  case h_9 d rest' _ _ _ _ _ _ _ heq =>
    cases heq
    rw [if_pos hc]
  all_goals
    rename_i heq
    cases heq
    exact absurd hc (by decide)

theorem step_integer (stack : List Bracket) (n : Int) {rest : List Char}
    (h : EndsNumber rest) :
    step stack (intChars n ++ rest) = close stack rest := by
  have hnumber := number_toDigits n.natAbs h
  unfold intChars
  split
  case isTrue =>
    change number (Nat.toDigits 10 n.natAbs ++ rest) >>= close stack = _
    rw [hnumber]
    rfl
  case isFalse =>
    obtain ⟨c, cs, hdigits, hc⟩ := toDigits_eq_cons n.natAbs
    rw [hdigits, List.cons_append] at hnumber ⊢
    rw [step_digit stack hc, hnumber]
    rfl

/-- A scalar is passed over in one step. -/
theorem step_scalar (stack : List Bracket) {v : Json} (h : Exact 0 v)
    {rest : List Char} (hrest : EndsNumber rest) :
    step stack (chars v ++ rest) = close stack rest := by
  cases v with
  | null => rfl
  | bool b =>
      cases b with
      | true => rfl
      | false => rfl
  | string s =>
      rw [chars, quoteChars_append, step, skipBlanks_nonblank _ (by decide)]
      simp only [string_escape]
      rfl
  | array items => exact h.elim
  | object fields => exact h.elim
  | number n =>
      cases n with
      | integer n => exact step_integer stack n.val hrest
      | float x => exact h.elim

/-! ## Containers -/

/-- The character that closes a bracket. -/
def Bracket.right : Bracket → Char
  | .square => ']'
  | .curly => '\x7d'

/-- What a step comes to, followed by the steps after it. -/
def next (clock : List Char) :
    Except (Fault Cause) (List Bracket × List Char) →
      Except (Fault Cause) (List Char)
  | .error e => .error e
  | .ok ([], rest) => .ok rest
  | .ok (b :: outer, rest) => valueFrom clock (b :: outer) rest

theorem valueFrom_cons (tick : Char) (clock : List Char) (stack : List Bracket)
    (text : List Char) :
    valueFrom (tick :: clock) stack text = next clock (step stack text) := by
  rw [valueFrom]
  cases step stack text with
  | error e => rfl
  | ok result =>
      obtain ⟨left, rest⟩ := result
      cases left with
      | nil => rfl
      | cons b outer => rfl

/-- The loop comes from the start of a text to its end with the same stack, and
with a clock as long as what is unread then. -/
def Passes (text : List Char) : Prop :=
  ∀ (stack : List Bracket) (rest clock : List Char), EndsNumber rest →
    (text ++ rest).length ≤ clock.length →
    ∃ clock', rest.length ≤ clock'.length ∧
      valueFrom clock stack (text ++ rest) = next clock' (close stack rest)

/-- The text of a value in its place inside a bracket. -/
structure Part (b : Bracket) (part inner : List Char) : Prop where
  starts : ∃ c cs, part = c :: cs ∧ StartsValue c
  item : ∀ rest, item b (part ++ rest) = .ok (inner ++ rest)
  length : inner.length ≤ part.length
  passes : Passes inner

theorem part_item {depth : Nat} {v : Json} (h : Exact depth v)
    (hpasses : Passes (chars v)) : Part .square (chars v) (chars v) :=
  ⟨chars_starts h, fun _ => rfl, Nat.le_refl _, hpasses⟩

theorem part_field (key : String) {inner : List Char} (h : Passes inner) :
    Part .curly (fieldChars key inner) inner := by
  refine ⟨⟨'"', _, rfl, by unfold StartsValue; decide⟩, fun rest => ?_, ?_, h⟩
  · rw [fieldChars_append, item, name, quoteChars_append,
      skipBlanks_nonblank _ (by decide)]
    simp only [string_escape]
    exact colon_append _
  · rw [fieldChars, List.length_append, List.length_cons]
    omega

section Loop

variable {b : Bracket}

theorem endsNumber_right (rest : List Char) : EndsNumber (b.right :: rest) := by
  cases b with
  | square => exact endsNumber_bracket rest
  | curly => exact endsNumber_brace rest

theorem close_right (outer : List Bracket) (rest : List Char) :
    close (b :: outer) (b.right :: rest) = close outer rest := by
  cases b with
  | square => rfl
  | curly => rfl

theorem close_comma {part inner : List Char} (h : Part b part inner)
    (outer : List Bracket) (rest : List Char) :
    close (b :: outer) (',' :: (part ++ rest)) =
      .ok (b :: outer, inner ++ rest) := by
  have hclose : close (b :: outer) (',' :: (part ++ rest)) =
      (item b (part ++ rest)).map (b :: outer, ·) := by
    cases b with
    | square => rfl
    | curly => rfl
  rw [hclose, h.item]
  rfl

theorem openBracket_right (outer : List Bracket) (rest : List Char) :
    openBracket b outer (b.right :: rest) = close outer rest := by
  cases b with
  | square => rfl
  | curly => rfl

theorem openBracket_part {part inner : List Char} (h : Part b part inner)
    (outer : List Bracket) (rest : List Char) :
    openBracket b outer (part ++ rest) = .ok (b :: outer, inner ++ rest) := by
  have hopen : openBracket b outer (part ++ rest) =
      (item b (part ++ rest)).map (b :: outer, ·) := by
    obtain ⟨c, cs, rfl, hblank, -, hsquare, hcurly⟩ := h.starts
    rw [openBracket.eq_def, List.cons_append, skipBlanks_nonblank _ hblank]
    split
    · simp_all
    · simp_all
    · simp_all
    · simp_all
    · rfl
  rw [hopen, h.item]
  rfl

/-- The parts after the first, and the end of the bracket, are passed over. -/
theorem next_following (parts : List (List Char × List Char))
    (hparts : ∀ p ∈ parts, Part b p.1 p.2) (outer : List Bracket)
    (rest : List Char) {clock : List Char}
    (hclock : (following (parts.map Prod.fst) ++ b.right :: rest).length ≤
      clock.length) :
    ∃ clock', rest.length ≤ clock'.length ∧
      next clock (close (b :: outer)
          (following (parts.map Prod.fst) ++ b.right :: rest)) =
        next clock' (close outer rest) := by
  induction parts generalizing clock with
  | nil =>
      refine ⟨clock, (Nat.le_succ _).trans hclock, ?_⟩
      change next clock (close (b :: outer) (b.right :: rest)) = _
      rw [close_right]
  | cons p parts ih =>
      have hp : Part b p.1 p.2 := hparts p List.mem_cons_self
      rw [List.map_cons, following_cons] at hclock ⊢
      rw [close_comma hp]
      have hinner : (p.2 ++ (following (parts.map Prod.fst) ++
          b.right :: rest)).length ≤ clock.length := by
        have hlength := hp.length
        simp only [List.length_append, List.length_cons] at hclock ⊢
        omega
      obtain ⟨clock₁, hclock₁, hvalue⟩ := hp.passes (b :: outer) _ clock
        (endsNumber_following _ endsNumber_right rest) hinner
      obtain ⟨clock', hclock', hloop⟩ :=
        ih (fun q hq => hparts q (List.mem_cons_of_mem p hq)) hclock₁
      exact ⟨clock', hclock', hvalue.trans hloop⟩

/-- A bracket is passed over if all that stands in it is. -/
theorem passes_bracket {left : Char}
    (hstep : ∀ stack text,
      step stack (left :: text) = openBracket b stack text)
    (parts : List (List Char × List Char))
    (hparts : ∀ p ∈ parts, Part b p.1 p.2) :
    Passes (bracket left b.right (parts.map Prod.fst)) := by
  intro stack rest clock hrest hclock
  cases clock with
  | nil => simp [bracket] at hclock
  | cons tick clock =>
      rw [valueFrom_cons]
      cases parts with
      | nil =>
          rw [List.map_nil, bracket_nil] at hclock ⊢
          rw [hstep, openBracket_right]
          simp only [List.length_cons] at hclock
          exact ⟨clock, by omega, rfl⟩
      | cons p parts =>
          have hp : Part b p.1 p.2 := hparts p List.mem_cons_self
          rw [List.map_cons, bracket_cons] at hclock ⊢
          rw [hstep, openBracket_part hp]
          have hinner : (p.2 ++ (following (parts.map Prod.fst) ++
              b.right :: rest)).length ≤ clock.length := by
            have hlength := hp.length
            simp only [List.length_append, List.length_cons] at hclock ⊢
            omega
          obtain ⟨clock₁, hclock₁, hvalue⟩ := hp.passes (b :: stack) _ clock
            (endsNumber_following _ endsNumber_right rest) hinner
          obtain ⟨clock', hclock', hloop⟩ := next_following parts
            (fun q hq => hparts q (List.mem_cons_of_mem p hq)) stack rest hclock₁
          exact ⟨clock', hclock', hvalue.trans hloop⟩

end Loop

/-! ## Values -/

theorem passes_scalar {v : Json} (h : Exact 0 v) : Passes (chars v) := by
  intro stack rest clock hrest hclock
  cases clock with
  | nil =>
      obtain ⟨c, cs, hchars, -⟩ := chars_starts h
      simp [hchars] at hclock
  | cons tick clock =>
      obtain ⟨c, cs, hchars, -⟩ := chars_starts h
      refine ⟨clock, ?_, by rw [valueFrom_cons, step_scalar stack h hrest]⟩
      simp only [hchars, List.length_append, List.length_cons] at hclock
      omega

/-- The text of a value that it says exactly is passed over. -/
theorem passes_chars {depth : Nat} {v : Json} (h : Exact depth v) :
    Passes (chars v) := by
  induction depth generalizing v with
  | zero => exact passes_scalar h
  | succ depth ih =>
      cases v with
      | array vs =>
          have hparts : (vs.map fun v => (chars v, chars v)).map Prod.fst =
              itemTexts vs := by
            rw [itemTexts_eq_map, List.map_map]
            rfl
          rw [chars, ← hparts]
          refine passes_bracket (b := .square) (fun _ _ => rfl) _ ?_
          intro p hp
          obtain ⟨v, hv, rfl⟩ := List.mem_map.1 hp
          exact part_item (h v hv) (ih (h v hv))
      | object fs =>
          have hparts : (fs.map fun f =>
              (fieldChars f.1 (chars f.2), chars f.2)).map Prod.fst =
                fieldTexts fs := by
            rw [fieldTexts_eq_fieldParts, fieldParts, List.map_map, List.map_map]
            rfl
          rw [chars, ← hparts]
          refine passes_bracket (b := .curly) (fun _ _ => rfl) _ ?_
          intro p hp
          obtain ⟨field, hfield, rfl⟩ := List.mem_map.1 hp
          exact part_field field.1 (ih (h.2 field hfield))
      | null => exact passes_scalar (v := .null) trivial
      | bool b => exact passes_scalar (v := .bool b) trivial
      | string s => exact passes_scalar (v := .string s) trivial
      | number n =>
          cases n with
          | integer n => exact passes_scalar (v := .number (.integer n)) trivial
          | float x => exact h.elim

end Skip

/-- A value that its text says exactly is passed over, and nothing after it. -/
theorem skipValue_chars {depth : Nat} {v : Json} (h : Exact depth v)
    {rest : List Char} (hrest : EndsNumber rest) :
    skipValue (chars v ++ rest) = .ok rest := by
  obtain ⟨clock, -, hvalue⟩ :=
    Skip.passes_chars h [] rest (chars v ++ rest) hrest (Nat.le_refl _)
  rw [skipValue, hvalue]
  rfl

end Invocation.Json
