import Mathlib.Tactic
import Invocation.Proofs.Json.Numbers
import Invocation.Proofs.Json.Strings

/-!
# Arrays and objects read back

The two loops over a container are followed once for every reader of items.
What they need of a text is `Reads`: it starts like a value, and the reader
takes it whatever comes after it, as long as a number would end there.  The
clock of a loop has to be longer than the list of what is still to be read;
that it is so for the clock a container starts with is shown where the text is
known.
-/

namespace Invocation.Json

/-! ## Texts that start like a value -/

/-- A character with which a value may start, and with which nothing else
does that may stand between values. -/
def StartsValue (c : Char) : Prop :=
  isBlank c = false ∧ c ≠ ',' ∧ c ≠ ']' ∧ c ≠ '\x7d'

/-- The reader takes this text for this value, whatever follows. -/
structure Reads {ε α : Type} (item : Reader ε α) (text : List Char) (v : α) :
    Prop where
  starts : ∃ c cs, text = c :: cs ∧ StartsValue c
  read : ∀ rest, EndsNumber rest → item (text ++ rest) = .ok (v, rest)

theorem skipBlanks_nonblank {c : Char} (rest : List Char)
    (h : isBlank c = false) : skipBlanks (c :: rest) = c :: rest := by
  rw [skipBlanks, h]
  rfl

theorem skipBlanks_append {text : List Char}
    (h : ∃ c cs, text = c :: cs ∧ StartsValue c) (rest : List Char) :
    skipBlanks (text ++ rest) = text ++ rest := by
  obtain ⟨c, cs, rfl, hc⟩ := h
  exact skipBlanks_nonblank (cs ++ rest) hc.1

theorem endsNumber_comma (rest : List Char) : EndsNumber (',' :: rest) :=
  endsNumber_cons rest (by decide)

theorem endsNumber_bracket (rest : List Char) : EndsNumber (']' :: rest) :=
  endsNumber_cons rest (by decide)

theorem endsNumber_brace (rest : List Char) : EndsNumber ('\x7d' :: rest) :=
  endsNumber_cons rest (by decide)

/-! ## Parts between brackets -/

/-- Parts after the first, each with the comma before it. -/
def following (parts : List (List Char)) : List Char :=
  parts.flatMap (',' :: ·)

theorem intercalate_cons (part : List Char) (parts : List (List Char)) :
    List.intercalate [','] (part :: parts) = part ++ following parts := by
  induction parts generalizing part with
  | nil => simp [List.intercalate, following]
  | cons next parts ih =>
      have h := ih next
      rw [List.intercalate, List.intersperse_cons_cons]
      rw [List.intercalate] at h
      rw [List.flatten_cons, List.flatten_cons, h]
      simp [following]

theorem bracket_nil (left right : Char) (rest : List Char) :
    bracket left right [] ++ rest = left :: right :: rest := by
  simp [bracket, List.intercalate]

theorem bracket_cons (left right : Char) (part : List Char)
    (parts : List (List Char)) (rest : List Char) :
    bracket left right (part :: parts) ++ rest =
      left :: (part ++ (following parts ++ right :: rest)) := by
  simp [bracket, intercalate_cons]

theorem following_cons (part : List Char) (parts : List (List Char))
    (rest : List Char) :
    following (part :: parts) ++ rest =
      ',' :: (part ++ (following parts ++ rest)) := by
  simp [following]

theorem length_following (parts : List (List Char)) :
    parts.length ≤ (following parts).length := by
  induction parts with
  | nil => simp
  | cons part parts ih =>
      simp only [following, List.flatMap_cons, List.cons_append,
        List.length_cons, List.length_append] at ih ⊢
      omega

theorem endsNumber_following (parts : List (List Char)) {right : Char}
    (hright : ∀ rest, EndsNumber (right :: rest)) (rest : List Char) :
    EndsNumber (following parts ++ right :: rest) := by
  cases parts with
  | nil => exact hright rest
  | cons part parts =>
      rw [following_cons]
      exact endsNumber_comma _

/-! ## Arrays -/

theorem nextItem_end (first : Bool) (rest : List Char) :
    nextItem first (']' :: rest) = .ok (false, rest) := by
  rw [nextItem, skipBlanks_nonblank rest (by decide)]
  rfl

theorem nextItem_first {text : List Char}
    (h : ∃ c cs, text = c :: cs ∧ StartsValue c) (rest : List Char) :
    nextItem true (text ++ rest) = .ok (true, text ++ rest) := by
  rw [nextItem, skipBlanks_append h]
  obtain ⟨c, cs, rfl, -, hcomma, hbracket, -⟩ := h
  rw [List.cons_append]
  split
  · simp_all
  · simp_all
  · simp_all
  · rfl

theorem nextItem_following {text : List Char}
    (h : ∃ c cs, text = c :: cs ∧ StartsValue c) (rest : List Char) :
    nextItem false (',' :: (text ++ rest)) = .ok (true, text ++ rest) := by
  rw [nextItem, skipBlanks_nonblank _ (by decide)]
  simp only [Bool.false_eq_true, if_false]
  rw [skipBlanks_append h]
  obtain ⟨c, cs, rfl, -, -, hbracket, -⟩ := h
  rw [List.cons_append]
  split
  · simp_all
  · simp_all
  · rfl

section Items

variable {ε α : Type} (lift : Cause → ε) (item : Reader ε α)

/-- The items after the first are read in their order. -/
theorem itemsFrom_following (parts : List (List Char × α))
    (hparts : ∀ p ∈ parts, Reads item p.1 p.2) (clock : List Char)
    (hclock : parts.length < clock.length) (done : List α) (rest : List Char) :
    itemsFrom lift item clock false done
        (following (parts.map Prod.fst) ++ ']' :: rest) =
      .ok (done.reverse ++ parts.map Prod.snd, rest) := by
  induction parts generalizing clock done with
  | nil =>
      cases clock with
      | nil => simp at hclock
      | cons tick clock =>
          change itemsFrom lift item (tick :: clock) false done (']' :: rest) = _
          rw [itemsFrom, nextItem_end]
          simp
  | cons p parts ih =>
      cases clock with
      | nil => simp at hclock
      | cons tick clock =>
          have hp : Reads item p.1 p.2 := hparts p (by simp)
          rw [List.map_cons, following_cons, itemsFrom,
            nextItem_following hp.starts]
          simp only
          rw [hp.read _ (endsNumber_following _ endsNumber_bracket rest)]
          simp only
          rw [ih (fun q hq => hparts q (List.mem_cons_of_mem p hq)) clock
            (by simpa using hclock)]
          simp

/-- An array is read after its opening bracket. -/
theorem items_bracket (parts : List (List Char × α))
    (hparts : ∀ p ∈ parts, Reads item p.1 p.2) (rest : List Char) :
    ∃ text, bracket '[' ']' (parts.map Prod.fst) ++ rest = '[' :: text ∧
      items lift item text = .ok (parts.map Prod.snd, rest) := by
  cases parts with
  | nil =>
      refine ⟨']' :: rest, bracket_nil _ _ rest, ?_⟩
      rw [items, itemsFrom, nextItem_end]
      rfl
  | cons p parts =>
      have hp : Reads item p.1 p.2 := hparts p (by simp)
      refine ⟨_, bracket_cons _ _ p.1 (parts.map Prod.fst) rest, ?_⟩
      obtain ⟨c, cs, hc, -⟩ := hp.starts
      -- The first character of the first part is the tick that it costs.
      have hclock : parts.length <
          (cs ++ (following (parts.map Prod.fst) ++ ']' :: rest)).length := by
        have h := length_following (parts.map Prod.fst)
        simp only [List.length_map] at h
        simp only [List.length_append, List.length_cons]
        omega
      have hrest := itemsFrom_following lift item parts
        (fun q hq => hparts q (List.mem_cons_of_mem p hq)) _ hclock [p.2] rest
      rw [items]
      conv_lhs => rw [hc, List.cons_append]
      rw [itemsFrom, ← List.cons_append, ← hc, nextItem_first hp.starts]
      simp only
      rw [hp.read _ (endsNumber_following _ endsNumber_bracket rest)]
      simp only
      rw [hrest]
      rfl

end Items

/-! ## Objects -/

theorem nextField_end (first : Bool) (rest : List Char) :
    nextField first ('\x7d' :: rest) = .ok (none, rest) := by
  rw [nextField, skipBlanks_nonblank rest (by decide)]
  rfl

theorem fieldName_escape (name : String) (rest : List Char) :
    fieldName (escape name.toList ++ '"' :: rest) = .ok (some name, rest) := by
  rw [fieldName, stringBody_escape]

theorem nextField_first (name : String) (rest : List Char) :
    nextField true (quoteChars name ++ rest) = .ok (some name, rest) := by
  rw [quoteChars_append, nextField, skipBlanks_nonblank _ (by decide)]
  exact fieldName_escape name rest

theorem nextField_following (name : String) (rest : List Char) :
    nextField false (',' :: (quoteChars name ++ rest)) =
      .ok (some name, rest) := by
  have hcomma := skipBlanks_nonblank (c := ',') (quoteChars name ++ rest)
    (by decide)
  have hquote := skipBlanks_nonblank (c := '"')
    (escape name.toList ++ '"' :: rest) (by decide)
  rw [nextField, hcomma, quoteChars_append]
  simp [hquote, fieldName_escape]

theorem colon_append (rest : List Char) : colon (':' :: rest) = .ok rest := by
  rw [colon, skipBlanks_nonblank rest (by decide)]
  rfl

theorem fieldChars_append (name : String) (text rest : List Char) :
    fieldChars name text ++ rest = quoteChars name ++ (':' :: (text ++ rest)) := by
  simp [fieldChars]

section Fields

variable {ε α σ : Type} (lift : Cause → ε) (item : Reader ε α)
  (add : σ → String → α → σ)

/-- The texts of fields, each given by its name and the text of its value. -/
def fieldParts (parts : List (String × List Char × α)) : List (List Char) :=
  parts.map fun p => fieldChars p.1 p.2.1

/-- What follows the opening quote of the first field is longer than the list
of the others, so that it is a clock for reading them. -/
theorem length_lt_fields (name : String) (text : List Char)
    (parts : List (String × List Char × α)) (rest : List Char) :
    parts.length < (escape name.toList ++ '"' :: (':' ::
      (text ++ (following (fieldParts parts) ++ '\x7d' :: rest)))).length := by
  have h := length_following (fieldParts parts)
  simp only [fieldParts, List.length_map] at h
  simp only [fieldParts, List.length_append, List.length_cons]
  omega

/-- The fields after the first are handed over in their order. -/
theorem fieldsFrom_following (parts : List (String × List Char × α))
    (hparts : ∀ p ∈ parts, Reads item p.2.1 p.2.2) (clock : List Char)
    (hclock : parts.length < clock.length) (done : σ) (rest : List Char) :
    fieldsFrom lift item add clock false done
        (following (fieldParts parts) ++ '\x7d' :: rest) =
      .ok (parts.foldl (fun s p => add s p.1 p.2.2) done, rest) := by
  induction parts generalizing clock done with
  | nil =>
      cases clock with
      | nil => simp at hclock
      | cons tick clock =>
          change fieldsFrom lift item add (tick :: clock) false done
            ('\x7d' :: rest) = _
          rw [fieldsFrom, nextField_end]
          rfl
  | cons p parts ih =>
      cases clock with
      | nil => simp at hclock
      | cons tick clock =>
          have hp : Reads item p.2.1 p.2.2 := hparts p (by simp)
          rw [fieldParts, List.map_cons, following_cons, fieldChars_append,
            fieldsFrom, nextField_following]
          simp only
          rw [colon_append]
          simp only
          rw [hp.read _ (endsNumber_following _ endsNumber_brace rest)]
          simp only
          exact ih (fun q hq => hparts q (List.mem_cons_of_mem p hq)) clock
            (by simpa using hclock) (add done p.1 p.2.2)

/-- An object is read after its opening brace. -/
theorem fields_bracket (parts : List (String × List Char × α))
    (hparts : ∀ p ∈ parts, Reads item p.2.1 p.2.2) (start : σ)
    (rest : List Char) :
    ∃ text, bracket '\x7b' '\x7d' (fieldParts parts) ++ rest = '\x7b' :: text ∧
      fields lift item add start text =
        .ok (parts.foldl (fun s p => add s p.1 p.2.2) start, rest) := by
  cases parts with
  | nil =>
      refine ⟨'\x7d' :: rest, bracket_nil _ _ rest, ?_⟩
      rw [fields, fieldsFrom, nextField_end]
      rfl
  | cons p parts =>
      have hp : Reads item p.2.1 p.2.2 := hparts p (by simp)
      refine ⟨_, bracket_cons _ _ _ (fieldParts parts) rest, ?_⟩
      rw [fieldChars_append]
      have hrest := fieldsFrom_following lift item add parts
        (fun q hq => hparts q (List.mem_cons_of_mem p hq)) _
        (length_lt_fields p.1 p.2.1 parts rest) (add start p.1 p.2.2) rest
      rw [fields]
      conv_lhs => rw [quoteChars_append]
      rw [fieldsFrom, ← quoteChars_append, nextField_first]
      simp only
      rw [colon_append]
      simp only
      rw [hp.read _ (endsNumber_following _ endsNumber_brace rest)]
      simp only
      rw [hrest]
      rfl

end Fields

end Invocation.Json
