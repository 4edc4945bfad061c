import Invocation.Proofs.Json.Decoders
import Invocation.Proofs.Json.Skip

/-!
# The two ways of a typed reader

A typed reader takes a value from a text or from a value that has been read
already.  On the compact text of a value that its text says exactly the two come
to the same: the same result, or a fault from both.  This is shown for each
combinator from which typed readers are made.  The first character of the text
decides as the kind of the value does; inside a container the two loops take the
same turns, one over the text and one over the list of items or fields.
-/

namespace Invocation.Json

/-! ## The first character -/

/-- The first character of the text of a value, by the kind of the value. -/
structure Opens (v : Json) (c : Char) : Prop where
  nonblank : isBlank c = false
  null : c = 'n' ↔ v = .null
  yes : c = 't' ↔ v = .bool true
  no : c = 'f' ↔ v = .bool false
  number : (c = '-' ∨ isDigit c = true) ↔ ∃ n, v = .number n
  string : c = '"' ↔ ∃ s, v = .string s
  array : c = '[' ↔ ∃ items, v = .array items
  object : c = '\x7b' ↔ ∃ fields, v = .object fields

theorem opens_number (n : Number) {c : Char} (h : c = '-' ∨ isDigit c = true) :
    Opens (.number n) c := by
  have hother : ∀ d ∈ ['n', 't', 'f', '"', '[', '\x7b'], c ≠ d := by
    rintro d hd rfl
    simp only [List.mem_cons, List.not_mem_nil, or_false] at hd
    rcases hd with rfl | rfl | rfl | rfl | rfl | rfl <;>
      exact absurd h (by decide)
  have hblank : isBlank c = false := by
    rcases h with rfl | h
    · decide
    · exact isBlank_of_isDigit h
  simp only [List.mem_cons, List.not_mem_nil, or_false, forall_eq_or_imp,
    forall_eq] at hother
  constructor <;> simp [hother, hblank, h]

theorem intChars_head (n : Int) :
    ∃ c cs, intChars n = c :: cs ∧ (c = '-' ∨ isDigit c = true) := by
  unfold intChars
  split
  case isTrue => exact ⟨_, _, rfl, Or.inl rfl⟩
  case isFalse =>
    obtain ⟨c, cs, hdigits, hc⟩ := toDigits_eq_cons n.natAbs
    exact ⟨c, cs, hdigits, Or.inr hc⟩

theorem chars_opens {depth : Nat} {v : Json} (h : Exact depth v) :
    ∃ c cs, chars v = c :: cs ∧ Opens v c := by
  cases v with
  | null => exact ⟨_, _, rfl, by constructor <;> simp [isBlank, isDigit]⟩
  | bool b =>
      cases b with
      | true => exact ⟨_, _, rfl, by constructor <;> simp [isBlank, isDigit]⟩
      | false => exact ⟨_, _, rfl, by constructor <;> simp [isBlank, isDigit]⟩
  | string s => exact ⟨_, _, rfl, by constructor <;> simp [isBlank, isDigit]⟩
  | array items => exact ⟨_, _, rfl, by constructor <;> simp [isBlank, isDigit]⟩
  | object fields => exact ⟨_, _, rfl, by constructor <;> simp [isBlank, isDigit]⟩
  | number n =>
      cases n with
      | float x => cases depth <;> exact h.elim
      | integer n =>
          obtain ⟨c, cs, hchars, hc⟩ := intChars_head n.val
          exact ⟨c, cs, hchars, opens_number _ hc⟩

/-! ## Agreement -/

/-- A reader of a text and a reader of a value come to the same: to one result,
the text going on with `rest`, or each to a fault. -/
def Agree {ε δ α : Type} (rest : List Char)
    (fromText : Except ε (α × List Char)) (fromValue : Except δ α) : Prop :=
  (∃ x, fromValue = .ok x ∧ fromText = .ok (x, rest)) ∨
    ∃ m e, fromValue = .error m ∧ fromText = .error e

theorem Agree.map {ε δ α β : Type} (f : α → β) {r : Reader ε α}
    {text rest : List Char} {fromValue : Except δ α}
    (h : Agree rest (r text) fromValue) :
    Agree rest (r.map f text) (fromValue.map f) := by
  rcases h with ⟨x, hvalue, htext⟩ | ⟨m, e, hvalue, htext⟩
  · exact Or.inl ⟨f x, by rw [hvalue]; rfl, by rw [Reader.map, htext]⟩
  · exact Or.inr ⟨m, e, by rw [hvalue]; rfl, by rw [Reader.map, htext]⟩

namespace Decoder

/-- The two ways of a typed reader agree on every value that its text says
exactly. -/
def Agrees {α : Type} (d : Decoder α) : Prop :=
  ∀ depth v, Exact depth v → ∀ rest, EndsNumber rest →
    Agree rest (d.ofText depth (chars v ++ rest)) (d.ofJson v)

/-- A value of a kind that a reader does not take is refused both ways, of a text
by its first character. -/
theorem agree_of_kind {α : Type} {d : Decoder α} {depth : Nat} {v : Json}
    (hv : Exact depth v) (hvalue : ∃ m, d.ofJson v = .error m)
    (htext : ∀ c cs, Opens v c → ∃ e, d.ofText depth (c :: cs) = .error e)
    (rest : List Char) :
    Agree rest (d.ofText depth (chars v ++ rest)) (d.ofJson v) := by
  obtain ⟨c, cs, hchars, hc⟩ := chars_opens hv
  obtain ⟨m, hm⟩ := hvalue
  obtain ⟨e, he⟩ := htext c (cs ++ rest) hc
  exact Or.inr ⟨m, e, hm, by rw [hchars, List.cons_append, he]⟩

theorem agrees_map {α β : Type} {d : Decoder α} (h : d.Agrees) (f : α → β) :
    (d.map f).Agrees :=
  fun depth v hv rest hrest => (h depth v hv rest hrest).map f

/-! ## Scalars -/

theorem agrees_any : any.Agrees :=
  fun _ v hv rest hrest => Or.inl ⟨v, rfl, (reads_any hv).read rest hrest⟩

theorem agrees_string : Decoder.string.Agrees := by
  intro depth v hv rest hrest
  by_cases hkind : ∃ s, v = .string s
  case pos =>
    obtain ⟨s, rfl⟩ := hkind
    exact Or.inl ⟨s, rfl, (reads_string depth s).read rest hrest⟩
  case neg =>
    refine agree_of_kind hv ?_ (fun c cs hc => ?_) rest
    · cases v <;> first | exact ⟨_, rfl⟩ | exact absurd ⟨_, rfl⟩ hkind
    · rw [Decoder.string]
      simp only
      rw [skipBlanks_nonblank _ hc.nonblank]
      split
      case h_1 heq => exact absurd (hc.string.1 (List.cons.inj heq).1) hkind
      case h_2 => exact ⟨_, rfl⟩

theorem agrees_boolean : boolean.Agrees := by
  intro depth v hv rest hrest
  by_cases hkind : ∃ b, v = .bool b
  case pos =>
    obtain ⟨b, rfl⟩ := hkind
    cases b with
    | true => exact Or.inl ⟨true, rfl, rfl⟩
    | false => exact Or.inl ⟨false, rfl, rfl⟩
  case neg =>
    refine agree_of_kind hv ?_ (fun c cs hc => ?_) rest
    · cases v <;> first | exact ⟨_, rfl⟩ | exact absurd ⟨_, rfl⟩ hkind
    · rw [boolean]
      simp only
      rw [skipBlanks_nonblank _ hc.nonblank]
      split
      case h_1 heq =>
        exact absurd ⟨true, hc.yes.1 (List.cons.inj heq).1⟩ hkind
      case h_2 heq =>
        exact absurd ⟨false, hc.no.1 (List.cons.inj heq).1⟩ hkind
      case h_3 => exact ⟨_, rfl⟩

theorem agrees_unit : unit.Agrees := by
  intro depth v hv rest hrest
  by_cases hkind : v = .null
  case pos =>
    subst hkind
    exact Or.inl ⟨(), rfl, rfl⟩
  case neg =>
    refine agree_of_kind hv ?_ (fun c cs hc => ?_) rest
    · cases v <;> first | exact ⟨_, rfl⟩ | exact absurd rfl hkind
    · rw [unit]
      simp only
      rw [skipBlanks_nonblank _ hc.nonblank]
      split
      case h_1 heq => exact absurd (hc.null.1 (List.cons.inj heq).1) hkind
      case h_2 => exact ⟨_, rfl⟩

/-! ## Numbers -/

section Numbers

variable {α : Type} (expected : String) (accept : Number → Except Mismatch α)

theorem number_read (depth : Nat) (n : Integer) {rest : List Char}
    (hrest : EndsNumber rest) :
    Agree rest ((number expected accept).ofText depth (intChars n.val ++ rest))
      (accept (.integer n)) := by
  have hread := fun negative =>
    unsignedNumber_toDigits negative (natAbs_lt_size n) hrest
  have hwhole := wholeNumber_natAbs n
  unfold intChars
  by_cases hneg : n.val < 0
  · rw [decide_eq_true hneg] at hwhole
    rw [if_pos hneg, List.cons_append, number]
    simp only
    rw [skipBlanks_nonblank _ (by decide)]
    simp only [hread, hwhole]
    cases accept (.integer n) with
    | ok v => exact Or.inl ⟨v, rfl, rfl⟩
    | error m => exact Or.inr ⟨m, _, rfl, rfl⟩
  · obtain ⟨c, cs, hdigits, hc⟩ := toDigits_eq_cons n.val.natAbs
    have hdigit := number_digit expected accept depth hc (cs ++ rest)
    rw [decide_eq_false hneg] at hwhole
    rw [← List.cons_append, ← hdigits, hread, hwhole] at hdigit
    rw [if_neg hneg, hdigit]
    simp only
    cases accept (.integer n) with
    | ok v => exact Or.inl ⟨v, rfl, rfl⟩
    | error m => exact Or.inr ⟨m, _, rfl, rfl⟩

theorem agrees_number : (number expected accept).Agrees := by
  intro depth v hv rest hrest
  by_cases hkind : ∃ n, v = .number n
  case pos =>
    obtain ⟨n, rfl⟩ := hkind
    cases n with
    | integer n => exact number_read expected accept depth n hrest
    | float x => cases depth <;> exact hv.elim
  case neg =>
    refine agree_of_kind hv ?_ (fun c cs hc => ?_) rest
    · cases v <;> first | exact ⟨_, rfl⟩ | exact absurd ⟨_, rfl⟩ hkind
    · rw [number]
      simp only
      rw [skipBlanks_nonblank _ hc.nonblank]
      split
      case h_1 heq =>
        exact absurd (hc.number.1 (Or.inl (List.cons.inj heq).1)) hkind
      case h_2 heq =>
        cases heq
        have hdigit : isDigit c = false := by
          by_contra h
          exact hkind (hc.number.1 (Or.inr (by simpa using h)))
        rw [hdigit]
        exact ⟨_, rfl⟩
      case h_3 heq => cases heq

end Numbers

/-! ## Options -/

theorem agrees_option {α : Type} {inner : Decoder α} (h : inner.Agrees) :
    (option inner).Agrees := by
  intro depth v hv rest hrest
  by_cases hkind : v = .null
  case pos =>
    subst hkind
    exact Or.inl ⟨none, rfl, rfl⟩
  case neg =>
    have hagree := (h depth v hv rest hrest).map some
    obtain ⟨c, cs, hchars, hc⟩ := chars_opens hv
    rw [hchars, List.cons_append] at hagree ⊢
    have hvalue : (option inner).ofJson v = (inner.ofJson v).map some := by
      cases v <;> first | rfl | exact absurd rfl hkind
    have htext : (option inner).ofText depth (c :: (cs ++ rest)) =
        (inner.ofText depth).map some (c :: (cs ++ rest)) := by
      rw [option]
      simp only
      rw [skipBlanks_nonblank _ hc.nonblank]
      split
      case h_1 heq => exact absurd (hc.null.1 (List.cons.inj heq).1) hkind
      case h_2 => rfl
    rw [hvalue, htext]
    exact hagree

end Decoder
end Invocation.Json
