import Invocation.Json.Decoder
import Invocation.Proofs.Json.RoundTrip

/-!
# Typed readers on compact texts

What the typed readers make of the compact texts of their values: strings,
integers, mappings, and records written as objects.  As for whole values, a
reader takes its text whatever follows it.
-/

namespace Invocation.Json.Decoder

/-! ## Single values -/

theorem reads_string (depth : Nat) (s : String) :
    Reads (Decoder.string.ofText depth) (quoteChars s) s := by
  refine ⟨⟨_, _, rfl, by unfold StartsValue; decide⟩, fun rest _ => ?_⟩
  rw [Decoder.string]
  simp only
  rw [quoteChars_append, skipBlanks_nonblank _ (by decide)]
  change Reader.typed stringBody _ = _
  rw [Reader.typed, stringBody_escape]
  rfl

theorem number_digit {α : Type} (expected : String)
    (accept : Number → Except Mismatch α) (depth : Nat) {c : Char}
    (hc : isDigit c = true) (rest : List Char) :
    (number expected accept).ofText depth (c :: rest) =
      match unsignedNumber false (c :: rest) with
      | .error e => .error (grammarFault e)
      | .ok (n, rest) =>
        match accept n with
        | .ok v => .ok (v, rest)
        | .error m => .error (mismatchAt m rest) := by
  rw [number]
  simp only
  rw [skipBlanks_nonblank rest (isBlank_of_isDigit hc)]
  split
  case h_1 heq =>
    cases heq
    exact absurd hc (by decide)
  case h_2 heq =>
    cases heq
    rw [hc]
    rfl
  case h_3 heq => cases heq

/-- The digits of a number below `2 ^ 64` are given to whoever accepts it. -/
theorem reads_number {α : Type} (expected : String)
    (accept : Number → Except Mismatch α) (depth : Nat) {n : Nat}
    (hn : n < UInt64.size) {v : α}
    (hv : accept (wholeNumber false n) = .ok v) :
    Reads ((number expected accept).ofText depth) (intChars n) v := by
  refine ⟨intChars_starts n, fun rest hrest => ?_⟩
  have hread := unsignedNumber_toDigits false hn hrest
  obtain ⟨c, cs, hcs, hc⟩ := toDigits_eq_cons n
  have hchars : intChars n = c :: cs := by
    rw [intChars, if_neg (by omega), Int.natAbs_natCast, hcs]
  rw [hcs] at hread
  rw [hchars, List.cons_append, number_digit expected accept depth hc,
    ← List.cons_append, hread]
  simp only [hv]

/-- An unsigned word is read back from its digits. -/
theorem reads_unsigned {α : Type} (expected : String) {size : Nat}
    (ofNat : Nat → α) (depth : Nat) {n : Nat} (hsize : size ≤ UInt64.size)
    (hn : n < size) :
    Reads ((integer expected (unsigned? size ofNat)).ofText depth)
      (intChars n) (ofNat n) := by
  have hsmall : n < UInt64.size := hn.trans_le hsize
  refine reads_number expected _ depth hsmall ?_
  have hwhole : ∃ i : Integer, i.val = n ∧ wholeNumber false n = .integer i := by
    have hbounds : -0x8000000000000000 ≤ (n : Int) ∧
        (n : Int) < 0x10000000000000000 := by
      have hword : UInt64.size = 0x10000000000000000 := rfl
      omega
    refine ⟨⟨n, hbounds⟩, rfl, ?_⟩
    rw [wholeNumber, if_neg (by decide), Integer.ofInt?, dif_pos hbounds]
  obtain ⟨i, hval, hi⟩ := hwhole
  have hfits : (0 : Int) ≤ n ∧ (n : Int) < size := by omega
  rw [hi]
  simp only [hval, unsigned?, if_pos hfits, Int.toNat_natCast]

/-! ## Mappings -/

theorem reads_map {α β : Type} {d : Decoder α} (f : α → β) {depth : Nat}
    {text : List Char} {v : α} (h : Reads (d.ofText depth) text v) :
    Reads ((d.map f).ofText depth) text (f v) := by
  refine ⟨h.starts, fun rest hrest => ?_⟩
  change Reader.map f (d.ofText depth) (text ++ rest) = _
  rw [Reader.map, h.read rest hrest]

theorem reads_any {depth : Nat} {v : Json} (h : Exact depth v) :
    Reads (any.ofText depth) (chars v) v := by
  refine ⟨chars_starts h, fun rest hrest => ?_⟩
  change Reader.typed (value depth) _ = _
  rw [Reader.typed, (reads_chars depth v h).read rest hrest]
  rfl

theorem foldl_pushEntry {α : Type} (parts : List (String × List Char × α))
    (done : List (String × α)) :
    parts.foldl (fun s p => pushEntry s p.1 p.2.2) done =
      (parts.map fun p => (p.1, p.2.2)).reverse ++ done := by
  induction parts generalizing done with
  | nil => rfl
  | cons p parts ih =>
      rw [List.foldl_cons, ih]
      simp [pushEntry]

theorem bracket_starts {left : Char} (hleft : StartsValue left) (right : Char)
    (parts : List (List Char)) :
    ∃ c cs, bracket left right parts = c :: cs ∧ StartsValue c :=
  ⟨left, _, rfl, hleft⟩

/-- The fields of a mapping are read in their order. -/
theorem reads_entries {α : Type} (expected : String) {inner : Decoder α}
    {depth : Nat} (parts : List (String × List Char × α))
    (hparts : ∀ p ∈ parts, Reads (inner.ofText depth) p.2.1 p.2.2) :
    Reads ((entries expected inner).ofText (depth + 1))
      (bracket '\x7b' '\x7d' (fieldParts parts))
      (parts.map fun p => (p.1, p.2.2)) := by
  refine ⟨bracket_starts (by unfold StartsValue; decide) _ _,
    fun rest _ => ?_⟩
  obtain ⟨text, htext, hread⟩ := fields_bracket TypedCause.grammar
    (inner.ofText depth) pushEntry parts hparts [] rest
  rw [htext, entries]
  simp only
  rw [skipBlanks_nonblank _ (by decide)]
  change Reader.map List.reverse
    (fields TypedCause.grammar (inner.ofText depth) pushEntry []) text = _
  rw [Reader.map, hread, foldl_pushEntry]
  simp

/-! ## Records -/

namespace Record

variable {σ : Type} (r : Record σ)

/-- The fields after the first are set in their order, if the record knows each
of them and is complete in the end. -/
theorem objectFrom_following {depth : Nat}
    (parts : List (String × List Char × (σ → σ)))
    (hparts : ∀ p ∈ parts, ∃ f, r.field? p.1 = some f ∧
      Reads (f.set.ofText depth) p.2.1 p.2.2)
    (clock : List Char) (hclock : parts.length < clock.length)
    (met : List String) (hnames : (parts.map Prod.fst).Nodup)
    (hmet : ∀ p ∈ parts, p.1 ∉ met) {v w : σ}
    (hfinish : r.finish ((parts.map Prod.fst).reverse ++ met)
      (parts.foldl (fun v p => p.2.2 v) v) = .ok w) (rest : List Char) :
    r.objectFrom depth clock false met v
        (following (fieldParts parts) ++ '\x7d' :: rest) =
      .ok (w, rest) := by
  induction parts generalizing clock met v with
  | nil =>
      cases clock with
      | nil => simp at hclock
      | cons tick clock =>
          change r.objectFrom depth (tick :: clock) false met v
            ('\x7d' :: rest) = _
          rw [objectFrom, nextField_end]
          simp only
          change r.finish met v = .ok w at hfinish
          rw [hfinish]
  | cons p parts ih =>
      cases clock with
      | nil => simp at hclock
      | cons tick clock =>
          obtain ⟨f, hf, hp⟩ := hparts p (by simp)
          have hnew : met.contains p.1 = false := by
            have h := hmet p (by simp)
            simpa using h
          rw [List.map_cons, List.nodup_cons] at hnames
          rw [fieldParts, List.map_cons, following_cons, fieldChars_append,
            objectFrom, nextField_following]
          simp only [hf, hnew, Bool.false_eq_true, if_false, colon_append]
          rw [hp.read _ (endsNumber_following _ endsNumber_brace rest)]
          simp only
          refine ih (fun q hq => hparts q (List.mem_cons_of_mem p hq)) clock
            (by simpa using hclock) _ hnames.2 (fun q hq => ?_)
            (by simpa using hfinish)
          intro hmem
          rcases List.mem_cons.1 hmem with heq | hmem
          · exact hnames.1 (heq ▸ List.mem_map_of_mem hq)
          · exact hmet q (List.mem_cons_of_mem p hq) hmem

/-- A record is read from the object of its fields. -/
theorem reads_decoder {depth : Nat}
    (parts : List (String × List Char × (σ → σ)))
    (hparts : ∀ p ∈ parts, ∃ f, r.field? p.1 = some f ∧
      Reads (f.set.ofText depth) p.2.1 p.2.2)
    (hnames : (parts.map Prod.fst).Nodup) {w : σ}
    (hfinish : r.finish (parts.map Prod.fst).reverse
      (parts.foldl (fun v p => p.2.2 v) r.start) = .ok w) :
    Reads (r.decoder.ofText (depth + 1))
      (bracket '\x7b' '\x7d' (fieldParts parts)) w := by
  refine ⟨bracket_starts (by unfold StartsValue; decide) _ _,
    fun rest _ => ?_⟩
  suffices hread : ∃ text,
      bracket '\x7b' '\x7d' (fieldParts parts) ++ rest = '\x7b' :: text ∧
      r.objectFrom depth text true [] r.start text = .ok (w, rest) by
    obtain ⟨text, htext, hread⟩ := hread
    rw [htext, decoder]
    simp only
    rw [skipBlanks_nonblank _ (by decide)]
    simp only [opened, hread]
  cases parts with
  | nil =>
      refine ⟨'\x7d' :: rest, bracket_nil _ _ rest, ?_⟩
      rw [objectFrom, nextField_end]
      simp only
      change r.finish [] r.start = .ok w at hfinish
      rw [hfinish]
  | cons p parts =>
      obtain ⟨f, hf, hp⟩ := hparts p (by simp)
      rw [List.map_cons, List.nodup_cons] at hnames
      refine ⟨_, bracket_cons _ _ _ (fieldParts parts) rest, ?_⟩
      rw [fieldChars_append]
      have hrest := r.objectFrom_following parts
        (fun q hq => hparts q (List.mem_cons_of_mem p hq)) _
        (length_lt_fields p.1 p.2.1 parts rest) [p.1] hnames.2
        (fun q hq hmem => hnames.1
          (List.mem_singleton.1 hmem ▸ List.mem_map_of_mem hq))
        (v := p.2.2 r.start) (w := w) (by simpa using hfinish) rest
      conv_lhs => rw [quoteChars_append]
      rw [objectFrom, ← quoteChars_append, nextField_first]
      simp only [hf, List.contains_nil, Bool.false_eq_true, if_false,
        colon_append]
      rw [hp.read _ (endsNumber_following _ endsNumber_brace rest)]
      simp only
      exact hrest

end Record

/-! ## Whole texts -/

/-- A text that a reader takes whole is parsed as its value. -/
theorem parse_of_reads {α : Type} {d : Decoder α} {text : List Char} {v : α}
    (h : Reads (d.ofText maxDepth) text v) :
    d.parse (String.ofList text) = .ok v := by
  have hread := h.read [] endsNumber_nil
  rw [List.append_nil] at hread
  rw [parse, String.toList_ofList, read, hread]
  rfl

/-- A function of what a text holds is applied after the reading. -/
theorem parse_map {α β : Type} (f : α → β) (d : Decoder α) (text : String) :
    (d.map f).parse text = (d.parse text).map f := by
  have hmap : (d.map f).ofText maxDepth text.toList =
      (d.ofText maxDepth).map f text.toList := rfl
  rw [parse, parse, read, read, hmap, Reader.map]
  cases d.ofText maxDepth text.toList with
  | error e => rfl
  | ok p => cases hend : atEnd p.2 <;> simp only [hend] <;> rfl

theorem convert_map {α β : Type} (f : α → β) (d : Decoder α) (v : Json) :
    (d.map f).convert v = (d.convert v).map f := by
  have hmap : (d.map f).ofJson v = (d.ofJson v).map f := rfl
  rw [convert, convert, hmap]
  cases d.ofJson v <;> rfl

theorem convert_eq_ok_iff {α : Type} {d : Decoder α} {v : Json} {x : α} :
    d.convert v = .ok x ↔ d.ofJson v = .ok x := by
  unfold convert
  cases d.ofJson v <;> simp [Except.mapError]

end Invocation.Json.Decoder
