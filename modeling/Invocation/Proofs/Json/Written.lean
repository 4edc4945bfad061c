import Invocation.Proofs.Json.Cut
import Invocation.Proofs.Json.Decoders

/-!
# Fields as they are written

The fields of an object are handed over one after the other, and how they are
collected has no part in how they are read.  A typed reader of entries keeps
every field as it is written, repeated names included; a reader of values sets
each field by its name.  So the two read the same texts, and the object that the
one reads has the fields that the other has read, set in their order.
-/

namespace Invocation.Json

/-- The fields of an object in which these are written: each is set in turn, so
that a repeated name has its first place and its last value. -/
def Fields.ofWritten (written : List (String × Json)) : Fields :=
  written.foldl (fun fields field => fields.insert field.1 field.2) []

/-- Fields of different names are those that are written. -/
theorem Fields.ofWritten_eq {written : List (String × Json)}
    (hnames : (written.map Prod.fst).Nodup) : ofWritten written = written :=
  foldl_insert [] written (by simpa using hnames)

/-! ## Collecting fields -/

/-- The reader with its faults told in another way. -/
def Reader.mapFault {ε ζ α : Type} (k : ε → ζ) (r : Reader ε α) : Reader ζ α :=
  fun text => (r text).mapError (Fault.map k)

theorem Reader.mapFault_id {ε α : Type} (r : Reader ε α) : r.mapFault id = r := by
  funext text
  rw [mapFault]
  cases r text <;> rfl

theorem Reader.map_id {ε α : Type} (r : Reader ε α) : r.map id = r := by
  funext text
  rw [map]
  cases r text <;> rfl

/-- Fields may be collected in one way and turned into another at the end, as
well as collected in the other way from the start; and their faults may be told
in another way around the object, as well as inside it. -/
theorem fieldsFrom_map {ε ζ α σ τ : Type} (lift : Cause → ε) (item : Reader ε α)
    (k : ε → ζ) {add : σ → String → α → σ} {add' : τ → String → α → τ}
    {f : σ → τ} (hadd : ∀ s name v, f (add s name v) = add' (f s) name v)
    (clock : List Char) (first : Bool) (done : σ) (text : List Char) :
    fieldsFrom (k ∘ lift) (item.mapFault k) add' clock first (f done) text =
      ((fieldsFrom lift item add clock first done).map f).mapFault k text := by
  rw [Reader.mapFault, Reader.map]
  induction clock generalizing first done text with
  | nil => rfl
  | cons tick clock ih =>
      rw [fieldsFrom, fieldsFrom]
      cases nextField first text with
      | error e => rfl
      | ok next =>
          obtain ⟨name, rest⟩ := next
          cases name with
          | none => rfl
          | some name =>
              simp only
              cases colon rest with
              | error e => rfl
              | ok start =>
                  simp only [Reader.mapFault]
                  cases item start with
                  | error e => rfl
                  | ok read =>
                      simp only [Except.mapError]
                      rw [← hadd]
                      exact ih false _ _

/-- Setting the fields of an object by name comes to setting those that are
written. -/
theorem fields_insert (item : Reader Cause Json) (text : List Char) :
    fields id item Fields.insert [] text =
      (fields id item Decoder.pushEntry []).map
        (fun pushed => Fields.ofWritten pushed.reverse) text := by
  have hadd : ∀ (pushed : List (String × Json)) (name : String) (v : Json),
      Fields.ofWritten (Decoder.pushEntry pushed name v).reverse =
        (Fields.ofWritten pushed.reverse).insert name v := by
    intro pushed name v
    rw [Decoder.pushEntry, List.reverse_cons, Fields.ofWritten,
      List.foldl_append]
    rfl
  have hmap := fieldsFrom_map id item id
    (f := fun pushed => Fields.ofWritten pushed.reverse) hadd text true [] text
  rw [Reader.mapFault_id, Reader.mapFault_id] at hmap
  exact hmap

/-! ## Objects -/

theorem value_brace (depth : Nat) (tail : List Char) :
    value (depth + 1) ('\x7b' :: tail) =
      (fields id (value depth) Fields.insert []).map .object tail := by
  rw [value, valueWith, skipBlanks_nonblank _ (by decide)]
  rfl

theorem entries_brace (expected : String) (depth : Nat) (tail : List Char) :
    (Decoder.entries expected .any).ofText (depth + 1) ('\x7b' :: tail) =
      ((fields id (value depth) Decoder.pushEntry []).typed.map
        List.reverse) tail := by
  have hadd : ∀ (pushed : List (String × Json)) (name : String) (v : Json),
      id (Decoder.pushEntry pushed name v) =
        Decoder.pushEntry (id pushed) name v := fun _ _ _ => rfl
  have htyped := fieldsFrom_map id (value depth) TypedCause.grammar hadd tail
    true [] tail
  rw [Reader.map_id] at htyped
  change fields .grammar (Decoder.any.ofText depth) Decoder.pushEntry [] tail =
    (fields id (value depth) Decoder.pushEntry []).typed tail at htyped
  rw [Decoder.entries]
  simp only
  rw [skipBlanks_nonblank _ (by decide)]
  simp only [Decoder.opened]
  rw [Reader.map, Reader.map, htyped]

theorem entries_skipBlanks (expected : String) (depth : Nat)
    (text : List Char) :
    (Decoder.entries expected .any).ofText depth text =
      (Decoder.entries expected .any).ofText depth (skipBlanks text) := by
  rw [Decoder.entries]
  simp only [skipBlanks_skipBlanks]

theorem brace_of_entries {expected : String} {depth : Nat}
    {text rest : List Char} {written : List (String × Json)}
    (hread : (Decoder.entries expected .any).ofText depth text =
      .ok (written, rest)) :
    ∃ tail, skipBlanks text = '\x7b' :: tail := by
  rw [Decoder.entries] at hread
  simp only at hread
  split at hread
  case h_1 tail htail => exact ⟨tail, htail⟩
  case h_2 => cases hread

/-- A text is read as an object exactly if its entries are read, and the object
is the one in which these are written. -/
theorem value_object_iff (expected : String) {depth : Nat}
    {text rest : List Char} {fs : Fields} :
    value depth text = .ok (.object fs, rest) ↔
      ∃ written, (Decoder.entries expected .any).ofText depth text =
        .ok (written, rest) ∧ fs = Fields.ofWritten written := by
  by_cases hbrace : ∃ tail, skipBlanks text = '\x7b' :: tail
  case neg =>
    constructor
    · intro hread
      exact absurd (brace_of_value hread) hbrace
    · rintro ⟨written, hread, -⟩
      exact absurd (brace_of_entries hread) hbrace
  case pos =>
    obtain ⟨tail, htail⟩ := hbrace
    rw [value_skipBlanks, entries_skipBlanks, htail]
    cases depth with
    | zero =>
        constructor
        · intro hread
          cases hread
        · rintro ⟨written, hread, -⟩
          cases hread
    | succ depth =>
        rw [value_brace, entries_brace, Reader.map, fields_insert, Reader.map,
          Reader.map, Reader.typed]
        cases fields id (value depth) Decoder.pushEntry [] tail with
        | error e =>
            constructor
            · intro hread
              cases hread
            · rintro ⟨written, hread, -⟩
              cases hread
        | ok read =>
            constructor
            · intro hread
              cases hread
              exact ⟨_, rfl, rfl⟩
            · rintro ⟨written, hread, rfl⟩
              cases hread
              rfl

/-! ## Whole texts -/

theorem parse_eq_ok_iff {text : String} {v : Json} :
    parse text = .ok v ↔ ∃ rest, value maxDepth text.toList = .ok (v, rest) ∧
      atEnd rest = .ok () := by
  unfold parse read
  cases value maxDepth text.toList with
  | error e => simp
  | ok found =>
      obtain ⟨w, rest⟩ := found
      cases hend : atEnd rest with
      | error e => simp [hend]
      | ok u => simp [hend]

theorem Decoder.parse_eq_ok_iff {α : Type} {d : Decoder α} {text : String}
    {x : α} :
    d.parse text = .ok x ↔ ∃ rest, d.ofText maxDepth text.toList =
      .ok (x, rest) ∧ atEnd rest = .ok () := by
  unfold Decoder.parse Decoder.read
  cases d.ofText maxDepth text.toList with
  | error e => simp [Except.mapError]
  | ok found =>
      obtain ⟨w, rest⟩ := found
      cases hend : atEnd rest with
      | error e => simp [hend, Except.mapError]
      | ok u => simp [hend, Except.mapError]

/-- The document of a text is an object exactly if the text has entries, and it
is the one in which these are written. -/
theorem parse_object_iff (expected : String) {text : String} {fs : Fields} :
    parse text = .ok (.object fs) ↔
      ∃ written, (Decoder.entries expected .any).parse text = .ok written ∧
        fs = Fields.ofWritten written := by
  simp only [parse_eq_ok_iff, Decoder.parse_eq_ok_iff,
    value_object_iff expected]
  constructor
  · rintro ⟨rest, ⟨written, hread, hfields⟩, hend⟩
    exact ⟨written, ⟨rest, hread, hend⟩, hfields⟩
  · rintro ⟨written, ⟨rest, hread, hend⟩, hfields⟩
    exact ⟨rest, ⟨written, hread, hfields⟩, hend⟩

end Invocation.Json
