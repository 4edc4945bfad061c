import Invocation.Proofs.Header.Edits
import Invocation.Proofs.Json.Written

/-!
# Two ways to read headers

The headers of a response are read from a text, field by field as it is written,
or from a document that has been read before, in which no name stands twice.
Both ways take what the same entries of the text say.  They differ only in what
a name that is written twice comes to: in the document its later value has taken
the place of the earlier one, even where it has no text and the earlier one has.
-/

namespace Invocation.ResponseHeaders

/-- The document of a text is an object in which some name is written twice. -/
def WrittenTwice (text : String) : Prop :=
  ∃ written, fieldReader.parse text = .ok written ∧
    ¬ (written.map Prod.fst).Nodup

theorem ofJson?_eq_some_iff {v : Json} {h : ResponseHeaders} :
    ofJson? v = some h ↔ ∃ fields, v = .object fields ∧ h = ofFields fields := by
  cases v with
  | object fields =>
      rw [ofJson?, Option.some.injEq]
      constructor
      · rintro rfl
        exact ⟨fields, rfl, rfl⟩
      · rintro ⟨fields', hv, rfl⟩
        cases hv
        rfl
  | null | bool b | number n | string s | array items => simp [ofJson?]

/-- The typed reader gives the headers of the fields that are written. -/
theorem parse_decoder_iff_written {text : String} {h : ResponseHeaders} :
    decoder.parse text = .ok h ↔
      ∃ written, fieldReader.parse text = .ok written ∧ h = ofFields written := by
  have hmap : decoder = fieldReader.map ofFields := rfl
  rw [hmap, Json.Decoder.parse_map]
  cases fieldReader.parse text with
  | error e =>
      constructor
      · intro hread
        cases hread
      · rintro ⟨written, hread, -⟩
        cases hread
  | ok written =>
      constructor
      · intro hread
        cases hread
        exact ⟨written, rfl, rfl⟩
      · rintro ⟨written', hread, rfl⟩
        cases hread
        rfl

/-- Reading the document first gives the headers of the fields that it has. -/
theorem ofJson?_parse_iff_written {text : String} {h : ResponseHeaders} :
    (∃ v, Json.parse text = .ok v ∧ ofJson? v = some h) ↔
      ∃ written, fieldReader.parse text = .ok written ∧
        h = ofFields (.ofWritten written) := by
  simp only [ofJson?_eq_some_iff]
  constructor
  · rintro ⟨v, hread, fields, rfl, rfl⟩
    obtain ⟨written, hwritten, rfl⟩ := (Json.parse_object_iff _).1 hread
    exact ⟨written, hwritten, rfl⟩
  · rintro ⟨written, hwritten, rfl⟩
    exact ⟨_, (Json.parse_object_iff _).2 ⟨written, hwritten, rfl⟩, _, rfl, rfl⟩

/-- Headers are read from a text exactly if the text is a document and they are
read from it, unless the document is an object in which a name is written
twice. -/
theorem parse_decoder_iff_ofJson? {text : String}
    (hnames : ¬ WrittenTwice text) (h : ResponseHeaders) :
    decoder.parse text = .ok h ↔
      ∃ v, Json.parse text = .ok v ∧ ofJson? v = some h := by
  rw [parse_decoder_iff_written, ofJson?_parse_iff_written]
  refine exists_congr fun written => and_congr_right fun hwritten => ?_
  have hnodup : (written.map Prod.fst).Nodup := by
    by_contra htwice
    exact hnames ⟨written, hwritten, htwice⟩
  rw [Json.Fields.ofWritten_eq hnodup]

/-- Two spellings of one name, with sequences of which elements are dropped, and
a null. -/
theorem parse_decoder_iff_ofJson?_of_mixed :
    ∃ text h, ¬ WrittenTwice text ∧ decoder.parse text = .ok h ∧
      (∃ v, Json.parse text = .ok v ∧ ofJson? v = some h) ∧
      h.entries = [⟨"a", "true, y"⟩] := by
  have hwritten : fieldReader.parse ("\x7b\"A\":[\"x\",null,[1]]," ++
      "\"b\":null,\"a\":[true,\"y\"]\x7d") = .ok [
        ("A", .array [.string "x", .null,
          .array [.number (.integer (.ofUInt16 1))]]),
        ("b", .null),
        ("a", .array [.bool true, .string "y"])] := by
    cbv
  have hnames : ¬ WrittenTwice ("\x7b\"A\":[\"x\",null,[1]]," ++
      "\"b\":null,\"a\":[true,\"y\"]\x7d") := by
    rintro ⟨written, hread, htwice⟩
    rw [hwritten] at hread
    cases hread
    refine htwice ?_
    change ["A", "b", "a"].Nodup
    decide
  have hdocument := ofJson?_parse_iff_written.2 ⟨_, hwritten, rfl⟩
  refine ⟨_, _, hnames, (parse_decoder_iff_ofJson? hnames _).2 hdocument,
    hdocument, ?_⟩
  decide +kernel

end Invocation.ResponseHeaders
