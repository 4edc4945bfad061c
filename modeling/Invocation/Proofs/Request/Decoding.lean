import Invocation.Shape
import Invocation.Proofs.Json.Records
import Invocation.Proofs.Request.Normalize

/-!
# Bodies of text and bodies of values

A body that is not a text is converted to a type, and a body of text is read as
a document of that type.  What comes out is the same if the text is the compact
text of the value: the typed readers of all shapes are made of combinators whose
two ways agree, and the body of a request that was made of an input is a text or
stands inside a document that was read, so that its own text says it exactly
unless it has floating point numbers.
-/

namespace Invocation

open Json (Decoder)

/-! ## Shapes -/

theorem Contact.agrees_decoder : Contact.record.decoder.Agrees :=
  Decoder.Record.agrees_single rfl Decoder.agrees_string

theorem ResponseHeaders.agrees_decoder : ResponseHeaders.decoder.Agrees :=
  Decoder.agrees_map (Decoder.agrees_entries _ Decoder.agrees_any) _

theorem Response.agrees_decoder : Response.decoder.Agrees := by
  refine Decoder.Record.agrees_decoder _ fun f hf => ?_
  simp only [record, List.mem_cons, List.not_mem_nil, or_false] at hf
  rcases hf with rfl | rfl | rfl
  · exact Decoder.agrees_map (Decoder.agrees_number _ _) _
  · exact Decoder.agrees_map ResponseHeaders.agrees_decoder _
  · exact Decoder.agrees_map Decoder.agrees_string _

theorem LogFormat.agrees_decoder : LogFormat.decoder.Agrees :=
  Decoder.agrees_variant _

theorem Config.agrees_decoder : Config.decoder.Agrees := by
  have hstring : ∀ put : String → Config → Config,
      (Decoder.string.map put).Agrees :=
    fun put => Decoder.agrees_map Decoder.agrees_string put
  refine Decoder.Record.agrees_decoder _ fun f hf => ?_
  simp only [record, List.mem_cons, List.not_mem_nil, or_false] at hf
  rcases hf with rfl | rfl | rfl | rfl | rfl | rfl | rfl | rfl | rfl
  · exact hstring _
  · exact Decoder.agrees_map (Decoder.agrees_number _ _) _
  · exact hstring _
  · exact hstring _
  · exact hstring _
  · exact Decoder.agrees_map Decoder.agrees_boolean _
  · exact Decoder.agrees_map (Decoder.agrees_option Decoder.agrees_string) _
  · exact hstring _
  · exact Decoder.agrees_map LogFormat.agrees_decoder _

theorem Shape.agrees_decoder (s : Shape) : s.decoder.Agrees := by
  cases s with
  | value => exact Decoder.agrees_any
  | string => exact Decoder.agrees_string
  | int64 => exact Decoder.agrees_number _ _
  | uint64 => exact Decoder.agrees_number _ _
  | uint8 => exact Decoder.agrees_number _ _
  | float => exact Decoder.agrees_number _ _
  | boolean => exact Decoder.agrees_boolean
  | unit => exact Decoder.agrees_unit
  | int64List => exact Decoder.agrees_list (Decoder.agrees_number _ _)
  | int64Map =>
      exact Decoder.agrees_map
        (Decoder.agrees_entries _ (Decoder.agrees_number _ _)) _
  | stringOption => exact Decoder.agrees_option Decoder.agrees_string
  | contact => exact Contact.agrees_decoder
  | headers => exact ResponseHeaders.agrees_decoder
  | response => exact Response.agrees_decoder
  | config => exact Config.agrees_decoder
  | logFormat => exact LogFormat.agrees_decoder

/-! ## Whole texts -/

/-- Converting a value and reading its text come to the same. -/
theorem Json.Decoder.Agrees.convert_or {α : Type} {d : Decoder α}
    (hd : d.Agrees) {v : Json} (h : v.Exact Json.maxDepth) :
    (∃ x, d.convert v = .ok x ∧ d.parse v.text = .ok x) ∨
      ∃ m e, d.convert v = .error m ∧ d.parse v.text = .error e := by
  have hread := hd Json.maxDepth v h [] Json.endsNumber_nil
  rw [List.append_nil] at hread
  rw [Json.Decoder.convert, Json.Decoder.parse, Json.text, String.toList_ofList,
    Json.Decoder.read]
  rcases hread with ⟨x, hvalue, htext⟩ | ⟨m, e, hvalue, htext⟩
  · rw [hvalue, htext]
    exact Or.inl ⟨x, rfl, rfl⟩
  · rw [hvalue, htext]
    exact Or.inr ⟨_, _, rfl, rfl⟩

namespace Request

/-! ## Bodies -/

/-- The request with the text of its body for the body. -/
def textual (r : Request) : Request := { r with body := .string r.body.text }

theorem inside_get? {fields : Json.Fields} {name : String} {v : Json}
    (h : fields.get? name = some v) : Json.Inside v (.object fields) := by
  obtain ⟨field, hfield, rfl⟩ := Option.map_eq_some_iff.1 h
  exact .field (List.mem_of_find?_eq_some hfield) .self

theorem body_document (config : Config) (v : Json) :
    Json.Inside (ofForm config (.ofParsed (.document v))).body v := by
  cases v with
  | object fields =>
      rw [Form.ofParsed]
      cases hbody : Json.Fields.get? fields "body" with
      | none => exact .self
      | some body => exact inside_get? hbody
  | null => exact .self
  | bool b => exact .self
  | number n => exact .self
  | string s => exact .self
  | array items => exact .self

/-- No body nests deeper than a reader allows. -/
theorem nesting_normalize (config : Config) (raw : List UInt8) :
    (normalize config raw).body.nesting ≤ Json.maxDepth := by
  unfold normalize form Parsed.ofText
  cases hread : Json.read (Text.Utf8.decode raw).toList with
  | ok v =>
      exact (Json.nesting_inside (body_document config v)).trans
        (Json.read_nesting hread)
  | error e => exact Nat.zero_le _

theorem exact_normalize {config : Config} {raw : List UInt8}
    (hintegral : (normalize config raw).body.Integral) :
    (normalize config raw).body.Exact Json.maxDepth :=
  Json.exact_of_nesting hintegral (settled_normalize config raw).body
    (nesting_normalize config raw)

theorem decode_of_not_string {α : Type} (d : Decoder α) {r : Request}
    (h : ∀ s, r.body ≠ .string s) :
    r.decode d = (d.convert r.body).mapError .body := by
  unfold decode
  split
  case h_1 s heq => exact absurd heq (h s)
  case h_2 => rfl

/-- A body that is not a text is decoded as what it is converted to. -/
theorem decode_value_iff {α : Type} {d : Decoder α} {r : Request} {x : α}
    (h : ∀ s, r.body ≠ .string s) :
    r.decode d = .ok x ↔ d.ofJson r.body = .ok x := by
  rw [decode_of_not_string d h, ← Decoder.convert_eq_ok_iff]
  cases d.convert r.body <;> simp [Except.mapError]

/-- A body of text is decoded as what the text holds. -/
theorem decode_text_iff {α : Type} {d : Decoder α} {r : Request} {x : α}
    {text : String} (h : r.body = .string text) :
    r.decode d = .ok x ↔ d.parse text = .ok x := by
  have hdecode : r.decode d = (d.parse text).mapError .body := by
    rw [decode, h]
  rw [hdecode]
  cases d.parse text <;> simp [Except.mapError]

/-- What a body that is not a text is decoded as does not depend on whether the
body is held as a value or as the compact text of that value, as long as its
numbers are integers: both succeed alike, or both fail for the body. -/
theorem decode_textual (config : Config) (raw : List UInt8)
    (hvalue : ∀ s, (normalize config raw).body ≠ .string s)
    (hintegral : (normalize config raw).body.Integral) (s : Shape) :
    let r := normalize config raw
    (∀ x, r.decode s.decoder = .ok x ↔ r.textual.decode s.decoder = .ok x) ∧
      ((∀ x, r.decode s.decoder ≠ .ok x) →
        ∃ detail detail', r.decode s.decoder = .error (.body detail) ∧
          r.textual.decode s.decoder = .error (.body detail')) := by
  intro r
  have hexact : r.body.Exact Json.maxDepth := exact_normalize hintegral
  have hdecode := decode_of_not_string s.decoder hvalue
  have htextual : r.textual.decode s.decoder =
      (s.decoder.parse r.body.text).mapError .body := rfl
  rw [hdecode, htextual]
  rcases s.agrees_decoder.convert_or hexact with
    ⟨y, hconvert, hparse⟩ | ⟨m, e, hconvert, hparse⟩
  · rw [hconvert, hparse]
    exact ⟨fun x => Iff.rfl, fun hfails => absurd rfl (hfails y)⟩
  · rw [hconvert, hparse]
    refine ⟨fun x => ⟨fun h => ?_, fun h => ?_⟩, fun _ => ⟨m, e, rfl, rfl⟩⟩
    · cases h
    · cases h

/-- An array of the first two fields of a response is a response and no
contact. -/
theorem decode_textual_of_array :
    let raw := Text.Utf8.encode (Json.text (.array [
      .number (.integer (.ofUInt16 201)),
      .object [("A", .array [.string "é", .null])]]))
    let r := normalize {} raw
    (∃ x : Response, r.textual.decode Shape.response.decoder = .ok x ∧
      x.status = 201) ∧
    ∃ detail, r.textual.decode Shape.contact.decoder = .error (.body detail) := by
  intro raw r
  have hbody : (normalize {} raw).body = .array [
      .number (.integer (.ofUInt16 201)),
      .object [("A", .array [.string "é", .null])]] := by
    rw [normalize, form_encode (by simp [Json.Exact, Json.maxDepth])]
    rfl
  have hvalue : ∀ s, (normalize {} raw).body ≠ .string s := by simp [hbody]
  have hintegral : (normalize {} raw).body.Integral := by
    rw [hbody]
    rintro n (_ | ⟨hmem, hinside⟩)
    simp only [List.mem_cons, List.not_mem_nil, or_false] at hmem
    rcases hmem with rfl | rfl
    · cases hinside
      exact ⟨_, rfl⟩
    · obtain _ | _ | ⟨hfield, hinside⟩ := hinside
      obtain rfl := List.mem_singleton.1 hfield
      obtain _ | ⟨hmem, hinside⟩ := hinside
      simp only [List.mem_cons, List.not_mem_nil, or_false] at hmem
      rcases hmem with rfl | rfl
      · cases hinside
      · cases hinside
  have hresponse : ∃ x : Response,
      r.decode Shape.response.decoder = .ok x ∧ x.status = 201 := by
    rw [decode_of_not_string _ hvalue, hbody]
    exact ⟨_, rfl, rfl⟩
  have hcontact : ∀ x : Contact, r.decode Shape.contact.decoder ≠ .ok x := by
    rw [decode_of_not_string _ hvalue, hbody]
    intro x hx
    cases hx
  constructor
  · obtain ⟨x, hx, hstatus⟩ := hresponse
    exact ⟨x, ((decode_textual {} raw hvalue hintegral .response).1 x).1 hx,
      hstatus⟩
  · obtain ⟨-, detail, -, htext⟩ :=
      (decode_textual {} raw hvalue hintegral .contact).2 hcontact
    exact ⟨detail, htext⟩

end Request
end Invocation
