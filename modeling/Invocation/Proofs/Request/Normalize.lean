import Invocation.Handler.Builtin
import Invocation.Proofs.Adapter.Run
import Invocation.Proofs.Header.Grouping
import Invocation.Proofs.Json.Documents
import Invocation.Proofs.Text.Utf8

/-!
# Requests read again

The document form of a request is itself an input: an envelope.  A request that
was made of an input comes back from it with its headers grouped by name, as
long as its body comes back, and then has the same document form.  This is so in
whatever form the input came, because a request that is made of any of them is
settled: an empty method or address is in it only as the default.
-/

namespace Invocation.Request

/-- What every request that is made of an input has. -/
structure Settled (config : Config) (r : Request) : Prop where
  body : r.body.Distinct
  method : r.method ≠ "" ∨ r.method = config.defaultMethod
  uri : r.uri ≠ "" ∨ r.uri = config.defaultUri

/-- The request with its headers grouped by name. -/
def grouped (r : Request) : Request := { r with headers := r.headers.grouped }

/-! ## Requests of inputs -/

theorem getD_textOf? (fields : Json.Fields) (name default : String) :
    (textOf? fields name).getD default ≠ "" ∨
      (textOf? fields name).getD default = default := by
  cases htext : textOf? fields name with
  | none => exact Or.inr rfl
  | some text =>
      have hne := (Option.filter_eq_some_iff.1 htext).2
      exact Or.inl (by simpa using hne)

theorem settled_ofBody (config : Config) {body : Json} (h : body.Distinct) :
    Settled config (ofBody config body) :=
  ⟨h, Or.inr rfl, Or.inr rfl⟩

/-- The value of a field of a document repeats no name either. -/
theorem distinct_get? {fields : Json.Fields} {name : String} {v : Json}
    (h : Json.Distinct (.object fields)) (hv : fields.get? name = some v) :
    v.Distinct := by
  obtain ⟨field, hfield, rfl⟩ := Option.map_eq_some_iff.1 hv
  have hmem := List.mem_of_find?_eq_some hfield
  exact fun inner hinner => h inner (.field hmem hinner)

theorem settled_document (config : Config) {v : Json} (h : v.Distinct) :
    Settled config (ofForm config (.ofParsed (.document v))) := by
  cases v with
  | object fields =>
      rw [Form.ofParsed]
      cases hbody : Json.Fields.get? fields "body" with
      | none => exact settled_ofBody config h
      | some body =>
          exact ⟨distinct_get? h hbody, getD_textOf? fields _ _,
            getD_textOf? fields _ _⟩
  | null => exact settled_ofBody config h
  | bool b => exact settled_ofBody config h
  | number n => exact settled_ofBody config h
  | string s => exact settled_ofBody config h
  | array items => exact settled_ofBody config h

/-- Whatever the input, its request is settled. -/
theorem settled_normalize (config : Config) (raw : List UInt8) :
    Settled config (normalize config raw) := by
  unfold normalize form Parsed.ofText
  cases hread : Json.read (Text.Utf8.decode raw).toList with
  | ok v => exact settled_document config (Json.read_distinct hread)
  | error e =>
      have hbody : Json.Distinct (.string (Text.Utf8.decode raw)) :=
        Json.distinct_scalar rfl
      exact settled_ofBody config hbody

/-! ## Requests of requests -/

theorem exact_toJson {r : Request} {depth : Nat}
    (h : r.body.Exact (depth + 2)) : r.toJson.Exact (depth + 3) := by
  constructor
  · change ["body", "headers", "method", "uri"].Nodup
    decide
  · intro field hfield
    simp only [List.mem_cons, List.not_mem_nil, or_false] at hfield
    rcases hfield with rfl | rfl | rfl | rfl
    · exact h
    · exact r.headers.exact_toJson depth
    · trivial
    · trivial

/-- A text that is empty only as the default is read as itself. -/
theorem getD_filter {text default : String} (h : text ≠ "" ∨ text = default) :
    ((some text).filter (· ≠ "")).getD default = text := by
  by_cases hempty : text = ""
  · rw [Option.filter_some, hempty]
    exact (h.resolve_left fun hne => hne hempty).symm.trans hempty
  · rw [Option.filter_some]
    simp [hempty]

/-- The text of a value that it says exactly is read as that document. -/
theorem form_encode {v : Json} (h : v.Exact Json.maxDepth) :
    form (Text.Utf8.encode v.text) = .ofParsed (.document v) := by
  have hread : Json.read v.text.toList = .ok v := by
    rw [Json.text, String.toList_ofList]
    exact Json.read_chars h
  rw [form, Text.Utf8.decode_encode, Parsed.ofText, hread]

/-- A settled request is read back from its document form, its headers
grouped. -/
theorem normalize_toJson {config : Config} {r : Request}
    (h : Settled config r) (hbody : r.body.Exact 126) :
    normalize config (Text.Utf8.encode r.toJson.text) = r.grouped := by
  rw [normalize, form_encode (exact_toJson hbody)]
  -- The document form is an envelope of the four fields.
  change Request.mk r.body (.ofJson r.headers.toJson)
    (((some r.method).filter (· ≠ "")).getD config.defaultMethod)
    (((some r.uri).filter (· ≠ "")).getD config.defaultUri) = r.grouped
  rw [r.headers.ofJson_toJson, getD_filter h.method, getD_filter h.uri]
  rfl

/-- Grouping the headers does not show in the document form. -/
theorem toJson_grouped (r : Request) : r.grouped.toJson = r.toJson := by
  have hheaders := r.headers.toJson_grouped
  rw [toJson, toJson, ← hheaders]
  rfl

/-- Grouping the headers shows in no look-up. -/
theorem grouped_same (r : Request) :
    r.grouped.body = r.body ∧ r.grouped.method = r.method ∧
    r.grouped.uri = r.uri ∧
    (∀ name, r.grouped.headers.getAll name = r.headers.getAll name) ∧
    r.grouped.toJson.text = r.toJson.text :=
  ⟨rfl, rfl, rfl, r.headers.getAll_grouped, by rw [toJson_grouped]⟩

/-! ## What is inspected -/

/-- Inspecting answers an input with the document form of its request. -/
theorem respond_inspect (scene : Scene) (config : Config) (raw : List UInt8)
    (w : World) :
    ∃ response, (respond scene config Builtin.inspect.handler raw w).1 =
        .ok response ∧
      response.body = (normalize config raw).toJson.text :=
  ⟨_, respond_eq scene config Builtin.inspect.handler raw w, rfl⟩

/-- What an input is answered with by inspecting is itself an input whose
request differs at most in the order of headers of different names, and it is
answered with itself.  The numbers of the body have to be integers, and it may
nest as deep as the reader allows inside an envelope. -/
theorem normalize_inspected (config : Config) (raw : List UInt8)
    (hintegral : (normalize config raw).body.Integral)
    (hnesting : (normalize config raw).body.nesting ≤ 126) :
    let r := normalize config raw
    let text := r.toJson.text
    let r' := normalize config (Text.Utf8.encode text)
    (∀ scene w, ∃ response,
      (respond scene config Builtin.inspect.handler raw w).1 = .ok response ∧
      response.body = text) ∧
    r'.body = r.body ∧ r'.method = r.method ∧ r'.uri = r.uri ∧
    (∀ name, r'.headers.getAll name = r.headers.getAll name) ∧
    r'.toJson.text = text := by
  intro r text r'
  have hsettled := settled_normalize config raw
  have hgrouped : r' = r.grouped := normalize_toJson hsettled
    (Json.exact_of_nesting hintegral hsettled.body hnesting)
  refine ⟨fun scene w => respond_inspect scene config raw w, ?_⟩
  rw [hgrouped]
  exact r.grouped_same

/-- An envelope without a method, of which the two spellings of one header stand
apart, under settings whose default method is empty. -/
theorem normalize_inspected_of_regrouped :
    let config : Config := { defaultMethod := "" }
    let raw := Text.Utf8.encode (Json.text (.object [
      ("method", .string ""),
      ("headers", .object [("A", .array [.string "1", .bool true]),
        ("b", .string "y"), ("a", .string "x")]),
      ("body", .array [.string "é", .number (.integer (.ofUInt16 7))])]))
    let text := (normalize config raw).toJson.text
    (normalize config (Text.Utf8.encode text)).toJson.text = text := by
  intro config raw
  have hbody : (normalize config raw).body =
      .array [.string "é", .number (.integer (.ofUInt16 7))] := by
    rw [normalize, form_encode (by simp [Json.Exact, Json.maxDepth])]
    rfl
  have hintegral : (normalize config raw).body.Integral := by
    rw [hbody]
    rintro n (_ | ⟨hmem, hinside⟩)
    simp only [List.mem_cons, List.not_mem_nil, or_false] at hmem
    rcases hmem with rfl | rfl
    · cases hinside
    · cases hinside
      exact ⟨_, rfl⟩
  have hnesting : (normalize config raw).body.nesting ≤ 126 := by
    rw [hbody]
    decide
  exact (normalize_inspected config raw hintegral hnesting).2.2.2.2.2

end Invocation.Request
