import Invocation.Proofs.Header.Scalars
import Invocation.Proofs.Json.Fields
import Invocation.Proofs.Request.Cut
import Invocation.Proofs.Request.Normalize

/-!
# Envelopes

Of the fields of an envelope only four are read, and each of them is looked up
by its name.  As no name stands twice in what was read, the request is the same
for the same four fields, wherever they stand and whatever other fields stand
among them.  It is also the same when the body is taken out first and the others
are looked up in what is left.
-/

namespace Invocation

namespace Request

/-- The names of the fields that an envelope is read by. -/
def envelopeNames : List String := ["body", "headers", "method", "uri"]

/-- Fields said in another way: in another order, and with fields added or left
out that an envelope is not read by. -/
inductive Restated : Json.Fields → Json.Fields → Prop
  | reordered {fields fields' : Json.Fields} (hperm : fields.Perm fields') :
      Restated fields fields'
  | added {fields : Json.Fields} {name : String} (v : Json)
      (hother : name ∉ envelopeNames) : Restated fields ((name, v) :: fields)
  | removed {fields : Json.Fields} {name : String} (v : Json)
      (hother : name ∉ envelopeNames) : Restated ((name, v) :: fields) fields
  | trans {fields fields' fields'' : Json.Fields}
      (h : Restated fields fields') (h' : Restated fields' fields'') :
      Restated fields fields''

/-- A text that fields tell: that of the field of this name if it is a string
and not empty, and otherwise the default. -/
inductive TellText (fields : Json.Fields) (name default : String) :
    String → Prop
  | told {s : String} (hfield : (name, .string s) ∈ fields) (hne : s ≠ "") :
      TellText fields name default s
  | untold (h : ∀ s, (name, .string s) ∈ fields → s = "") :
      TellText fields name default default

/-- The headers that fields tell: those that the fields of the headers give if
the headers are an object, and otherwise none. -/
inductive TellHeaders (fields : Json.Fields) : List Header → Prop
  | told {given : Json.Fields} {headers : List Header}
      (hfield : ("headers", .object given) ∈ fields)
      (hgiven : Header.Flattened given headers) : TellHeaders fields headers
  | untold (h : ∀ given, ("headers", .object given) ∉ fields) :
      TellHeaders fields []

/-! ## Looking fields up -/

/-- However fields are said, those that an envelope is read by are the same. -/
theorem Restated.perm {fields fields' : Json.Fields}
    (h : Restated fields fields') :
    (fields.filter (envelopeNames.contains ·.1)).Perm
      (fields'.filter (envelopeNames.contains ·.1)) := by
  induction h with
  | reordered hperm => exact hperm.filter _
  | added v hother => simp [hother]
  | removed v hother => simp [hother]
  | trans h h' ih ih' => exact ih.trans ih'

theorem Restated.get? {fields fields' : Json.Fields}
    (h : Restated fields fields') (hnames : (fields.map Prod.fst).Nodup)
    {name : String} (hname : name ∈ envelopeNames) :
    fields.get? name = fields'.get? name := by
  have hkeep : envelopeNames.contains name = true := by simpa using hname
  have hkept : ((fields.filter (envelopeNames.contains ·.1)).map
      Prod.fst).Nodup :=
    hnames.sublist (List.filter_sublist.map Prod.fst)
  rw [← Json.Fields.get?_filter envelopeNames.contains hkeep fields,
    ← Json.Fields.get?_filter envelopeNames.contains hkeep fields']
  exact Json.Fields.get?_perm h.perm hkept name

/-- The request of an envelope is made of its body and of what is found under
the names of the other fields. -/
theorem ofForm_congr (config : Config) {fields fields' : Json.Fields}
    (h : ∀ name ∈ ["headers", "method", "uri"],
      fields.get? name = fields'.get? name) (body : Json) :
    ofForm config (.envelope fields body) =
      ofForm config (.envelope fields' body) := by
  have hheaders := h "headers" (by simp)
  have hmethod := h "method" (by simp)
  have huri := h "uri" (by simp)
  rw [ofForm, ofForm, headersOf, headersOf, textOf?, textOf?, textOf?, textOf?,
    hheaders, hmethod, huri]

section Document

variable {raw : List UInt8} {fields : Json.Fields} {body : Json}

/-- What was read repeats no name. -/
theorem nodup_names_of_document
    (hread : Parsed.ofText (Text.Utf8.decode raw) =
      .document (.object fields)) : (fields.map Prod.fst).Nodup :=
  Json.read_distinct (read_of_ofText hread) fields .self

theorem normalize_of_document (config : Config)
    (hread : Parsed.ofText (Text.Utf8.decode raw) = .document (.object fields))
    (hbody : fields.get? "body" = some body) :
    normalize config raw = ofForm config (.envelope fields body) := by
  rw [normalize, form, hread, Form.ofParsed, hbody]

theorem tellText_textOf? (hnames : (fields.map Prod.fst).Nodup)
    (name default : String) :
    TellText fields name default ((textOf? fields name).getD default) := by
  have hstring : ∀ s, (name, Json.string s) ∈ fields ↔
      (fields.get? name).bind Json.string? = some s := by
    intro s
    rw [← Json.Fields.get?_eq_some_iff hnames]
    cases fields.get? name with
    | none => simp
    | some v => cases v <;> simp [Json.string?]
  unfold textOf?
  cases htext : (fields.get? name).bind Json.string? with
  | none =>
      refine .untold fun s hfield => ?_
      rw [hstring, htext] at hfield
      cases hfield
  | some s =>
      by_cases hempty : s = ""
      · subst hempty
        refine .untold fun t hfield => ?_
        rw [hstring, htext] at hfield
        exact (Option.some.inj hfield).symm
      · rw [Option.filter_some, if_pos (by simpa using hempty)]
        exact .told ((hstring s).2 htext) hempty

theorem tellHeaders_headersOf (hnames : (fields.map Prod.fst).Nodup) :
    TellHeaders fields (headersOf fields).entries := by
  have hfield : ∀ v, ("headers", v) ∈ fields ↔
      fields.get? "headers" = some v :=
    fun v => (Json.Fields.get?_eq_some_iff hnames).symm
  unfold headersOf
  by_cases hobject : ∃ given, ("headers", Json.object given) ∈ fields
  · obtain ⟨given, hgiven⟩ := hobject
    rw [(hfield _).1 hgiven]
    exact .told hgiven (RequestHeaders.entries_ofJson_iff.1 rfl)
  · have hnone : ((fields.get? "headers").map RequestHeaders.ofJson).getD {} =
        ({} : RequestHeaders) := by
      cases hget : fields.get? "headers" with
      | none => rfl
      | some v =>
          cases v with
          | object given => exact absurd ⟨given, (hfield _).2 hget⟩ hobject
          | null | bool b | number n | string s | array items => rfl
    rw [hnone]
    exact .untold fun given h => hobject ⟨given, h⟩

/-- A document that is an object with a body is read by four of its fields.  The
body is the value of its field, method and address are the texts of theirs or the
defaults, and the headers are the scalars in theirs.  The others are found as
well in what is left of the fields when the body has been taken out, in whatever
order that is.  A document that says the fields in another order, or with other
fields added or left out, gives the same request. -/
theorem normalize_envelope
    (hread : Parsed.ofText (Text.Utf8.decode raw) = .document (.object fields))
    (hbody : ("body", body) ∈ fields) (config : Config) :
    let r := normalize config raw
    r.body = body ∧
    TellText fields "method" config.defaultMethod r.method ∧
    TellText fields "uri" config.defaultUri r.uri ∧
    TellHeaders fields r.headers.entries ∧
    (∀ rest, fields.Perm (("body", body) :: rest) →
      ofForm config (.envelope rest body) = r) ∧
    ∀ raw' fields', Restated fields fields' →
      Parsed.ofText (Text.Utf8.decode raw') = .document (.object fields') →
      normalize config raw' = r := by
  intro r
  have hnames := nodup_names_of_document hread
  have hget := (Json.Fields.get?_eq_some_iff hnames).2 hbody
  have hr : r = ofForm config (.envelope fields body) :=
    normalize_of_document config hread hget
  rw [hr]
  refine ⟨rfl, tellText_textOf? hnames _ _, tellText_textOf? hnames _ _,
    tellHeaders_headersOf hnames, fun rest hperm => ?_,
    fun raw' fields' hrestated hread' => ?_⟩
  · -- None of the other names is that of the body.
    refine ofForm_congr config (fun name hname => ?_) body
    have hother : "body" ≠ name := by
      rintro rfl
      exact absurd hname (by decide)
    rw [Json.Fields.get?_perm hperm hnames]
    simp [Json.Fields.get?, hother]
  · have hsame : ∀ name ∈ envelopeNames,
        fields.get? name = fields'.get? name :=
      fun name hname => hrestated.get? hnames hname
    have hget' : fields'.get? "body" = some body := by
      rw [← hsame "body" (by decide), hget]
    rw [normalize_of_document config hread' hget']
    refine ofForm_congr config (fun name hname => ?_) body
    exact (hsame name (List.mem_cons_of_mem "body" hname)).symm

end Document

/-- An envelope without a usable method and address, whose headers have an array
and a value without a text, said from its end to its beginning, without a field
that it had and with another. -/
theorem normalize_envelope_of_reversed :
    let raw := Text.Utf8.encode ("\x7b\"x\":1,\"uri\":\"\",\"body\":null," ++
      "\"headers\":\x7b\"A\":[1,null],\"a\":true\x7d\x7d")
    let raw' := Text.Utf8.encode (" \x7b\"y\":\x7b\x7d, \"headers\": " ++
      "\x7b\"A\":[1,null],\"a\":true\x7d, \"body\":null,\"uri\":\"\"\x7d")
    normalize {} raw' = normalize {} raw ∧
      (normalize {} raw).body = .null ∧
      (normalize {} raw).headers.entries = [⟨"A", "1"⟩, ⟨"a", "true"⟩] := by
  intro raw raw'
  let given : Json.Fields := [
    ("A", .array [.number (.integer (.ofUInt16 1)), .null]),
    ("a", .bool true)]
  let fields : Json.Fields :=
    [("uri", .string ""), ("body", .null), ("headers", .object given)]
  let x : String × Json := ("x", .number (.integer (.ofUInt16 1)))
  have hread : Parsed.ofText (Text.Utf8.decode raw) =
      .document (.object (x :: fields)) := by
    rw [Text.Utf8.decode_encode]
    cbv
  have hread' : Parsed.ofText (Text.Utf8.decode raw') =
      .document (.object (("y", .object []) :: fields.reverse)) := by
    rw [Text.Utf8.decode_encode]
    cbv
  have hrestated : Restated (x :: fields)
      (("y", .object []) :: fields.reverse) :=
    (Restated.removed x.2 (by decide)).trans
      ((Restated.reordered fields.reverse_perm.symm).trans
        (.added _ (by decide)))
  have hbody : ("body", Json.null) ∈ x :: fields := by simp [fields]
  obtain ⟨hvalue, -, -, htold, -, hsame⟩ := normalize_envelope hread hbody {}
  refine ⟨hsame raw' _ hrestated hread', hvalue, ?_⟩
  generalize (normalize {} raw).headers.entries = entries at htold ⊢
  cases htold with
  | @told given' _ hfield hgiven =>
      obtain rfl : given' = given := by simpa [x, fields] using hfield
      rw [← RequestHeaders.entries_ofJson_iff.2 hgiven]
      rfl
  | untold h => exact absurd (by simp [fields]) (h given)

end Request
end Invocation
