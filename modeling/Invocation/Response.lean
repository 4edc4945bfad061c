import Invocation.Header

/-!
# Responses

A response is a status, headers and a body that is always text, also when it
carries JSON.  On the wire it is one JSON object with these three fields in this
order.
-/

namespace Invocation

/-- A response. -/
structure Response where
  status : UInt16 := 200
  headers : ResponseHeaders := .empty
  body : String := ""

namespace Response

/-- The header that every finished response has. -/
def contentType : String := "Content-Type"

/-- The header of the runtime tag. -/
def runtimeTag : String := "X-Runtime"

/-- A response with status 200 and no headers. -/
def ok (body : String) : Response := { body }

/-- The response with one more header. -/
def withHeader (r : Response) (name value : String) : Response :=
  { r with headers := r.headers.insert name value }

/-- A response of plain text. -/
def text (status : UInt16) (body : String) : Response :=
  { status, body : Response }.withHeader contentType "text/plain; charset=utf-8"

/-- A response whose body is a JSON value. -/
def json (status : UInt16) (v : Json) : Response :=
  { status, body := v.text : Response }.withHeader contentType
    "application/json"

/-- A response as a record of optional fields. -/
def record : Json.Decoder.Record Response where
  title := "Response"
  start := {}
  fields := [
    .of "status" false
      (.integer "u16" (Json.Decoder.unsigned? UInt16.size UInt16.ofNat))
      fun v r => { r with status := v },
    .of "headers" false ResponseHeaders.decoder
      fun v r => { r with headers := v },
    .of "body" false .string fun v r => { r with body := v }]

/-- The typed reader of responses. -/
def decoder : Json.Decoder Response := record.decoder

/-- The document form. -/
def toJson (r : Response) : Json :=
  .object [
    ("status", .number (.integer (.ofUInt16 r.status))),
    ("headers", r.headers.toJson),
    ("body", .string r.body)]

/-- The text of a response on the wire. -/
def wire (r : Response) : String := r.toJson.text

/-- The bytes of a response on the wire. -/
def bytes (r : Response) : List UInt8 := Text.Utf8.encode r.wire

/-- The text of a body: strings stand for themselves, any other value for its
compact text. -/
def bodyText : Json → String
  | .string s => s
  | v => v.text

/-- The status of a field: an integer from 100 to 999. -/
def statusOf? (fields : Json.Fields) : Option UInt16 :=
  match (fields.get? "status").bind Json.integer? with
  | some n =>
    if 100 ≤ n.val ∧ n.val ≤ 999 then some (UInt16.ofNat n.val.toNat) else none
  | none => none

/-- The headers of a field: none when it is absent or null. -/
def headersOf? (fields : Json.Fields) : Option ResponseHeaders :=
  match fields.get? "headers" with
  | none | some .null => some .empty
  | some v => ResponseHeaders.ofJson? v

/-- The body of a field: empty when it is absent or null. -/
def bodyOf (fields : Json.Fields) : String :=
  match fields.get? "body" with
  | none | some .null => ""
  | some v => bodyText v

/-- Reads the fields of an object as a response.  The status has to be there and
in range, and headers have to be an object. -/
def ofFields? (fields : Json.Fields) : Option Response :=
  match statusOf? fields, headersOf? fields with
  | some status, some headers =>
    some { status, headers, body := bodyOf fields }
  | _, _ => none

end Response
end Invocation
