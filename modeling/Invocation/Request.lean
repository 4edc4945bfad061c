import Invocation.Config
import Invocation.Failure
import Invocation.Header
import Invocation.Text.Utf8

/-!
# Requests

A request is read loosely from the bytes that arrived, and no bytes are refused.
A JSON object with a body is an envelope, whose other fields are read as far as
they have the right shape; any other JSON value is the body as a whole; and a
text that is no JSON is a body of text.
-/

namespace Invocation

/-- A request as the handler sees it. -/
structure Request where
  body : Json
  headers : RequestHeaders
  method : String
  uri : String

/-- What a text was read as. -/
inductive Parsed where
  | document (v : Json)
  | unparsed (text : String)

namespace Parsed

/-- Reads a text as a JSON document, if it is one. -/
def ofText (text : String) : Parsed :=
  match Json.read text.toList with
  | .ok v => .document v
  | .error _ => .unparsed text

end Parsed

namespace Request

/-- The form in which the input came. -/
inductive Form where
  | envelope (fields : Json.Fields) (body : Json)
  | whole (v : Json)
  | raw (text : String)

/-- The form of an input.  Only an object that has a body is an envelope. -/
def Form.ofParsed : Parsed → Form
  | .document (.object fields) =>
    match Json.Fields.get? fields "body" with
    | some body => .envelope fields body
    | none => .whole (.object fields)
  | .document v => .whole v
  | .unparsed text => .raw text

/-- The text of a field that is a string and not empty. -/
def textOf? (fields : Json.Fields) (name : String) : Option String :=
  ((fields.get? name).bind Json.string?).filter (· ≠ "")

/-- The headers of a field; a field that is absent has none. -/
def headersOf (fields : Json.Fields) : RequestHeaders :=
  ((fields.get? "headers").map RequestHeaders.ofJson).getD {}

/-- A request that says nothing but its body. -/
def ofBody (config : Config) (body : Json) : Request where
  body := body
  headers := {}
  method := config.defaultMethod
  uri := config.defaultUri

/-- The request of an input. -/
def ofForm (config : Config) : Form → Request
  | .envelope fields body =>
    { body
      headers := headersOf fields
      method := (textOf? fields "method").getD config.defaultMethod
      uri := (textOf? fields "uri").getD config.defaultUri }
  | .whole v => ofBody config v
  | .raw text => ofBody config (.string text)

/-- The form of the bytes that arrived. -/
def form (raw : List UInt8) : Form :=
  .ofParsed (.ofText (Text.Utf8.decode raw))

/-- The request of the bytes that arrived. -/
def normalize (config : Config) (raw : List UInt8) : Request :=
  ofForm config (form raw)

/-- The request of no input, under the default settings. -/
def empty : Request := ofBody {} (.string "")

/-- The first value of a header. -/
def header (r : Request) (name : String) : String := r.headers.first name

/-- The body as text: strings stand for themselves, any other value for its
compact text. -/
def bodyText (r : Request) : String :=
  match r.body with
  | .string s => s
  | v => v.text

/-- The document form. -/
def toJson (r : Request) : Json :=
  .object [
    ("body", r.body),
    ("headers", r.headers.toJson),
    ("method", .string r.method),
    ("uri", .string r.uri)]

/-- The body read as a type: a body of text is a document to be read, any other
value is converted. -/
def decode {α : Type} (d : Json.Decoder α) (r : Request) :
    Except AdapterError α :=
  (match r.body with
    | .string s => d.parse s
    | v => d.convert v).mapError .body

end Request
end Invocation
