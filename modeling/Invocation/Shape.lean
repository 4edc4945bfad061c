import Invocation.Response
import Invocation.Request

/-!
# Shapes

The types that a body can be read as, each with its decoder and with the text in
which a value of it is written.
-/

namespace Invocation

/-- A record of one required text. -/
structure Contact where
  name : String := ""
  deriving DecidableEq, Repr

/-- A contact as a record. -/
def Contact.record : Json.Decoder.Record Contact where
  title := "Contact"
  start := {}
  fields := [.of "name" true .string fun v _ => ⟨v⟩]

/-- A type that a body can be read as. -/
inductive Shape where
  | value
  | string
  | int64
  | uint64
  | uint8
  | float
  | boolean
  | unit
  | int64List
  | int64Map
  | stringOption
  | contact
  | headers
  | response
  | config
  | logFormat
  deriving DecidableEq, Repr

namespace Shape

open Json (Decoder)

/-- The shapes by name. -/
def known : List (String × Shape) :=
  [("value", .value), ("string", .string), ("i64", .int64), ("u64", .uint64),
    ("u8", .uint8), ("f64", .float), ("bool", .boolean), ("unit", .unit),
    ("list_i64", .int64List), ("map_i64", .int64Map),
    ("option_string", .stringOption), ("contact", .contact),
    ("headers", .headers), ("response", .response), ("config", .config),
    ("log_format", .logFormat)]

/-- The shape of a name. -/
def ofName? (name : String) : Option Shape :=
  (known.find? (·.1 == name)).map Prod.snd

/-- The values of a shape. -/
def Carrier : Shape → Type
  | value => Json
  | string => String
  | int64 => Int64
  | uint64 => UInt64
  | uint8 => UInt8
  | float => Binary64
  | boolean => Bool
  | unit => Unit
  | int64List => List Int64
  | int64Map => List (String × Int64)
  | stringOption => Option String
  | contact => Contact
  | headers => ResponseHeaders
  | response => Response
  | config => Config
  | logFormat => LogFormat

/-- The decoder of signed words. -/
def int64Decoder : Decoder Int64 := .integer "i64" Decoder.int64?

/-- Adds an entry to entries in the order of their names; a name that is there
gets the new value. -/
def putSorted (entry : String × Int64) :
    List (String × Int64) → List (String × Int64)
  | [] => [entry]
  | e :: rest =>
    if entry.1 = e.1 then entry :: rest
    else if entry.1 < e.1 then entry :: e :: rest
    else e :: putSorted entry rest

/-- Entries in the order of their names, each name with its last value. -/
def sortEntries (entries : List (String × Int64)) : List (String × Int64) :=
  entries.foldl (fun done entry => putSorted entry done) []

/-- The decoder of a shape. -/
def decoder : (s : Shape) → Decoder s.Carrier
  | value => .any
  | string => .string
  | int64 => int64Decoder
  | uint64 => .integer "u64" (Decoder.unsigned? UInt64.size UInt64.ofNat)
  | uint8 => .integer "u8" (Decoder.unsigned? UInt8.size UInt8.ofNat)
  | float => .float
  | boolean => .boolean
  | unit => .unit
  | int64List => .list int64Decoder
  | int64Map => (Decoder.entries "a map" int64Decoder).map sortEntries
  | stringOption => .option .string
  | contact => Contact.record.decoder
  | headers => ResponseHeaders.decoder
  | response => Response.decoder
  | config => Config.decoder
  | logFormat => LogFormat.decoder

/-- A signed word as a value. -/
def int64Json (n : Int64) : Json :=
  .number (.integer ⟨n.toInt, by
    have h1 := n.le_toInt
    have h2 := n.toInt_lt
    omega⟩)

/-- The document form of a value of a shape. -/
def toJson : (s : Shape) → s.Carrier → Json
  | value, v => v
  | string, s => .string s
  | int64, n => int64Json n
  | uint64, n => .number (.integer (.ofUInt64 n))
  | uint8, n => .number (.integer (.ofUInt16 n.toUInt16))
  | float, x => .number (.float x)
  | boolean, b => .bool b
  | unit, _ => .null
  | int64List, ns => .array (ns.map int64Json)
  | int64Map, es => .object (es.map fun (name, n) => (name, int64Json n))
  | stringOption, v => (v.map Json.string).getD .null
  | contact, c => .object [("name", .string c.name)]
  | headers, h => h.toJson
  | response, r => r.toJson
  | config, c => c.toJson
  | logFormat, f => .string f.name

/-- The body of a request read as a shape and written again. -/
def reread (s : Shape) (r : Request) : Except AdapterError String :=
  (r.decode s.decoder).map fun v => (s.toJson v).text

end Shape
end Invocation
