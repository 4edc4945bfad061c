import Invocation.Diagnostics.Filter

/-!
# Reports

What a subscriber writes of the events it is shown: a line of text or a JSON
object for each.  An invocation is shown around its events only when the filter
lets it open a span.  Times are left to whoever writes the report.
-/

namespace Invocation

/-- A reader of diagnostics: what it is shown and in which form. -/
structure Subscriber where
  filter : Filter
  format : LogFormat

namespace Subscriber

/-- The variable of the environment that holds a filter. -/
def environmentVariable : String := "FNSHIM_LOG"

/-- The subscriber of a configuration, unless no filter is in force. -/
def ofConfig (environment : Option String) (config : Config) :
    Option Subscriber :=
  (Filter.inForce environment config).map (⟨·, config.logFormat⟩)

/-- The function whose invocation is shown around an event. -/
def span? (s : Subscriber) (e : Entry) : Option String :=
  if s.filter.opensSpan then e.invocation else none

/-- The entries that are shown, each with the invocation shown around it. -/
def shown (s : Subscriber) (trace : List Entry) : List Entry :=
  (trace.filter s.filter.shows).map fun e => ⟨s.span? e, e.event⟩

/-- The form of a character in the message of a line.  Characters that steer a
terminal are shown by number. -/
def messageChar (c : Char) : List Char :=
  if c = '\x1b' ∨ c = '\x07' ∨ c = '\x08' ∨ c = '\x0c' ∨ c = '\x7f' then
    '\\' :: 'x' :: [Nat.digitChar (c.toNat / 16), Nat.digitChar (c.toNat % 16)]
  else if 0x80 ≤ c.toNat ∧ c.toNat ≤ 0x9F then
    ['\\', 'u', '\x7b'] ++ Nat.toDigits 16 c.toNat ++ ['\x7d']
  else [c]

/-- The text of a field's value. -/
def valueText : FieldValue → String
  | .text s => s
  | .count n => toString n

/-- The name of a level, right-aligned in five columns. -/
def levelColumn (l : Level) : String :=
  String.ofList (List.replicate (5 - l.name.length) ' ') ++ l.name

/-- The line of an entry, without its end. -/
def line (e : Entry) : String :=
  let around :=
    match e.invocation with
    | none => ""
    | some function =>
      Filter.spanName ++ "\x7b" ++ Filter.spanField ++ "=" ++ function ++
        "\x7d: "
  let message := String.ofList (e.event.message.toList.flatMap messageChar)
  let fields := e.event.fields.map fun (name, v) =>
    " " ++ name ++ "=" ++ valueText v
  levelColumn e.event.level ++ " " ++ around ++ e.event.target ++ ": " ++
    message ++ String.join fields

/-- A count as a JSON value. -/
def countJson (n : Nat) : Json :=
  match Integer.ofInt? n with
  | some n => .number (.integer n)
  | none => .number (.float (.ofInt n))

/-- The JSON value of a field. -/
def valueJson : FieldValue → Json
  | .text s => .string s
  | .count n => countJson n

/-- The JSON object of an entry. -/
def object (e : Entry) : Json :=
  let fields := e.event.fields.map fun (name, v) => (name, valueJson v)
  let around :=
    match e.invocation with
    | none => []
    | some function =>
      let span := Json.object
        [(Filter.spanField, .string function),
          ("name", .string Filter.spanName)]
      [("span", span), ("spans", .array [span])]
  .object <|
    [("level", .string e.event.level.name),
      ("fields", .object (("message", .string e.event.message) :: fields)),
      ("target", .string e.event.target)] ++ around

/-- What is written of an entry, in the subscriber's form. -/
inductive Report where
  | line (s : String)
  | object (v : Json)

/-- The reports of the entries that are shown. -/
def reports (s : Subscriber) (trace : List Entry) : List Report :=
  (s.shown trace).map fun e =>
    match s.format with
    | .text => .line (line e ++ "\n")
    | .json => .object (object e)

end Subscriber
end Invocation
