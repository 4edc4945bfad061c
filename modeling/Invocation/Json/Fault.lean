import Invocation.Json.Value
import Invocation.Text.Utf8

/-!
# Why a JSON text is refused

A fault has a cause and a place.  The place is given by the text that was still
unread, so no reader has to count; line and column are found from the whole
text when the fault is shown.
-/

namespace Invocation.Json

/-- What a text breaks in the grammar of JSON or in the limits on it. -/
inductive Cause where
  | endInList
  | endInObject
  | endInString
  | endInValue
  | expectedColon
  | expectedListCommaOrEnd
  | expectedObjectCommaOrEnd
  | expectedIdent
  | expectedValue
  | invalidEscape
  | invalidNumber
  | numberOutOfRange
  | controlCharacter
  | keyMustBeString
  | loneSurrogate
  | trailingComma
  | trailingCharacters
  | unpairedSurrogate
  | tooDeep
  deriving DecidableEq, Repr

/-- The wording of a cause. -/
def Cause.message : Cause → String
  | .endInList => "EOF while parsing a list"
  | .endInObject => "EOF while parsing an object"
  | .endInString => "EOF while parsing a string"
  | .endInValue => "EOF while parsing a value"
  | .expectedColon => "expected `:`"
  | .expectedListCommaOrEnd => "expected `,` or `]`"
  | .expectedObjectCommaOrEnd => "expected `,` or `\x7d`"
  | .expectedIdent => "expected ident"
  | .expectedValue => "expected value"
  | .invalidEscape => "invalid escape"
  | .invalidNumber => "invalid number"
  | .numberOutOfRange => "number out of range"
  | .controlCharacter =>
    "control character (\\u0000-\\u001F) found while parsing a string"
  | .keyMustBeString => "key must be a string"
  | .loneSurrogate => "lone leading surrogate in hex escape"
  | .trailingComma => "trailing comma"
  | .trailingCharacters => "trailing characters"
  | .unpairedSurrogate => "unexpected end of hex escape"
  | .tooDeep => "recursion limit exceeded"

/-- A cause of type `ε` at a place: `ahead` bytes into `rest`, the text that was
unread. -/
structure Fault (ε : Type) where
  cause : ε
  rest : List Char
  ahead : Nat
  deriving Repr

namespace Fault

/-- A fault just before the unread text. -/
def here {ε : Type} (cause : ε) (rest : List Char) : Fault ε := ⟨cause, rest, 0⟩

/-- A fault at the first unread byte, if there is one. -/
def next {ε : Type} (cause : ε) (rest : List Char) : Fault ε :=
  ⟨cause, rest, if rest.isEmpty then 0 else 1⟩

/-- The same place with another form of cause. -/
def map {ε ζ : Type} (f : ε → ζ) (fault : Fault ε) : Fault ζ :=
  ⟨f fault.cause, fault.rest, fault.ahead⟩

/-- How many bytes of the whole text lie before the fault. -/
def offset {ε : Type} (text : List Char) (fault : Fault ε) : Nat :=
  Text.Utf8.size text - Text.Utf8.size fault.rest + fault.ahead

/-- Line and column after `offset` bytes of a text.  Lines count from one,
columns are the bytes since the last line break. -/
def lineColumn (offset : Nat) (line column : Nat) : List Char → Nat × Nat
  | [] => (line, column)
  | c :: rest =>
    if offset < c.utf8Size then (line, column + offset)
    else if c = '\n' then lineColumn (offset - c.utf8Size) (line + 1) 0 rest
    else lineColumn (offset - c.utf8Size) line (column + c.utf8Size) rest

/-- The wording of a fault: its cause and its place. -/
def message {ε : Type} (word : ε → String) (text : List Char)
    (fault : Fault ε) : String :=
  let (line, column) := lineColumn (fault.offset text) 1 0 text
  word fault.cause ++ " at line " ++ toString line ++ " column " ++
    toString column

end Fault

/-- A reader takes a text and gives what it read and the text after it. -/
abbrev Reader (ε α : Type) := List Char → Except (Fault ε) (α × List Char)

end Invocation.Json
