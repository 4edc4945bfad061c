import Invocation.Json.Value
import Invocation.Binary64.Shortest

/-!
# Compact JSON text

The compact form has no blanks.  In a string only the quote, the backslash and
the control characters below `0x20` are escaped; every other character stands
for itself, so the text of a value has no character below `0x20`.
-/

namespace Invocation.Json

/-- Floating point numbers are written positionally from `1e-5` up to, but not
including, `1e16`, and always differ from integers by a point or an exponent. -/
def numberLayout : Binary64.Layout := ⟨some (-5), some 16⟩

/-- A hexadecimal digit in lower case. -/
def hexDigit (n : Nat) : Char := Nat.digitChar n

/-- The form of a character inside a string. -/
def escapeChar (c : Char) : List Char :=
  if c = '"' then ['\\', '"']
  else if c = '\\' then ['\\', '\\']
  else if c = '\n' then ['\\', 'n']
  else if c = '\r' then ['\\', 'r']
  else if c = '\t' then ['\\', 't']
  else if c = '\x08' then ['\\', 'b']
  else if c = '\x0c' then ['\\', 'f']
  else if c.toNat < 0x20 then
    ['\\', 'u', '0', '0', hexDigit (c.toNat / 16), hexDigit (c.toNat % 16)]
  else [c]

/-- The characters of a string, escaped. -/
def escape (cs : List Char) : List Char := cs.flatMap escapeChar

/-- A string with its quotes. -/
def quoteChars (s : String) : List Char := '"' :: (escape s.toList ++ ['"'])

/-- The digits of an integer, after a minus sign when it is negative. -/
def intChars (n : Int) : List Char :=
  if n < 0 then '-' :: Nat.toDigits 10 n.natAbs else Nat.toDigits 10 n.natAbs

/-- The text of a number. -/
def Number.chars : Number → List Char
  | .integer n => intChars n.val
  | .float x => x.toChars numberLayout

/-- Parts between brackets, separated by commas. -/
def bracket (left right : Char) (parts : List (List Char)) : List Char :=
  left :: (List.intercalate [','] parts ++ [right])

/-- A field: its quoted name, a colon and the text of its value. -/
def fieldChars (name : String) (value : List Char) : List Char :=
  quoteChars name ++ ':' :: value

mutual

/-- The compact text of a value. -/
def chars : Json → List Char
  | .null => ['n', 'u', 'l', 'l']
  | .bool true => ['t', 'r', 'u', 'e']
  | .bool false => ['f', 'a', 'l', 's', 'e']
  | .number n => n.chars
  | .string s => quoteChars s
  | .array items => bracket '[' ']' (itemTexts items)
  | .object fields => bracket '{' '}' (fieldTexts fields)

/-- The texts of the items of an array. -/
def itemTexts : List Json → List (List Char)
  | [] => []
  | item :: rest => chars item :: itemTexts rest

/-- The texts of the fields of an object. -/
def fieldTexts : List (String × Json) → List (List Char)
  | [] => []
  | (name, value) :: rest => fieldChars name (chars value) :: fieldTexts rest

end

/-- The compact text of a value. -/
def text (v : Json) : String := String.ofList v.chars

/-- The text of a number. -/
def Number.text (n : Number) : String := String.ofList n.chars

end Invocation.Json
