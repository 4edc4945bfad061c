import Invocation.Json.Printer
import Invocation.Json.Fault
import Invocation.Text.Quoted

/-!
# Values of the wrong shape

A typed reader refuses a well-formed value by a mismatch: it says what was found
and what was expected, and knows no place.  A typed reader of texts can fail in
both ways, by the grammar or by a mismatch.
-/

namespace Invocation.Json

/-- What a typed reader met. -/
inductive Found where
  | null
  | boolean (b : Bool)
  | integer (n : Int)
  | float (text : String)
  | string (s : String)
  | sequence
  | map
  deriving DecidableEq, Repr

namespace Found

/-- What a number is met as. -/
def ofNumber : Number → Found
  | .integer n => .integer n.val
  | .float x => .float (Number.float x).text

/-- What a value is met as. -/
def ofJson : Json → Found
  | .null => .null
  | .bool b => .boolean b
  | .number n => .ofNumber n
  | .string s => .string s
  | .array _ => .sequence
  | .object _ => .map

/-- The wording of what was met. -/
def message : Found → String
  | .null => "null"
  | .boolean b => "boolean `" ++ (if b then "true" else "false") ++ "`"
  | .integer n => "integer `" ++ String.ofList (intChars n) ++ "`"
  | .float text => "floating point `" ++ text ++ "`"
  | .string s => "string " ++ Text.quoted s
  | .sequence => "sequence"
  | .map => "map"

end Found

/-- Why a well-formed value is refused. -/
inductive Mismatch where
  | type (found : Found) (expected : String)
  | value (found : Found) (expected : String)
  | length (count : Nat) (expected : String)
  | missingField (name : String)
  | duplicateField (name : String)
  | unknownVariant (name : String) (known : List String)
  deriving DecidableEq, Repr

/-- Some names, each between backquotes; two are joined by a word. -/
def alternatives (names : List String) : String :=
  let shown := names.map fun name => "`" ++ name ++ "`"
  match shown with
  | [a, b] => a ++ " or " ++ b
  | other => ", ".intercalate other

/-- The wording of a mismatch. -/
def Mismatch.message : Mismatch → String
  | .type found expected =>
    "invalid type: " ++ found.message ++ ", expected " ++ expected
  | .value found expected =>
    "invalid value: " ++ found.message ++ ", expected " ++ expected
  | .length count expected =>
    "invalid length " ++ toString count ++ ", expected " ++ expected
  | .missingField name => "missing field `" ++ name ++ "`"
  | .duplicateField name => "duplicate field `" ++ name ++ "`"
  | .unknownVariant name known =>
    "unknown variant `" ++ name ++ "`, expected " ++ alternatives known

/-- Why a typed reader refuses a text. -/
inductive TypedCause where
  | grammar (cause : Cause)
  | mismatch (m : Mismatch)
  deriving DecidableEq, Repr

/-- The wording of a cause. -/
def TypedCause.message : TypedCause → String
  | .grammar cause => cause.message
  | .mismatch m => m.message

end Invocation.Json
