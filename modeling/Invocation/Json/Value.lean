import Invocation.Binary64.Basic

/-!
# JSON values

A value keeps what its document said: integers of 64 bits are exact and apart
from floating point numbers, and an object's fields stand in the order in which
their names were first met.  A name that is met again takes the later value in
the place of the earlier one.
-/

namespace Invocation

/-- An integer of 64 bits: from `-2 ^ 63` up to, but not including, `2 ^ 64`. -/
structure Integer where
  val : Int
  bounds : -0x8000000000000000 ≤ val ∧ val < 0x10000000000000000
  deriving DecidableEq, Repr

namespace Integer

/-- An integer that has 64 bits. -/
def ofInt? (n : Int) : Option Integer :=
  if h : -0x8000000000000000 ≤ n ∧ n < 0x10000000000000000 then some ⟨n, h⟩
  else none

/-- An unsigned word. -/
def ofUInt64 (n : UInt64) : Integer :=
  ⟨n.toNat, by have := n.toNat_lt; omega⟩

/-- A status or another short word. -/
def ofUInt16 (n : UInt16) : Integer :=
  ⟨n.toNat, by have := n.toNat_lt; omega⟩

end Integer

namespace Json

/-- A JSON number. -/
inductive Number where
  | integer (n : Integer)
  | float (x : Binary64)
  deriving DecidableEq, Repr

end Json

/-- A JSON value. -/
inductive Json where
  | null
  | bool (b : Bool)
  | number (n : Json.Number)
  | string (s : String)
  | array (items : List Json)
  | object (fields : List (String × Json))
  deriving Repr, Inhabited

namespace Json

/-- The fields of an object. -/
abbrev Fields := List (String × Json)

namespace Fields

/-- The value of a field. -/
def get? (fields : Fields) (name : String) : Option Json :=
  (fields.find? (·.1 == name)).map Prod.snd

/-- Sets a field: in place when the name is there, at the end when it is not. -/
def insert (fields : Fields) (name : String) (value : Json) : Fields :=
  match fields with
  | [] => [(name, value)]
  | field :: rest =>
    if field.1 == name then (field.1, value) :: rest
    else field :: insert rest name value

end Fields

/-- The text of a string value. -/
def string? : Json → Option String
  | .string s => some s
  | _ => none

/-- An integer value. -/
def integer? : Json → Option Integer
  | .number (.integer n) => some n
  | _ => none

end Json
end Invocation
