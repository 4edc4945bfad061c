/-!
# Sets of characters

A set of characters is kept as the expression it was written as, so that two
sets can be compared, and is asked about the numbers of characters.
-/

namespace Invocation

/-- A set of characters. -/
inductive CharSet where
  /-- The characters from one number to another. -/
  | range (first last : Nat)
  | union (a b : CharSet)
  | meet (a b : CharSet)
  | complement (a : CharSet)
  /-- A set and the ASCII letters whose other case it has. -/
  | eitherCase (a : CharSet)
  deriving DecidableEq, Repr

namespace CharSet

/-- The set without characters. -/
def none : CharSet := .range 1 0

/-- The set of one character. -/
def single (n : Nat) : CharSet := .range n n

/-- The characters of the first set that the second has not. -/
def difference (a b : CharSet) : CharSet := .meet a (.complement b)

/-- The characters that just one of two sets has. -/
def symmetricDifference (a b : CharSet) : CharSet :=
  .union (difference a b) (difference b a)

/-- The set of some closed ranges. -/
def ofRanges : List (Nat × Nat) → CharSet
  | [] => none
  | (first, last) :: rest => .union (.range first last) (ofRanges rest)

/-- The number of an ASCII letter in the other case. -/
def otherCase? (n : Nat) : Option Nat :=
  if 65 ≤ n ∧ n ≤ 90 then some (n + 32)
  else if 97 ≤ n ∧ n ≤ 122 then some (n - 32)
  else Option.none

/-- The set has the character of a number. -/
def has : CharSet → Nat → Bool
  | .range first last, n => decide (first ≤ n ∧ n ≤ last)
  | .union a b, n => a.has n || b.has n
  | .meet a b, n => a.has n && b.has n
  | .complement a, n => !a.has n
  | .eitherCase a, n =>
    a.has n ||
      match otherCase? n with
      | some m => a.has m
      | Option.none => false

/-- No number of a single byte beyond ASCII is in the set. -/
def withinAscii (s : CharSet) : Bool :=
  (List.range 128).all fun i => !s.has (i + 128)

/-! ## Sets with a name -/

/-- The decimal digits. -/
def digits : CharSet := .range 48 57

/-- Letters, digits and the underscore. -/
def wordChars : CharSet := ofRanges [(48, 57), (65, 90), (95, 95), (97, 122)]

/-- The blanks of ASCII. -/
def spaces : CharSet := ofRanges [(9, 13), (32, 32)]

/-- The sets of ASCII that a name stands for. -/
def named? (name : String) : Option CharSet :=
  match name with
  | "alnum" => some (ofRanges [(48, 57), (65, 90), (97, 122)])
  | "alpha" => some (ofRanges [(65, 90), (97, 122)])
  | "ascii" => some (.range 0 127)
  | "blank" => some (ofRanges [(9, 9), (32, 32)])
  | "cntrl" => some (ofRanges [(0, 31), (127, 127)])
  | "digit" => some digits
  | "graph" => some (.range 33 126)
  | "lower" => some (.range 97 122)
  | "print" => some (.range 32 126)
  | "punct" => some (ofRanges [(33, 47), (58, 64), (91, 96), (123, 126)])
  | "space" => some spaces
  | "upper" => some (.range 65 90)
  | "word" => some wordChars
  | "xdigit" => some (ofRanges [(48, 57), (65, 70), (97, 102)])
  | _ => Option.none

end CharSet
end Invocation
