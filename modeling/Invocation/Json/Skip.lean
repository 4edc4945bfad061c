import Invocation.Json.Reader

/-!
# Skipping JSON values

A value that nobody asked for is passed over without being built.  The skipper
keeps only the open brackets, so it knows neither a depth limit nor a range of
numbers, and strings need not pair their surrogates.
-/

namespace Invocation.Json.Skip

/-- An open bracket. -/
inductive Bracket where
  | square
  | curly
  deriving DecidableEq, Repr

/-- Passes over a string after its opening quote. -/
def string : List Char → Except (Fault Cause) (List Char)
  | [] => .error (.here .endInString [])
  | '"' :: rest => .ok rest
  | '\\' :: rest =>
    match rest with
    | [] => .error (.here .endInString [])
    | 'u' :: rest =>
      match rest with
      | a :: b :: c :: d :: rest' =>
        match hex4? a b c d with
        | none => .error (hexFault rest)
        | some _ => string rest'
      | short => .error (hexFault short)
    | c :: rest' =>
      match simpleEscape? c with
      | some _ => string rest'
      | none => .error ⟨.invalidEscape, rest, 1⟩
  | c :: rest =>
    if c.toNat < 0x20 then .error (.here .controlCharacter (c :: rest))
    else string rest

/-- Passes over an exponent after its `e`. -/
def exponent (text : List Char) : Except (Fault Cause) (List Char) :=
  let text :=
    match text with
    | '+' :: rest => rest
    | '-' :: rest => rest
    | other => other
  match text with
  | [] => .error (.here .invalidNumber [])
  | c :: rest =>
    if isDigit c then .ok (dropDigits 0 rest).2
    else .error ⟨.invalidNumber, text, 1⟩

/-- Passes over what may follow a fraction. -/
def fractionEnd : List Char → Except (Fault Cause) (List Char)
  | 'e' :: rest => exponent rest
  | 'E' :: rest => exponent rest
  | rest => .ok rest

/-- Passes over what may follow the integer digits. -/
def numberEnd : List Char → Except (Fault Cause) (List Char)
  | '.' :: rest =>
    match dropDigits 0 rest with
    | (0, rest) => .error (.next .invalidNumber rest)
    | (_, rest) => fractionEnd rest
  | rest => fractionEnd rest

/-- Passes over a number after its sign. -/
def number (text : List Char) : Except (Fault Cause) (List Char) :=
  match text with
  | [] => .error (.here .invalidNumber [])
  | '0' :: rest =>
    match rest with
    | c :: _ =>
      if isDigit c then .error (.next .invalidNumber rest) else numberEnd rest
    | [] => numberEnd rest
  | c :: rest =>
    if isDigit c then numberEnd (dropDigits 0 rest).2
    else .error ⟨.invalidNumber, text, 1⟩

/-- Passes over the name of a field and its colon. -/
def name (text : List Char) : Except (Fault Cause) (List Char) :=
  match skipBlanks text with
  | [] => .error (.here .endInObject [])
  | '"' :: rest =>
    match string rest with
    | .ok rest => colon rest
    | .error e => .error e
  | rest => .error (.next .keyMustBeString rest)

/-- Moves to the next value inside an open bracket. -/
def item (bracket : Bracket) (text : List Char) :
    Except (Fault Cause) (List Char) :=
  match bracket with
  | .square => .ok text
  | .curly => name text

/-- Passes over the closing brackets after a value and moves to the next value,
or past the last closing bracket.  Gives the brackets that are still open. -/
def close : List Bracket → List Char →
    Except (Fault Cause) (List Bracket × List Char)
  | [], text => .ok ([], text)
  | bracket :: outer, text =>
    match bracket, skipBlanks text with
    | .square, [] => .error (.here .endInList [])
    | .curly, [] => .error (.here .endInObject [])
    | .square, ']' :: rest => close outer rest
    | .curly, '\x7d' :: rest => close outer rest
    | _, ',' :: rest => (item bracket rest).map (bracket :: outer, ·)
    | .square, rest => .error (.next .expectedListCommaOrEnd rest)
    | .curly, rest => .error (.next .expectedObjectCommaOrEnd rest)

/-- Passes over an opening bracket, and the closing one if nothing stands
between them. -/
def openBracket (bracket : Bracket) (outer : List Bracket) (text : List Char) :
    Except (Fault Cause) (List Bracket × List Char) :=
  match bracket, skipBlanks text with
  | .square, [] => .error (.here .endInList [])
  | .curly, [] => .error (.here .endInObject [])
  | .square, ']' :: rest => close outer rest
  | .curly, '\x7d' :: rest => close outer rest
  | _, rest => (item bracket rest).map (bracket :: outer, ·)

/-- Passes over one value, or over the opening of one. -/
def step (stack : List Bracket) (text : List Char) :
    Except (Fault Cause) (List Bracket × List Char) :=
  match skipBlanks text with
  | [] => .error (.here .endInValue [])
  | 'n' :: rest => word ['u', 'l', 'l'] rest >>= close stack
  | 't' :: rest => word ['r', 'u', 'e'] rest >>= close stack
  | 'f' :: rest => word ['a', 'l', 's', 'e'] rest >>= close stack
  | '"' :: rest => string rest >>= close stack
  | '-' :: rest => number rest >>= close stack
  | '[' :: rest => openBracket .square stack rest
  | '\x7b' :: rest => openBracket .curly stack rest
  | c :: rest =>
    if isDigit c then number (c :: rest) >>= close stack
    else .error (.next .expectedValue (c :: rest))

/-- Steps until no bracket is open. -/
def valueFrom : List Char → List Bracket → List Char →
    Except (Fault Cause) (List Char)
  | [], _, _ => .error (.here .endInValue [])
  | _ :: clock, stack, text =>
    match step stack text with
    | .error e => .error e
    | .ok ([], rest) => .ok rest
    | .ok (stack, rest) => valueFrom clock stack rest

end Skip

/-- Passes over a value. -/
def skipValue (text : List Char) : Except (Fault Cause) (List Char) :=
  Skip.valueFrom text [] text

end Invocation.Json
