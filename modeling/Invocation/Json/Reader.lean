import Invocation.Json.Fault

/-!
# Reading JSON values

The grammar of JSON as readers: each takes a text and gives the value that
stands at its start and the text after it.  Containers may nest to a fixed
depth, and a reader of values is defined by recursion on the depth still
allowed.  Loops over the items of a container carry a clock, a list at least as
long as the text they read; the text itself is one.
-/

namespace Invocation.Json

/-- The blanks of JSON. -/
def isBlank (c : Char) : Bool :=
  c == ' ' || c == '\n' || c == '\t' || c == '\r'

/-- Drops blanks. -/
def skipBlanks : List Char → List Char
  | [] => []
  | c :: rest => if isBlank c then skipBlanks rest else c :: rest

/-- Reads the rest of a word such as `null`, whose first letter has been
taken. -/
def word : List Char → List Char → Except (Fault Cause) (List Char)
  | [], text => .ok text
  | _ :: _, [] => .error (.here .endInValue [])
  | c :: rest, d :: text =>
    if c = d then word rest text
    else .error ⟨.expectedIdent, d :: text, 1⟩

/-! ## Strings -/

/-- The value of a hexadecimal digit. -/
def hexValue? (c : Char) : Option Nat :=
  if '0' ≤ c ∧ c ≤ '9' then some (c.toNat - '0'.toNat)
  else if 'a' ≤ c ∧ c ≤ 'f' then some (c.toNat - 'a'.toNat + 10)
  else if 'A' ≤ c ∧ c ≤ 'F' then some (c.toNat - 'A'.toNat + 10)
  else none

/-- The value of four hexadecimal digits. -/
def hex4? (a b c d : Char) : Option Nat :=
  match hexValue? a, hexValue? b, hexValue? c, hexValue? d with
  | some a, some b, some c, some d => some (((a * 16 + b) * 16 + c) * 16 + d)
  | _, _, _, _ => none

/-- The character of a backslash and one letter. -/
def simpleEscape? (c : Char) : Option Char :=
  if c = '"' then some '"'
  else if c = '\\' then some '\\'
  else if c = '/' then some '/'
  else if c = 'b' then some '\x08'
  else if c = 'f' then some '\x0c'
  else if c = 'n' then some '\n'
  else if c = 'r' then some '\r'
  else if c = 't' then some '\t'
  else none

/-- The fault of a `\u` that is not followed by four hexadecimal digits: the
digits take four bytes whatever they are, and if there are fewer the text has
ended in a string. -/
def hexFault (rest : List Char) : Fault Cause :=
  if Text.Utf8.size (rest.take 4) < 4 then .here .endInString []
  else ⟨.invalidEscape, rest, 4⟩

/-- The first half of a character beyond `0xFFFF`. -/
def isHighSurrogate (n : Nat) : Bool := decide (0xD800 ≤ n ∧ n ≤ 0xDBFF)

/-- The second half of a character beyond `0xFFFF`. -/
def isLowSurrogate (n : Nat) : Bool := decide (0xDC00 ≤ n ∧ n ≤ 0xDFFF)

/-- The character of two halves. -/
def surrogatePair (high low : Nat) : Char :=
  Char.ofNat (0x10000 + (high - 0xD800) * 0x400 + (low - 0xDC00))

/-- The fault of a text that should go on with `c`, the next character of an
escaped pair. -/
def pairFault (rest : List Char) : Fault Cause :=
  match rest with
  | [] => .here .endInString []
  | _ :: _ => ⟨.unpairedSurrogate, rest, 1⟩

/-- Reads a string after its opening quote; `done` holds the characters read,
the latest first. -/
def stringFrom (done : List Char) : Reader Cause (List Char)
  | [] => .error (.here .endInString [])
  | '"' :: rest => .ok (done.reverse, rest)
  | '\\' :: rest =>
    match rest with
    | [] => .error (.here .endInString [])
    | 'u' :: rest =>
      match rest with
      | a :: b :: c :: d :: rest' =>
        match hex4? a b c d with
        | none => .error (hexFault rest)
        | some n =>
          if isLowSurrogate n then .error (.here .loneSurrogate rest')
          else if isHighSurrogate n then
            match rest' with
            | '\\' :: 'u' :: rest'' =>
              match rest'' with
              | e :: f :: g :: h :: rest''' =>
                match hex4? e f g h with
                | none => .error (hexFault rest'')
                | some m =>
                  if isLowSurrogate m then
                    stringFrom (surrogatePair n m :: done) rest'''
                  else .error (.here .loneSurrogate rest''')
              | short => .error (hexFault short)
            | '\\' :: other => .error (pairFault other)
            | other => .error (pairFault other)
          else stringFrom (Char.ofNat n :: done) rest'
      | short => .error (hexFault short)
    | c :: rest' =>
      match simpleEscape? c with
      | some x => stringFrom (x :: done) rest'
      | none => .error ⟨.invalidEscape, rest, 1⟩
  | c :: rest =>
    if c.toNat < 0x20 then .error (.here .controlCharacter rest)
    else stringFrom (c :: done) rest

/-- Reads a string after its opening quote. -/
def stringBody : Reader Cause String := fun text =>
  match stringFrom [] text with
  | .ok (cs, rest) => .ok (String.ofList cs, rest)
  | .error e => .error e

/-! ## Numbers -/

/-- A decimal digit. -/
def isDigit (c : Char) : Bool := decide ('0' ≤ c ∧ c ≤ '9')

/-- The value of a decimal digit. -/
def digitValue (c : Char) : Nat := c.toNat - '0'.toNat

/-- Adds digits to a significand as long as it stays below `2 ^ 64`, counting
them. -/
def takeDigits (significand count : Nat) : List Char → Nat × Nat × List Char
  | [] => (significand, count, [])
  | c :: rest =>
    if isDigit c then
      let n := significand * 10 + digitValue c
      if n < UInt64.size then takeDigits n (count + 1) rest
      else (significand, count, c :: rest)
    else (significand, count, c :: rest)

/-- Drops digits, counting them. -/
def dropDigits (count : Nat) : List Char → Nat × List Char
  | [] => (count, [])
  | c :: rest =>
    if isDigit c then dropDigits (count + 1) rest else (count, c :: rest)

/-- The greatest exponent that is added up. -/
def maxExponent : Nat := 0x7FFFFFFF

/-- Reads the digits of an exponent after the first.  None stands for an
exponent beyond the greatest. -/
def exponentDigits (n : Nat) : List Char → Option Nat × List Char
  | [] => (some n, [])
  | c :: rest =>
    if isDigit c then
      let m := n * 10 + digitValue c
      if m ≤ maxExponent then exponentDigits m rest else (none, rest)
    else (some n, c :: rest)

/-- A floating point number, or the fault of one that is too large. -/
def floatNumber (negative : Bool) (significand : Nat) (e : Int) :
    Reader Cause Number := fun rest =>
  match Binary64.ofDecimal? negative significand e with
  | some x => .ok (.float x, rest)
  | none => .error (.here .numberOutOfRange rest)

/-- Reads an exponent after its `e`; `base` is the exponent that the digits
before it already have.  An exponent beyond all bounds gives zero, or a number
that is out of range. -/
def exponentPart (negative : Bool) (significand : Nat) (base : Int) :
    Reader Cause Number := fun text =>
  let (minus, text) :=
    match text with
    | '+' :: rest => (false, rest)
    | '-' :: rest => (true, rest)
    | other => (false, other)
  match text with
  | [] => .error (.here .endInValue [])
  | c :: rest =>
    if isDigit c then
      match exponentDigits (digitValue c) rest with
      | (some n, rest) =>
        floatNumber negative significand (if minus then base - n else base + n)
          rest
      | (none, rest) =>
        if significand ≠ 0 ∧ !minus then .error (.here .numberOutOfRange rest)
        else .ok (.float (.zero negative), (dropDigits 0 rest).2)
    else .error ⟨.invalidNumber, text, 1⟩

/-- Reads what may follow the digits of a floating point number. -/
def floatEnd (negative : Bool) (significand : Nat) (e : Int) :
    Reader Cause Number
  | 'e' :: rest => exponentPart negative significand e rest
  | 'E' :: rest => exponentPart negative significand e rest
  | rest => floatNumber negative significand e rest

/-- Reads a fraction after its point.  Digits that no longer fit the
significand are dropped. -/
def fractionPart (negative : Bool) (significand : Nat) (e : Int) :
    Reader Cause Number := fun text =>
  let (n, count, rest) := takeDigits significand 0 text
  let (dropped, rest) := dropDigits 0 rest
  if count + dropped = 0 then
    match rest with
    | [] => .error (.here .endInValue [])
    | _ :: _ => .error (.next .invalidNumber rest)
  else floatEnd negative n (e - count) rest

/-- The number of a significand that neither a fraction nor an exponent
follows.  Zero has a sign only as a floating point number. -/
def wholeNumber (negative : Bool) (significand : Nat) : Number :=
  if negative then
    if significand = 0 then .float (.zero true)
    else
      match Integer.ofInt? (-(significand : Int)) with
      | some n => .integer n
      | none => .float ((Binary64.ofInt significand).neg)
  else
    match Integer.ofInt? significand with
    | some n => .integer n
    | none => .float (Binary64.ofInt significand)

/-- Reads what follows the integer digits; `dropped` digits did not fit the
significand. -/
def numberEnd (negative : Bool) (significand dropped : Nat) :
    Reader Cause Number
  | '.' :: rest => fractionPart negative significand dropped rest
  | 'e' :: rest => exponentPart negative significand dropped rest
  | 'E' :: rest => exponentPart negative significand dropped rest
  | rest =>
    if dropped = 0 then .ok (wholeNumber negative significand, rest)
    else floatNumber negative significand dropped rest

/-- Reads a number after its sign. -/
def unsignedNumber (negative : Bool) : Reader Cause Number := fun text =>
  match text with
  | [] => .error (.here .endInValue [])
  | '0' :: rest =>
    match rest with
    | c :: _ =>
      if isDigit c then .error (.next .invalidNumber rest)
      else numberEnd negative 0 0 rest
    | [] => numberEnd negative 0 0 rest
  | c :: _ =>
    if isDigit c then
      let (n, _, rest) := takeDigits 0 0 text
      let (dropped, rest) := dropDigits 0 rest
      numberEnd negative n dropped rest
    else .error ⟨.invalidNumber, text, 1⟩

/-! ## Containers -/

/-- Moves to the next item of an array, or past its end. -/
def nextItem (first : Bool) (text : List Char) :
    Except (Fault Cause) (Bool × List Char) :=
  match skipBlanks text with
  | [] => .error (.here .endInList [])
  | ']' :: rest => .ok (false, rest)
  | ',' :: rest =>
    if first then .ok (true, ',' :: rest)
    else
      match skipBlanks rest with
      | [] => .error (.here .endInValue [])
      | ']' :: rest => .error (.next .trailingComma (']' :: rest))
      | rest => .ok (true, rest)
  | rest =>
    if first then .ok (true, rest)
    else .error (.next .expectedListCommaOrEnd rest)

/-- Reads the name of a field after its opening quote. -/
def fieldName (text : List Char) :
    Except (Fault Cause) (Option String × List Char) :=
  match stringBody text with
  | .ok (name, rest) => .ok (some name, rest)
  | .error e => .error e

/-- Reads the name of the next field of an object, or moves past its end. -/
def nextField (first : Bool) (text : List Char) :
    Except (Fault Cause) (Option String × List Char) :=
  match skipBlanks text with
  | [] => .error (.here .endInObject [])
  | '\x7d' :: rest => .ok (none, rest)
  | c :: rest =>
    if first then
      if c = '"' then fieldName rest
      else .error (.next .keyMustBeString (c :: rest))
    else if c = ',' then
      match skipBlanks rest with
      | [] => .error (.here .endInValue [])
      | '"' :: rest => fieldName rest
      | '\x7d' :: rest => .error (.next .trailingComma ('\x7d' :: rest))
      | rest => .error (.next .keyMustBeString rest)
    else .error (.next .expectedObjectCommaOrEnd (c :: rest))

/-- Reads the colon after a field's name. -/
def colon (text : List Char) : Except (Fault Cause) (List Char) :=
  match skipBlanks text with
  | [] => .error (.here .endInObject [])
  | ':' :: rest => .ok rest
  | rest => .error (.next .expectedColon rest)

/-- Reads the items of an array; `done` holds those read, the latest first. -/
def itemsFrom {ε α : Type} (lift : Cause → ε) (item : Reader ε α) :
    List Char → Bool → List α → Reader ε (List α)
  | [], _, _, _ => .error ((Fault.here .endInList []).map lift)
  | _ :: clock, first, done, text =>
    match nextItem first text with
    | .error e => .error (e.map lift)
    | .ok (false, rest) => .ok (done.reverse, rest)
    | .ok (true, rest) =>
      match item rest with
      | .error e => .error e
      | .ok (v, rest) => itemsFrom lift item clock false (v :: done) rest

/-- Reads an array after its opening bracket. -/
def items {ε α : Type} (lift : Cause → ε) (item : Reader ε α) :
    Reader ε (List α) :=
  fun text => itemsFrom lift item text true [] text

/-- Reads the fields of an object, handing each to `add` in turn. -/
def fieldsFrom {ε α σ : Type} (lift : Cause → ε) (item : Reader ε α)
    (add : σ → String → α → σ) :
    List Char → Bool → σ → Reader ε σ
  | [], _, _, _ => .error ((Fault.here .endInObject []).map lift)
  | _ :: clock, first, done, text =>
    match nextField first text with
    | .error e => .error (e.map lift)
    | .ok (none, rest) => .ok (done, rest)
    | .ok (some name, rest) =>
      match colon rest with
      | .error e => .error (e.map lift)
      | .ok rest =>
        match item rest with
        | .error e => .error e
        | .ok (v, rest) =>
          fieldsFrom lift item add clock false (add done name v) rest

/-- Reads an object after its opening brace. -/
def fields {ε α σ : Type} (lift : Cause → ε) (item : Reader ε α)
    (add : σ → String → α → σ) (start : σ) : Reader ε σ :=
  fun text => fieldsFrom lift item add text true start text

/-! ## Values -/

/-- Applies a function to what was read. -/
def Reader.map {ε α β : Type} (f : α → β) (r : Reader ε α) : Reader ε β :=
  fun text =>
    match r text with
    | .ok (v, rest) => .ok (f v, rest)
    | .error e => .error e

/-- Reads a value; `inner` reads the values inside a container, if one more may
be opened. -/
def valueWith (inner : Option (Reader Cause Json)) : Reader Cause Json :=
  fun text =>
    match skipBlanks text with
    | [] => .error (.here .endInValue [])
    | 'n' :: rest => (word ['u', 'l', 'l'] rest).map (.null, ·)
    | 't' :: rest => (word ['r', 'u', 'e'] rest).map (.bool true, ·)
    | 'f' :: rest => (word ['a', 'l', 's', 'e'] rest).map (.bool false, ·)
    | '"' :: rest => stringBody.map .string rest
    | '-' :: rest => (unsignedNumber true).map .number rest
    | '[' :: rest =>
      match inner with
      | none => .error (.next .tooDeep ('[' :: rest))
      | some item => (items id item).map .array rest
    | '\x7b' :: rest =>
      match inner with
      | none => .error (.next .tooDeep ('\x7b' :: rest))
      | some item => (fields id item Fields.insert []).map .object rest
    | c :: rest =>
      if isDigit c then (unsignedNumber false).map .number (c :: rest)
      else .error (.next .expectedValue (c :: rest))

/-- Reads a value with at most `depth` containers inside one another. -/
def value : Nat → Reader Cause Json
  | 0 => valueWith none
  | depth + 1 => valueWith (some (value depth))

/-- How many containers may stand inside one another. -/
def maxDepth : Nat := 127

/-- Only blanks follow. -/
def atEnd (text : List Char) : Except (Fault Cause) Unit :=
  match skipBlanks text with
  | [] => .ok ()
  | rest => .error (.next .trailingCharacters rest)

/-- Reads a text that holds one value and nothing else. -/
def read (text : List Char) : Except (Fault Cause) Json :=
  match value maxDepth text with
  | .error e => .error e
  | .ok (v, rest) =>
    match atEnd rest with
    | .error e => .error e
    | .ok () => .ok v

/-- The document of a text, or the wording of the fault in it. -/
def parse (text : String) : Except String Json :=
  match read text.toList with
  | .ok v => .ok v
  | .error e => .error (e.message Cause.message text.toList)

end Invocation.Json
