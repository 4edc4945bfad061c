import Invocation.Json.Reader
import Invocation.Toml.Value

/-!
# Reading TOML keys and scalars

Strings in their four forms, numbers, truth values and dates, and the keys made
of strings and bare words.  A reader gives what stands at the start of a text
and the text after it, or nothing when the text is malformed.
-/

namespace Invocation.Toml

open Json (isDigit digitValue hexValue?)

/-- A reader takes a text and gives what it read and the text after it. -/
abbrev Reader (α : Type) := List Char → Option (α × List Char)

/-- Drops blanks and tabs. -/
def skipBlanks : List Char → List Char
  | [] => []
  | c :: rest => if c = ' ' ∨ c = '\t' then skipBlanks rest else c :: rest

/-- Drops a line break, if there is one. -/
def lineBreak? : List Char → Option (List Char)
  | '\n' :: rest => some rest
  | '\r' :: '\n' :: rest => some rest
  | _ => none

/-- A character that may stand as it is in comments and, quotes and backslashes
apart, in strings. -/
def isPlain (c : Char) : Bool :=
  c = '\t' || (' ' ≤ c && c ≠ '\x7f')

/-- Drops a comment, if there is one. -/
def skipComment : List Char → List Char
  | '#' :: rest => rest.dropWhile isPlain
  | rest => rest

/-! ## Strings -/

/-- The character of a number, which must not be a surrogate or too large. -/
def scalar? (n : Nat) : Option Char :=
  if n.isValidChar then some (Char.ofNat n) else none

/-- The value of hexadecimal digits. -/
def hexNumber? (cs : List Char) : Option Nat :=
  cs.foldl (fun n c => do return (← n) * 16 + (← hexValue? c)) (some 0)

/-- The character of a backslash and one letter. -/
def simpleEscape? (c : Char) : Option Char :=
  if c = 'b' then some '\x08'
  else if c = 't' then some '\t'
  else if c = 'n' then some '\n'
  else if c = 'f' then some '\x0c'
  else if c = 'r' then some '\r'
  else if c = '"' then some '"'
  else if c = '\\' then some '\\'
  else none

/-- The character of a number in hexadecimal digits. -/
def numbered? (digits : List Char) : Option Char :=
  (hexNumber? digits).bind scalar?

/-- Reads a basic string after its quote; `done` holds the characters read, the
latest first. -/
def basicFrom (done : List Char) : Reader (List Char)
  | [] => none
  | '"' :: rest => some (done.reverse, rest)
  | '\\' :: 'u' :: a :: b :: c :: d :: rest =>
    match numbered? [a, b, c, d] with
    | some x => basicFrom (x :: done) rest
    | none => none
  | '\\' :: 'U' :: a :: b :: c :: d :: e :: f :: g :: h :: rest =>
    match numbered? [a, b, c, d, e, f, g, h] with
    | some x => basicFrom (x :: done) rest
    | none => none
  | '\\' :: c :: rest =>
    match simpleEscape? c with
    | some x => basicFrom (x :: done) rest
    | none => none
  | c :: rest =>
    if isPlain c ∧ c ≠ '\\' then basicFrom (c :: done) rest else none

/-- Reads a literal string after its quote. -/
def literalFrom (done : List Char) : Reader (List Char)
  | [] => none
  | '\'' :: rest => some (done.reverse, rest)
  | c :: rest => if isPlain c then literalFrom (c :: done) rest else none

/-- Where a reader of a multi-line string stands: in the text, after a backslash
that ends a line but before the line's end, or in the blanks after that. -/
inductive Fold where
  | text
  | beforeBreak
  | afterBreak
  deriving DecidableEq

/-- What follows three quotes in a row: up to two quotes that belong to the text
may stand before the closing delimiter. -/
def closing (quote : Char) (done : List Char) : Reader (List Char)
  | a :: b :: rest =>
    if a = quote then
      if b = quote then some ((quote :: quote :: done).reverse, rest)
      else some ((quote :: done).reverse, b :: rest)
    else some (done.reverse, a :: b :: rest)
  | [a] =>
    if a = quote then some ((quote :: done).reverse, [])
    else some (done.reverse, [a])
  | [] => some (done.reverse, [])

/-- Reads a multi-line basic string after its delimiter. -/
def multiBasicFrom (fold : Fold) (done : List Char) : Reader (List Char)
  | [] => none
  | c :: rest =>
    if fold ≠ .text ∧ (c = ' ' ∨ c = '\t') then multiBasicFrom fold done rest
    else if c = '\n' then
      if fold = .text then multiBasicFrom .text ('\n' :: done) rest
      else multiBasicFrom .afterBreak done rest
    else if c = '\r' then
      match rest with
      | '\n' :: rest =>
        if fold = .text then multiBasicFrom .text ('\n' :: done) rest
        else multiBasicFrom .afterBreak done rest
      | _ => none
    else if fold = .beforeBreak then none
    else if c = '"' then
      match rest with
      | '"' :: '"' :: rest => closing '"' done rest
      | _ => multiBasicFrom .text ('"' :: done) rest
    else if c = '\\' then
      match rest with
      | 'u' :: a :: b :: c :: d :: rest =>
        match numbered? [a, b, c, d] with
        | some x => multiBasicFrom .text (x :: done) rest
        | none => none
      | 'U' :: a :: b :: c :: d :: e :: f :: g :: h :: rest =>
        match numbered? [a, b, c, d, e, f, g, h] with
        | some x => multiBasicFrom .text (x :: done) rest
        | none => none
      | e :: rest' =>
        match simpleEscape? e with
        | some x => multiBasicFrom .text (x :: done) rest'
        | none =>
          if e = ' ' ∨ e = '\t' then multiBasicFrom .beforeBreak done rest'
          else if e = '\n' then multiBasicFrom .afterBreak done rest'
          else if e = '\r' then
            match rest' with
            | '\n' :: rest => multiBasicFrom .afterBreak done rest
            | _ => none
          else none
      | [] => none
    else if isPlain c then multiBasicFrom .text (c :: done) rest
    else none

/-- Reads a multi-line literal string after its delimiter. -/
def multiLiteralFrom (done : List Char) : Reader (List Char)
  | [] => none
  | '\'' :: rest =>
    match rest with
    | '\'' :: '\'' :: rest => closing '\'' done rest
    | _ => multiLiteralFrom ('\'' :: done) rest
  | '\r' :: rest =>
    match rest with
    | '\n' :: rest => multiLiteralFrom ('\n' :: done) rest
    | _ => none
  | c :: rest =>
    if c = '\n' ∨ isPlain c then multiLiteralFrom (c :: done) rest else none

/-- The text after a delimiter, without the line break that may follow it. -/
def afterDelimiter (text : List Char) : List Char :=
  (lineBreak? text).getD text

/-- Reads a string in any of its forms. -/
def stringChars : Reader (List Char)
  | '"' :: '"' :: '"' :: rest => multiBasicFrom .text [] (afterDelimiter rest)
  | '"' :: rest => basicFrom [] rest
  | '\'' :: '\'' :: '\'' :: rest => multiLiteralFrom [] (afterDelimiter rest)
  | '\'' :: rest => literalFrom [] rest
  | _ => none

/-! ## Keys -/

/-- A character of a bare key. -/
def isBare (c : Char) : Bool := c.isAlphanum || c == '-' || c == '_'

/-- Reads one part of a key. -/
def keyPart : Reader Key := fun text =>
  let keyed (cs : List Char) (rest : List Char) : Key × List Char :=
    (⟨String.ofList cs, ⟨text, rest⟩⟩, rest)
  match text with
  | '"' :: rest => (basicFrom [] rest).map fun (cs, rest) => keyed cs rest
  | '\'' :: rest => (literalFrom [] rest).map fun (cs, rest) => keyed cs rest
  | _ =>
    match text.takeWhile isBare with
    | [] => none
    | cs => some (keyed cs (text.dropWhile isBare))

/-- The bound on the parts of a key. -/
def maxParts : Nat := 80

/-- Reads a key of fewer than `n` parts with dots between them. -/
def keyParts : Nat → Reader (List Key)
  | 0, _ => none
  | n + 1, text =>
    match keyPart (skipBlanks text) with
    | none => none
    | some (key, rest) =>
      match skipBlanks rest with
      | '.' :: rest =>
        (keyParts n rest).map fun (keys, rest) => (key :: keys, rest)
      | rest => some ([key], rest)

/-- Reads a key, a path of at least one part: the parts before the last, and the
last. -/
def key : Reader (List Key × Key) := fun text =>
  match keyParts (maxParts - 1) text with
  | none => none
  | some (keys, rest) => keys.getLast?.map fun last => ((keys.dropLast, last), rest)

/-! ## Numbers and dates -/

/-- Reads digits after the first; an underscore may stand between two of them. -/
def digitsFrom (digit : Char → Bool) (done : List Char) : Reader (List Char)
  | [] => some (done.reverse, [])
  | '_' :: rest =>
    match rest with
    | c :: rest => if digit c then digitsFrom digit (c :: done) rest else none
    | [] => none
  | c :: rest =>
    if digit c then digitsFrom digit (c :: done) rest
    else some (done.reverse, c :: rest)

/-- Reads at least one digit. -/
def digits (digit : Char → Bool) : Reader (List Char)
  | c :: rest => if digit c then digitsFrom digit [c] rest else none
  | [] => none

/-- Reads digits of which only a single one may start with zero. -/
def wholeDigits : Reader (List Char)
  | '0' :: rest => some (['0'], rest)
  | text => digits isDigit text

/-- The number of digits in a base. -/
def inBase (base : Nat) (cs : List Char) : Nat :=
  cs.foldl (fun n c => n * base + (hexValue? c).getD 0) 0

/-- An integer of a document has 64 bits with a sign. -/
def inRange (n : Int) : Bool :=
  decide (-0x8000000000000000 ≤ n ∧ n < 0x8000000000000000)

/-- A digit of a base. -/
def isBaseDigit (base : Nat) (c : Char) : Bool :=
  match hexValue? c with
  | some n => n < base
  | none => false

/-- A number before it has a place. -/
inductive Numeral where
  | integer (n : Int)
  | real (x : Real)

/-- Reads an integer after the mark of its base. -/
def based (base : Nat) : Reader Numeral := fun text =>
  match digits (isBaseDigit base) text with
  | none => none
  | some (cs, rest) =>
    let n : Int := inBase base cs
    if inRange n then some (.integer n, rest) else none

/-- A floating point number of decimal digits.  One that is too large is refused
if it is positive and infinite if it is negative. -/
def decimalReal (negative : Bool) (whole fraction : List Char) (e : Int)
    (rest : List Char) : Option (Numeral × List Char) :=
  let n := inBase 10 (whole ++ fraction)
  match Binary64.nearest? negative n (e - fraction.length) with
  | some x => some (.real (.finite x), rest)
  | none =>
    if negative then some (.real (.infinite true), rest) else none

/-- Reads the exponent of a floating point number, if there is one. -/
def exponent : Reader Int := fun text =>
  let after (rest : List Char) : Option (Int × List Char) :=
    let (minus, rest) :=
      match rest with
      | '+' :: rest => (false, rest)
      | '-' :: rest => (true, rest)
      | other => (false, other)
    (digits isDigit rest).map fun (cs, rest) =>
      let n : Int := inBase 10 cs
      (if minus then -n else n, rest)
  match text with
  | 'e' :: rest => after rest
  | 'E' :: rest => after rest
  | rest => some (0, rest)

/-- Reads a decimal number after its sign. -/
def decimal (negative : Bool) : Reader Numeral := fun text =>
  match wholeDigits text with
  | none => none
  | some (whole, rest) =>
    match rest with
    | '.' :: rest =>
      match digits isDigit rest with
      | none => none
      | some (fraction, rest) =>
        match exponent rest with
        | none => none
        | some (e, rest) => decimalReal negative whole fraction e rest
    | c :: _ =>
      if c = 'e' ∨ c = 'E' then
        match exponent rest with
        | none => none
        | some (e, rest) => decimalReal negative whole [] e rest
      else integer whole rest
    | [] => integer whole rest
where
  /-- The integer of some digits. -/
  integer (whole rest : List Char) : Option (Numeral × List Char) :=
    let n : Int := inBase 10 whole
    let n := if negative then -n else n
    if inRange n then some (.integer n, rest) else none

/-- Reads a number after its sign; infinity and what is no number have names. -/
def signed (negative : Bool) : Reader Numeral
  | 'i' :: 'n' :: 'f' :: rest => some (.real (.infinite negative), rest)
  | 'n' :: 'a' :: 'n' :: rest => some (.real .nan, rest)
  | text => decimal negative text

/-- Reads a number. -/
def numeral : Reader Numeral
  | '+' :: rest => signed false rest
  | '-' :: rest => signed true rest
  | '0' :: 'x' :: rest => based 16 rest
  | '0' :: 'o' :: rest => based 8 rest
  | '0' :: 'b' :: rest => based 2 rest
  | text => signed false text

/-- Reads a number of two digits within bounds. -/
def twoDigits (least most : Nat) : Reader Nat
  | a :: b :: rest =>
    if isDigit a ∧ isDigit b then
      let n := inBase 10 [a, b]
      if least ≤ n ∧ n ≤ most then some (n, rest) else none
    else none
  | _ => none

/-- Drops one character, which has to be there. -/
def expect (c : Char) : List Char → Option (List Char)
  | d :: rest => if c = d then some rest else none
  | [] => none

/-- The number of days of a month. -/
def monthDays (year month : Nat) : Nat :=
  if month = 2 then
    if year % 4 = 0 ∧ (year % 100 ≠ 0 ∨ year % 400 = 0) then 29 else 28
  else if month = 4 ∨ month = 6 ∨ month = 9 ∨ month = 11 then 30
  else 31

/-- Passes over a date. -/
def date? (text : List Char) : Option (List Char) :=
  match text with
  | a :: b :: c :: d :: rest =>
    if [a, b, c, d].all isDigit then do
      let rest ← expect '-' rest
      let (month, rest) ← twoDigits 1 12 rest
      let rest ← expect '-' rest
      let (day, rest) ← twoDigits 1 31 rest
      if day ≤ monthDays (inBase 10 [a, b, c, d]) month then some rest else none
    else none
  | _ => none

/-- Passes over the fraction of a second, if there is one. -/
def secondFraction : List Char → List Char
  | '.' :: c :: rest =>
    if isDigit c then rest.dropWhile isDigit else '.' :: c :: rest
  | rest => rest

/-- Passes over a time of day. -/
def time? (text : List Char) : Option (List Char) := do
  let (_, rest) ← twoDigits 0 23 text
  let rest ← expect ':' rest
  let (_, rest) ← twoDigits 0 59 rest
  let rest ← expect ':' rest
  let (_, rest) ← twoDigits 0 60 rest
  return secondFraction rest

/-- Passes over the offset of a time, if there is one. -/
def offset? : List Char → Option (List Char)
  | c :: rest =>
    if c = 'Z' ∨ c = 'z' then some rest
    else if c = '+' ∨ c = '-' then do
      let (_, rest) ← twoDigits 0 23 rest
      let rest ← expect ':' rest
      let (_, rest) ← twoDigits 0 59 rest
      return rest
    else some (c :: rest)
  | [] => some []

/-- Passes over a date, a time, or both. -/
def datetime? (text : List Char) : Option (List Char) :=
  match date? text with
  | none => time? text
  | some rest =>
    match rest with
    | c :: after =>
      if c = 'T' ∨ c = 't' ∨ c = ' ' then
        match time? after with
        | none => some rest
        | some rest => offset? rest
      else some rest
    | [] => some []

end Invocation.Toml
