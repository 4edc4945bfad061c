/-!
# Writing TOML strings

A string has four forms.  The one that is written is the first in a fixed order
of preference that can hold the text as it is; if none can, the text is escaped.
-/

namespace Invocation.Toml

/-- The forms of a string. -/
inductive StringForm where
  | basic
  | literal
  | multiBasic
  | multiLiteral
  deriving DecidableEq, Repr

/-- A control character that only an escape can stand for.  The tab is none, and
neither is the line break. -/
def isControl (c : Char) : Bool :=
  (c.toNat < 0x20 || c = '\x7f') && c ≠ '\t' && c ≠ '\n'

/-- The longest run of a character, given the run so far and the longest one. -/
def longestRun (q : Char) (run longest : Nat) : List Char → Nat
  | [] => longest
  | c :: rest =>
    if c = q then longestRun q (run + 1) (max longest (run + 1)) rest
    else longestRun q 0 longest rest

/-- The form in which a text is written. -/
def StringForm.of (cs : List Char) : StringForm :=
  let control := cs.any isControl
  let escape := cs.contains '\\'
  let breaks := cs.contains '\n'
  let double := longestRun '"' 0 0 cs
  let single := longestRun '\'' 0 0 cs
  if !control && !escape && !breaks && double = 0 then .basic
  else if !control && !breaks && single = 0 then .literal
  else if !control && !escape && double ≤ 2 then .multiBasic
  else if !control && single ≤ 2 then .multiLiteral
  else if breaks then .multiBasic
  else .basic

/-- A hexadecimal digit in upper case. -/
def upperHex (n : Nat) : Char := (Nat.digitChar n).toUpper

/-- The escaped form of a character that always needs one in basic strings. -/
def escaped? (c : Char) : Option (List Char) :=
  if c = '\x08' then some ['\\', 'b']
  else if c = '\t' then some ['\\', 't']
  else if c = '\x0c' then some ['\\', 'f']
  else if c = '\r' then some ['\\', 'r']
  else if c = '\\' then some ['\\', '\\']
  else if c.toNat < 0x20 ∨ c = '\x7f' then
    some ['\\', 'u', '0', '0', upperHex (c.toNat / 16), upperHex (c.toNat % 16)]
  else none

/-- The text of a basic string on one line. -/
def basicChars : List Char → List Char
  | [] => []
  | c :: rest =>
    if c = '"' then '\\' :: '"' :: basicChars rest
    else if c = '\n' then '\\' :: 'n' :: basicChars rest
    else
      match escaped? c with
      | some form => form ++ basicChars rest
      | none => c :: basicChars rest

/-- The text of a multi-line basic string; `run` counts the quotes just
written.  Only the third quote of a run is escaped. -/
def multiBasicChars (run : Nat) : List Char → List Char
  | [] => []
  | c :: rest =>
    if c = '"' then
      if run < 2 then '"' :: multiBasicChars (run + 1) rest
      else '\\' :: '"' :: multiBasicChars 0 rest
    else if c = '\n' then '\n' :: multiBasicChars 0 rest
    else
      match escaped? c with
      | some form => form ++ multiBasicChars 0 rest
      | none => c :: multiBasicChars 0 rest

/-- A text between delimiters of three quotes.  The line break after the first
one does not belong to the text; it is there if the text has line breaks. -/
def multiLine (quote : Char) (cs inner : List Char) : List Char :=
  let delimiter := [quote, quote, quote]
  delimiter ++ (if cs.contains '\n' then ['\n'] else []) ++ inner ++ delimiter

/-- A string in its form. -/
def stringText (s : String) : List Char :=
  let cs := s.toList
  match StringForm.of cs with
  | .basic => '"' :: (basicChars cs ++ ['"'])
  | .literal => '\'' :: (cs ++ ['\''])
  | .multiBasic => multiLine '"' cs (multiBasicChars 0 cs)
  | .multiLiteral => multiLine '\'' cs cs

end Invocation.Toml
