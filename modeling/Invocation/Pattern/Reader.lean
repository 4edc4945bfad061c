import Invocation.Json.Reader
import Invocation.Pattern.Basic
import Invocation.Text.Classes

/-!
# How patterns are written

Most characters stand for themselves.  A dot stands for any character, brackets
for one of a set, a circumflex and a dollar sign for the ends of the text, a bar
separates alternatives, parentheses group, and a question mark, an asterisk or a
plus sign repeats what stands before it.  A backslash gives letters a meaning
and takes it from everything else.

Modes change what the rest of a group means.  In the mode for all characters,
which is on at first, a set cannot be closed under case and no set has a letter
for its name, since only ASCII is known here by its classes; in the mode for
bytes, a set must stay within ASCII.  Repetition by counts is not known.
-/

namespace Invocation.Pattern

/-- How a part of a pattern is to be read. -/
structure Modes where
  /-- Letters stand for both cases. -/
  caseless : Bool := false
  /-- Circumflex and dollar sign stand for the ends of lines. -/
  multiline : Bool := false
  /-- A dot stands for a line break too. -/
  dotAll : Bool := false
  /-- Repetitions are greedy only with a question mark. -/
  swapped : Bool := false
  /-- Lines may end by a carriage return. -/
  returns : Bool := false
  /-- Blanks and remarks are skipped. -/
  spaced : Bool := false
  /-- Characters are read, not bytes. -/
  characters : Bool := true
  deriving DecidableEq, Repr

namespace Modes

/-- Changes the mode of a letter. -/
def change? (m : Modes) (on : Bool) : Char → Option Modes
  | 'i' => some { m with caseless := on }
  | 'm' => some { m with multiline := on }
  | 's' => some { m with dotAll := on }
  | 'U' => some { m with swapped := on }
  | 'R' => some { m with returns := on }
  | 'x' => some { m with spaced := on }
  | 'u' => some { m with characters := on }
  | _ => none

/-- Drops blanks, and remarks from a number sign to the end of the line. -/
def skipSpaced : Bool → List Char → List Char
  | _, [] => []
  | true, c :: rest => skipSpaced (c != '\n') rest
  | false, c :: rest =>
    if Text.isBlank c then skipSpaced false rest
    else if c == '#' then skipSpaced true rest
    else c :: rest

/-- Drops what the modes allow to skip. -/
def skip (m : Modes) (text : List Char) : List Char :=
  if m.spaced then skipSpaced false text else text

/-- Reads the letters of modes up to the colon or parenthesis after them, which
is left.  No letter comes twice, and a minus sign, after which modes are
switched off, is not the last. -/
def read? (m : Modes) (off : Bool) (seen : List Char) :
    List Char → Option (Modes × List Char)
  | [] => none
  | c :: rest =>
    if c == ':' || c == ')' then
      if seen.head? == some '-' then none else some (m, c :: rest)
    else if seen.contains c then none
    else if c == '-' then read? m true (c :: seen) rest
    else
      match m.change? (!off) c with
      | some m => read? m off (c :: seen) rest
      | none => none

end Modes

/-! ## Characters -/

/-- The value of so many hexadecimal digits. -/
def hex? (m : Modes) : Nat → Nat → List Char → Option (Nat × List Char)
  | 0, n, text => some (n, text)
  | _ + 1, _, [] => none
  | count + 1, n, c :: rest =>
    match Json.hexValue? c with
    | some d => hex? m count (n * 16 + d) (m.skip rest)
    | none => none

/-- What an escape or a plain character stands for. -/
inductive Atom where
  /-- A character; whether it was given as the number of a byte. -/
  | char (c : Char) (byte : Bool)
  | set (s : CharSet)
  | check (c : Check)

/-- The character of a number of so many hexadecimal digits. -/
def numbered? (m : Modes) (count : Nat) (text : List Char) :
    Option (Atom × List Char) :=
  match hex? m count 0 (m.skip text) with
  | none => none
  | some (n, rest) =>
    if n < 0xD800 ∨ (0xDFFF < n ∧ n < 0x110000) then
      some (.char (Char.ofNat n) (count == 2), rest)
    else none

/-- Reads what follows a backslash. -/
def escape? (m : Modes) : List Char → Option (Atom × List Char)
  | [] => none
  | c :: rest =>
    let char (c : Char) : Option (Atom × List Char) :=
      some (.char c false, rest)
    let ofBytes (a : Atom) : Option (Atom × List Char) :=
      if m.characters then none else some (a, rest)
    match c with
    | 'x' => numbered? m 2 rest
    | 'u' => numbered? m 4 rest
    | 'U' => numbered? m 8 rest
    | 'd' => ofBytes (.set .digits)
    | 's' => ofBytes (.set .spaces)
    | 'w' => ofBytes (.set .wordChars)
    | 'a' => char '\x07'
    | 'f' => char '\x0c'
    | 't' => char '\t'
    | 'n' => char '\n'
    | 'r' => char '\r'
    | 'v' => char '\x0b'
    | 'A' => some (.check .textStart, rest)
    | 'z' => some (.check .textEnd, rest)
    | 'b' => ofBytes (.check .wordEdge)
    | 'B' => ofBytes (.check .noWordEdge)
    | '<' => ofBytes (.check .wordStart)
    | '>' => ofBytes (.check .wordEnd)
    | c => if c.toNat < 0x80 && !c.isAlphanum then char c else none

/-- The pattern of an atom outside brackets. -/
def ofAtom? (m : Modes) : Atom → Option Pattern
  | .set s => some (.one s)
  | .check c => some (.check c)
  | .char c byte =>
    let n := c.toNat
    if m.characters then
      if m.caseless then none else some (.one (.single n))
    else if byte && decide (0x80 ≤ n) then none
    else if m.caseless then some (.one (.eitherCase (.single n)))
    else some (.one (.single n))

/-- The pattern of a dot. -/
def dot? (m : Modes) : Option Pattern :=
  if !m.characters then none
  else if m.dotAll then some (.one (.complement .none))
  else if m.returns then
    some (.one (.complement (.union (.single 10) (.single 13))))
  else some (.one (.complement (.single 10)))

/-- The check of a circumflex. -/
def startCheck (m : Modes) : Check :=
  if !m.multiline then .textStart
  else if m.returns then .returnLineStart
  else .lineStart

/-- The check of a dollar sign. -/
def endCheck (m : Modes) : Check :=
  if !m.multiline then .textEnd
  else if m.returns then .returnLineEnd
  else .lineEnd

/-! ## Sets in brackets -/

/-- A set that is complete, possibly the other way round. -/
def closed? (m : Modes) (negated : Bool) (s : CharSet) : Option CharSet :=
  let whole (s : CharSet) := if negated then s.complement else s
  if m.characters then if m.caseless then none else some (whole s)
  else
    let s := whole (if m.caseless then .eitherCase s else s)
    if s.withinAscii then some s else none

/-- How two sets are combined. -/
inductive SetOperator where
  | meet
  | difference
  | symmetricDifference

/-- A set and how it is to be combined with the next one. -/
abbrev Pending := Option (SetOperator × CharSet)

/-- Combines a set with the one before it, if there is one. -/
def combine (m : Modes) (pending : Pending) (s : CharSet) : CharSet :=
  let folded (s : CharSet) := if m.caseless then s.eitherCase else s
  match pending with
  | none => s
  | some (.meet, a) => .meet (folded a) (folded s)
  | some (.difference, a) => .difference (folded a) (folded s)
  | some (.symmetricDifference, a) =>
    .symmetricDifference (folded a) (folded s)

/-- Drops hyphens and what may be skipped. -/
def afterHyphens (m : Modes) : List Char → List Char
  | [] => []
  | c :: rest =>
    if c == '-' || (m.spaced && Text.isBlank c) then afterHyphens m rest
    else c :: rest

/-- Reads the beginning of a set after its bracket: the sign that turns it
round, hyphens, and a closing bracket that belongs to the set because it is the
first there. -/
def beginSet (m : Modes) (text : List Char) : Bool × CharSet × List Char :=
  let text := m.skip text
  let negated := text.head? == some '^'
  let text := if negated then m.skip text.tail else text
  match text with
  | '-' :: rest => (negated, .single 45, afterHyphens m rest)
  | ']' :: rest => (negated, .single 93, m.skip rest)
  | rest => (negated, .none, rest)

/-- Reads a named set after its bracket, the brackets of the name included. -/
def named? : List Char → Option (Bool × CharSet × List Char)
  | ':' :: rest =>
    let negated := rest.head? == some '^'
    let rest := if negated then rest.tail else rest
    match rest.dropWhile (· != ':') with
    | ':' :: ']' :: after =>
      (CharSet.named? (String.ofList (rest.takeWhile (· != ':')))).map
        (negated, ·, after)
    | _ => none
  | _ => none

/-- Reads an atom inside brackets. -/
def setAtom? (m : Modes) : List Char → Option (Atom × List Char)
  | [] => none
  | '\\' :: rest => escape? m rest
  | c :: rest => some (.char c false, rest)

/-- The number of an atom that stands for one character. -/
def number? (m : Modes) : Atom → Option Nat
  | .char c _ =>
    if m.characters || decide (c.toNat < 0x80) then some c.toNat else none
  | _ => none

/-- Reads an atom or a range of a set. -/
def setItem? (m : Modes) (text : List Char) : Option (CharSet × List Char) :=
  match setAtom? m text with
  | none => none
  | some (first, rest) =>
    let alone (rest : List Char) : Option (CharSet × List Char) :=
      match first with
      | .set s => some (s, rest)
      | first => (number? m first).map fun n => (.single n, rest)
    match m.skip rest with
    | '-' :: rest =>
      match m.skip rest with
      | [] => none
      | c :: after =>
        if c == ']' || c == '-' then alone ('-' :: rest)
        else
          match setAtom? m (c :: after) with
          | none => none
          | some (last, rest) =>
            match number? m first, number? m last with
            | some a, some b =>
              if a ≤ b then some (.range a b, rest) else none
            | _, _ => none
    | rest => alone rest

/-- Reads the items of a set up to and including its closing bracket.  The first
list only bounds how long this may go on. -/
def setBody? (m : Modes) : List Char → Pending → CharSet → List Char →
    Option (CharSet × List Char)
  | [], _, _, _ => none
  | _ :: clock, pending, s, text =>
    let operator (o : SetOperator) (rest : List Char) :=
      setBody? m clock (some (o, combine m pending s)) .none rest
    match m.skip text with
    | [] => none
    | ']' :: rest => some (combine m pending s, rest)
    | '&' :: '&' :: rest => operator .meet rest
    | '-' :: '-' :: rest => operator .difference rest
    | '~' :: '~' :: rest => operator .symmetricDifference rest
    | '[' :: rest =>
      match named? rest with
      | some (negated, inner, rest) =>
        match closed? m negated inner with
        | some inner => setBody? m clock pending (.union s inner) rest
        | none => none
      | none =>
        let (negated, start, rest) := beginSet m rest
        match setBody? m clock none start rest with
        | none => none
        | some (inner, rest) =>
          match closed? m negated inner with
          | some inner => setBody? m clock pending (.union s inner) rest
          | none => none
    | rest =>
      match setItem? m rest with
      | some (item, rest) => setBody? m clock pending (.union s item) rest
      | none => none

/-- Reads a set after its opening bracket. -/
def set? (m : Modes) (text : List Char) : Option (Pattern × List Char) :=
  let (negated, start, rest) := beginSet m text
  match setBody? m ('[' :: text) none start rest with
  | none => none
  | some (s, rest) => (closed? m negated s).map fun s => (.one s, rest)

/-! ## Groups -/

/-- What an opening parenthesis starts. -/
inductive Opening where
  /-- Modes for the rest of the group around it. -/
  | modes (m : Modes)
  /-- A group with modes of its own. -/
  | group (m : Modes)

/-- A character of a name. -/
def isNameChar (first : Bool) (c : Char) : Bool :=
  c == '_' || (Text.isAlphanumeric c && !(first && Json.isDigit c)) ||
    (!first && (c == '.' || c == '[' || c == ']'))

/-- Reads the name of a group up to and including its closing angle bracket.
No two groups have the same name. -/
def groupName? (names : List String) (text : List Char) :
    Option (String × List Char) :=
  let name := text.takeWhile (· != '>')
  let fits :=
    (name.take 1).all (isNameChar true) && (name.drop 1).all (isNameChar false)
  match text.dropWhile (· != '>') with
  | _ :: rest =>
    let s := String.ofList name
    if name ≠ [] && fits && !names.contains s then some (s, rest) else none
  | [] => none

/-- Reads what follows an opening parenthesis. -/
def opening? (m : Modes) (names : List String) (text : List Char) :
    Option (Opening × List String × List Char) :=
  let namedGroup (rest : List Char) :=
    (groupName? names rest).map fun (name, rest) =>
      (Opening.group m, name :: names, rest)
  match m.skip text with
  | '?' :: 'P' :: '<' :: rest => namedGroup rest
  | '?' :: '<' :: rest => namedGroup rest
  | '?' :: rest =>
    match m.read? false [] rest with
    | some (inner, ':' :: after) => some (.group inner, names, after)
    | some (inner, _ :: after) =>
      if rest.head? == some ')' then none else some (.modes inner, names, after)
    | _ => none
  | rest => some (.group m, names, rest)

/-- What stands before a place in a group: patterns, and the places where modes
changed, the latest first. -/
abbrev Before := List (Option Pattern)

/-- The pattern of an alternative. -/
def alternative (before : Before) : Pattern :=
  sequence (before.reverse.filterMap id)

/-- The pattern of the alternatives so far and a last one. -/
def joined (others : Option Pattern) (before : Before) : Pattern :=
  match others with
  | none => alternative before
  | some p => .either p (alternative before)

/-- A repetition by its sign. -/
def repeated (sign : Char) (greedy : Bool) (p : Pattern) : Pattern :=
  if sign == '?' then .optional greedy p
  else if sign == '*' then anyNumber greedy p
  else .once greedy p

/-- Reads a group up to the parenthesis that closes it, or to the end of the
text, with the names of the groups in it.  The first list only bounds how long
this may go on. -/
def group? : List Char → Modes → List String → Option Pattern → Before →
    List Char → Option (Pattern × List String × List Char)
  | [], _, _, _, _, _ => none
  | _ :: clock, m, names, others, before, text =>
    let next (p : Option Pattern) (rest : List Char) :=
      match p with
      | some p => group? clock m names others (some p :: before) rest
      | none => none
    match m.skip text with
    | [] => some (joined others before, names, [])
    | ')' :: rest => some (joined others before, names, ')' :: rest)
    | '|' :: rest =>
      group? clock m names (some (joined others before)) [] rest
    | '(' :: rest =>
      match opening? m names rest with
      | none => none
      | some (.modes m, names, rest) =>
        group? clock m names others (none :: before) rest
      | some (.group inner, names, rest) =>
        match group? clock inner names none [] rest with
        | some (p, names, ')' :: rest) =>
          group? clock m names others (some p :: before) rest
        | _ => none
    | '[' :: rest =>
      match set? m rest with
      | some (p, rest) => next (some p) rest
      | none => none
    | '\\' :: rest =>
      match escape? m rest with
      | some (a, rest) => next (ofAtom? m a) rest
      | none => none
    | '.' :: rest => next (dot? m) rest
    | '^' :: rest => next (some (.check (startCheck m))) rest
    | '$' :: rest => next (some (.check (endCheck m))) rest
    | '\x7b' :: _ => none
    | c :: rest =>
      if c == '?' || c == '*' || c == '+' then
        match before with
        | some p :: before =>
          let lazily := rest.head? == some '?'
          let greedy := lazily == m.swapped
          group? clock m names others (some (repeated c greedy p) :: before)
            (if lazily then rest.tail else rest)
        | _ => none
      else next (ofAtom? m (.char c false)) rest

/-- The pattern that a text writes. -/
def ofText? (text : List Char) : Option Pattern :=
  match group? ('(' :: text) {} [] none [] text with
  | some (p, _, []) => some p
  | _ => none

end Invocation.Pattern
