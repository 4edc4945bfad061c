import Invocation.Diagnostics.Event
import Invocation.Pattern.Reader
import Invocation.Text.Classes

/-!
# Directives

A directive says how much is to be seen of what it is about.  It is written
`target[span{field=value}]=level`, of which every part may be left out.  The
target is the beginning of the targets meant.  With a span or a field the
directive is about what happens inside spans: those of the name, with the field,
whose value is as demanded.  A value is demanded by a pattern; one that reads as
a truth value or a number demands just that.
-/

namespace Invocation

/-- How much is to be seen: events up to a rank. -/
abbrev Verbosity := Nat

/-- What a directive demands of the value of a field. -/
inductive Demand where
  /-- A truth value or a number. -/
  | constant (written : String)
  /-- A text that meets a pattern. -/
  | pattern (written : String) (p : Pattern)
  deriving DecidableEq, Repr

/-- A field that a directive asks for. -/
structure FieldDemand where
  name : String
  value : Option Demand
  deriving DecidableEq, Repr

/-- How much is to be seen of what. -/
structure Directive where
  target : Option String := none
  span : Option String := none
  field : Option FieldDemand := none
  verbosity : Verbosity := Level.trace.rank
  deriving DecidableEq, Repr

/-- Why a directive cannot be read. -/
inductive DirectiveFault where
  | malformed
  /-- A part of it starts or ends inside a character. -/
  | splitCharacter
  deriving DecidableEq, Repr

namespace Demand

/-- A sign dropped from the front of a number. -/
def unsigned : List Char → List Char
  | '+' :: rest => rest
  | '-' :: rest => rest
  | other => other

/-- The exponent of a number, or nothing. -/
def isExponent : List Char → Bool
  | [] => true
  | c :: rest =>
    (c == 'e' || c == 'E') && unsigned rest != [] &&
      (unsigned rest).all Json.isDigit

/-- A number, with a decimal point and an exponent if they are wanted; digits
may be missing before the point or after it, but not both. -/
def isDecimal (cs : List Char) : Bool :=
  let (whole, rest) := cs.span Json.isDigit
  let (fraction, rest) :=
    match rest with
    | '.' :: rest => rest.span Json.isDigit
    | rest => ([], rest)
  (whole != [] || fraction != []) && isExponent rest

/-- A truth value or a number, infinite ones and no number at all included. -/
def isConstant (cs : List Char) : Bool :=
  let size := unsigned cs
  cs == "true".toList || cs == "false".toList || isDecimal size ||
    ["inf", "infinity", "nan"].any fun name =>
      name.toList == size.map Char.toLower

/-- Reads the demand on a value. -/
def ofText? (cs : List Char) : Option Demand :=
  let written := String.ofList cs
  if isConstant cs then some (.constant written)
  else (Pattern.ofText? cs).map (.pattern written)

/-- The demand as it was written. -/
def written : Demand → String
  | .constant w => w
  | .pattern w _ => w

/-- A text is as demanded.  No text is a truth value or a number. -/
def metBy : Demand → String → Bool
  | .constant _, _ => false
  | .pattern _ p, s => p.metBy s

end Demand

/-- Reads a field: its name and, after an equals sign, what is demanded of its
value.  What follows a second equals sign is passed over. -/
def FieldDemand.ofText? (cs : List Char) : Option FieldDemand :=
  let name := String.ofList (cs.takeWhile (· ≠ '='))
  match cs.dropWhile (· ≠ '=') with
  | [] => some ⟨name, none⟩
  | _ :: value =>
    (Demand.ofText? (value.takeWhile (· ≠ '='))).map (⟨name, some ·⟩)

namespace Directive

/-- Everything is to be seen. -/
def everything : Verbosity := Level.trace.rank

/-! ## Levels -/

/-- Digits as a number. -/
def digits? (cs : List Char) : Option Nat :=
  if cs ≠ [] ∧ cs.all Json.isDigit then
    some (cs.foldl (fun n c => n * 10 + Json.digitValue c) 0)
  else none

/-- A number from 0 to 5, a plus sign before it being allowed. -/
def number? (cs : List Char) : Option Verbosity :=
  let digits :=
    match cs with
    | '+' :: rest => rest
    | other => other
  (digits? digits).filter (· ≤ everything)

/-- A level by name, in any case. -/
def name? (cs : List Char) : Option Verbosity :=
  let known : List (String × Verbosity) :=
    [("off", 0), ("error", 1), ("warn", 2), ("info", 3), ("debug", 4),
      ("trace", 5)]
  (known.find? fun entry => entry.1.toList == cs.map Char.toLower).map Prod.snd

/-- A level: a number or a name. -/
def verbosity? (cs : List Char) : Option Verbosity :=
  (number? cs).or (name? cs)

/-! ## Reading -/

/-- What is left of a text after so many bytes, unless they end inside a
character. -/
def dropBytes? : Nat → List Char → Option (List Char)
  | 0, cs => some cs
  | _ + 1, [] => none
  | n + 1, c :: rest =>
    if n + 1 < c.utf8Size then none else dropBytes? (n + 1 - c.utf8Size) rest

/-- So many bytes of a text, unless they end inside a character. -/
def takeBytes? : Nat → List Char → Option (List Char)
  | 0, _ => some []
  | _ + 1, [] => none
  | n + 1, c :: rest =>
    if n + 1 < c.utf8Size then none
    else (takeBytes? (n + 1 - c.utf8Size) rest).map (c :: ·)

/-- What a directive is read into, or why it cannot be read. -/
abbrev Read (α : Type) := Except DirectiveFault α

/-- The bytes of a text from one place up to another. -/
def cut (text : List Char) (start stop : Nat) : Read (List Char) :=
  match (dropBytes? start text).bind (takeBytes? (stop - start)) with
  | some part => .ok part
  | none => .error .splitCharacter

/-- The bytes of a text from a place on. -/
def cutFrom (text : List Char) (start : Nat) : Read (List Char) :=
  match dropBytes? start text with
  | some part => .ok part
  | none => .error .splitCharacter

/-- The part of a directive that is being read, with the place where it
starts. -/
inductive Part where
  /-- Nothing has been read. -/
  | nothing
  /-- A level or a target. -/
  | first
  | span (start : Nat)
  | field (start : Nat)
  /-- The field is complete. -/
  | fieldEnd
  /-- The span is complete. -/
  | spanEnd
  | level (start : Nat)
  deriving DecidableEq, Repr

/-- A directive may start with this character. -/
def startsWith (c : Char) : Bool :=
  c == '-' || c == ':' || c == '_' || Text.isAlphanumeric c

/-- Reads the field up to a place. -/
def withField (text : List Char) (start stop : Nat) (d : Directive) :
    Read Directive :=
  match cut text start stop with
  | .error e => .error e
  | .ok [] => .error .malformed
  | .ok cs =>
    match FieldDemand.ofText? cs with
    | some f => .ok { d with field := some f }
    | none => .error .malformed

/-- Takes the character at a place. -/
def advance (text : List Char) (place : Nat) (c : Char) (part : Part)
    (d : Directive) : Read (Part × Directive) :=
  let next := place + 1
  let named (cs : List Char) : Option String := some (String.ofList cs)
  match part with
  | .nothing =>
    if c == '[' then .ok (.span next, d)
    else if startsWith c then .ok (.first, d)
    else .error .malformed
  | .first =>
    if c == '=' then
      (cut text 0 place).map fun t => (.level next, { d with target := named t })
    else if c == '[' then
      (cut text 0 place).map fun t => (.span next, { d with target := named t })
    else .ok (.first, d)
  | .span start =>
    if c == ']' then
      (cut text start place).map fun s => (.spanEnd, { d with span := named s })
    else if c == '\x7b' then
      (cut text start place).map fun s =>
        (.field next, { d with span := if s = [] then none else named s })
    else .ok (part, d)
  | .field start =>
    if c == '\x7d' then
      (withField text start place d).map fun d => (.fieldEnd, d)
    else .ok (part, d)
  | .fieldEnd =>
    if c == ']' then .ok (.spanEnd, d) else .error .malformed
  | .spanEnd =>
    if c == '=' then .ok (.level next, d) else .error .malformed
  | .level _ => .ok (part, d)

/-- Takes characters, the first of which is at a place. -/
def advanceAll (text : List Char) : Nat → Part → Directive → List Char →
    Read (Part × Directive)
  | _, part, d, [] => .ok (part, d)
  | place, part, d, c :: rest =>
    match advance text place c part d with
    | .error e => .error e
    | .ok (part, d) => advanceAll text (place + c.utf8Size) part d rest

/-- The directive after all its characters.  What is no level by itself is a
target of which everything is to be seen. -/
def finish (text : List Char) : Part → Directive → Read Directive
  | .first, d =>
    match verbosity? text with
    | some v => .ok { d with verbosity := v }
    | none => .ok { d with target := some (String.ofList text) }
  | .level start, d =>
    match cutFrom text start with
    | .error e => .error e
    | .ok [] => .ok d
    | .ok cs =>
      match verbosity? cs with
      | some v => .ok { d with verbosity := v }
      | none => .error .malformed
  | .spanEnd, d => .ok d
  | _, _ => .error .malformed

/-- Reads a directive.  Its parts are found without the blanks at the ends of
the text, but they are cut from the text as it stands, at the same numbers of
bytes: a blank in front shifts every part, possibly into a character. -/
def parse (text : List Char) : Read Directive :=
  match advanceAll text 0 .nothing {} (Text.trim text) with
  | .error e => .error e
  | .ok (part, d) => finish text part d

/-! ## What a directive is about -/

/-- The directive is about targets like this one. -/
def covers (d : Directive) (target : String) : Bool :=
  match d.target with
  | none => true
  | some t => t.toList.isPrefixOf target.toList

/-- The directive asks for the value of a field. -/
def demandsValue (d : Directive) : Bool :=
  match d.field with
  | some ⟨_, some _⟩ => true
  | _ => false

/-- The directive is about what happens inside spans. -/
def isDynamic (d : Directive) : Bool :=
  d.span.isSome || d.field.isSome

/-- The directive is about events wherever they happen. -/
def isStatic (d : Directive) : Bool :=
  d.span.isNone && !d.demandsValue

/-- The field that the directive asks for is among these. -/
def fieldAmong (d : Directive) (names : List String) : Bool :=
  match d.field with
  | none => true
  | some f => names.contains f.name

end Directive
end Invocation
