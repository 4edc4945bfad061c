import Invocation.Json.Mismatch
import Invocation.Toml.Document

/-!
# Reading settings from TOML

Typed readers of items.  What they refuse is shown with the line it stands on
and a marker under it.
-/

namespace Invocation.Toml

open Json (Mismatch Found)

/-- Why an item is refused. -/
inductive Refusal where
  | mismatch (m : Mismatch)
  | noElement
  | manyElements
  | notStringOrTable
  | notEmptyTable
  | notEmptyArray
  | notTable (typeName : String)
  deriving DecidableEq, Repr

/-- The wording of a refusal. -/
def Refusal.message : Refusal → String
  | .mismatch m => m.message
  | .noElement => "wanted exactly 1 element, found 0 elements"
  | .manyElements => "wanted exactly 1 element, more than 1 element"
  | .notStringOrTable => "wanted string or table"
  | .notEmptyTable => "expected empty table"
  | .notEmptyArray => "expected empty array"
  | .notTable typeName => "expected table, found " ++ typeName

/-- A refusal and the place it is about, if it has one of its own. -/
structure Fault where
  refusal : Refusal
  span : Option Span
  deriving Repr

/-- The fault, about another place if it has none of its own. -/
def Fault.orAt (f : Fault) (span : Option Span) : Fault :=
  { f with span := f.span.or span }

/-- A typed reader of items. -/
abbrev Decoder (α : Type) := Item → Except Fault α

namespace Decoder

/-- What an item is met as. -/
def found : Item → Found
  | .string s _ => .string s
  | .integer n _ => .integer n
  | .real x _ => .float x.text
  | .boolean b _ => .boolean b
  | .datetime _ | .table _ => .map
  | .array .. | .tables .. => .sequence

/-- Refuses an item for its type. -/
def wrongType {α : Type} (expected : String) (i : Item) : Except Fault α :=
  .error ⟨.mismatch (.type (found i) expected), i.span?⟩

/-- Text. -/
def string : Decoder String
  | .string s _ => .ok s
  | i => wrongType "a string" i

/-- A truth value. -/
def boolean : Decoder Bool
  | .boolean b _ => .ok b
  | i => wrongType "a boolean" i

/-- An integer that `convert` can represent. -/
def integer {α : Type} (expected : String) (convert : Int → Option α) :
    Decoder α
  | .integer n span =>
    match convert n with
    | some v => .ok v
    | none => .error ⟨.mismatch (.value (.integer n) expected), some span⟩
  | i => wrongType expected i

/-- An item that stands for nothing: an empty table or array. -/
def nothing : Decoder Unit
  | .table t =>
    if t.entries.isEmpty then .ok () else .error ⟨.notEmptyTable, t.span⟩
  | .array vs span =>
    if vs.isEmpty then .ok () else .error ⟨.notEmptyTable, some span⟩
  | .tables ts span =>
    if ts.isEmpty then .ok () else .error ⟨.notEmptyArray, span⟩
  | i => .error ⟨.notTable i.typeName, i.span?⟩

/-- The alternative of a name that stood at a place. -/
def named {α : Type} (known : List (String × α)) (name : String)
    (span : Option Span) : Except Fault α :=
  match known.find? (·.1 == name) with
  | some (_, v) => .ok v
  | none => .error ⟨.mismatch (.unknownVariant name (known.map Prod.fst)), span⟩

/-- One of several named alternatives: its name, or a table whose only key is
its name and holds nothing. -/
def variant {α : Type} (known : List (String × α)) : Decoder α
  | .string name span => named known name (some span)
  | .table t =>
    match t.entries with
    | [] => .error ⟨.noElement, t.span⟩
    | [(key, i)] =>
      match named known key.name (some key.span) with
      | .error e => .error e
      | .ok v =>
        match nothing i with
        | .error e => .error (e.orAt t.span)
        | .ok () => .ok v
    | _ => .error ⟨.manyElements, t.span⟩
  | i => .error ⟨.notStringOrTable, i.span?⟩

end Decoder

/-! ## Messages -/

/-- The line that is open after some characters, and how many lines come
before it. -/
def lineOf (count : Nat) (line : List Char) : List Char → Nat × List Char
  | [] => (count, line.reverse)
  | c :: rest =>
    if c = '\n' then lineOf (count + 1) [] rest
    else lineOf count (c :: line) rest

/-- Blanks. -/
def blanks (n : Nat) : String := String.ofList (List.replicate n ' ')

/-- The wording of a fault: where it is, the line with a marker, and the
reason.  Columns count characters.  The marker is as wide as what it marks has
bytes, but ends with the bytes of the line. -/
def Fault.message (text : List Char) (f : Fault) : String :=
  let reason := f.refusal.message ++ "\n"
  match f.span with
  | none => reason
  | some span =>
    let before := text.take (text.length - span.start.length)
    let (count, head) := lineOf 0 [] before
    let line := head ++ span.start.takeWhile (· ≠ '\n')
    let column := head.length
    let number := toString (count + 1)
    let gutter := blanks (number.length + 1) ++ "|"
    let width := Text.Utf8.size span.start - Text.Utf8.size span.stop
    let marker := max 1 (min width (Text.Utf8.size line - column))
    "TOML parse error at line " ++ number ++ ", column " ++
      toString (column + 1) ++ "\n" ++ gutter ++ "\n" ++ number ++ " | " ++
      String.ofList line ++ "\n" ++ gutter ++ blanks (column + 1) ++
      String.ofList (List.replicate marker '^') ++ "\n" ++ reason

end Invocation.Toml
