import Invocation.Binary64.Shortest

/-!
# TOML documents

A document is a table of keys and items.  Items remember where they stood, and
tables remember how they came to be, because that decides what may still be
added to them.
-/

namespace Invocation.Toml

/-- A stretch of a document, given by the texts that were unread at its start
and at its end. -/
structure Span where
  start : List Char
  stop : List Char
  deriving DecidableEq, Repr

/-- A key and where it stood. -/
structure Key where
  name : String
  span : Span
  deriving DecidableEq, Repr

/-- A floating point number of a document. -/
inductive Real where
  | nan
  | infinite (negative : Bool)
  | finite (x : Binary64)
  deriving DecidableEq, Repr

/-- The layout of floating point numbers in messages: always positional. -/
def realLayout : Binary64.Layout := ⟨none, none⟩

/-- The text of a floating point number in messages. -/
def Real.text : Real → String
  | .nan => "NaN"
  | .infinite negative => if negative then "-inf" else "inf"
  | .finite x => String.ofList (x.toChars realLayout)

/-- How a table came to be. -/
inductive TableKind where
  /-- By a header of its own, or as the document itself. -/
  | headed
  /-- As part of the path of another table's header. -/
  | implied
  /-- As part of a dotted key. -/
  | dotted
  /-- Between braces. -/
  | inline
  /-- As part of a dotted key between braces. -/
  | inlineDotted
  deriving DecidableEq, Repr

/-- A table of items of type `ι`.  Tables that were only implied have no place
of their own. -/
structure TableOf (ι : Type) where
  kind : TableKind
  span : Option Span
  entries : List (Key × ι)
  deriving Repr

/-- What stands under a key. -/
inductive Item where
  | string (s : String) (span : Span)
  | integer (n : Int) (span : Span)
  | real (x : Real) (span : Span)
  | boolean (b : Bool) (span : Span)
  | datetime (span : Span)
  | array (items : List Item) (span : Span)
  | table (t : TableOf Item)
  | tables (ts : List (TableOf Item)) (span : Option Span)

/-- A table of items. -/
abbrev Table := TableOf Item

namespace Item

/-- Where an item stood. -/
def span? : Item → Option Span
  | .string _ s | .integer _ s | .real _ s | .boolean _ s | .datetime s
  | .array _ s => some s
  | .table t => t.span
  | .tables _ s => s

/-- The name of an item's type. -/
def typeName : Item → String
  | .string .. => "string"
  | .integer .. => "integer"
  | .real .. => "float"
  | .boolean .. => "boolean"
  | .datetime _ => "datetime"
  | .array .. => "array"
  | .table t =>
    if t.kind = .inline ∨ t.kind = .inlineDotted then "inline table"
    else "table"
  | .tables .. => "array of tables"

end Item

namespace TableOf

/-- The item of a key. -/
def get? {ι : Type} (t : TableOf ι) (name : String) : Option ι :=
  (t.entries.find? (·.1.name == name)).map Prod.snd

/-- Adds an entry at the end. -/
def push {ι : Type} (t : TableOf ι) (key : Key) (v : ι) : TableOf ι :=
  { t with entries := t.entries ++ [(key, v)] }

/-- Replaces the item of a key. -/
def replace {ι : Type} (t : TableOf ι) (name : String) (v : ι) : TableOf ι :=
  { t with
    entries := t.entries.map fun e =>
      if e.1.name == name then (e.1, v) else e }

/-- Removes a key. -/
def erase {ι : Type} (t : TableOf ι) (name : String) : TableOf ι :=
  { t with entries := t.entries.filter (·.1.name != name) }

end TableOf
end Invocation.Toml
