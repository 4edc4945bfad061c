import Invocation.Toml.Scalar

/-!
# Reading TOML documents

Values, and the statements that a document consists of: assignments and headers.
A statement says where its item goes by a path of keys; tables on the way come
into being as they are named, and nothing is defined twice.
-/

namespace Invocation.Toml

/-! ## Tables -/

namespace Table

/-- A table of which nothing is known yet. -/
def fresh (kind : TableKind) : Table := ⟨kind, none, []⟩

/-- Replaces the last table of an array of tables. -/
def changeLast (f : Table → Option Table) (ts : List Table) :
    Option (List Table) :=
  match ts.getLast? with
  | none => none
  | some t => (f t).map fun t => ts.dropLast ++ [t]

/-- Changes the table at the end of a path.  Tables that are missing on the way
are made; a dotted path may not enter a table that has a header of its own, and
no path enters a value. -/
def change (dotted : Bool) (f : Table → Option Table) :
    List Key → Table → Option Table
  | [], t => f t
  | key :: path, t =>
    match t.get? key.name with
    | none =>
      (change dotted f path (fresh (if dotted then .dotted else .implied))).map
        fun sub => t.push key (.table sub)
    | some (.table sub) =>
      let enters :=
        match sub.kind with
        | .headed => !dotted
        | .implied | .dotted => true
        | .inline | .inlineDotted => false
      if enters then
        (change dotted f path sub).map fun sub =>
          t.replace key.name (.table sub)
      else none
    | some (.tables ts span) =>
      (changeLast (change dotted f path) ts).map fun ts =>
        t.replace key.name (.tables ts span)
    | some _ => none

/-- Adds an item to the table that an assignment names.  The end of a dotted
path has to be a table made by dotted keys. -/
def define (path : List Key) (key : Key) (v : Item) (t : Table) :
    Option Table :=
  change true
    (fun t =>
      if (t.kind = .dotted) = (path = []) then none
      else
        match t.get? key.name with
        | some _ => none
        | none => some (t.push key v))
    path t

/-- Changes the table at the end of a path between braces. -/
def changeInline (f : Table → Option Table) :
    List Key → Table → Option Table
  | [], t => f t
  | key :: path, t =>
    match t.get? key.name with
    | none =>
      (changeInline f path (fresh .inlineDotted)).map fun sub =>
        t.push key (.table sub)
    | some (.table sub) =>
      if sub.kind = .inlineDotted then
        (changeInline f path sub).map fun sub => t.replace key.name (.table sub)
      else none
    | some _ => none

/-- Adds an item to a table between braces. -/
def defineInline (path : List Key) (key : Key) (v : Item) (t : Table) :
    Option Table :=
  changeInline
    (fun t =>
      if (t.kind = .inlineDotted) = (path = []) then none
      else
        match t.get? key.name with
        | some _ => none
        | none => some (t.push key v))
    path t

end Table

/-! ## Values -/

/-- Drops blanks, line breaks and comments. -/
def skipLines : List Char → List Char → List Char
  | [], text => text
  | _ :: clock, text =>
    let rest := skipBlanks text
    match rest with
    | '#' :: _ => skipLines clock (skipComment rest)
    | _ =>
      match lineBreak? rest with
      | some rest => skipLines clock rest
      | none => rest

/-- Reads the items of an array; `done` holds those read, the latest first. -/
def itemsFrom (item : Reader Item) :
    List Char → List Item → Reader (List Item)
  | [], _, _ => none
  | _ :: clock, done, text =>
    let text := skipLines text text
    match text with
    | ']' :: rest => some (done.reverse, rest)
    | _ =>
      match item text with
      | none => none
      | some (v, rest) =>
        match skipLines rest rest with
        | ',' :: rest => itemsFrom item clock (v :: done) rest
        | ']' :: rest => some ((v :: done).reverse, rest)
        | _ => none

/-- Reads an assignment: a path, the last key and the value. -/
def assignment (item : Reader Item) : Reader (List Key × Key × Item) :=
  fun text =>
    match key text with
    | none => none
    | some ((path, last), rest) =>
      match skipBlanks rest with
      | '=' :: rest =>
        (item (skipBlanks rest)).map fun (v, rest) => ((path, last, v), rest)
      | _ => none

/-- Reads the assignments between braces. -/
def inlineFrom (item : Reader Item) : List Char → Table → Reader Table
  | [], _, _ => none
  | _ :: clock, t, text =>
    match assignment item text with
    | none => none
    | some ((path, last, v), rest) =>
      match t.defineInline path last v with
      | none => none
      | some t =>
        match skipBlanks rest with
        | ',' :: rest => inlineFrom item clock t rest
        | '\x7d' :: rest => some (t, rest)
        | _ => none

/-- Reads a table after its opening brace. -/
def inline (item : Reader Item) : Reader Table := fun text =>
  match skipBlanks text with
  | '\x7d' :: rest => some (.fresh .inline, rest)
  | rest => inlineFrom item rest (.fresh .inline) rest

/-- Reads a number or a date. -/
def numeric : Reader Item := fun text =>
  match datetime? text with
  | some rest => some (.datetime ⟨text, rest⟩, rest)
  | none =>
    (numeral text).map fun
      | (.integer n, rest) => (.integer n ⟨text, rest⟩, rest)
      | (.real x, rest) => (.real x ⟨text, rest⟩, rest)

/-- Reads a value; `inner` reads the values inside brackets and braces, if they
may be opened. -/
def itemWith (inner : Option (Reader Item)) : Reader Item := fun text =>
  match text with
  | [] => none
  | 't' :: 'r' :: 'u' :: 'e' :: rest =>
    some (.boolean true ⟨text, rest⟩, rest)
  | 'f' :: 'a' :: 'l' :: 's' :: 'e' :: rest =>
    some (.boolean false ⟨text, rest⟩, rest)
  | '[' :: rest =>
    match inner with
    | none => none
    | some item =>
      (itemsFrom item rest [] rest).map fun (vs, rest) =>
        (.array vs ⟨text, rest⟩, rest)
  | '\x7b' :: rest =>
    match inner with
    | none => none
    | some item =>
      (inline item rest).map fun (t, rest) =>
        (.table { t with span := some ⟨text, rest⟩ }, rest)
  | c :: _ =>
    if c = '"' ∨ c = '\'' then
      (stringChars text).map fun (cs, rest) =>
        (.string (String.ofList cs) ⟨text, rest⟩, rest)
    else numeric text

/-- Reads a value with at most `depth` brackets and braces inside one
another. -/
def item : Nat → Reader Item
  | 0 => itemWith none
  | depth + 1 => itemWith (some (item depth))

/-- How many brackets and braces may stand inside one another. -/
def maxDepth : Nat := 79

/-! ## Statements -/

/-- A statement of a document. -/
inductive Statement where
  | assign (path : List Key) (key : Key) (v : Item)
  | header (path : List Key) (key : Key) (span : Span)
  | tablesHeader (path : List Key) (key : Key) (span : Span)

/-- Passes over the end of a line, where only a comment may still stand. -/
def lineEnd? (text : List Char) : Option (List Char) :=
  match skipComment (skipBlanks text) with
  | [] => some []
  | rest => lineBreak? rest

/-- Reads a statement and the end of its line. -/
def statement (text : List Char) : Option (Statement × List Char) :=
  match text with
  | '[' :: '[' :: rest => do
    let ((path, last), rest) ← key rest
    match skipBlanks rest with
    | ']' :: ']' :: rest =>
      return (.tablesHeader path last ⟨text, rest⟩, ← lineEnd? rest)
    | _ => none
  | '[' :: rest => do
    let ((path, last), rest) ← key rest
    match skipBlanks rest with
    | ']' :: rest => return (.header path last ⟨text, rest⟩, ← lineEnd? rest)
    | _ => none
  | _ => do
    let ((path, last, v), rest) ← assignment (item maxDepth) text
    return (.assign path last v, ← lineEnd? rest)

/-- Reads the statements of a document. -/
def statementsFrom : List Char → List Statement → List Char →
    Option (List Statement)
  | [], _, _ => none
  | _ :: clock, done, text =>
    match skipBlanks text with
    | [] => some done.reverse
    | '#' :: rest =>
      match lineEnd? ('#' :: rest) with
      | some rest => statementsFrom clock done rest
      | none => none
    | rest =>
      match lineBreak? rest with
      | some rest => statementsFrom clock done rest
      | none =>
        match statement rest with
        | some (s, rest) => statementsFrom clock (s :: done) rest
        | none => none

/-- The text without the mark that may stand at its start. -/
def withoutMark : List Char → List Char
  | '\uFEFF' :: rest => rest
  | text => text

/-- The statements of a document. -/
def statements? (text : List Char) : Option (List Statement) :=
  statementsFrom ('\n' :: text) [] (withoutMark text)

/-! ## Documents -/

/-- A document while its statements are taken: what is complete, and the table
that assignments go to, with the path of its header. -/
structure Draft where
  root : Table
  current : Table
  place : Option (List Key × Key)
  /-- The current table is one of an array of tables. -/
  listed : Bool

namespace Draft

/-- The draft of an empty document. -/
def start : Draft := ⟨.fresh .headed, .fresh .headed, none, false⟩

/-- The span of an array of tables: from its first to its last. -/
def listSpan (ts : List Table) : Option Span :=
  match (ts.head?).bind (·.span), (ts.getLast?).bind (·.span) with
  | some a, some b => some ⟨a.start, b.stop⟩
  | _, _ => none

/-- Adds a table to the array of tables of a key. -/
def addListed (key : Key) (t parent : Table) : Option Table :=
  match parent.get? key.name with
  | none => some (parent.push key (.tables [t] (listSpan [t])))
  | some (.tables ts _) =>
    let ts := ts ++ [t]
    some (parent.replace key.name (.tables ts (listSpan ts)))
  | some _ => none

/-- Puts the current table where it belongs. -/
def settle (d : Draft) : Option Table :=
  match d.place with
  | none => some d.current
  | some (path, key) =>
    if d.listed then d.root.change false (addListed key d.current) path
    else
      d.root.change false
        (fun parent =>
          match parent.get? key.name with
          | none => some (parent.push key (.table d.current))
          | some _ => none)
        path

/-- The table of a key, if it was only implied so far: its entries move to the
table that is about to get a header. -/
def implied? (key : Key) (t : Table) : Option Table :=
  match t.get? key.name with
  | some (.table sub) => if sub.kind = .implied then some sub else none
  | _ => none

/-- The table at the end of a path, for a look at it. -/
def lookAt? (path : List Key) (root : Table) : Option Table :=
  match path with
  | [] => some root
  | key :: path =>
    match root.get? key.name with
    | some (.table sub) => lookAt? path sub
    | some (.tables ts _) => (ts.getLast?).bind (lookAt? path)
    | _ => none

/-- Starts the table of a header. -/
def openTable (root : Table) (path : List Key) (key : Key) (span : Span) :
    Option Draft := do
  let root ← root.change false some path
  let entries :=
    match (lookAt? path root).bind (implied? key) with
    | some sub => sub.entries
    | none => []
  let root ← root.change false
    (fun parent =>
      match parent.get? key.name with
      | none => some parent
      | some (.table sub) =>
        if sub.kind = .implied then some (parent.erase key.name) else none
      | some _ => none)
    path
  return ⟨root, ⟨.headed, some span, entries⟩, some (path, key), false⟩

/-- Starts a table of an array of tables. -/
def openListed (root : Table) (path : List Key) (key : Key) (span : Span) :
    Option Draft := do
  let root ← root.change false
    (fun parent =>
      match parent.get? key.name with
      | none => some (parent.push key (.tables [] none))
      | some (.tables ..) => some parent
      | some _ => none)
    path
  return ⟨root, ⟨.headed, some span, []⟩, some (path, key), true⟩

/-- The span of a table that has got one more item. -/
def extend (span : Option Span) (v : Item) : Option Span :=
  match span, v.span? with
  | some s, some t => some ⟨s.start, t.stop⟩
  | other, _ => other

/-- Takes a statement. -/
def take (d : Draft) : Statement → Option Draft
  | .assign path key v =>
    (d.current.define path key v).map fun t =>
      { d with current := { t with span := extend t.span v } }
  | .header path key span => do openTable (← d.settle) path key span
  | .tablesHeader path key span => do openListed (← d.settle) path key span

end Draft

/-- Reads a document. -/
def read? (text : List Char) : Option Table := do
  let statements ← statements? text
  let draft ← statements.foldlM Draft.take Draft.start
  draft.settle

end Invocation.Toml
