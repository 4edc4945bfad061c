import Invocation.Json.Mismatch
import Invocation.Json.Reader
import Invocation.Json.Skip

/-!
# Typed readers

A decoder of a type reads it in two ways: from a text, with places in its
faults, and from a value that has been read already.  The combinators below
build both ways at once, so that a type is described only once.
-/

namespace Invocation.Json

/-- A typed reader of texts and of values.  The number bounds how many
containers may still be opened. -/
structure Decoder (α : Type) where
  ofText : Nat → Reader TypedCause α
  ofJson : Json → Except Mismatch α

/-- The fault of a mismatch at a place. -/
def mismatchAt (m : Mismatch) (rest : List Char) : Fault TypedCause :=
  .here (.mismatch m) rest

/-- A grammar fault among the faults of a typed reader. -/
def grammarFault (fault : Fault Cause) : Fault TypedCause :=
  fault.map .grammar

/-- A reader of the grammar as a typed reader. -/
def Reader.typed {α : Type} (r : Reader Cause α) : Reader TypedCause α :=
  fun text => (r text).mapError grammarFault

/-- The fault of a text, after its blanks, whose value is of an unexpected
type.  Scalars are read to the end to say what they are, containers are not. -/
def unexpected (expected : String) (text : List Char) : Fault TypedCause :=
  let scalar {α : Type} (found : α → Found) (r : Reader Cause α)
      (text : List Char) : Fault TypedCause :=
    match r text with
    | .ok (v, rest) => mismatchAt (.type (found v) expected) rest
    | .error e => grammarFault e
  let fixed (found : Found) (letters rest : List Char) :=
    scalar (fun _ : Unit => found)
      (fun text => (word letters text).map ((), ·)) rest
  match text with
  | [] => grammarFault (.here .endInValue [])
  | 'n' :: rest => fixed .null ['u', 'l', 'l'] rest
  | 't' :: rest => fixed (.boolean true) ['r', 'u', 'e'] rest
  | 'f' :: rest => fixed (.boolean false) ['a', 'l', 's', 'e'] rest
  | '"' :: rest => scalar .string stringBody rest
  | '-' :: rest => scalar .ofNumber (unsignedNumber true) rest
  | '[' :: rest => mismatchAt (.type .sequence expected) ('[' :: rest)
  | '\x7b' :: rest => mismatchAt (.type .map expected) ('\x7b' :: rest)
  | c :: rest =>
    if isDigit c then scalar .ofNumber (unsignedNumber false) (c :: rest)
    else grammarFault (.next .expectedValue (c :: rest))

namespace Decoder

/-- Any value. -/
def any : Decoder Json where
  ofText depth := (value depth).typed
  ofJson := .ok

/-- Text. -/
def string : Decoder String where
  ofText _ text :=
    match skipBlanks text with
    | '"' :: rest => stringBody.typed rest
    | rest => .error (unexpected "a string" rest)
  ofJson
    | .string s => .ok s
    | v => .error (.type (.ofJson v) "a string")

/-- A truth value. -/
def boolean : Decoder Bool where
  ofText _ text :=
    match skipBlanks text with
    | 't' :: rest =>
      ((word ['r', 'u', 'e'] rest).mapError grammarFault).map (true, ·)
    | 'f' :: rest =>
      ((word ['a', 'l', 's', 'e'] rest).mapError grammarFault).map (false, ·)
    | rest => .error (unexpected "a boolean" rest)
  ofJson
    | .bool b => .ok b
    | v => .error (.type (.ofJson v) "a boolean")

/-- Nothing, written as null. -/
def unit : Decoder Unit where
  ofText _ text :=
    match skipBlanks text with
    | 'n' :: rest =>
      ((word ['u', 'l', 'l'] rest).mapError grammarFault).map ((), ·)
    | rest => .error (unexpected "unit" rest)
  ofJson
    | .null => .ok ()
    | v => .error (.type (.ofJson v) "unit")

/-- A number that `accept` takes. -/
def number {α : Type} (expected : String)
    (accept : Number → Except Mismatch α) : Decoder α where
  ofText _ text :=
    let read (negative : Bool) (text : List Char) :=
      match unsignedNumber negative text with
      | .error e => .error (grammarFault e)
      | .ok (n, rest) =>
        match accept n with
        | .ok v => .ok (v, rest)
        | .error m => .error (mismatchAt m rest)
    match skipBlanks text with
    | '-' :: rest => read true rest
    | c :: rest =>
      if isDigit c then read false (c :: rest)
      else .error (unexpected expected (c :: rest))
    | [] => .error (unexpected expected [])
  ofJson
    | .number n => accept n
    | v => .error (.type (.ofJson v) expected)

/-- An integer that `convert` can represent. -/
def integer {α : Type} (expected : String) (convert : Int → Option α) :
    Decoder α :=
  number expected fun
    | .integer n =>
      match convert n.val with
      | some v => .ok v
      | none => .error (.value (.integer n.val) expected)
    | n => .error (.type (.ofNumber n) expected)

/-- The unsigned word of an integer, for words that count up to `size`. -/
def unsigned? {α : Type} (size : Nat) (ofNat : Nat → α) (n : Int) : Option α :=
  if 0 ≤ n ∧ n < size then some (ofNat n.toNat) else none

/-- The signed word of 64 bits that an integer fits. -/
def int64? (n : Int) : Option Int64 :=
  if -0x8000000000000000 ≤ n ∧ n < 0x8000000000000000 then
    some (Int64.ofInt n)
  else none

/-- A floating point number; integers are rounded to one. -/
def float : Decoder Binary64 :=
  number "f64" fun
    | .integer n => .ok (.ofInt n.val)
    | .float x => .ok x

/-- A value or null. -/
def option {α : Type} (inner : Decoder α) : Decoder (Option α) where
  ofText depth text :=
    match skipBlanks text with
    | 'n' :: rest =>
      ((word ['u', 'l', 'l'] rest).mapError grammarFault).map (none, ·)
    | rest => inner.ofText depth |>.map some <| rest
  ofJson
    | .null => .ok none
    | v => (inner.ofJson v).map some

/-- Opens a container if one more may be opened. -/
def opened {α : Type} (depth : Nat) (text : List Char)
    (inside : Nat → List Char → Except (Fault TypedCause) α) :
    Except (Fault TypedCause) α :=
  match depth, text with
  | depth + 1, _ :: rest => inside depth rest
  | _, _ => .error (grammarFault (.next .tooDeep text))

/-- A sequence of any length. -/
def list {α : Type} (inner : Decoder α) : Decoder (List α) where
  ofText depth text :=
    match skipBlanks text with
    | '[' :: rest =>
      opened depth ('[' :: rest) fun depth =>
        items .grammar (inner.ofText depth)
    | rest => .error (unexpected "a sequence" rest)
  ofJson
    | .array vs => vs.mapM inner.ofJson
    | v => .error (.type (.ofJson v) "a sequence")

/-- Adds an entry at the front. -/
def pushEntry {α : Type} (done : List (String × α)) (name : String) (v : α) :
    List (String × α) :=
  (name, v) :: done

/-- A mapping, as the list of its entries: from a text all of them in order,
repeated names included. -/
def entries {α : Type} (expected : String) (inner : Decoder α) :
    Decoder (List (String × α)) where
  ofText depth text :=
    match skipBlanks text with
    | '\x7b' :: rest =>
      opened depth ('\x7b' :: rest) fun depth =>
        (fields .grammar (inner.ofText depth) pushEntry []).map List.reverse
    | rest => .error (unexpected expected rest)
  ofJson
    | .object fields =>
      fields.mapM fun (name, v) => (inner.ofJson v).map (name, ·)
    | v => .error (.type (.ofJson v) expected)

/-- A decoder followed by a function. -/
def map {α β : Type} (f : α → β) (d : Decoder α) : Decoder β where
  ofText depth := (d.ofText depth).map f
  ofJson v := (d.ofJson v).map f

/-! ## Records -/

/-- A field of a record: its name, whether it has to be there, and how its value
changes the record read so far. -/
structure Field (σ : Type) where
  name : String
  required : Bool
  set : Decoder (σ → σ)

/-- The field whose value `put` stores. -/
def Field.of {σ α : Type} (name : String) (required : Bool) (inner : Decoder α)
    (put : α → σ → σ) : Field σ :=
  ⟨name, required, inner.map put⟩

/-- A record: a title for messages, the value of a record of which nothing has
been read, and the fields in order.  It is written as an object, or as an array
of its fields in order. -/
structure Record (σ : Type) where
  title : String
  start : σ
  fields : List (Field σ)

namespace Record

variable {σ : Type}

/-- What a message expects a record to be. -/
def expected (r : Record σ) : String := "struct " ++ r.title

/-- What a message expects an array of the fields to be. -/
def expectedLength (r : Record σ) : String :=
  r.expected ++ " with " ++ toString r.fields.length ++
    (if r.fields.length = 1 then " element" else " elements")

/-- The field of a name. -/
def field? (r : Record σ) (name : String) : Option (Field σ) :=
  r.fields.find? (·.name == name)

/-- The record, unless a required field has not been met. -/
def finish (r : Record σ) (met : List String) (v : σ) : Except Mismatch σ :=
  match r.fields.find? fun f => f.required && !met.contains f.name with
  | some f => .error (.missingField f.name)
  | none => .ok v

/-- How the reading of a record's text stops early: at a fault, or at a
mismatch whose place is settled by whoever closes the container. -/
inductive Stop where
  | fault (e : Fault TypedCause)
  | mismatch (m : Mismatch) (rest : List Char)

/-- Stops at a fault of the grammar. -/
def Stop.grammar (e : Fault Cause) : Stop := .fault (grammarFault e)

/-- Reads the fields of an object up to and including its closing brace. -/
def objectFrom (r : Record σ) (depth : Nat) :
    List Char → Bool → List String → σ → List Char →
      Except Stop (σ × List Char)
  | [], _, _, _, _ => .error (.grammar (.here .endInObject []))
  | _ :: clock, first, met, v, text =>
    match nextField first text with
    | .error e => .error (.grammar e)
    | .ok (none, rest) =>
      match r.finish met v with
      | .error m => .error (.mismatch m ('\x7d' :: rest))
      | .ok v => .ok (v, rest)
    | .ok (some name, rest) =>
      match r.field? name with
      | none =>
        match colon rest >>= skipValue with
        | .error e => .error (.grammar e)
        | .ok rest => objectFrom r depth clock false met v rest
      | some f =>
        if met.contains name then .error (.mismatch (.duplicateField name) rest)
        else
          match colon rest with
          | .error e => .error (.grammar e)
          | .ok rest =>
            match f.set.ofText depth rest with
            | .error e => .error (.fault e)
            | .ok (set, rest) =>
              objectFrom r depth clock false (name :: met) (set v) rest

/-- Reads the fields of an array in order; the array may end early when the
fields left out need not be there. -/
def arrayFrom (r : Record σ) (depth : Nat) :
    List (Field σ) → Nat → σ → List Char → Except Stop (σ × List Char)
  | [], _, v, text => .ok (v, text)
  | f :: more, count, v, text =>
    match nextItem (count = 0) text with
    | .error e => .error (.grammar e)
    | .ok (false, rest) =>
      match (f :: more).findIdx? (·.required) with
      | some i =>
        .error (.mismatch (.length (count + i) r.expectedLength) (']' :: rest))
      | none => .ok (v, ']' :: rest)
    | .ok (true, rest) =>
      match f.set.ofText depth rest with
      | .error e => .error (.fault e)
      | .ok (set, rest) => arrayFrom r depth more (count + 1) (set v) rest

/-- Where a reader stands after it has tried to close an object. -/
def afterObject (text : List Char) : List Char :=
  match skipBlanks text with
  | '\x7d' :: rest => rest
  | rest => rest

/-- Closes an array, which must have no further item. -/
def closeArray (text : List Char) : Except (Fault Cause) (List Char) :=
  match skipBlanks text with
  | [] => .error (.here .endInList [])
  | ']' :: rest => .ok rest
  | ',' :: rest =>
    match skipBlanks rest with
    | ']' :: rest => .error (.next .trailingComma (']' :: rest))
    | rest => .error (.next .trailingCharacters rest)
  | rest => .error (.next .trailingCharacters rest)

/-- Where a reader stands after it has tried to close an array. -/
def afterArray (text : List Char) : List Char :=
  match closeArray text with
  | .ok rest => rest
  | .error e => e.rest

/-- Sets the fields of a record from the fields of an object. -/
def ofFields (r : Record σ) : Fields → List String → σ → Except Mismatch σ
  | [], met, v => r.finish met v
  | (name, value) :: rest, met, v =>
    match r.field? name with
    | none => ofFields r rest met v
    | some f =>
      if met.contains name then .error (.duplicateField name)
      else
        match f.set.ofJson value with
        | .error m => .error m
        | .ok set => ofFields r rest (name :: met) (set v)

/-- Sets the fields of a record from the items of an array; `total` counts all
the items. -/
def ofItems (r : Record σ) (total : Nat) :
    List (Field σ) → Nat → σ → List Json → Except Mismatch σ
  | [], _, v, [] => .ok v
  | [], _, _, _ :: _ =>
    .error (.length total "fewer elements in array")
  | f :: more, count, v, [] =>
    match (f :: more).findIdx? (·.required) with
    | some i => .error (.length (count + i) r.expectedLength)
    | none => .ok v
  | f :: more, count, v, value :: rest =>
    match f.set.ofJson value with
    | .error m => .error m
    | .ok set => ofItems r total more (count + 1) (set v) rest

/-- The decoder of a record. -/
def decoder (r : Record σ) : Decoder σ where
  ofText depth text :=
    match skipBlanks text with
    | '\x7b' :: rest =>
      opened depth ('\x7b' :: rest) fun depth text =>
        match r.objectFrom depth text true [] r.start text with
        | .ok result => .ok result
        | .error (.fault e) => .error e
        | .error (.mismatch m rest) => .error (mismatchAt m (afterObject rest))
    | '[' :: rest =>
      opened depth ('[' :: rest) fun depth text =>
        match r.arrayFrom depth r.fields 0 r.start text with
        | .ok (v, rest) =>
          match closeArray rest with
          | .ok rest => .ok (v, rest)
          | .error e => .error (grammarFault e)
        | .error (.fault e) => .error e
        | .error (.mismatch m rest) => .error (mismatchAt m (afterArray rest))
    | rest => .error (unexpected r.expected rest)
  ofJson
    | .object fields => r.ofFields fields [] r.start
    | .array items => r.ofItems items.length r.fields 0 r.start items
    | v => .error (.type (.ofJson v) r.expected)

end Record

/-! ## Named alternatives -/

/-- The alternative of a name. -/
def variant? {α : Type} (known : List (String × α)) (name : String) :
    Except Mismatch α :=
  match known.find? (·.1 == name) with
  | some (_, v) => .ok v
  | none => .error (.unknownVariant name (known.map Prod.fst))

/-- Reads the rest of a name after its opening quote and picks its
alternative. -/
def variantName {α : Type} (known : List (String × α)) :
    Reader TypedCause α := fun text =>
  match stringBody text with
  | .error e => .error (grammarFault e)
  | .ok (name, rest) =>
    match variant? known name with
    | .ok v => .ok (v, rest)
    | .error m => .error (mismatchAt m rest)

/-- Reads what follows the opening brace of an alternative: its name, which has
to be there, and null. -/
def variantObject {α : Type} (known : List (String × α)) (depth : Nat) :
    Reader TypedCause α := fun text =>
  match skipBlanks text with
  | '"' :: rest =>
    match variantName known rest with
    | .error e => .error e
    | .ok (v, rest) =>
      match colon rest with
      | .error e => .error (grammarFault e)
      | .ok rest =>
        match unit.ofText depth rest with
        | .error e => .error e
        | .ok (_, rest) =>
          match skipBlanks rest with
          | '\x7d' :: rest => .ok (v, rest)
          | [] => .error (grammarFault (.here .endInObject []))
          | rest => .error (grammarFault (.here .expectedValue rest))
  | '\x7d' :: rest =>
    .error (grammarFault (.next .expectedValue ('\x7d' :: rest)))
  | [] => .error (grammarFault (.here .endInObject []))
  | rest => .error (grammarFault (.next .keyMustBeString rest))

/-- One of several named alternatives: its name, or an object whose only field
has that name and the value null. -/
def variant {α : Type} (known : List (String × α)) : Decoder α where
  ofText depth text :=
    match skipBlanks text with
    | [] => .error (grammarFault (.here .endInValue []))
    | '"' :: rest => variantName known rest
    | '\x7b' :: rest =>
      opened depth ('\x7b' :: rest) (variantObject known)
    | rest => .error (grammarFault (.next .expectedValue rest))
  ofJson
    | .string name => variant? known name
    | .object [(name, v)] =>
      match variant? known name with
      | .error m => .error m
      | .ok alternative => (unit.ofJson v).map fun _ => alternative
    | .object _ => .error (.value .map "map with a single key")
    | v => .error (.type (.ofJson v) "string or map")

/-! ## Whole texts -/

/-- Reads a text that holds one value and nothing else. -/
def read {α : Type} (d : Decoder α) (text : List Char) :
    Except (Fault TypedCause) α :=
  match d.ofText maxDepth text with
  | .error e => .error e
  | .ok (v, rest) =>
    match atEnd rest with
    | .error e => .error (grammarFault e)
    | .ok () => .ok v

/-- What a text holds, or the wording of the fault in it. -/
def parse {α : Type} (d : Decoder α) (text : String) : Except String α :=
  (d.read text.toList).mapError fun e =>
    e.message TypedCause.message text.toList

/-- What a value holds, or the wording of the mismatch. -/
def convert {α : Type} (d : Decoder α) (v : Json) : Except String α :=
  (d.ofJson v).mapError Mismatch.message

end Decoder
end Invocation.Json
