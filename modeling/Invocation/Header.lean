import Invocation.Json.Decoder

/-!
# Headers

A header is a name with a text.  Names are compared without regard to the case
of ASCII letters.  Requests may repeat a name and keep every value in order of
arrival; responses hold each name once, which is part of their type.
-/

namespace Invocation

/-- A header. -/
structure Header where
  name : String
  value : String
  deriving DecidableEq, Repr

namespace Header

/-- A name with its ASCII letters in lower case: what two spellings of one name
have in common. -/
def key (name : String) : String := name.map Char.toLower

/-- Two names are spellings of one. -/
def SameName (a b : String) : Prop := key a = key b

instance (a b : String) : Decidable (SameName a b) :=
  inferInstanceAs (Decidable (key a = key b))

/-- The header has this name. -/
def hasName (h : Header) (name : String) : Bool :=
  decide (SameName h.name name)

/-- A header has a name in every spelling. -/
theorem hasName_congr (h : Header) {name other : String}
    (hsame : SameName name other) : h.hasName name = h.hasName other := by
  rw [hasName, hasName, decide_eq_decide]
  exact ⟨fun he => he.trans hsame, fun he => he.trans hsame.symm⟩

/-- The text of a scalar value.  Null and containers have none. -/
def scalarText : Json → Option String
  | .string s => some s
  | .number n => some n.text
  | .bool b => some (if b then "true" else "false")
  | .null | .array _ | .object _ => none

/-- The text of a scalar, or the texts of an array's scalars joined by a comma
and a blank.  An array without scalars has none. -/
def joinedText : Json → Option String
  | .array items =>
    match items.filterMap scalarText with
    | [] => none
    | texts => some (", ".intercalate texts)
  | v => scalarText v

/-- The texts that a value gives under one name. -/
def texts : Json → List String
  | .array items => items.filterMap scalarText
  | v => (scalarText v).toList

end Header

/-! ## Request headers -/

/-- The headers of a request, in order of arrival. -/
structure RequestHeaders where
  entries : List Header := []
  deriving DecidableEq, Repr

namespace RequestHeaders

/-- What a look-up gives for a name that is not there. -/
def missing : String := "Unknown"

/-- Adds a header after the others. -/
def append (h : RequestHeaders) (name value : String) : RequestHeaders :=
  ⟨h.entries ++ [⟨name, value⟩]⟩

/-- Every value of a name, in order of arrival. -/
def getAll (h : RequestHeaders) (name : String) : List String :=
  (h.entries.filter (·.hasName name)).map Header.value

/-- The first value of a name. -/
def get? (h : RequestHeaders) (name : String) : Option String :=
  (h.entries.find? (·.hasName name)).map Header.value

/-- The first value of a name, or the text that stands for none. -/
def first (h : RequestHeaders) (name : String) : String :=
  (h.get? name).getD missing

/-- The name is there. -/
def contains (h : RequestHeaders) (name : String) : Bool :=
  (h.get? name).isSome

/-- The number of entries. -/
def size (h : RequestHeaders) : Nat := h.entries.length

/-- Reads the headers of a document: one entry for each scalar of an object's
fields, those in arrays included.  Anything but an object has none. -/
def ofJson : Json → RequestHeaders
  | .object fields =>
    ⟨fields.flatMap fun (name, v) =>
      (Header.texts v).map fun value => ⟨name, value⟩⟩
  | _ => {}

/-- The spellings of names that differ from every earlier one. -/
def firstSpellings : List String → List String → List String
  | _, [] => []
  | seen, name :: rest =>
    if seen.contains (Header.key name) then firstSpellings seen rest
    else name :: firstSpellings (Header.key name :: seen) rest

/-- The names, each once, as first spelled and in that order. -/
def names (h : RequestHeaders) : List String :=
  firstSpellings [] (h.entries.map Header.name)

/-- The document form: each name with the array of its values. -/
def toJson (h : RequestHeaders) : Json :=
  .object (h.names.map fun name =>
    (name, .array ((h.getAll name).map .string)))

end RequestHeaders

/-! ## Response headers -/

/-- The headers of a response: no two entries have one name. -/
structure ResponseHeaders where
  entries : List Header
  unique : entries.Pairwise fun a b => ¬ Header.SameName a.name b.name

namespace ResponseHeaders

/-- No headers. -/
def empty : ResponseHeaders := ⟨[], List.Pairwise.nil⟩

/-- Sets a header in a list: in place of the entry of that name, or at the end
when there is none. -/
def put (h : Header) : List Header → List Header
  | [] => [h]
  | e :: rest => if e.hasName h.name then h :: rest else e :: put h rest

theorem mem_put {h e : Header} {entries : List Header}
    (he : e ∈ put h entries) : e = h ∨ e ∈ entries := by
  induction entries with
  | nil => simpa [put] using he
  | cons x rest ih =>
      rw [put] at he
      split at he <;> rcases List.mem_cons.1 he with rfl | he
      · exact .inl rfl
      · exact .inr (List.mem_cons_of_mem _ he)
      · exact .inr List.mem_cons_self
      · exact (ih he).imp_right (List.mem_cons_of_mem _)

theorem pairwise_put {h : Header} {entries : List Header}
    (he : entries.Pairwise fun a b => ¬ Header.SameName a.name b.name) :
    (put h entries).Pairwise fun a b => ¬ Header.SameName a.name b.name := by
  induction entries with
  | nil => simp [put]
  | cons x rest ih =>
      have ⟨hx, hrest⟩ := List.pairwise_cons.1 he
      rw [put]
      split
      · rename_i same
        have same : Header.SameName x.name h.name := by
          simpa [Header.hasName] using same
        refine List.pairwise_cons.2 ⟨fun b hb other => hx b hb ?_, hrest⟩
        exact same.trans other
      · rename_i differs
        have differs : ¬ Header.SameName x.name h.name := by
          simpa [Header.hasName] using differs
        refine List.pairwise_cons.2 ⟨fun b hb => ?_, ih hrest⟩
        rcases mem_put hb with rfl | hb
        · exact differs
        · exact hx b hb

/-- Sets a header.  An entry of that name is replaced where it stands, name and
value. -/
def insert (h : ResponseHeaders) (name value : String) : ResponseHeaders :=
  ⟨put ⟨name, value⟩ h.entries, pairwise_put h.unique⟩

/-- The value of a name. -/
def get? (h : ResponseHeaders) (name : String) : Option String :=
  (h.entries.find? (·.hasName name)).map Header.value

theorem find?_put (h : Header) (other : String) (entries : List Header) :
    (put h entries).find? (·.hasName other) =
      if Header.SameName h.name other then some h
      else entries.find? (·.hasName other) := by
  induction entries with
  | nil =>
      by_cases same : Header.SameName h.name other <;>
        simp [put, Header.hasName, same]
  | cons e rest ih =>
      rw [put]
      by_cases hn : Header.SameName e.name h.name
      · by_cases ho : Header.SameName h.name other
        · simp [Header.hasName, hn, ho]
        · have : ¬ Header.SameName e.name other :=
            fun he => ho (hn.symm.trans he)
          simp [Header.hasName, hn, ho, this]
      · by_cases he : Header.SameName e.name other
        · have : ¬ Header.SameName h.name other :=
            fun ho => hn (he.trans ho.symm)
          simp [Header.hasName, hn, he, this]
        · simpa [Header.hasName, hn, he] using ih

/-- A header that has been set has its new value, and no other name changes. -/
theorem get?_insert (h : ResponseHeaders) (name value other : String) :
    (h.insert name value).get? other =
      if Header.SameName name other then some value else h.get? other := by
  simp only [insert, get?, find?_put]
  split <;> simp

/-- The name is there. -/
def contains (h : ResponseHeaders) (name : String) : Bool :=
  (h.get? name).isSome

/-- Sets a header unless one of that name is there. -/
def insertIfAbsent (h : ResponseHeaders) (name value : String) :
    ResponseHeaders :=
  if h.contains name then h else h.insert name value

/-- The number of entries. -/
def size (h : ResponseHeaders) : Nat := h.entries.length

/-- The headers set one after the other. -/
def ofList (headers : List (String × String)) : ResponseHeaders :=
  headers.foldl (fun h (name, value) => h.insert name value) .empty

/-- The headers of a document's fields; fields without a text are dropped. -/
def ofFields (fields : Json.Fields) : ResponseHeaders :=
  ofList (fields.filterMap fun (name, v) =>
    (Header.joinedText v).map fun value => (name, value))

/-- Reads the headers of a document, which has to be an object. -/
def ofJson? : Json → Option ResponseHeaders
  | .object fields => some (ofFields fields)
  | _ => none

/-- The typed reader of headers. -/
def decoder : Json.Decoder ResponseHeaders :=
  (Json.Decoder.entries "a map of header names to values" .any).map ofFields

/-- The document form: each name with its value. -/
def toJson (h : ResponseHeaders) : Json :=
  .object (h.entries.map fun e => (e.name, .string e.value))

end ResponseHeaders
end Invocation
