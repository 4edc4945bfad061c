import Invocation.Config
import Invocation.Failure
import Invocation.Toml.Decoder
import Invocation.Toml.Writer

/-!
# Configuration files

A configuration file is a TOML document with a key for each setting.  Settings
that are left out have their defaults and other keys are passed over.  Writing a
configuration gives one assignment to a line, in a fixed order.
-/

namespace Invocation.Config

/-- Why a document is refused. -/
inductive DocumentFault where
  /-- The text is not TOML. -/
  | malformed
  /-- A setting has a value that it cannot have. -/
  | refused (fault : Toml.Fault)

/-- A change to the settings that an item asks for. -/
def change {α : Type} (d : Toml.Decoder α) (put : α → Config → Config) :
    Toml.Decoder (Config → Config) :=
  fun i => (d i).map put

/-- The settings by key. -/
def settings : List (String × Toml.Decoder (Config → Config)) :=
  [("function_name", change .string fun v c => { c with functionName := v }),
    ("chunk_size",
      change (.integer "usize" (Json.Decoder.unsigned? UInt64.size UInt64.ofNat))
        fun v c => { c with chunkSize := v }),
    ("default_method", change .string fun v c => { c with defaultMethod := v }),
    ("default_uri", change .string fun v c => { c with defaultUri := v }),
    ("default_content_type",
      change .string fun v c => { c with defaultContentType := v }),
    ("catch_panics", change .boolean fun v c => { c with catchPanics := v }),
    ("runtime_header",
      change .string fun v c => { c with runtimeHeader := some v }),
    ("log_filter", change .string fun v c => { c with logFilter := v }),
    ("log_format",
      change (.variant LogFormat.known) fun v c => { c with logFormat := v })]

/-- Takes the settings of some entries, in order. -/
def takeEntries : List (Toml.Key × Toml.Item) → Config →
    Except Toml.Fault Config
  | [], c => .ok c
  | (key, i) :: rest, c =>
    match settings.find? (·.1 == key.name) with
    | none => takeEntries rest c
    | some (_, read) =>
      match read i with
      | .error e => .error (e.orAt (some key.span))
      | .ok put => takeEntries rest (put c)

/-- Reads a document. -/
def ofToml (text : String) : Except DocumentFault Config :=
  match Toml.read? text.toList with
  | none => .error .malformed
  | some table =>
    match takeEntries table.entries {} with
    | .error e => .error (.refused e)
    | .ok c => .ok c

/-- The error of a document that is refused.  What is wrong with a text that is
not TOML is not said. -/
def DocumentFault.error (text : String) : DocumentFault → AdapterError
  | .malformed => .config "TOML parse error"
  | .refused fault => .config (fault.message text.toList)

/-- The value of a setting as it is written. -/
inductive Written where
  | text (s : String)
  | word (n : UInt64)
  | truth (b : Bool)

/-- The greatest integer of a document. -/
def maxInteger : Nat := 0x7FFFFFFFFFFFFFFF

/-- The text of a value, unless it is too large for a document. -/
def Written.chars? : Written → Option (List Char)
  | .text s => some (Toml.stringText s)
  | .word n =>
    if n.toNat ≤ maxInteger then some (Nat.toDigits 10 n.toNat) else none
  | .truth true => some ['t', 'r', 'u', 'e']
  | .truth false => some ['f', 'a', 'l', 's', 'e']

/-- The assignments of a configuration, in order.  A runtime tag is written only
when it is set. -/
def assignments (c : Config) : List (String × Written) :=
  [("function_name", .text c.functionName),
    ("chunk_size", .word c.chunkSize),
    ("default_method", .text c.defaultMethod),
    ("default_uri", .text c.defaultUri),
    ("default_content_type", .text c.defaultContentType),
    ("catch_panics", .truth c.catchPanics)] ++
  (c.runtimeHeader.map fun v => ("runtime_header", Written.text v)).toList ++
  [("log_filter", .text c.logFilter),
    ("log_format", .text c.logFormat.name)]

/-- The line of an assignment. -/
def assignmentLine (key : String) (value : List Char) : List Char :=
  key.toList ++ [' ', '=', ' '] ++ value ++ ['\n']

/-- The text of some assignments. -/
def assignmentsText : List (String × Written) → Option (List Char)
  | [] => some []
  | (key, v) :: rest =>
    match v.chars?, assignmentsText rest with
    | some value, some lines => some (assignmentLine key value ++ lines)
    | _, _ => none

/-- Writes a configuration as a document.  A buffer size beyond the integers of
a document cannot be written. -/
def toToml (c : Config) : Except AdapterError String :=
  match assignmentsText c.assignments with
  | some text => .ok (String.ofList text)
  | none => .error (.config "out-of-range value for u64 type")

end Invocation.Config
