import Invocation.Handler.Builtin

/-!
# Arguments of the program

The program has two commands: one runs an invocation, the other prints the
configuration.  The option that names a configuration file may stand before or
after the command; given in both places, the later one counts.  Arguments are
taken from left to right, and the first that is refused, or that asks for help
or for the version, decides.  Only a value that stands right before the command
is looked at after the arguments of the command.
-/

namespace Invocation.Program

/-- What the program is asked to do. -/
inductive Command where
  | run (handler : Builtin) (runtimeHeader : Option String)
  | config
  deriving DecidableEq, Repr

/-- What the arguments come to. -/
inductive Intent where
  /-- Do a command, with the file of the configuration. -/
  | command (file : Option String) (c : Command)
  /-- Show help. -/
  | help
  /-- Show the version of the program, or of one of its commands. -/
  | version (command : Option String)
  /-- The arguments cannot be understood. -/
  | refused
  deriving DecidableEq, Repr

/-- Which command's arguments are being taken. -/
inductive Place where
  | top
  | run
  | config
  deriving DecidableEq, Repr

namespace Place

/-- The command of a name. -/
def ofName? (name : String) : Option Place :=
  if name = "run" then some .run
  else if name = "config" then some .config
  else none

/-- The name of the command whose version is asked for. -/
def name? : Place → Option String
  | .top => none
  | .run => some "run"
  | .config => some "config"

end Place

/-- An option that takes a value. -/
inductive Opt where
  | config
  | handler
  | runtimeHeader
  deriving DecidableEq, Repr

/-- The option of a long name, where it is allowed. -/
def Opt.ofName? (place : Place) (name : String) : Option Opt :=
  if name = "config" then some .config
  else if place = .run ∧ name = "handler" then some .handler
  else if place = .run ∧ name = "runtime-header" then some .runtimeHeader
  else none

/-- What has been taken so far. -/
structure Taken where
  place : Place := .top
  /-- The file named before the command. -/
  outerFile : Option String := none
  /-- The file named in the place where we are. -/
  file : Option String := none
  handler : Option Builtin := none
  runtimeHeader : Option String := none
  /-- The last value before the command will be refused. -/
  spoiled : Bool := false

namespace Taken

/-- Takes the value of an option.  No option may be given twice in one place,
handlers go by their names, and the name of a file is not empty. -/
def setOption (t : Taken) (o : Opt) (value : String) : Option Taken :=
  match o with
  | .config =>
    if t.file.isSome ∨ value = "" then none else some { t with file := value }
  | .handler =>
    if t.handler.isSome then none
    else (Builtin.ofName? value).map fun h => { t with handler := some h }
  | .runtimeHeader =>
    if t.runtimeHeader.isSome then none
    else some { t with runtimeHeader := value }

/-- Enters a command. -/
def enter (t : Taken) (place : Place) : Taken :=
  { t with place, outerFile := t.file, file := none }

/-- What all arguments come to. -/
def finish (t : Taken) : Intent :=
  let file := t.file.or t.outerFile
  if t.spoiled then .refused
  else
    match t.place with
    | .top => .refused
    | .run => .command file (.run (t.handler.getD .echo) t.runtimeHeader)
    | .config => .command file .config

/-- Takes the value of an option that stands in an argument of its own. -/
def setOwnValue (t : Taken) (o : Opt) (value : String) : Option Taken :=
  match t.setOption o value with
  | some t => some t
  | none => if t.place = .top then some { t with spoiled := true } else none

end Taken

/-- The form of one argument. -/
inductive Token where
  | long (name : String) (value : Option String)
  | short (letters : List Char)
  | word (s : String)
  /-- Two dashes: no option follows. -/
  | separator
  deriving DecidableEq, Repr

/-- Tells the form of an argument.  A dash by itself is a word. -/
def Token.of (s : String) : Token :=
  match s.toList with
  | ['-', '-'] => .separator
  | '-' :: '-' :: rest =>
    let name := String.ofList (rest.takeWhile (· ≠ '='))
    match rest.dropWhile (· ≠ '=') with
    | [] => .long name none
    | _ :: value => .long name (some (String.ofList value))
  | '-' :: c :: rest => .short (c :: rest)
  | _ => .word s

/-- The argument is a word. -/
def Token.isWord : Token → Bool
  | .word _ => true
  | _ => false

/-- After a value that will be refused only a command may come. -/
def Taken.refuses (t : Taken) (token : Token) : Bool :=
  t.spoiled && t.place == .top && !token.isWord

/-- Asking for help about commands. -/
def helpAbout : List String → Intent
  | [] => .help
  | [name] =>
    if name = "help" ∨ (Place.ofName? name).isSome then .help else .refused
  | _ => .refused

/-- The word that may be the value of an option. -/
def valueWord? (s : String) : Option String :=
  match Token.of s with
  | .word s => some s
  | _ => none

/-- Takes arguments from left to right. -/
def takeArguments (t : Taken) : List String → Intent
  | [] => t.finish
  | arg :: rest =>
    if t.refuses (Token.of arg) then .refused
    else
      match Token.of arg with
      | .separator => if rest.isEmpty then t.finish else .refused
      | .word name =>
        match t.place with
        | .top =>
          if name = "help" then helpAbout rest
          else
            match Place.ofName? name with
            | some place => takeArguments (t.enter place) rest
            | none => .refused
        | _ => .refused
      | .long name value =>
        match name, value with
        | "help", none => .help
        | "version", none => .version t.place.name?
        | _, _ =>
          match Opt.ofName? t.place name, value with
          | none, _ => .refused
          | some o, some value =>
            match t.setOption o value with
            | some t => takeArguments t rest
            | none => .refused
          | some o, none =>
            match rest with
            | [] => .refused
            | next :: rest =>
              match (valueWord? next).bind (t.setOwnValue o) with
              | some t => takeArguments t rest
              | none => .refused
      | .short letters =>
        match letters with
        | 'h' :: _ => .help
        | 'V' :: _ => .version t.place.name?
        | ['c'] =>
          match rest with
          | [] => .refused
          | next :: rest =>
            match (valueWord? next).bind (t.setOwnValue .config) with
            | some t => takeArguments t rest
            | none => .refused
        | 'c' :: value =>
          let value :=
            match value with
            | '=' :: value => value
            | value => value
          match t.setOption .config (String.ofList value) with
          | some t => takeArguments t rest
          | none => .refused
        | _ => .refused

/-- What the arguments of the program come to. -/
def Intent.ofArguments (args : List String) : Intent := takeArguments {} args

end Invocation.Program
