import Invocation.Adapter
import Invocation.Config.Document
import Invocation.Diagnostics.Report
import Invocation.Handler.Guest
import Invocation.Program.Arguments

/-!
# The program

A command is a function of its surroundings: the files it can open, the
environment, and the bytes on its standard input.  It comes to a status, what it
writes on its standard output, what it says when it gives up, and what it
reports.
-/

namespace Invocation.Program

/-- What opening a file gives. -/
inductive File where
  | bytes (content : List UInt8)
  /-- The file cannot be read; the system says why. -/
  | unreadable (reason : String)

/-- What a program finds when it starts. -/
structure Surroundings where
  /-- The file of a name. -/
  file : String → File
  /-- The filter in the environment. -/
  filter : Option String
  /-- The bytes on the standard input. -/
  input : List UInt8

/-- What a program comes to. -/
structure Result where
  status : UInt8
  output : List UInt8 := []
  /-- What it says when it gives up. -/
  failure : Option String := none
  /-- Who was told what. -/
  reports : List Subscriber.Report := []

/-- The status of a program that succeeds. -/
def succeeded : UInt8 := 0

/-- The status of a program that gives up with an error. -/
def gaveUp : UInt8 := 1

/-- The status of a program whose arguments are refused. -/
def misused : UInt8 := 2

/-- The status of a program that a panic has left. -/
def panicked : UInt8 := 101

/-- What the system says of a file that is not there. -/
def noSuchFile : String := "No such file or directory (os error 2)"

/-- Why a configuration cannot be loaded. -/
structure LoadFault where
  /-- The whole story. -/
  error : ErrorChain
  /-- The file is text but not a document. -/
  malformed : Bool

/-- The configuration of the bytes of a file. -/
def configOfFile (name : String) : File → Except (Bool × AdapterError) Config
  | .unreadable reason => .error (false, .config (name ++ ": " ++ reason))
  | .bytes content =>
    match Text.Utf8.decode? content with
    | none =>
      .error (false, .config (name ++ ": stream did not contain valid UTF-8"))
    | some text =>
      match Config.ofToml text with
      | .ok c => .ok c
      | .error .malformed =>
        .error (true, Config.DocumentFault.error text .malformed)
      | .error fault => .error (false, fault.error text)

/-- Loads the configuration of a file, or the defaults without one. -/
def loadConfig (file : String → File) : Option String → Except LoadFault Config
  | none => .ok {}
  | some name =>
    match configOfFile name (file name) with
    | .ok c => .ok c
    | .error (malformed, e) =>
      .error
        ⟨(ErrorChain.ofAdapterError e).within
          ("loading adapter config from " ++ name), malformed⟩

/-- Runs one invocation over standard input and output, with a guard that
answers panics on the standard output too. -/
def runInvocation (s : Surroundings) (config : Config) (handler : Handler) :
    Run :=
  let scene : Scene :=
    { context := { functionName := config.functionName }
      watch := .answering config }
  run scene config handler [.data s.input none] {} {}

/-- What a program comes to that runs one invocation; `after` tells what it
reports when the invocation has ended. -/
def resultOfRun (subscriber : Subscriber) (r : Run)
    (after : Response → List Event) : Result :=
  let output := r.world.hook.accepted ++ r.sink.accepted
  match r.result with
  | .ok response =>
    { status := succeeded
      output
      reports := subscriber.reports
        (r.world.trace ++ (after response).map (⟨none, ·⟩)) }
  | .error _ =>
    { status := panicked, output, reports := subscriber.reports r.world.trace }

/-- What a program comes to whose diagnostics are set up first.  It panics when
no filter is in force. -/
def withSubscriber (s : Surroundings) (config : Config)
    (rest : Subscriber → Result) : Result :=
  match Subscriber.ofConfig s.filter config with
  | none => { status := panicked }
  | some subscriber => rest subscriber

/-- A program that is one function. -/
def ofFunction (config : Config) (handler : Handler) (s : Surroundings) :
    Result :=
  withSubscriber s config fun subscriber =>
    resultOfRun subscriber (runInvocation s config handler) fun _ => []

/-- The configuration with the runtime tag that an option may give. -/
def withRuntimeHeader (config : Config) (tag : Option String) : Config :=
  { config with runtimeHeader := tag.or config.runtimeHeader }

/-- Does a command under a configuration. -/
def doCommand (s : Surroundings) (config : Config) (command : Command) :
    Result :=
  withSubscriber s config fun subscriber =>
    match command with
    | .run handler tag =>
      let config := withRuntimeHeader config tag
      resultOfRun subscriber (runInvocation s config handler.handler) fun r =>
        [.invocationFinished handler.title r.status]
    | .config =>
      match config.toToml with
      | .ok text => { status := succeeded, output := Text.Utf8.encode text }
      | .error e =>
        { status := gaveUp
          failure := some ("Error: " ++ (ErrorChain.ofAdapterError e).trace) }

/-- The name of the program. -/
def name : String := "fnshim"

/-- The version of the program. -/
def version : String := "0.1.0"

/-- The version as it is shown. -/
def versionText (command : Option String) : String :=
  name ++ ((command.map ("-" ++ ·)).getD "") ++ " " ++ version ++ "\n"

/-- The program: its arguments and surroundings give its result. -/
def start (args : List String) (s : Surroundings) : Result :=
  match Intent.ofArguments args with
  | .refused => { status := misused }
  | .help => { status := succeeded }
  | .version command =>
    { status := succeeded, output := Text.Utf8.encode (versionText command) }
  | .command file command =>
    match loadConfig s.file file with
    | .error fault =>
      { status := gaveUp
        failure := some ("Error: " ++ fault.error.trace) }
    | .ok config => doCommand s config command

end Invocation.Program
