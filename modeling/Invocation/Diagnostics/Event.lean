import Invocation.Channel.Fault
import Invocation.Failure

/-!
# Diagnostic events

Everything that is worth reporting about an invocation is an event.  Events are
data: what they report is in their constructors, and level, target, message and
fields are functions of that.  Whether an event is shown is decided elsewhere.
-/

namespace Invocation

/-- How serious an event is. -/
inductive Level where
  | error
  | warn
  | info
  | debug
  | trace
  deriving DecidableEq, Repr

namespace Level

/-- The rank of a level: the more there is to see, the higher. -/
def rank : Level → Nat
  | .error => 1
  | .warn => 2
  | .info => 3
  | .debug => 4
  | .trace => 5

/-- The name of a level. -/
def name : Level → String
  | .error => "ERROR"
  | .warn => "WARN"
  | .info => "INFO"
  | .debug => "DEBUG"
  | .trace => "TRACE"

end Level

/-- Something to report. -/
inductive Event where
  /-- Reading the input failed after so many bytes. -/
  | inputFault (kept : Nat) (error : AdapterError)
  /-- The input ended after so many bytes. -/
  | inputDrained (bytes : Nat)
  /-- The input is an envelope. -/
  | envelopeParsed (method uri : String) (headers : Nat)
  /-- The input is a document without a body. -/
  | documentWhole
  /-- The input is a text of so many bytes and no document. -/
  | rawText (bytes : Nat)
  /-- The handler failed. -/
  | handlerFailed (message : String)
  /-- The handler gave a response. -/
  | handlerResponded (status : UInt16)
  /-- The handler gave a value. -/
  | handlerValued
  /-- The response went out. -/
  | responseWritten (status : UInt16) (bytes : Nat)
  /-- The response did not go out. -/
  | responseUndelivered (status : UInt16) (error : AdapterError)
  /-- A key was asked of a store that is not there. -/
  | storeReadRefused (key : String)
  /-- A key was given to a store that is not there. -/
  | storeWriteRefused (key : String)
  /-- A query of so many bytes was sent to a database that is not there. -/
  | queryRefused (bytes : Nat)
  /-- The function itself has something to say. -/
  | logged (level : Level) (function message : String)
  /-- A panic that nobody catches was answered by a failure. -/
  | panicUncaught (message : String)
  /-- The failure of a panic did not go out. -/
  | failureUndelivered (error : AdapterError)
  /-- The program has finished its invocation. -/
  | invocationFinished (handler : String) (status : UInt16)
  deriving DecidableEq, Repr

/-- The value of a field: a text or a number. -/
inductive FieldValue where
  | text (s : String)
  | count (n : Nat)
  deriving DecidableEq, Repr

namespace Event

/-- The target of what functions say. -/
def functionTarget : String := "fnshim::function"

/-- The target of the adapter's own events and of its spans. -/
def adapterTarget : String := "fnshim::adapter"

/-- How serious an event is. -/
def level : Event → Level
  | .inputFault .. | .storeReadRefused _ | .storeWriteRefused _
  | .queryRefused _ => .warn
  | .inputDrained _ | .envelopeParsed .. | .documentWhole | .rawText _
  | .handlerResponded _ | .handlerValued => .debug
  | .handlerFailed _ | .responseUndelivered .. | .panicUncaught _
  | .failureUndelivered _ => .error
  | .responseWritten .. | .invocationFinished .. => .info
  | .logged level .. => level

/-- The part of the program that an event comes from. -/
def target : Event → String
  | .inputFault .. | .inputDrained _ => "fnshim::channel"
  | .envelopeParsed .. | .documentWhole | .rawText _ => "fnshim::request"
  | .handlerFailed _ | .handlerResponded _ | .handlerValued =>
    "fnshim::handler"
  | .responseWritten .. | .responseUndelivered .. => adapterTarget
  | .storeReadRefused _ | .storeWriteRefused _ => "fnshim::kv"
  | .queryRefused _ => "fnshim::db"
  | .logged .. => functionTarget
  | .panicUncaught _ | .failureUndelivered _ => "fnshim::panic_guard"
  | .invocationFinished .. => "fnshim::commands::run"

/-- The message of an event. -/
def message : Event → String
  | .inputFault .. => "treating input fault as end of stream"
  | .inputDrained _ => "input drained"
  | .envelopeParsed .. => "request envelope parsed"
  | .documentWhole => "input document has no body field, using it whole"
  | .rawText _ => "input is not a JSON document, using raw text"
  | .handlerFailed _ => "handler failed"
  | .handlerResponded _ => "handler returned a response"
  | .handlerValued => "handler returned a value"
  | .responseWritten .. => "response written"
  | .responseUndelivered .. => "response not delivered"
  | .storeReadRefused _ => "kv get is not supported in this runtime"
  | .storeWriteRefused _ =>
    "kv set is not supported in this runtime, value dropped"
  | .queryRefused _ => "db query is not supported in this runtime"
  | .logged _ _ message => message
  | .panicUncaught _ => "uncaught panic, writing failure response"
  | .failureUndelivered _ => "failure response not delivered"
  | .invocationFinished .. => "invocation finished"

/-- The field of a channel. -/
def channelField (c : Channel) : String × FieldValue :=
  ("channel", .text c.text)

/-- The field of an error. -/
def errorField (e : AdapterError) : String × FieldValue :=
  ("error", .text e.message)

/-- The field of a status. -/
def statusField (status : UInt16) : String × FieldValue :=
  ("status", .count status.toNat)

/-- The fields of an event, in order. -/
def fields : Event → List (String × FieldValue)
  | .inputFault kept error =>
    [channelField .input, ("bytes", .count kept), errorField error]
  | .inputDrained bytes => [channelField .input, ("bytes", .count bytes)]
  | .envelopeParsed method uri headers =>
    [("method", .text method), ("uri", .text uri), ("headers", .count headers)]
  | .documentWhole | .handlerValued => []
  | .rawText bytes => [("bytes", .count bytes)]
  | .handlerFailed message | .panicUncaught message =>
    [("error", .text message)]
  | .handlerResponded status => [statusField status]
  | .responseWritten status bytes =>
    [channelField .output, statusField status, ("bytes", .count bytes)]
  | .responseUndelivered status error =>
    [channelField .output, statusField status, errorField error]
  | .storeReadRefused key | .storeWriteRefused key => [("key", .text key)]
  | .queryRefused bytes => [("sql_len", .count bytes)]
  | .logged _ function _ => [("function", .text function)]
  | .failureUndelivered error => [channelField .output, errorField error]
  | .invocationFinished handler status =>
    [("handler", .text handler), statusField status]

end Event

/-- An event where it happened: inside the invocation of a function, or outside
of any. -/
structure Entry where
  invocation : Option String
  event : Event
  deriving DecidableEq, Repr

end Invocation
