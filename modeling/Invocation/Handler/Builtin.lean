import Invocation.Handler

/-!
# Built-in handlers

Handlers to test a host against a known function: one for each way in which a
call can end.
-/

namespace Invocation

/-- A built-in handler. -/
inductive Builtin where
  | echo
  | inspect
  | fail
  | panic
  deriving DecidableEq, Repr

namespace Builtin

/-- The built-in handlers by name. -/
def known : List (String × Builtin) :=
  [("echo", .echo), ("inspect", .inspect), ("fail", .fail), ("panic", .panic)]

/-- The handler of a name. -/
def ofName? (name : String) : Option Builtin :=
  (known.find? (·.1 == name)).map Prod.snd

/-- The name under which a handler is reported. -/
def title : Builtin → String
  | .echo => "Echo"
  | .inspect => "Inspect"
  | .fail => "Fail"
  | .panic => "Panic"

/-- Replies with the body of the request. -/
def echoBody : Handler := fun r => .reply (.value r.body)

/-- Replies with the whole request, and logs what it is. -/
def inspectRequest : Handler := fun r =>
  .log .info
    (r.method ++ " " ++ r.uri ++ " with " ++ toString r.headers.size ++
      " header(s)")
    (.reply (.value r.toJson))

/-- Ends with an error. -/
def simulateFailure : Handler := fun r =>
  .fail ⟨"simulated failure for " ++ r.method ++ " " ++ r.uri, []⟩

/-- Panics. -/
def simulatePanic : Handler := fun _ => .panic (.text "simulated panic")

/-- What a built-in handler does. -/
def handler : Builtin → Handler
  | .echo => echoBody
  | .inspect => inspectRequest
  | .fail => simulateFailure
  | .panic => simulatePanic

end Builtin
end Invocation
