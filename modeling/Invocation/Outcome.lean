import Invocation.Config
import Invocation.Failure
import Invocation.Response

/-!
# Outcomes

What one call of a handler comes to, and the response made of it.  A reply may
be a response in disguise: an object with no other fields than those of a
response and an integer as its status.  Finishing a response only adds headers
that are missing.
-/

namespace Invocation

/-- What a handler hands back. -/
inductive Reply where
  | response (r : Response)
  | value (v : Json)

/-- What a call came to. -/
inductive Outcome where
  | response (r : Response)
  | value (v : Json)
  | failure (f : Failure)

namespace Outcome

/-- The call failed. -/
def isFailure : Outcome → Bool
  | .failure _ => true
  | _ => false

/-- The names of the fields of a response. -/
def responseFields : List String := ["status", "headers", "body"]

/-- The fields are to be read as a response: they have a status that is an
integer, and no field that a response does not have. -/
def isResponseShaped (fields : Json.Fields) : Bool :=
  ((fields.get? "status").bind Json.integer?).isSome &&
    fields.all fun field => responseFields.contains field.1

/-- The failure of a value that has the shape of a response but is none. -/
def unusable (v : Json) : Failure :=
  ⟨"handler returned an unusable response shape", v.text⟩

/-- Tells what a value is. -/
def ofValue (v : Json) : Outcome :=
  match v with
  | .object fields =>
    if isResponseShaped fields then
      match Response.ofFields? fields with
      | some r => .response r
      | none => .failure (unusable v)
    else .value v
  | _ => .value v

/-- Tells what a reply is. -/
def ofReply : Reply → Outcome
  | .response r => .response r
  | .value v => ofValue v

end Outcome

namespace Response

/-- The message of a failure that has none of its own. -/
def namelessFailure : String := "handler failed"

/-- The response of a failure. -/
def ofFailure (f : Failure) : Response where
  status := 500
  body := Json.text <| .object [
    ("error", .string (if f.message = "" then namelessFailure else f.message)),
    ("stack", .string f.trace)]

/-- The response of an outcome before it is finished. -/
def draft : Outcome → Response
  | .response r => r
  | .value v => .ok (bodyText v)
  | .failure f => .ofFailure f

/-- Adds the content type and the runtime tag where they are missing. -/
def finish (config : Config) (r : Response) : Response :=
  let headers := r.headers.insertIfAbsent contentType config.defaultContentType
  { r with
    headers :=
      match config.runtimeHeader with
      | none => headers
      | some tag => headers.insertIfAbsent runtimeTag tag }

/-- The finished response of an outcome. -/
def ofOutcome (config : Config) (o : Outcome) : Response :=
  (draft o).finish config

end Response
end Invocation
