import Invocation.Handler

/-!
# Guest functions

Two complete functions: one that answers with what it saw, and one that can be
told to fail.
-/

namespace Invocation.Guest

/-- A body that names a key to visit. -/
structure Visit where
  visit : String := ""

/-- A visit as a record. -/
def visitRecord : Json.Decoder.Record Visit where
  title := "Visit"
  start := {}
  fields := [.of "visit" true .string fun v _ => ⟨v⟩]

/-- The settings of the function that answers with what it saw. -/
def echoConfig : Config :=
  { functionName := "echo-function", runtimeHeader := some "fnshim-rust" }

/-- What the function answers: the request and what a visit found. -/
def echoed (r : Request) (visits : Option String) : Json :=
  .object [
    ("method", .string r.method),
    ("uri", .string r.uri),
    ("user_agent", .string (r.header "User-Agent")),
    ("body", r.body),
    ("visits", (visits.map Json.string).getD .null)]

/-- Logs the request and answers with what was seen. -/
def answer (r : Request) (visits : Option String) : Action :=
  .log .info ("echoing " ++ r.method ++ " " ++ r.uri)
    (.reply (.response
      ((Response.json 200 (echoed r visits)).withHeader "X-Handler"
        "echo-function")))

/-- Answers with what it saw.  A body that names a key has it set and asked
first. -/
def echo : Handler := fun r =>
  match r.decode visitRecord.decoder with
  | .ok v => .set v.visit "1" (.get v.visit (answer r))
  | .error _ => answer r none

/-- Sets a key and replies with the body, unless the method tells it to fail or
to panic. -/
def obliging : Handler := fun r =>
  .set "k" "v" <|
    if r.method = "FAIL" then .fail ⟨"refused " ++ r.uri, []⟩
    else if r.method = "PANIC" then .panic (.text "guest panic")
    else .reply (.value r.body)

end Invocation.Guest
