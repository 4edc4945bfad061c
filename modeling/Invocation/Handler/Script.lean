import Invocation.Handler
import Invocation.Shape

/-!
# Scripted handlers

A script is a list of steps that a handler takes in order.  Steps that learn
something note it, and a script that comes to its end replies with its notes.
-/

namespace Invocation

/-- One step of a script. -/
inductive Step where
  | set (key value : String)
  | get (key : String)
  | log (level : Level) (message : String)
  | query (sql : String)
  | tryQuery (sql : String)
  | header (name : String)
  | headerValues (name : String)
  | method
  | uri
  | body
  | bodyText
  | decode (shape : Shape)
  | describe
  | nested (config : Config) (handler : Handler) (input : List UInt8)
  | reply (v : Json)
  | replyBody
  | replyResponse (r : Response)
  | fail (e : ErrorChain)
  | panic (p : Payload)

/-- How the context of a function is shown. -/
def Context.describe (functionName : String) : String :=
  "Context \x7b logger: FunctionLogger \x7b function: " ++
    Text.quoted functionName ++ " \x7d, .. \x7d"

namespace Script

/-- A text, or null for none. -/
def noteOption (v : Option String) : Json := (v.map Json.string).getD .null

/-- Takes the steps in order; `notes` holds what was learned, the latest
first. -/
def runFrom (request : Request) : List Step → List Json → Action
  | [], notes => .reply (.value (.array notes.reverse))
  | step :: rest, notes =>
    let note (v : Json) : Action := runFrom request rest (v :: notes)
    match step with
    | .set key value => .set key value (runFrom request rest notes)
    | .get key => .get key fun v => runFrom request rest (noteOption v :: notes)
    | .log level message => .log level message (runFrom request rest notes)
    | .query sql => .query sql fun
      | .ok rows => runFrom request rest (.array rows :: notes)
      | .error e => .fail (.ofAdapterError e)
    | .tryQuery sql => .query sql fun
      | .ok rows => runFrom request rest (.array rows :: notes)
      | .error e => runFrom request rest (.string e.message :: notes)
    | .header name => note (.string (request.header name))
    | .headerValues name =>
      note (.array ((request.headers.getAll name).map .string))
    | .method => note (.string request.method)
    | .uri => note (.string request.uri)
    | .body => note request.body
    | .bodyText => note (.string request.bodyText)
    | .decode shape =>
      match shape.reread request with
      | .ok text => note (.string text)
      | .error e => .fail (.ofAdapterError e)
    | .describe => .functionName fun name =>
      runFrom request rest (.string (Context.describe name) :: notes)
    | .nested config handler input => .respond config handler input fun r =>
      runFrom request rest (.string r.wire :: notes)
    | .reply v => .reply (.value v)
    | .replyBody => .reply (.value request.body)
    | .replyResponse r => .reply (.response r)
    | .fail e => .fail e
    | .panic p => .panic p

/-- The handler of a script. -/
def handler (steps : List Step) : Handler := fun request =>
  runFrom request steps []

end Script
end Invocation
