import Invocation.Json.Decoder

/-!
# Configuration

What an adapter can be told, and the two ways a record of settings is read from
and written to JSON.
-/

namespace Invocation

/-- The form in which diagnostics are written. -/
inductive LogFormat where
  | text
  | json
  deriving DecidableEq, Repr

namespace LogFormat

/-- The formats by name. -/
def known : List (String × LogFormat) := [("text", .text), ("json", .json)]

/-- The name of a format. -/
def name : LogFormat → String
  | .text => "text"
  | .json => "json"

/-- The typed reader of formats. -/
def decoder : Json.Decoder LogFormat := .variant known

end LogFormat

/-- The settings of an adapter.  A record of which nothing is said has the
defaults. -/
structure Config where
  /-- The name attached to what the function logs. -/
  functionName : String := "function"
  /-- How many bytes one read of the input channel asks for. -/
  chunkSize : UInt64 := 65536
  /-- The method of a request that gives none. -/
  defaultMethod : String := "POST"
  /-- The address of a request that gives none. -/
  defaultUri : String := "/"
  /-- The content type of a response that gives none. -/
  defaultContentType : String := "application/json"
  /-- Whether the adapter itself catches a panic of the handler. -/
  catchPanics : Bool := true
  /-- The runtime tag of responses, if they get one. -/
  runtimeHeader : Option String := none
  /-- Which diagnostics are written. -/
  logFilter : String := "info"
  /-- How diagnostics are written. -/
  logFormat : LogFormat := .text
  deriving DecidableEq, Repr

namespace Config

/-- The settings as a record of optional fields. -/
def record : Json.Decoder.Record Config where
  title := "AdapterConfig"
  start := {}
  fields := [
    .of "function_name" false .string fun v c => { c with functionName := v },
    .of "chunk_size" false
      (.integer "usize" (Json.Decoder.unsigned? UInt64.size UInt64.ofNat))
      fun v c => { c with chunkSize := v },
    .of "default_method" false .string fun v c => { c with defaultMethod := v },
    .of "default_uri" false .string fun v c => { c with defaultUri := v },
    .of "default_content_type" false .string
      fun v c => { c with defaultContentType := v },
    .of "catch_panics" false .boolean fun v c => { c with catchPanics := v },
    .of "runtime_header" false (.option .string)
      fun v c => { c with runtimeHeader := v },
    .of "log_filter" false .string fun v c => { c with logFilter := v },
    .of "log_format" false LogFormat.decoder
      fun v c => { c with logFormat := v }]

/-- The typed reader of settings. -/
def decoder : Json.Decoder Config := record.decoder

/-- The document form: every field in order, the runtime tag only when it is
set. -/
def toJson (c : Config) : Json :=
  .object <|
    [("function_name", .string c.functionName),
      ("chunk_size", .number (.integer (.ofUInt64 c.chunkSize))),
      ("default_method", .string c.defaultMethod),
      ("default_uri", .string c.defaultUri),
      ("default_content_type", .string c.defaultContentType),
      ("catch_panics", .bool c.catchPanics)] ++
    (c.runtimeHeader.map fun v => ("runtime_header", .string v)).toList ++
    [("log_filter", .string c.logFilter),
      ("log_format", .string c.logFormat.name)]

end Config
end Invocation
