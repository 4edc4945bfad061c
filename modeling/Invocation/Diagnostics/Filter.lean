import Invocation.Config
import Invocation.Diagnostics.Directive

/-!
# Filters

A filter is written as directives between commas.  An event is seen wherever it
happens if the most specific of the directives about it allows it; inside the
span of an invocation it is also seen if any directive about that span allows
it.  A filter that cannot be read is passed over for the next best.
-/

namespace Invocation

/-- Which events are to be seen. -/
structure Filter where
  directives : List Directive
  deriving DecidableEq, Repr

namespace Filter

/-- Cuts a text at its commas. -/
def pieces (s : String) : List (List Char) :=
  (s.toList.splitOn ',').filter (· ≠ [])

/-- The filter that shows everything up to a level. -/
def upTo (l : Level) : Filter := ⟨[{ verbosity := l.rank }]⟩

/-- Reads a filter.  A filter without directives shows errors. -/
def parse (s : String) : Except DirectiveFault Filter :=
  match (pieces s).mapM Directive.parse with
  | .error e => .error e
  | .ok [] => .ok (.upTo .error)
  | .ok directives => .ok ⟨directives⟩

/-- The filter that is used when no other can be read. -/
def fallback : Filter := .upTo .info

/-- The filter in force: that of the environment, else that of the settings,
else the fallback.  There is none if one that is tried has a part that starts or
ends inside a character. -/
def inForce (environment : Option String) (config : Config) : Option Filter :=
  match environment.map parse with
  | some (.ok f) => some f
  | some (.error .splitCharacter) => none
  | some (.error .malformed) | none =>
    match parse config.logFilter with
    | .ok f => some f
    | .error .splitCharacter => none
    | .error .malformed => some fallback

/-! ## Events anywhere -/

/-- The names of the fields of an event. -/
def fieldNames (e : Event) : List String :=
  "message" :: e.fields.map Prod.fst

/-- How specific the target of a directive is: its length. -/
def weight (d : Directive) : Nat :=
  match d.target with
  | none => 0
  | some t => t.utf8ByteSize + 1

/-- The first directive goes before the second: it is more specific, or not less
and later.  Of directives with the same target one that asks for a field is more
specific, and of two such the one whose field has the greater name. -/
def outranks (later earlier : Directive) : Bool :=
  if weight later = weight earlier then
    match later.field, earlier.field with
    | _, none => true
    | none, some _ => false
    | some f, some g => if f.name < g.name then false else true
  else decide (weight earlier < weight later)

/-- The most specific of some directives. -/
def mostSpecific? (directives : List Directive) : Option Directive :=
  directives.foldl
    (fun best d =>
      match best with
      | none => some d
      | some b => if outranks d b then some d else some b)
    none

/-- The directives about events wherever they happen. -/
def statics (f : Filter) : List Directive :=
  f.directives.filter Directive.isStatic

/-- The directive that decides about an event wherever it happens. -/
def deciding? (f : Filter) (e : Event) : Option Directive :=
  mostSpecific? <| f.statics.filter fun d =>
    d.covers e.target && d.fieldAmong (fieldNames e)

/-- An event is to be seen wherever it happens. -/
def showsAnywhere (f : Filter) (e : Event) : Bool :=
  match f.deciding? e with
  | none => false
  | some d => decide (e.level.rank ≤ d.verbosity)

/-! ## Spans -/

/-- The name of the span of an invocation. -/
def spanName : String := "invocation"

/-- The field of the span that names the function. -/
def spanField : String := "function"

/-- Two directives are about the same spans. -/
def sameSpans (d e : Directive) : Bool :=
  let key (d : Directive) :=
    (d.target, d.span, d.field.map fun f => (f.name, f.value.map Demand.written))
  key d == key e

/-- Directives without those that a later one about the same spans replaces. -/
def unreplaced : List Directive → List Directive
  | [] => []
  | d :: rest =>
    if rest.any (sameSpans d) then unreplaced rest else d :: unreplaced rest

/-- The directive is about the spans of invocations. -/
def concernsSpan (d : Directive) : Bool :=
  d.covers Event.adapterTarget &&
    (d.span == none || d.span == some spanName) && d.fieldAmong [spanField]

/-- The directives about what happens inside an invocation. -/
def dynamics (f : Filter) : List Directive :=
  (unreplaced (f.directives.filter Directive.isDynamic)).filter concernsSpan

/-- The greatest of some verbosities. -/
def greatest (vs : List Verbosity) : Verbosity := vs.foldl max 0

/-- The most that the filter can ever show.  Whether a value is as demanded is
known only inside a span, so that no span can be left out then. -/
def ceiling (f : Filter) : Verbosity :=
  if f.directives.any Directive.demandsValue then Directive.everything
  else greatest (f.directives.map (·.verbosity))

/-- The directive that decides about spans of invocations wherever they are
opened allows them.  Fields are not looked at. -/
def allowsSpan (f : Filter) : Bool :=
  match mostSpecific? (f.statics.filter (·.covers Event.adapterTarget)) with
  | none => false
  | some d => decide (Level.info.rank ≤ d.verbosity)

/-- An invocation opens a span. -/
def opensSpan (f : Filter) : Bool :=
  decide (Level.info.rank ≤ f.ceiling) && (!f.dynamics.isEmpty || f.allowsSpan)

/-- The directive asks for nothing that the invocation of a function has not. -/
def accepts (d : Directive) (function : String) : Bool :=
  match d.field with
  | some ⟨_, some demand⟩ => demand.metBy function
  | _ => true

/-- How much is to be seen inside the invocation of a function. -/
def inside (f : Filter) (function : String) : Verbosity :=
  greatest ((f.dynamics.filter (accepts · function)).map (·.verbosity))

/-- An event is to be seen inside the invocation of a function. -/
def showsInside (f : Filter) (function : String) (e : Event) : Bool :=
  f.opensSpan && decide (e.level.rank ≤ f.inside function)

/-- An entry is to be seen. -/
def shows (f : Filter) (e : Entry) : Bool :=
  f.showsAnywhere e.event ||
    match e.invocation with
    | none => false
    | some function => f.showsInside function e.event

end Filter
end Invocation
