import Invocation.Pattern.CharSet

/-!
# Patterns

A pattern describes texts.  It is looked for from every place of a text on, all
the ways to find it being followed at once, in the order in which they are
preferred: an earlier start before a later one, a first alternative before a
second, more repetitions before fewer where that is asked for.

A way that has found the pattern wins over all ways after it in the order, which
are given up.  A text meets a pattern if a way that was not given up finds it
just where the text ends.
-/

namespace Invocation

/-- The place between two characters, where there are such. -/
structure Gap where
  before : Option Char
  after : Option Char
  deriving DecidableEq, Repr

/-- What a pattern can ask of a place. -/
inductive Check where
  | textStart
  | textEnd
  | lineStart
  | lineEnd
  /-- The start of a line that may end by a carriage return. -/
  | returnLineStart
  /-- The end of a line that may end by a carriage return. -/
  | returnLineEnd
  | wordEdge
  | noWordEdge
  | wordStart
  | wordEnd
  deriving DecidableEq, Repr

namespace Check

/-- A character of a word is there. -/
def isWord : Option Char → Bool
  | none => false
  | some c => CharSet.wordChars.has c.toNat

/-- The place is as asked. -/
def holds (gap : Gap) : Check → Bool
  | .textStart => gap.before == none
  | .textEnd => gap.after == none
  | .lineStart => gap.before == none || gap.before == some '\n'
  | .lineEnd => gap.after == none || gap.after == some '\n'
  | .returnLineStart =>
    gap.before == none || gap.before == some '\n' ||
      (gap.before == some '\r' && gap.after != some '\n')
  | .returnLineEnd =>
    gap.after == none || gap.after == some '\r' ||
      (gap.after == some '\n' && gap.before != some '\r')
  | .wordEdge => isWord gap.before != isWord gap.after
  | .noWordEdge => isWord gap.before == isWord gap.after
  | .wordStart => !isWord gap.before && isWord gap.after
  | .wordEnd => isWord gap.before && !isWord gap.after

end Check

/-- A description of texts.  A repetition is greedy if more is preferred. -/
inductive Pattern where
  /-- The empty text. -/
  | empty
  /-- One character of a set. -/
  | one (s : CharSet)
  /-- The empty text at a place that is as asked. -/
  | check (c : Check)
  /-- One after the other. -/
  | both (p q : Pattern)
  /-- The one or else the other. -/
  | either (p q : Pattern)
  | optional (greedy : Bool) (p : Pattern)
  /-- Any number of times, an empty text adding nothing. -/
  | again (greedy : Bool) (p : Pattern)
  /-- Once, and then any number of times. -/
  | once (greedy : Bool) (p : Pattern)
  deriving DecidableEq, Repr

/-- A way to go on from a place: the pattern has been found, or a character of a
set is to be read and then other patterns are to be found in turn. -/
inductive Way where
  | found
  | read (s : CharSet) (rest : List Pattern)
  deriving DecidableEq, Repr

/-- The way has found its pattern. -/
def Way.isFound : Way → Bool
  | .found => true
  | .read .. => false

namespace Pattern

/-- The empty text may be of the pattern. -/
def nullable : Pattern → Bool
  | .empty | .check _ | .optional .. | .again .. => true
  | .one _ => false
  | .both p q => p.nullable && q.nullable
  | .either p q => p.nullable || q.nullable
  | .once _ p => p.nullable

/-- Any number of times.  Of a pattern that the empty text may be of, the
preferred way decides where the empty text stands in the order. -/
def anyNumber (greedy : Bool) (p : Pattern) : Pattern :=
  if p.nullable then .optional greedy (.once greedy p) else .again greedy p

/-- One pattern after the other. -/
def sequence (ps : List Pattern) : Pattern :=
  ps.foldr .both .empty

/-- The ways to find a pattern from a place on, the preferred ones first. -/
def ways (gap : Gap) : Pattern → List Way
  | .empty => [.found]
  | .one s => [.read s []]
  | .check c => if c.holds gap then [.found] else []
  | .both p q =>
    (ways gap p).flatMap fun
      | .found => ways gap q
      | .read s rest => [.read s (rest ++ [q])]
  | .either p q => ways gap p ++ ways gap q
  | .optional greedy p =>
    if greedy then ways gap p ++ [.found] else .found :: ways gap p
  | .again greedy p =>
    let further := (ways gap p).filterMap fun
      | .found => none
      | .read s rest => some (.read s (rest ++ [.again greedy p]))
    if greedy then further ++ [.found] else .found :: further
  | .once greedy p =>
    (ways gap p).map fun
      | .found => .found
      | .read s rest => .read s (rest ++ [.again greedy p])

/-- The ways to find patterns in turn. -/
def waysInTurn (gap : Gap) : List Pattern → List Way
  | [] => [.found]
  | p :: rest =>
    (p.ways gap).flatMap fun
      | .found => waysInTurn gap rest
      | .read s more => [.read s (more ++ rest)]

/-- What is to be found after a character on a way, if the way takes it. -/
def after? (c : Char) : Way → Option (List Pattern)
  | .found => none
  | .read s rest => if s.has c.toNat then some rest else none

/-- Looks for a pattern.  `underWay` are the searches begun, in order; `fresh`
tells whether a search may still start here. -/
def search (p : Pattern) : Bool → List (List Pattern) → Option Char →
    List Char → Bool
  | fresh, underWay, before, [] =>
    let starts := if fresh then underWay ++ [[p]] else underWay
    (starts.flatMap (waysInTurn ⟨before, none⟩)).any Way.isFound
  | fresh, underWay, before, c :: text =>
    let starts := if fresh then underWay ++ [[p]] else underWay
    let all := starts.flatMap (waysInTurn ⟨before, some c⟩)
    let kept := all.takeWhile fun way => !way.isFound
    search p (fresh && !all.any Way.isFound)
      (kept.filterMap (after? c)).eraseDups (some c) text

/-- The text meets the pattern: the pattern is found where the text ends. -/
def metBy (p : Pattern) (s : String) : Bool :=
  p.search true [] none s.toList

end Pattern
end Invocation
