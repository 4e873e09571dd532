import CatalogGateway.Text.Pieces

/-!
# Route patterns

A route pattern is a path some of whose segments are parameters: `{name}` stands for one segment, and `{*name}`, which
may come last only, for one or more.  Empty segments do not count, neither in patterns nor in paths.
-/

namespace CatalogGateway

/-- The non-empty segments of a path. -/
def pathSegments (path : String) : List String := Text.words '/' path

inductive Segment where
  | literal (text : String)
  | param (name : String)
  /-- A parameter of all remaining segments, of which there is at least one. -/
  | tail (name : String)
deriving DecidableEq, Repr

inductive PatternError where
  | missingLeadingSlash (pattern : String)
  | unbalancedBrace (segment : String)
  | emptyParameter (pattern : String)
  | duplicateParameter (name pattern : String)
  | wildcardNotLast (name pattern : String)
deriving DecidableEq, Repr

def PatternError.message : PatternError → String
  | missingLeadingSlash pattern => "route pattern must start with '/': " ++ pattern
  | unbalancedBrace segment => "route pattern has an unbalanced brace in segment '" ++ segment ++ "'"
  | emptyParameter pattern => "route pattern has an empty parameter name in '" ++ pattern ++ "'"
  | duplicateParameter name pattern => "route parameter '" ++ name ++ "' appears more than once in '" ++ pattern ++ "'"
  | wildcardNotLast name pattern =>
    "wildcard '\x7b*" ++ name ++ "\x7d' must be the last segment of '" ++ pattern ++ "'"

namespace Segment

/-- The segment that a text writes, whatever its name.  There are no braces in it, or one of each kind, at its ends. -/
def ofText? (text : String) : Option Segment :=
  let cs := text.toList
  let opens := cs.count '{'
  let closes := cs.count '}'
  if opens = 0 ∧ closes = 0 then some (literal text)
  else if opens ≠ 1 ∨ closes ≠ 1 ∨ cs.head? ≠ some '{' ∨ cs.getLast? ≠ some '}' then none
  else
    -- what is between the braces
    match cs.tail.dropLast with
    | '*' :: name => some (tail (String.ofList name))
    | name => some (param (String.ofList name))

def name? : Segment → Option String
  | literal _ => none
  | param name => some name
  | tail name => some name

def isLiteral : Segment → Bool
  | literal _ => true
  | _ => false

def isTail : Segment → Bool
  | tail _ => true
  | _ => false

end Segment

/-- A route pattern: its text and its segments. -/
structure Pattern where
  text : String
  segments : List Segment
deriving DecidableEq, Repr

namespace Pattern

/-- Reads one segment, given the names taken by earlier ones and whether it is the last. -/
def readSegment (pattern : String) (taken : List String) (last : Bool) (text : String) :
    Except PatternError Segment :=
  match Segment.ofText? text with
  | none => .error (.unbalancedBrace text)
  | some segment =>
    match segment.name? with
    | none => .ok segment
    | some name =>
      if name = "" then .error (.emptyParameter pattern)
      else if name ∈ taken then .error (.duplicateParameter name pattern)
      else if segment.isTail && !last then .error (.wildcardNotLast name pattern)
      else .ok segment

/-- Reads the segments from some point on, given the names taken before it. -/
def readSegments (pattern : String) (taken : List String) : List String → Except PatternError (List Segment)
  | [] => .ok []
  | text :: rest =>
    match readSegment pattern taken rest.isEmpty text with
    | .error e => .error e
    | .ok segment => (readSegments pattern (segment.name?.toList ++ taken) rest).map (segment :: ·)

def parse (text : String) : Except PatternError Pattern :=
  if text.toList.head? = some '/' then
    (readSegments text [] (pathSegments text)).map fun segments => ⟨text, segments⟩
  else .error (.missingLeadingSlash text)

end Pattern

end CatalogGateway
