import CatalogGateway.Route.Pattern

/-!
# Matching paths

A path matches a pattern if its segments can be shared out among those of the pattern; the parameters then have as
values what they took.  Patterns that match the same path are ordered by how specific they are.
-/

namespace CatalogGateway

/-- The values of the parameters of a pattern, in the order of the pattern. -/
structure Params where
  entries : List (String × String) := []
deriving DecidableEq, Repr, Inhabited

namespace Params

def get? (p : Params) (name : String) : Option String := p.entries.lookup name

def isEmpty (p : Params) : Bool := p.entries.isEmpty

end Params

namespace Pattern

/-- Shares out the segments of a path among those of a pattern. -/
def matchSegments : List Segment → List String → Option (List (String × String))
  | [], [] => some []
  | [], _ :: _ => none
  | .literal text :: rest, part :: parts => if part = text then matchSegments rest parts else none
  | .param name :: rest, part :: parts => (matchSegments rest parts).map ((name, part) :: ·)
  | .tail name :: _, part :: parts => some [(name, "/".intercalate (part :: parts))]
  | _ :: _, [] => none

/-- The parameters that a path gives, if it matches. -/
def match? (p : Pattern) (path : String) : Option Params :=
  (matchSegments p.segments (pathSegments path)).map Params.mk

end Pattern

/-- How specific a pattern is: the number of literal segments before the first parameter, the number of all literal
segments, and whether it matches paths of one length only. -/
structure Specificity where
  leading : Nat
  total : Nat
  fixedLength : Bool
deriving DecidableEq, Repr

namespace Specificity

/-- The components decide one after the other. -/
instance : LT Specificity where
  lt a b := a.leading < b.leading ∨ a.leading = b.leading ∧
    (a.total < b.total ∨ a.total = b.total ∧ (a.fixedLength = false ∧ b.fixedLength = true))

instance (a b : Specificity) : Decidable (a < b) :=
  inferInstanceAs (Decidable (a.leading < b.leading ∨ a.leading = b.leading ∧
    (a.total < b.total ∨ a.total = b.total ∧ (a.fixedLength = false ∧ b.fixedLength = true))))

end Specificity

def Pattern.specificity (p : Pattern) : Specificity where
  leading := (p.segments.takeWhile Segment.isLiteral).length
  total := (p.segments.filter Segment.isLiteral).length
  fixedLength := !p.segments.getLast?.any Segment.isTail

end CatalogGateway
