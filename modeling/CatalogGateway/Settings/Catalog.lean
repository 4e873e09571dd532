import CatalogGateway.Settings.Environment
import CatalogGateway.Text.Blank
import CatalogGateway.Text.Pieces

/-!
# Settings of the catalog

The default branch and the references that the catalog lists.  The default branch is the first reference, and no
reference is listed twice.
-/

namespace CatalogGateway

/-- A character that may stand in the name of a reference. -/
def isReferenceChar (c : Char) : Bool :=
  c.isAlphanum || c = '.' || c = '_' || c = '/' || c = '-'

/-- Whether two dots follow each other. -/
def hasDoubleDot : List Char → Bool
  | '.' :: '.' :: _ => true
  | _ :: rest => hasDoubleDot rest
  | [] => false

/-- The names of references: they start with a letter, have no two dots in a row and do not end with a slash. -/
def isReferenceName (name : String) : Bool :=
  name.toList.head?.any Char.isAlpha && name.toList.all isReferenceChar && !hasDoubleDot name.toList &&
    name.toList.getLast? ≠ some '/'

/-- A configured name that is none of a reference. -/
structure ReferenceError where
  name : String
deriving DecidableEq, Repr

def ReferenceError.message (e : ReferenceError) : String := "invalid reference name '" ++ e.name ++ "'"

/-- Accepts the names of references. -/
def checkReferenceName (name : String) : Except ReferenceError Unit :=
  if isReferenceName name then .ok () else .error ⟨name⟩

structure CatalogSettings where
  defaultBranch : String := "main"
  references : List String := ["main"]
deriving DecidableEq, Repr, Inhabited

namespace CatalogSettings

def readDefaultBranch (env : Environment) : String :=
  (((env.text? "CATALOG_DEFAULT_BRANCH").map Text.trim).filter (· ≠ "")).getD ({} : CatalogSettings).defaultBranch

def readReferences (env : Environment) : List String :=
  ((Text.pieces ',' ((env.text? "CATALOG_REFERENCES").getD "")).map Text.trim).filter (· ≠ "")

def ofEnvironment (env : Environment) : Except ReferenceError CatalogSettings := do
  let defaultBranch := readDefaultBranch env
  let names := defaultBranch :: readReferences env
  names.forM checkReferenceName
  return { defaultBranch, references := names.eraseDups }

def reference? (s : CatalogSettings) (name : String) : Option String := s.references.find? (· = name)

end CatalogSettings

end CatalogGateway
