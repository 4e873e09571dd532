import CatalogGateway.ErrorChain
import CatalogGateway.Log

/-!
# Cold starts

A cache for the one value that an instance builds at its first use.  Its factory runs until it succeeds once: a run that
fails or crashes leaves the cache empty, and after a successful run no other one takes place.
-/

namespace CatalogGateway

/-- Why a factory gave no value. -/
structure InitError where
  cause : ErrorChain
deriving DecidableEq, Repr

namespace InitError

def ofMessage (message : String) : InitError := ⟨⟨message, []⟩⟩

def message (e : InitError) : String := "application context initialization failed: " ++ e.cause.text

end InitError

/-- What asking for a value comes to. -/
inductive Built (α : Type) where
  | ready (value : α)
  | failed (error : InitError)
  /-- The factory crashed with a message. -/
  | crashed (message : String)

abbrev FactoryRun (α : Type) := Logged AppEntry (Built α)

/-- A value together with the number of the factory run that made it: the same number means the same object. -/
structure Made (α : Type) where
  value : α
  run : Nat

/-- A cache, with the number of factory runs so far. -/
structure Cache (α : Type) where
  cell : Option (Made α) := none
  runs : Nat := 0

namespace Cache

variable {α : Type}

instance : Inhabited (Cache α) := ⟨{}⟩

def get? (c : Cache α) : Option α := c.cell.map (·.value)

def isInitialized (c : Cache α) : Bool := c.cell.isSome

/-- The value, which the factory is run for if there is none. -/
def getOrInit (c : Cache α) (factory : FactoryRun α) : Logged LogEntry (Built (Made α) × Cache α) :=
  match c.cell with
  | some made => return (.ready made, c)
  | none => do
    Logged.record .initStarted
    match ← factory.mapLog .app with
    | .ready value => do
      Logged.record .initSucceeded
      let made : Made α := ⟨value, c.runs⟩
      return (.ready made, ⟨some made, c.runs + 1⟩)
    | .failed e => do
      Logged.record (.initFailed e.message)
      return (.failed e, ⟨none, c.runs + 1⟩)
    | .crashed message => return (.crashed message, ⟨none, c.runs + 1⟩)

/-- Serves a number of callers one after the other; `factory n` is what the factory does in its run number `n`. -/
def serve (c : Cache α) (factory : Nat → FactoryRun α) : Nat → Logged LogEntry (List (Built (Made α)) × Cache α)
  | 0 => return ([], c)
  | callers + 1 => do
    let (first, c) ← c.getOrInit (factory c.runs)
    let (others, c) ← c.serve factory callers
    return (first :: others, c)

def describe (c : Cache α) : String :=
  "ColdStartCache \x7b initialized: " ++ (if c.isInitialized then "true" else "false") ++ " \x7d"

end Cache

end CatalogGateway
