import CatalogGateway.ErrorChain
import CatalogGateway.Http.Request
import CatalogGateway.Http.Response
import CatalogGateway.Log
import CatalogGateway.Phase
import CatalogGateway.Route.Match

/-!
# Handlers

What a handler is given, and what a run of it comes to.  A handler may answer, fail with an error or crash; how long it
takes and what it records are part of its run.
-/

namespace CatalogGateway

/-- What a handler is called with: the request, the parameters of its route, and the phase of the instance. -/
structure Call where
  request : Request
  params : Params := {}
  /-- The phase of the instance so many milliseconds after the start of the handler. -/
  phaseAt : Nat → Phase := fun _ => .handling

/-- The phase of the instance at the start of the handler. -/
def Call.phase (call : Call) : Phase := call.phaseAt 0

/-- What running something comes to that may crash. -/
inductive Attempt (α : Type) where
  | returned (value : α)
  /-- It crashed, with a text or with something else. -/
  | crashed (message : Option String)

namespace Attempt

variable {α β : Type}

/-- Whether there was no crash. -/
def isReturned : Attempt α → Bool
  | returned _ => true
  | crashed _ => false

/-- The value of an attempt that did not crash. -/
def get : (attempt : Attempt α) → attempt.isReturned = true → α
  | returned value, _ => value

/-- The attempt with a function applied to its value. -/
def map (f : α → β) : Attempt α → Attempt β
  | returned value => returned (f value)
  | crashed message => crashed message

/-- The attempt behind a boundary that no crash passes: a crash is one of the values that may come back. -/
def contained : Attempt α → Attempt (Except (Option String) α)
  | returned value => returned (.ok value)
  | crashed message => returned (.error message)

@[simp] theorem get_returned (value : α) (h : (returned value).isReturned = true) : (returned value).get h = value :=
  rfl

theorem returned_get (attempt : Attempt α) (h : attempt.isReturned = true) : returned (attempt.get h) = attempt := by
  cases attempt with
  | returned value => rfl
  | crashed message => cases h

@[simp] theorem isReturned_map (f : α → β) (attempt : Attempt α) : (attempt.map f).isReturned = attempt.isReturned := by
  cases attempt <;> rfl

@[simp] theorem isReturned_contained (attempt : Attempt α) : attempt.contained.isReturned = true := by
  cases attempt <;> rfl

end Attempt

/-- What a handler comes to. -/
inductive HandlerResult where
  | response (r : Response)
  /-- The handler gave up with an error. -/
  | failure (cause : ErrorChain)
  /-- The handler crashed, with a text or with something else. -/
  | crash (message : Option String)

/-- Running the handler: it gives a response or an error, or it crashes. -/
def HandlerResult.attempt : HandlerResult → Attempt (Except ErrorChain Response)
  | response r => .returned (.ok r)
  | failure cause => .returned (.error cause)
  | crash message => .crashed message

/-- One run of a handler: what it comes to, how many milliseconds it takes, and what it records. -/
structure HandlerRun where
  result : HandlerResult
  duration : Nat := 0
  log : List AppEntry := []

abbrev Handler := Call → HandlerRun

/-- A handler that answers at once. -/
def Handler.ofResponse (f : Call → Response) : Handler := fun call => ⟨.response (f call), 0, []⟩

end CatalogGateway
