import CatalogGateway.Context
import CatalogGateway.Envelope
import CatalogGateway.Event.Adapt
import CatalogGateway.Problem
import CatalogGateway.Text.Quoted

/-!
# The entrypoint

How an instance answers the events it is invoked with.  The first invocation builds the application context; as long as
that fails, invocations fail.  With a context every invocation is answered: what goes wrong with an event, its routing or
its handler becomes a problem document.
-/

namespace CatalogGateway

def AdaptError.toResponse (e : AdaptError) (requestId : String) : Response :=
  (Problem.badRequest e.message requestId).toResponse

/-- The answer to a request that got no response from a handler.  Why a handler failed is recorded and not told. -/
def DispatchError.toResponse (e : DispatchError) (requestId : String) : Logged LogEntry Response :=
  match e with
  | notFound _ _ => return (Problem.notFound e.message requestId).toResponse
  | methodNotAllowed _ _ allowed =>
    let response := (Problem.methodNotAllowed e.message requestId).toResponse
    match HeaderValue.ofText? (", ".intercalate (allowed.map Method.text)) with
    | some value => return { response with headers := response.headers.set .allow value }
    | none => return response
  | handlerFailed cause => do
    Logged.record (.handlerFailed requestId cause.text)
    return (Problem.internalError requestId).toResponse

/-- An event to be answered. -/
structure Invocation where
  payload : Json
  requestId : String
  /-- The time at which the platform gives up, in milliseconds; zero if it does not say. -/
  deadline : Nat := 0
  /-- The time at which the handling begins, in milliseconds. -/
  now : Nat := 0
  /-- The phase that a handler finds which is still running after the answer, so many milliseconds after its start. -/
  later : Nat → Phase := fun _ => .warm

/-- The time that a handler may take, if there is a deadline. -/
def Invocation.budget? (i : Invocation) (margin : Nat) : Option Nat :=
  if i.deadline = 0 then none else some (i.deadline - i.now - margin)

inductive InvokeResult where
  | answered (envelope : Envelope)
  /-- There is no application context. -/
  | failed (error : InitError)
  /-- The invocation broke off. -/
  | crashed (message : String)

structure Entrypoint where
  stripStage : Bool := true
  /-- The time kept in reserve before a deadline, in milliseconds. -/
  margin : Nat := 250
deriving Inhabited

structure Instance where
  cache : Cache AppContext := {}
  phase : Phase := .cold
deriving Inhabited

namespace Entrypoint

/-- The phase of an instance so many milliseconds after a handler started.  It stays what it was at the start as long
as the handler is waited for. -/
def phaseAt (e : Entrypoint) (phase : Phase) (i : Invocation) (time : Nat) : Phase :=
  if (i.budget? e.margin).any (· < time) then i.later time else phase

/-- The words for a task that crashed. -/
def taskError (message : Option String) : String :=
  "task panicked" ++ (message.map fun m => " with message " ++ Text.quoted m).getD ""

/-- The response to a request.  Its dispatch is a task of its own, which is waited for as long as there is time. -/
def answer (e : Entrypoint) (context : AppContext) (phase : Phase) (i : Invocation) (request : Request) :
    Logged LogEntry Response := do
  let dispatch := context.routes.dispatchDuring request (e.phaseAt phase i)
  let joined ← (⟨dispatch.attempt, dispatch.log⟩ : Logged LogEntry _)
  match (i.budget? e.margin).filter (· < dispatch.duration) with
  | some budget => do
    -- the task goes on by itself, and nobody asks what it comes to
    Logged.record (.deadlineReached i.requestId budget)
    return (Problem.timeout i.requestId).toResponse
  | none =>
    match joined with
    | .returned (.ok response) => return response
    | .returned (.error error) => error.toResponse i.requestId
    | .crashed message => do
      Logged.record (.taskFailed i.requestId (taskError message))
      return (Problem.internalError i.requestId).toResponse

/-- The response to an event, or the text with which its reading is broken off. -/
def handle (e : Entrypoint) (context : AppContext) (phase : Phase) (i : Invocation) :
    Logged LogEntry (Except String Response) :=
  match Event.requestOfPayload i.payload e.stripStage with
  | .error .tooManyHeaders => return .error tooManyHeadersMessage
  | .error (.rejected error) => do
    Logged.record (.eventRejected i.requestId error.message)
    return .ok (error.toResponse i.requestId)
  | .ok request => do
    Logged.record (.requestAccepted i.requestId request.method.text request.path)
    let response ← e.answer context phase i request
    return .ok response

/-- Answers an event; `factory` is what the context factory does if it is run. -/
def invoke (e : Entrypoint) (factory : FactoryRun AppContext) (s : Instance) (i : Invocation) :
    Logged LogEntry (InvokeResult × Instance) := do
  let coldStart := !s.cache.isInitialized
  let (built, cache) ← s.cache.getOrInit factory
  match built with
  | .crashed message => return (.crashed message, { s with cache })
  | .failed error => do
    Logged.record (.invocationAborted i.requestId error.message)
    return (.failed error, ⟨cache, .cold⟩)
  | .ready context => do
    let s : Instance := ⟨cache, .handling⟩
    -- only an answer ends the phase
    match ← e.handle context.value s.phase i with
    | .error message => return (.crashed message, s)
    | .ok response => do
      Logged.record (.invocationCompleted i.requestId response.status.code.toNat coldStart)
      return (.answered (Envelope.ofResponse response), { s with phase := .warm })

end Entrypoint

namespace Instance

def context? (s : Instance) : Option AppContext := s.cache.get?

/-- The instance with a new entrypoint over the same cache. -/
def renew (s : Instance) : Instance := ⟨s.cache, if s.cache.isInitialized then .warm else .cold⟩

end Instance

end CatalogGateway
