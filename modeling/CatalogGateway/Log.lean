/-!
# Log entries

What is recorded about the work of an instance: the kinds of entries, each with a level, a message and named values, and
computations that give a value and the entries recorded on the way.  The application has entries of its own, so what the
gateway records about an invocation comes from the gateway alone.
-/

namespace CatalogGateway

inductive LogLevel where
  | debug
  | info
  | warn
  | error
deriving DecidableEq, Repr

def LogLevel.name : LogLevel → String
  | debug => "DEBUG"
  | info => "INFO"
  | warn => "WARN"
  | error => "ERROR"

inductive LogValue where
  | text (s : String)
  | number (n : Nat)
  | flag (b : Bool)
deriving DecidableEq, Repr

/-- An entry that the application records: its routes, its context factory and its handlers. -/
inductive AppEntry where
  /-- A route was added to the table. -/
  | routeRegistered (method pattern : String)
  /-- The routes of the catalog were added. -/
  | catalogRegistered (service : String) (routes : Nat) (defaultBranch : String) (references : Nat)
  /-- A reference was asked for that is not configured. -/
  | referenceMissing (reference : String)
deriving DecidableEq, Repr

namespace AppEntry

def level : AppEntry → LogLevel
  | routeRegistered .. | referenceMissing .. => .debug
  | catalogRegistered .. => .info

def message : AppEntry → String
  | routeRegistered .. => "registering route"
  | catalogRegistered .. => "catalog routes registered"
  | referenceMissing .. => "reference not found"

def fields : AppEntry → List (String × LogValue)
  | routeRegistered method pattern => [("method", .text method), ("pattern", .text pattern)]
  | catalogRegistered service routes defaultBranch references =>
    [("service", .text service), ("routes", .number routes), ("default_branch", .text defaultBranch),
      ("references", .number references)]
  | referenceMissing reference => [("reference", .text reference)]

end AppEntry

/-- An entry of the log: one of the application, or one that the gateway records about its own work. -/
inductive LogEntry where
  | app (entry : AppEntry)
  /-- A request was routed, and its handler is about to run. -/
  | requestDispatched (method path pattern : String)
  /-- The context factory is about to run. -/
  | initStarted
  /-- The context factory gave a context. -/
  | initSucceeded
  /-- The context factory failed. -/
  | initFailed (error : String)
  /-- An invocation failed because there is no context. -/
  | invocationAborted (requestId error : String)
  /-- An event could not be read as a request. -/
  | eventRejected (requestId error : String)
  /-- An event was read as a request. -/
  | requestAccepted (requestId method path : String)
  /-- A handler was abandoned because the deadline came near: it was not done within its budget, in milliseconds. -/
  | deadlineReached (requestId : String) (budget : Nat)
  /-- A handler failed or crashed. -/
  | handlerFailed (requestId error : String)
  /-- The task that dispatches a request crashed. -/
  | taskFailed (requestId error : String)
  /-- An invocation was answered. -/
  | invocationCompleted (requestId : String) (status : Nat) (coldStart : Bool)
  /-- The timeout margin could not be read. -/
  | marginIgnored (value error : String)
  /-- The switch for stage stripping could not be read. -/
  | stripStageIgnored (value : String)
deriving DecidableEq, Repr

namespace LogEntry

def level : LogEntry → LogLevel
  | app entry => entry.level
  | requestDispatched .. => .debug
  | initStarted | initSucceeded | requestAccepted .. | invocationCompleted .. => .info
  | eventRejected .. | deadlineReached .. | marginIgnored .. | stripStageIgnored .. => .warn
  | initFailed .. | invocationAborted .. | handlerFailed .. | taskFailed .. => .error

def message : LogEntry → String
  | app entry => entry.message
  | requestDispatched .. => "dispatching request"
  | initStarted => "cold start: initializing application context"
  | initSucceeded => "application context initialized"
  | initFailed .. => "application context initialization failed"
  | invocationAborted .. => "cold start failed, invocation aborted"
  | eventRejected .. => "rejecting malformed event"
  | requestAccepted .. => "handling request"
  | deadlineReached .. => "invocation deadline reached, abandoning handler"
  | handlerFailed .. => "route handler failed"
  | taskFailed .. => "dispatch task failed"
  | invocationCompleted .. => "invocation complete"
  | marginIgnored .. => "invalid CATALOG_TIMEOUT_MARGIN_MS, using default"
  | stripStageIgnored .. => "invalid CATALOG_STRIP_STAGE, using default"

def fields : LogEntry → List (String × LogValue)
  | app entry => entry.fields
  | requestDispatched method path pattern =>
    [("method", .text method), ("path", .text path), ("pattern", .text pattern)]
  | initStarted | initSucceeded => []
  | initFailed error => [("error", .text error)]
  | invocationAborted requestId error | eventRejected requestId error | handlerFailed requestId error
  | taskFailed requestId error =>
    [("request_id", .text requestId), ("error", .text error)]
  | requestAccepted requestId method path =>
    [("request_id", .text requestId), ("method", .text method), ("path", .text path)]
  | deadlineReached requestId _ => [("request_id", .text requestId)]
  | invocationCompleted requestId status coldStart =>
    [("request_id", .text requestId), ("status", .number status), ("cold_start", .flag coldStart)]
  | marginIgnored value error => [("value", .text value), ("error", .text error)]
  | stripStageIgnored value => [("value", .text value)]

/-- The times that an entry tells beside its fields, in milliseconds. -/
def times : LogEntry → List (String × Nat)
  | deadlineReached _ budget => [("budget_ms", budget)]
  | _ => []

end LogEntry

/-- A value, and the entries of a kind recorded while it was computed. -/
structure Logged (ε α : Type) where
  value : α
  log : List ε := []

namespace Logged

variable {ε δ α β : Type}

instance : Monad (Logged ε) where
  pure a := ⟨a, []⟩
  bind x f := ⟨(f x.value).value, x.log ++ (f x.value).log⟩

def record (entry : ε) : Logged ε Unit := ⟨(), [entry]⟩

/-- The same value with the entries as entries of another kind. -/
def mapLog (f : ε → δ) (x : Logged ε α) : Logged δ α := ⟨x.value, x.log.map f⟩

@[simp] theorem value_pure (a : α) : (pure a : Logged ε α).value = a := rfl
@[simp] theorem log_pure (a : α) : (pure a : Logged ε α).log = [] := rfl
@[simp] theorem value_bind (x : Logged ε α) (f : α → Logged ε β) : (x >>= f).value = (f x.value).value := rfl
@[simp] theorem log_bind (x : Logged ε α) (f : α → Logged ε β) : (x >>= f).log = x.log ++ (f x.value).log := rfl
@[simp] theorem value_record (entry : ε) : (record entry).value = () := rfl
@[simp] theorem log_record (entry : ε) : (record entry).log = [entry] := rfl
@[simp] theorem value_mapLog (f : ε → δ) (x : Logged ε α) : (x.mapLog f).value = x.value := rfl
@[simp] theorem log_mapLog (f : ε → δ) (x : Logged ε α) : (x.mapLog f).log = x.log.map f := rfl

end Logged

end CatalogGateway
