import CatalogGateway.Route.Handler
import CatalogGateway.Route.Match

/-!
# Routing tables

A routing table is a list of routes in the order of their registration.  Of the routes that match a path and have the
right method the most specific one is taken, and of equally specific ones the first; one pass over the table finds it
together with the methods to tell of if there is none.  The handler runs behind a boundary that no crash passes.
-/

namespace CatalogGateway

/-- A route: the requests of one method on the paths of a pattern, and their handler. -/
structure Route where
  method : Method
  pattern : Pattern
  handler : Handler

/-- A route as it is asked for, with its pattern still to be read. -/
structure RouteSpec where
  method : Method
  pattern : String
  handler : Handler

/-- A routing table, in the order of registration. -/
structure RouteTable where
  routes : List Route := []
deriving Inhabited

/-- Why a request gets no response from a handler. -/
inductive DispatchError where
  /-- No pattern matches the path. -/
  | notFound (method : Method) (path : String)
  /-- Patterns match the path, but none for the method; `allowed` are the methods of those that do. -/
  | methodNotAllowed (method : Method) (path : String) (allowed : List Method)
  /-- The handler failed or crashed. -/
  | handlerFailed (cause : ErrorChain)
deriving DecidableEq

def DispatchError.message : DispatchError → String
  | notFound method path => "no route matches " ++ method.text ++ " " ++ path
  | methodNotAllowed method path _ => "method " ++ method.text ++ " is not allowed for " ++ path
  | handlerFailed cause => "handler failed: " ++ cause.text

namespace Route

/-- The cause that stands for a crash of the handler. -/
def crashCause (route : Route) (message : Option String) : ErrorChain :=
  ⟨"handler for " ++ route.method.text ++ " " ++ route.pattern.text ++ " panicked: " ++
    message.getD "non-string panic payload", []⟩

/-- What a contained run of the handler means for the request. -/
def outcome (route : Route) : Except (Option String) (Except ErrorChain Response) → Except DispatchError Response
  | .ok (.ok r) => .ok r
  | .ok (.error cause) => .error (.handlerFailed cause)
  | .error message => .error (.handlerFailed (route.crashCause message))

/-- What a result of the handler comes to. -/
def conclude (route : Route) (result : HandlerResult) : Attempt (Except DispatchError Response) :=
  result.attempt.contained.map route.outcome

theorem isReturned_conclude (route : Route) (result : HandlerResult) : (route.conclude result).isReturned = true := by
  simp [conclude]

end Route

/-- A route that matches a path, with the parameters that the path gives. -/
abbrev Hit := Route × Params

/-- How far a pass over the table has come: the best route for the method so far, and the other methods that the path
has had so far. -/
structure Scan where
  best : Option Hit := none
  allowed : List Method := []

namespace Scan

/-- Takes one more route into account.  A route that is only as specific as an earlier one does not replace it. -/
def visit (method : Method) (path : String) (s : Scan) (route : Route) : Scan :=
  match route.pattern.match? path with
  | none => s
  | some params =>
    if route.method = method then
      -- of equally specific routes the first stays
      if s.best.all (·.1.pattern.specificity < route.pattern.specificity) then { s with best := some (route, params) }
      else s
    else if route.method ∈ s.allowed then s
    else { s with allowed := s.allowed ++ [route.method] }

end Scan

/-- What dispatching a request comes to, how long the handler takes, and what is recorded. -/
structure Dispatch where
  attempt : Attempt (Except DispatchError Response)
  returns : attempt.isReturned = true
  duration : Nat := 0
  log : List LogEntry := []

def Dispatch.result (d : Dispatch) : Except DispatchError Response := d.attempt.get d.returns

namespace RouteTable

def size (t : RouteTable) : Nat := t.routes.length

def isEmpty (t : RouteTable) : Bool := t.routes.isEmpty

def register (t : RouteTable) (route : Route) : Logged AppEntry RouteTable := do
  Logged.record (.routeRegistered route.method.text route.pattern.text)
  return ⟨t.routes ++ [route]⟩

/-- Adds a route at the end, unless its pattern is none. -/
def route (t : RouteTable) (spec : RouteSpec) : Logged AppEntry (Except PatternError RouteTable) :=
  match Pattern.parse spec.pattern with
  | .error e => return .error e
  | .ok pattern => do
    let t ← t.register ⟨spec.method, pattern, spec.handler⟩
    return .ok t

/-- Adds routes one after the other, up to the first whose pattern is none. -/
def routeAll (t : RouteTable) : List RouteSpec → Logged AppEntry (Except PatternError RouteTable)
  | [] => return .ok t
  | spec :: rest => do
    match ← t.route spec with
    | .error e => return .error e
    | .ok t => t.routeAll rest

/-- Adds routes one after the other, whether or not earlier ones could be added; gives the errors of those that could
not, and the table after them. -/
def routeEach (t : RouteTable) : List RouteSpec → Logged AppEntry (List (Option PatternError) × RouteTable)
  | [] => return ([], t)
  | spec :: rest => do
    match ← t.route spec with
    | .error e => do
      let (errors, t) ← t.routeEach rest
      return (some e :: errors, t)
    | .ok t => do
      let (errors, t) ← t.routeEach rest
      return (none :: errors, t)

/-- The pass over the whole table for a method and a path. -/
def scan (t : RouteTable) (method : Method) (path : String) : Scan := t.routes.foldl (Scan.visit method path) {}

def resolve (t : RouteTable) (method : Method) (path : String) : Except DispatchError Hit :=
  let scan := t.scan method path
  match scan.best with
  | some hit => .ok hit
  | none =>
    if scan.allowed = [] then .error (.notFound method path)
    else .error (.methodNotAllowed method path scan.allowed)

/-- Finds the route for a request and runs its handler, while the instance goes through the given phases. -/
def dispatchDuring (t : RouteTable) (request : Request) (phaseAt : Nat → Phase) : Dispatch :=
  match t.resolve request.method request.path with
  | .error e => { attempt := .returned (.error e), returns := rfl }
  | .ok (route, params) =>
    let run := route.handler ⟨request, params, phaseAt⟩
    { attempt := route.conclude run.result
      returns := route.isReturned_conclude run.result
      duration := run.duration
      log := .requestDispatched request.method.text request.path route.pattern.text :: run.log.map .app }

/-- Finds the route for a request and runs its handler, while the instance stays in a phase. -/
def dispatch (t : RouteTable) (request : Request) (phase : Phase) : Dispatch := t.dispatchDuring request fun _ => phase

end RouteTable

end CatalogGateway
