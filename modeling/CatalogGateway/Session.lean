import CatalogGateway.Entrypoint

/-!
# Sessions

Sequences of invocations of one instance, of looks at its context and of replacements of its entrypoint.  What the
context factory does in each of its runs is given.
-/

namespace CatalogGateway

inductive SessionStep where
  | invoke (i : Invocation)
  | readContext
  /-- A new entrypoint takes over the cache, with new settings or those of the old one. -/
  | renew (settings : Option Entrypoint := none)

inductive StepResult where
  | invoked (result : InvokeResult)
  | context (context : Option AppContext)
  | done

/-- Takes a step of a session; `factory n` is what the factory does in its run number `n`. -/
def Instance.step (e : Entrypoint) (factory : Nat → FactoryRun AppContext) (s : Instance) :
    SessionStep → Logged LogEntry (StepResult × Instance)
  | .invoke i => do
    let (result, s) ← e.invoke (factory s.cache.runs) s i
    return (.invoked result, s)
  | .readContext => return (.context s.context?, s)
  | .renew _ => return (.done, s.renew)

def Entrypoint.next (e : Entrypoint) : SessionStep → Entrypoint
  | .renew (some settings) => settings
  | _ => e

/-- Takes the steps of a session one after the other, from a given state on; gives what each of them shows and records,
and the state after it. -/
def Instance.run (e : Entrypoint) (factory : Nat → FactoryRun AppContext) (s : Instance) :
    List SessionStep → List (Logged LogEntry (StepResult × Instance))
  | [] => []
  | step :: rest =>
    let taken := s.step e factory step
    taken :: taken.value.2.run (e.next step) factory rest

end CatalogGateway
