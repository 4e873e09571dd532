import CatalogGateway.Proofs.Route.Resolution
import Mathlib.Data.List.Forall2

/-!
# Tables with different handlers

Which route is taken does not depend on the handlers: in two tables whose routes have the same methods and patterns in
the same order, a request finds nothing in both, or routes at the same place with the same parameters
(`RouteTable.Alike.resolve`).
-/

namespace CatalogGateway

variable {R : Handler → Handler → Prop}

/-- Two routes for the same requests, with related handlers. -/
structure Route.Alike (R : Handler → Handler → Prop) (r r' : Route) : Prop where
  method : r.method = r'.method
  pattern : r.pattern = r'.pattern
  handler : R r.handler r'.handler

/-- A result means the same, whichever of the two handlers gave it. -/
theorem Route.Alike.meaning {r r' : Route} (h : Route.Alike R r r') (result : HandlerResult) :
    r'.meaning result = r.meaning result := by
  unfold Route.meaning Route.crashCause
  rw [h.method, h.pattern]

/-- Two tables for the same requests, with related handlers. -/
def RouteTable.Alike (R : Handler → Handler → Prop) (t t' : RouteTable) : Prop :=
  List.Forall₂ (Route.Alike R) t.routes t'.routes

/-- The passes over two such tables stand at the same place. -/
structure Scan.Alike (R : Handler → Handler → Prop) (s s' : Scan) : Prop where
  allowed : s.allowed = s'.allowed
  best : Option.Rel (fun hit hit' : Hit => Route.Alike R hit.1 hit'.1 ∧ hit.2 = hit'.2) s.best s'.best

theorem Scan.Alike.visit (method : Method) (path : String) {s s' : Scan} (h : Scan.Alike R s s') {r r' : Route}
    (hr : Route.Alike R r r') : Scan.Alike R (s.visit method path r) (s'.visit method path r') := by
  obtain ⟨best, allowed⟩ := s
  obtain ⟨best', allowed'⟩ := s'
  obtain ⟨hallowed, hbest⟩ := h
  dsimp only at hallowed hbest
  subst hallowed
  unfold Scan.visit
  rw [← hr.pattern, ← hr.method]
  cases r.pattern.match? path with
  | none => exact ⟨rfl, hbest⟩
  | some params =>
    have hbetter : best.all (·.1.pattern.specificity < r.pattern.specificity) =
        best'.all (·.1.pattern.specificity < r.pattern.specificity) := by
      cases hbest with
      | none => rfl
      | some hhit => simp [hhit.1.pattern]
    dsimp only
    rw [← hbetter]
    split
    · split
      · exact ⟨rfl, .some ⟨hr, rfl⟩⟩
      · exact ⟨rfl, hbest⟩
    · split
      · exact ⟨rfl, hbest⟩
      · exact ⟨rfl, hbest⟩

namespace RouteTable.Alike

variable {t t' : RouteTable}

theorem refl (hR : ∀ h, R h h) (t : RouteTable) : Alike R t t :=
  List.forall₂_same.2 fun route _ => ⟨rfl, rfl, hR route.handler⟩

theorem symm (hR : ∀ h h', R h h' → R h' h) (h : Alike R t t') : Alike R t' t := by
  have hflip : List.Forall₂ (flip (Route.Alike R)) t'.routes t.routes := h.flip
  exact hflip.imp fun _ _ hr => ⟨hr.method.symm, hr.pattern.symm, hR _ _ hr.handler⟩

theorem scan (h : Alike R t t') (method : Method) (path : String) :
    Scan.Alike R (t.scan method path) (t'.scan method path) := by
  have hstart : Scan.Alike R {} {} := ⟨rfl, .none⟩
  exact List.rel_foldl (fun _ _ hs _ _ hr => hs.visit method path hr) hstart h

/-- The same answer, up to the handlers of the routes that are found. -/
theorem resolve (h : Alike R t t') (method : Method) (path : String) :
    (∃ error, t.resolve method path = .error error ∧ t'.resolve method path = .error error) ∨
    ∃ route route' params, t.resolve method path = .ok (route, params) ∧
      t'.resolve method path = .ok (route', params) ∧ Route.Alike R route route' := by
  obtain ⟨hallowed, hbest⟩ := h.scan method path
  unfold RouteTable.resolve
  dsimp only
  rw [← hallowed]
  generalize (t.scan method path).best = best at hbest ⊢
  generalize (t'.scan method path).best = best' at hbest ⊢
  cases hbest with
  | none =>
    left
    dsimp only
    split
    · exact ⟨_, rfl, rfl⟩
    · exact ⟨_, rfl, rfl⟩
  | @some hit hit' hhit =>
    right
    obtain ⟨route, params⟩ := hit
    obtain ⟨route', params'⟩ := hit'
    obtain ⟨hroute, rfl⟩ := hhit
    exact ⟨route, route', params, rfl, rfl, hroute⟩

end RouteTable.Alike

end CatalogGateway
