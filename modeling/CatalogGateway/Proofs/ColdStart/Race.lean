import CatalogGateway.Proofs.ColdStart.Calls
import Mathlib.Data.Fintype.BigOperators
import Mathlib.Data.List.FinRange
import Mathlib.Logic.Relation

/-!
# Callers that race for the value

Any number of callers ask a cache for its value at the same time.  One at a time runs the factory, the others wait until
it is through or return the value they find.  Whatever the order of their steps, the callers get what they would get if
they came one after the other (`Race.Explained`), and how many of them fail follows from that (`Race.Outcome`).
-/

namespace CatalogGateway

/-! ### Callers one after the other -/

namespace Cache

variable {α : Type} {factory : Nat → FactoryRun α} {c : Cache α}

theorem value_serve_succ (c : Cache α) (callers : Nat) :
    (c.serve factory (callers + 1)).value =
      ((c.getOrInit (factory c.runs)).value.1 ::
          ((c.getOrInit (factory c.runs)).value.2.serve factory callers).value.1,
        ((c.getOrInit (factory c.runs)).value.2.serve factory callers).value.2) := rfl

/-- The callers that come later are served from the state that the others leave. -/
theorem value_serve_add (c : Cache α) (m n : Nat) :
    (c.serve factory (m + n)).value =
      ((c.serve factory m).value.1 ++ ((c.serve factory m).value.2.serve factory n).value.1,
        ((c.serve factory m).value.2.serve factory n).value.2) := by
  induction m generalizing c with
  | zero =>
    rw [Nat.zero_add]
    rfl
  | succ m ih =>
    rw [Nat.succ_add, value_serve_succ, ih, value_serve_succ]
    rfl

theorem value_serve_of_some {made : Made α} (h : c.cell = some made) (callers : Nat) :
    (c.serve factory callers).value = (List.replicate callers (.ready made), c) := by
  induction callers with
  | zero => rfl
  | succ n ih =>
    rw [value_serve_succ, getOrInit_of_some h, Logged.value_pure, ih]
    rfl

/-- What the first runs of the factory come to, from the state of a cache on. -/
def outcomes (c : Cache α) (factory : Nat → FactoryRun α) (n : Nat) : List (Built (Made α)) :=
  (List.range n).map fun k => (factory (c.runs + k)).value.numbered (c.runs + k)

theorem length_outcomes (n : Nat) : (c.outcomes factory n).length = n := by
  rw [outcomes, List.length_map, List.length_range]

theorem value_serve_of_failing (h : c.cell = none) {n : Nat}
    (hfail : ∀ k < n, (factory (c.runs + k)).value.isReady = false) :
    (c.serve factory n).value = (c.outcomes factory n, ⟨none, c.runs + n⟩) := by
  induction n with
  | zero =>
    obtain ⟨cell, runs⟩ := c
    cases h
    rfl
  | succ n ih =>
    have hbefore := ih fun k hk => hfail k (Nat.lt_succ_of_lt hk)
    have hlast := value_getOrInit_of_none (c := ⟨none, c.runs + n⟩) rfl (factory (c.runs + n))
    rw [value_serve_add, hbefore, value_serve_succ, getOrInit_keeps_empty rfl (hfail n (Nat.lt_succ_self n)), hlast.1]
    simp only [outcomes, List.range_succ, List.map_append]
    rfl

/-- As many callers as there are failing runs get one of them each, and one more makes the value that is left to the
others. -/
theorem value_serve_of_none (h : c.cell = none) {f : Nat} {value : α}
    (hfail : ∀ k < f, (factory (c.runs + k)).value.isReady = false)
    (hready : (factory (c.runs + f)).value = .ready value) (n : Nat) :
    (c.serve factory n).value.1 =
        c.outcomes factory (min n f) ++ List.replicate (n - f) (.ready ⟨value, c.runs + f⟩) ∧
      (c.serve factory n).value.2.runs = c.runs + min n f + if f < n then 1 else 0 := by
  -- with more callers than failing runs, one of them makes the value; otherwise all of them fail
  rcases Nat.lt_or_ge f n with hlt | hle
  · obtain ⟨m, rfl⟩ := Nat.exists_eq_add_of_lt hlt
    have hvalue : (c.serve factory (f + (m + 1))).value =
        (c.outcomes factory f ++ List.replicate (m + 1) (.ready ⟨value, c.runs + f⟩),
          ⟨some ⟨value, c.runs + f⟩, c.runs + f + 1⟩) := by
      rw [value_serve_add, value_serve_of_failing h hfail, value_serve_succ, value_getOrInit_of_ready rfl hready,
        value_serve_of_some rfl]
      rfl
    have hmin : min (f + m + 1) f = f := by omega
    have hsub : f + m + 1 - f = m + 1 := by omega
    rw [hmin, hsub, if_pos hlt, Nat.add_assoc f m 1, hvalue]
    exact ⟨rfl, rfl⟩
  · have hmin : min n f = n := by omega
    have hsub : n - f = 0 := by omega
    rw [value_serve_of_failing h fun k hk => hfail k (by omega), hmin, hsub, if_neg (by omega)]
    simp

end Cache

/-! ### Races -/

/-- Callers that ask a cache at the same time: which of them runs the factory, and what they have got so far. -/
structure Race (α : Type) (callers : Nat) where
  cache : Cache α
  guard : Option (Fin callers) := none
  result : Fin callers → Option (Built (Made α)) := fun _ => none

namespace Race

variable {α : Type} {N : Nat} {factory : Nat → FactoryRun α} {c : Cache α} {r r' : Race α N}

/-- The caller is done: it has asked the cache. -/
def finish (r : Race α N) (factory : Nat → FactoryRun α) (i : Fin N) : Race α N where
  cache := (r.cache.getOrInit (factory r.cache.runs)).value.2
  result := Function.update r.result i (some (r.cache.getOrInit (factory r.cache.runs)).value.1)

inductive Step (factory : Nat → FactoryRun α) : Race α N → Race α N → Prop where
  /-- A caller that finds a value has no need of the guard. -/
  | observe {r : Race α N} {i : Fin N} {made : Made α} (hwaiting : r.result i = none) (hfree : r.guard = none)
    (hcell : r.cache.cell = some made) : Step factory r (r.finish factory i)
  /-- A caller that finds nothing takes the guard if it is free. -/
  | enter {r : Race α N} {i : Fin N} (hwaiting : r.result i = none) (hfree : r.guard = none)
    (hcell : r.cache.cell = none) : Step factory r { r with guard := some i }
  /-- The factory is through, and the guard is free again. -/
  | leave {r : Race α N} {i : Fin N} (hguard : r.guard = some i) : Step factory r (r.finish factory i)

def Reachable (factory : Nat → FactoryRun α) (c : Cache α) (r : Race α N) : Prop :=
  Relation.ReflTransGen (Step factory) { cache := c } r

/-- The callers that are done got what they would have got one after the other, in this order. -/
structure Explained (factory : Nat → FactoryRun α) (c : Cache α) (r : Race α N) (order : List (Fin N)) : Prop where
  nodup : order.Nodup
  mem_iff : ∀ i, i ∈ order ↔ (r.result i).isSome
  results : order.map r.result = (c.serve factory order.length).value.1.map some
  cache : r.cache = (c.serve factory order.length).value.2
  /-- Who runs the factory is not done, and there is no value yet. -/
  guarded : ∀ i, r.guard = some i → r.result i = none ∧ r.cache.cell = none

theorem explained_new : Explained factory c ({ cache := c } : Race α N) [] where
  nodup := List.nodup_nil
  mem_iff := by simp
  results := rfl
  cache := rfl
  guarded := nofun

variable {order : List (Fin N)}

theorem Explained.finish (h : r.Explained factory c order) {i : Fin N} (hi : r.result i = none) :
    (r.finish factory i).Explained factory c (order ++ [i]) := by
  have hnew : i ∉ order := by
    rw [h.mem_iff, hi]
    simp
  have hothers : order.map (r.finish factory i).result = order.map r.result := by
    refine List.map_congr_left fun j hj => ?_
    have hne : j ≠ i := fun heq => hnew (heq ▸ hj)
    exact Function.update_of_ne hne _ _
  have hserve : (c.serve factory (order.length + 1)).value =
      ((c.serve factory order.length).value.1 ++ [(r.cache.getOrInit (factory r.cache.runs)).value.1],
        (r.cache.getOrInit (factory r.cache.runs)).value.2) := by
    rw [Cache.value_serve_add, ← h.cache]
    rfl
  constructor
  case nodup => exact h.nodup.append (List.nodup_singleton i) (by simpa using hnew)
  case mem_iff =>
    intro j
    rw [List.mem_append, List.mem_singleton, h.mem_iff]
    by_cases hj : j = i
    · simp [Race.finish, hj]
    · simp [Race.finish, hj]
  case results =>
    rw [List.length_append, List.length_singleton, hserve, List.map_append, hothers, h.results]
    simp [Race.finish]
  case cache =>
    rw [List.length_append, List.length_singleton, hserve]
    rfl
  case guarded => nofun

/-- Each step is explained by the same order, or by one with one more caller at the end. -/
theorem Explained.step (h : r.Explained factory c order) (hstep : Step factory r r') :
    ∃ order', r'.Explained factory c order' := by
  cases hstep with
  | observe hwaiting hfree hcell => exact ⟨_, h.finish hwaiting⟩
  | enter hwaiting hfree hcell =>
    refine ⟨order, h.nodup, h.mem_iff, h.results, h.cache, ?_⟩
    rintro j ⟨⟩
    exact ⟨hwaiting, hcell⟩
  | leave hguard => exact ⟨_, h.finish (h.guarded _ hguard).1⟩

theorem Reachable.explained (h : Reachable factory c r) : ∃ order, r.Explained factory c order := by
  -- along the steps of the race; the order grows when a caller is done, not when it takes the guard
  induction h with
  | refl => exact ⟨[], explained_new⟩
  | tail _ hstep ih =>
    obtain ⟨order, horder⟩ := ih
    exact horder.step hstep

/-! ### Every race ends -/

def waiting (r : Race α N) : Finset (Fin N) := Finset.univ.filter fun i => r.result i = none

/-- A bound for the steps that are left: two for each caller that waits, less the one that the caller with the guard
has taken. -/
def stepsLeft (r : Race α N) : Nat := 2 * r.waiting.card - r.guard.toList.length

theorem mem_waiting {i : Fin N} : i ∈ r.waiting ↔ r.result i = none := by simp [waiting]

theorem waiting_finish (i : Fin N) : (r.finish factory i).waiting = r.waiting.erase i := by
  ext j
  rw [Finset.mem_erase, mem_waiting, mem_waiting]
  by_cases hj : j = i
  · simp [Race.finish, hj]
  · simp [Race.finish, hj]

theorem stepsLeft_finish (factory : Nat → FactoryRun α) {i : Fin N} (hi : r.result i = none) :
    (r.finish factory i).stepsLeft + 2 = 2 * r.waiting.card := by
  have hcard := Finset.card_erase_add_one (mem_waiting.2 hi)
  have hguard : (r.finish factory i).guard.toList.length = 0 := rfl
  unfold stepsLeft
  rw [waiting_finish, hguard]
  omega

theorem Explained.stepsLeft_lt (h : r.Explained factory c order) (hstep : Step factory r r') :
    r'.stepsLeft < r.stepsLeft := by
  have hguard : r.guard.toList.length ≤ 1 := by cases r.guard <;> simp
  cases hstep with
  | observe hwaiting hfree hcell =>
    have hleft := stepsLeft_finish factory hwaiting
    unfold stepsLeft at hleft ⊢
    omega
  | @enter i hwaiting hfree hcell =>
    have hpos := Finset.card_pos.2 ⟨i, mem_waiting.2 hwaiting⟩
    have hsame : ({ r with guard := some i } : Race α N).waiting = r.waiting := rfl
    unfold stepsLeft
    rw [hsame, hfree]
    simp only [Option.toList_some, Option.toList_none, List.length_cons, List.length_nil]
    omega
  | leave hguarded =>
    have hleft := stepsLeft_finish factory (h.guarded _ hguarded).1
    unfold stepsLeft at hleft ⊢
    omega

/-- As long as a caller waits, there is a step to take. -/
theorem exists_step {i : Fin N} (hi : r.result i = none) : ∃ r', Step factory r r' := by
  cases hguard : r.guard with
  | some j => exact ⟨_, .leave hguard⟩
  | none =>
    cases hcell : r.cache.cell with
    | some made => exact ⟨_, .observe hi hguard hcell⟩
    | none => exact ⟨_, .enter hi hguard hcell⟩

/-! ### What a race comes to -/

def failures (r : Race α N) : Nat := (List.finRange N).countP fun i => (r.result i).any fun built => !built.isReady

theorem Explained.perm_finRange (h : r.Explained factory c order) (hdone : ∀ i, (r.result i).isSome) :
    order.Perm (List.finRange N) := by
  rw [List.perm_ext_iff_of_nodup h.nodup (List.nodup_finRange N)]
  intro i
  rw [h.mem_iff]
  simp [hdone]

/-- How a race over an empty cache ends, if so many runs of the factory fail before one makes a value. -/
structure Outcome (factory : Nat → FactoryRun α) (c : Cache α) (f : Nat) (made : Made α) (r : Race α N) : Prop where
  made_run : made.run = c.runs + f
  made_value : (factory made.run).value = .ready made.value
  failures_eq : r.failures = min N f
  runs_eq : r.cache.runs = c.runs + min N f + if f < N then 1 else 0
  /-- The failing callers get what the failing runs come to, each of them another one; the others get the same. -/
  told : ∃ order : List (Fin N), order.Perm (List.finRange N) ∧
    order.map r.result = (c.outcomes factory (min N f) ++ List.replicate (N - f) (Built.ready made)).map some
  agreed : ∀ i built, r.result i = some built → built.isReady = true → built = .ready made

theorem countP_outcomes {n : Nat} (hfail : ∀ k < n, (factory (c.runs + k)).value.isReady = false) :
    (c.outcomes factory n).countP (fun built => !built.isReady) = n := by
  have hall : ∀ built ∈ c.outcomes factory n, (!built.isReady) = true := by
    intro built hbuilt
    obtain ⟨k, hk, rfl⟩ := List.mem_map.1 hbuilt
    rw [Built.isReady_numbered, hfail k (List.mem_range.1 hk)]
    rfl
  rw [List.countP_eq_length.2 hall, Cache.length_outcomes]

theorem Explained.outcome (h : r.Explained factory c order) (hdone : ∀ i, (r.result i).isSome)
    (hcell : c.cell = none) {f : Nat} {value : α} (hfail : ∀ k < f, (factory (c.runs + k)).value.isReady = false)
    (hready : (factory (c.runs + f)).value = .ready value) : r.Outcome factory c f ⟨value, c.runs + f⟩ := by
  have hperm := h.perm_finRange hdone
  have hlength : order.length = N := by rw [hperm.length_eq, List.length_finRange]
  have hresults := h.results
  have hcache := h.cache
  rw [hlength] at hresults hcache
  obtain ⟨hserved, hruns⟩ := Cache.value_serve_of_none hcell hfail hready N
  rw [hserved] at hresults
  constructor
  case made_run => rfl
  case made_value => exact hready
  case failures_eq =>
    have hfirst := countP_outcomes (c := c) (n := min N f) fun k hk => hfail k (by omega)
    have hrest : (List.replicate (N - f) (Built.ready (⟨value, c.runs + f⟩ : Made α))).countP
        (fun built => !built.isReady) = 0 := by
      rw [List.countP_replicate]
      rfl
    have hcount : r.failures = (order.map r.result).countP (fun result => result.any fun built => !built.isReady) := by
      rw [failures, ← hperm.countP_eq, List.countP_map]
      rfl
    rw [hcount, hresults, List.countP_map]
    have hsome : ((fun result : Option (Built (Made α)) => result.any fun built => !built.isReady) ∘ some) =
        fun built => !built.isReady := rfl
    rw [hsome, List.countP_append, hfirst, hrest]
    rfl
  case runs_eq => rw [hcache, hruns]
  case told => exact ⟨order, hperm, hresults⟩
  case agreed =>
    intro i built hi hbuilt
    have hmem : some built ∈ order.map r.result := by
      rw [← hi]
      exact List.mem_map_of_mem (hperm.mem_iff.2 (List.mem_finRange i))
    rw [hresults, List.mem_map_of_injective (Option.some_injective _), List.mem_append] at hmem
    rcases hmem with hmem | hmem
    · obtain ⟨k, hk, rfl⟩ := List.mem_map.1 hmem
      have hk := List.mem_range.1 hk
      rw [Built.isReady_numbered, hfail k (by omega)] at hbuilt
      cases hbuilt
    · exact List.eq_of_mem_replicate hmem

theorem Explained.of_filled (h : r.Explained factory c order) {made : Made α} (hcell : c.cell = some made) :
    r.cache = c ∧ ∀ i built, r.result i = some built → built = .ready made := by
  have hresults := h.results
  have hcache := h.cache
  rw [Cache.value_serve_of_some hcell] at hresults hcache
  refine ⟨hcache, ?_⟩
  intro i built hi
  have hmem : some built ∈ order.map r.result := by
    rw [← hi]
    refine List.mem_map_of_mem ((h.mem_iff i).2 ?_)
    rw [hi]
    rfl
  rw [hresults, List.mem_map_of_injective (Option.some_injective _)] at hmem
  exact List.eq_of_mem_replicate hmem

/-- What holds of whatever a race comes to. -/
structure Laws (factory : Nat → FactoryRun α) (c : Cache α) (r : Race α N) : Prop where
  /-- The race goes on until all callers are done, and it does not go on forever. -/
  goes_on : ∀ i, r.result i = none → ∃ r', Step factory r r'
  ends : ∀ r', Step factory r r' → r'.stepsLeft < r.stepsLeft
  /-- On a filled cache no factory is run, and everyone gets the value there is. -/
  filled : ∀ made, c.cell = some made → r.cache = c ∧ ∀ i built, r.result i = some built → built = .ready made
  /-- On an empty cache, as many callers fail as runs do before the first successful one. -/
  empty : c.cell = none → (∀ i, (r.result i).isSome) → ∀ f, (∀ k < f, (factory (c.runs + k)).value.isReady = false) →
    (∀ k ≥ f, (factory (c.runs + k)).value.isReady = true) → ∃ made, r.Outcome factory c f made

theorem Reachable.laws (h : Reachable factory c r) : r.Laws factory c := by
  obtain ⟨order, horder⟩ := h.explained
  constructor
  case goes_on => exact fun i hi => exists_step hi
  case ends => exact fun r' hstep => horder.stepsLeft_lt hstep
  case filled => exact fun made hcell => horder.of_filled hcell
  case empty =>
    intro hcell hdone f hfail hready
    obtain ⟨value, hvalue⟩ := Built.exists_of_isReady (hready f (Nat.le_refl f))
    exact ⟨_, horder.outcome hdone hcell hfail hvalue⟩

end Race

/-- A cache is filled once: by the calls of one caller after another, and by callers that race for it. -/
theorem cache_fills_once (α : Type) :
    (∀ (earlier : List (CacheCall α)) (call : CacheCall α),
      Cache.CallLaws (Cache.factoryRuns {} earlier) (Cache.after {} earlier) call) ∧
    ∀ (N : Nat) (factory : Nat → FactoryRun α) (c : Cache α) (r : Race α N), Race.Reachable factory c r →
      r.Laws factory c := by
  refine ⟨?_, ?_⟩
  · intro earlier call
    exact (Cache.holds_after earlier).callLaws call
  · intro N factory c r hr
    exact hr.laws

namespace Sample

/-- A factory that gives a word when it is run again. -/
def secondTry : Nat → FactoryRun String
  | 0 => ⟨.failed (.ofMessage "no catalog"), []⟩
  | _ => ⟨.ready "catalog", []⟩

/-- The first caller has failed, and the guard is free again. -/
def rescuedRace : Race String 3 := ({ cache := {}, guard := some 0 } : Race String 3).finish secondTry 0

/-- The second caller has made a value, and the third one found it. -/
def wonRace : Race String 3 := (({ rescuedRace with guard := some 1 }).finish secondTry 1).finish secondTry 2

theorem reachable_wonRace : Race.Reachable secondTry {} wonRace := by
  have hfailed : Race.Reachable secondTry {} rescuedRace :=
    (Relation.ReflTransGen.single (.enter rfl rfl rfl)).tail (.leave rfl)
  have hmade : Race.Reachable secondTry {} (({ rescuedRace with guard := some 1 }).finish secondTry 1) :=
    (hfailed.tail (.enter rfl rfl rfl)).tail (.leave rfl)
  exact hmade.tail (.observe rfl rfl rfl)

end Sample

/-- Of three callers the first one fails, and the other two get the same value. -/
theorem cache_fills_once_wonRace :
    Race.Reachable Sample.secondTry {} Sample.wonRace ∧
      Sample.wonRace.Outcome Sample.secondTry {} 1 ⟨"catalog", 1⟩ := by
  have hlaws := (cache_fills_once String).2 3 Sample.secondTry {} Sample.wonRace Sample.reachable_wonRace
  refine ⟨Sample.reachable_wonRace, ?_⟩
  obtain ⟨⟨value, run⟩, houtcome⟩ := hlaws.empty rfl (by decide) 1 (by decide) (fun k hk => by
    obtain ⟨m, rfl⟩ := Nat.exists_eq_add_of_le' hk
    rfl)
  obtain rfl : run = 1 := houtcome.made_run
  obtain rfl : "catalog" = value := Built.ready.inj houtcome.made_value
  exact houtcome

end CatalogGateway
