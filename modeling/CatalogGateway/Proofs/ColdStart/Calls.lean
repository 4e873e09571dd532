import CatalogGateway.Proofs.Entrypoint.Invocation

/-!
# The calls of a cache

A cache runs factories until one gives a value, and keeps that value.  The state after any sequence of calls is told by
the factory runs that took place in it (`Cache.Holds`): each call keeps this (`Cache.Holds.call`), and what a call shows
follows from it (`Cache.Holds.callLaws`).
-/

namespace CatalogGateway

section

variable {α : Type}

def Built.isReady : Built α → Bool
  | .ready _ => true
  | .failed _ | .crashed _ => false

/-- What a factory run comes to for its caller, which gets the number of the run with the value. -/
def Built.numbered (run : Nat) : Built α → Built (Made α)
  | .ready value => .ready ⟨value, run⟩
  | .failed error => .failed error
  | .crashed message => .crashed message

@[simp] theorem Built.isReady_numbered (b : Built α) (run : Nat) : (b.numbered run).isReady = b.isReady := by
  cases b <;> rfl

theorem Built.exists_of_isReady {b : Built α} (h : b.isReady = true) : ∃ value, b = .ready value := by
  cases b with
  | ready value => exact ⟨value, rfl⟩
  | failed error => cases h
  | crashed message => cases h

end

inductive CacheCall (α : Type) where
  | getOrInit (factory : FactoryRun α)
  | get
  | isInitialized

inductive CacheReply (α : Type) where
  | built (result : Built (Made α))
  | found (value : Option α)
  | initialized (answer : Bool)

namespace Cache

variable {α : Type}

def call (c : Cache α) : CacheCall α → CacheReply α × Cache α
  | .getOrInit factory => (.built (c.getOrInit factory).value.1, (c.getOrInit factory).value.2)
  | .get => (.found c.get?, c)
  | .isInitialized => (.initialized c.isInitialized, c)

def after (c : Cache α) (calls : List (CacheCall α)) : Cache α := calls.foldl (fun c call => (c.call call).2) c

/-- The factory that a call runs, if it runs one: if it counts as a run. -/
def ran? (c : Cache α) : CacheCall α → Option (FactoryRun α)
  | .getOrInit factory => if (c.getOrInit factory).value.2.runs = c.runs then none else some factory
  | .get | .isInitialized => none

/-- The factory runs that a sequence of calls makes. -/
def factoryRuns (c : Cache α) : List (CacheCall α) → List (FactoryRun α)
  | [] => []
  | call :: rest => (c.ran? call).toList ++ (c.call call).2.factoryRuns rest

/-! ### Empty and filled caches -/

variable {c : Cache α}

theorem value_getOrInit_of_none (h : c.cell = none) (factory : FactoryRun α) :
    (c.getOrInit factory).value.1 = factory.value.numbered c.runs ∧
      (c.getOrInit factory).value.2.runs = c.runs + 1 := by
  cases hf : factory.value with
  | ready value =>
    rw [value_getOrInit_of_ready h hf]
    exact ⟨rfl, rfl⟩
  | failed error =>
    rw [value_getOrInit_of_failed h hf]
    exact ⟨rfl, rfl⟩
  | crashed message =>
    rw [value_getOrInit_of_crashed h hf]
    exact ⟨rfl, rfl⟩

/-- A run without a value leaves an empty cache, in which only the run is counted. -/
theorem getOrInit_keeps_empty (h : c.cell = none) {factory : FactoryRun α} (hf : factory.value.isReady = false) :
    (c.getOrInit factory).value.2 = ⟨none, c.runs + 1⟩ := by
  cases hv : factory.value with
  | ready value =>
    rw [hv] at hf
    cases hf
  | failed error => rw [value_getOrInit_of_failed h hv]
  | crashed message => rw [value_getOrInit_of_crashed h hv]

/-- What a run records comes after the start of it. -/
theorem log_getOrInit_of_none (h : c.cell = none) (factory : FactoryRun α) :
    ∃ rest, (c.getOrInit factory).log = .initStarted :: factory.log.map .app ++ rest := by
  cases hf : factory.value with
  | ready value => exact ⟨[.initSucceeded], by simp [getOrInit, h, hf]⟩
  | failed error => exact ⟨[.initFailed error.message], by simp [getOrInit, h, hf]⟩
  | crashed message => exact ⟨[], by simp [getOrInit, h, hf]⟩

theorem ran?_of_none (h : c.cell = none) (factory : FactoryRun α) : c.ran? (.getOrInit factory) = some factory := by
  have hruns := (value_getOrInit_of_none h factory).2
  have hne : (c.getOrInit factory).value.2.runs ≠ c.runs := by omega
  exact if_neg hne

theorem ran?_of_some {made : Made α} (h : c.cell = some made) (call : CacheCall α) : c.ran? call = none := by
  cases call with
  | getOrInit factory =>
    have hsame : (c.getOrInit factory).value.2.runs = c.runs := by rw [getOrInit_of_some h]; rfl
    exact if_pos hsame
  | get => rfl
  | isInitialized => rfl

theorem call_of_some {made : Made α} (h : c.cell = some made) (call : CacheCall α) : (c.call call).2 = c := by
  cases call with
  | getOrInit factory =>
    simp only [Cache.call, getOrInit_of_some h, Logged.value_pure]
  | get => rfl
  | isInitialized => rfl

/-- Nothing changes a filled cache. -/
theorem after_of_some {made : Made α} (h : c.cell = some made) (calls : List (CacheCall α)) : c.after calls = c := by
  induction calls with
  | nil => rfl
  | cons call rest ih =>
    unfold after at ih ⊢
    rw [List.foldl_cons, call_of_some h, ih]

/-! ### The invariant -/

/-- The state of a cache after some factory runs: none of them gave a value, or the last one did. -/
inductive Holds : List (FactoryRun α) → Cache α → Prop where
  | empty {runs : List (FactoryRun α)} (hruns : ∀ run ∈ runs, run.value.isReady = false) :
    Holds runs ⟨none, runs.length⟩
  | filled {failed : List (FactoryRun α)} {last : FactoryRun α} {value : α}
    (hfailed : ∀ run ∈ failed, run.value.isReady = false) (hlast : last.value = .ready value) :
    Holds (failed ++ [last]) ⟨some ⟨value, failed.length⟩, failed.length + 1⟩

variable {runs : List (FactoryRun α)}

theorem Holds.getOrInit_empty (hruns : ∀ run ∈ runs, run.value.isReady = false) (factory : FactoryRun α) :
    Holds (runs ++ [factory]) ((⟨none, runs.length⟩ : Cache α).getOrInit factory).value.2 := by
  cases hready : factory.value.isReady with
  | true =>
    obtain ⟨value, hvalue⟩ := Built.exists_of_isReady hready
    rw [value_getOrInit_of_ready rfl hvalue]
    exact .filled hruns hvalue
  | false =>
    have hall : ∀ run ∈ runs ++ [factory], run.value.isReady = false := by
      intro run hrun
      rcases List.mem_append.1 hrun with hrun | hrun
      · exact hruns run hrun
      · rw [List.mem_singleton.1 hrun]
        exact hready
    have hholds := Holds.empty hall
    rw [List.length_append] at hholds
    rw [getOrInit_keeps_empty rfl hready]
    exact hholds

theorem Holds.call (h : Holds runs c) (call : CacheCall α) :
    Holds (runs ++ (c.ran? call).toList) (c.call call).2 := by
  cases h with
  | filled hfailed hlast =>
    rw [ran?_of_some rfl, call_of_some rfl, Option.toList_none, List.append_nil]
    exact .filled hfailed hlast
  | empty hruns =>
    cases call with
    | getOrInit factory =>
      rw [ran?_of_none rfl]
      exact .getOrInit_empty hruns factory
    | get => simpa [Cache.ran?, Cache.call] using Holds.empty hruns
    | isInitialized => simpa [Cache.ran?, Cache.call] using Holds.empty hruns

theorem Holds.after (h : Holds runs c) (calls : List (CacheCall α)) :
    Holds (runs ++ c.factoryRuns calls) (c.after calls) := by
  -- the runs of the first call join those before it, so the rest starts from a state that is told by more runs
  induction calls generalizing runs c with
  | nil => simpa [factoryRuns, Cache.after] using h
  | cons call rest ih =>
    have hrest := ih (h.call call)
    rw [List.append_assoc] at hrest
    exact hrest

theorem holds_after (calls : List (CacheCall α)) :
    Holds (factoryRuns {} calls) (Cache.after {} calls) := by
  have hnew : Holds [] ({} : Cache α) := .empty (by simp)
  exact hnew.after calls

/-! ### The laws of a call -/

/-- The first of the runs to give a value, and the value as the cache keeps it. -/
def FirstReady (runs : List (FactoryRun α)) (made : Made α) : Prop :=
  ∃ failed last rest, runs = failed ++ last :: rest ∧ (∀ run ∈ failed, run.value.isReady = false) ∧
    last.value = .ready made.value ∧ made.run = failed.length

/-- What holds of a call, made after the given factory runs. -/
structure CallLaws (runs : List (FactoryRun α)) (c : Cache α) (call : CacheCall α) : Prop where
  /-- The factory of a call is run if and only if no run gave a value. -/
  ran_iff : ∀ factory, call = .getOrInit factory →
    (c.ran? call = some factory ↔ ∀ run ∈ runs, run.value.isReady = false)
  /-- The caller gets what the run of its factory comes to. -/
  ran : ∀ factory, call = .getOrInit factory → c.ran? call = some factory →
    (c.call call).1 = .built (factory.value.numbered runs.length) ∧ (c.call call).2.runs = c.runs + 1 ∧
      ∃ rest, (c.getOrInit factory).log = .initStarted :: factory.log.map .app ++ rest
  /-- A factory that is not run has no part in anything. -/
  spared : ∀ factory, call = .getOrInit factory → c.ran? call = none →
    (c.getOrInit factory).log = [] ∧ ∀ other, c.getOrInit other = c.getOrInit factory
  /-- A call that succeeds gives what the first successful run made. -/
  succeeded : ∀ made, (c.call call).1 = .built (.ready made) → FirstReady (runs ++ (c.ran? call).toList) made
  /-- A call that fails or crashes does so with the run of its own factory, and leaves nothing behind. -/
  unsuccessful : ∀ result, (c.call call).1 = .built result → result.isReady = false →
    (∃ factory, c.ran? call = some factory ∧ result = factory.value.numbered runs.length) ∧
      (c.call call).2.get? = none ∧ (c.call call).2.isInitialized = false
  /-- What the first successful run made is what every later call gives, and nothing changes it. -/
  kept : ∀ made, FirstReady runs made → c.cell = some made ∧ (∀ later, (c.call call).2.after later = c) ∧
    (∀ factory, call = .getOrInit factory → (c.call call).1 = .built (.ready made)) ∧
    (call = .get → (c.call call).1 = .found (some made.value)) ∧
    (call = .isInitialized → (c.call call).1 = .initialized true)
  /-- There is nothing to be had before. -/
  missing : (∀ run ∈ runs, run.value.isReady = false) →
    (call = .get → (c.call call).1 = .found none) ∧ (call = .isInitialized → (c.call call).1 = .initialized false)

theorem FirstReady.not_all {made : Made α} (h : FirstReady runs made) :
    ¬ ∀ run ∈ runs, run.value.isReady = false := by
  obtain ⟨failed, last, rest, rfl, -, hlast, -⟩ := h
  intro hall
  have hfalse := hall last (by simp)
  rw [hlast] at hfalse
  cases hfalse

/-- The runs before the first successful one, and so the run itself, are determined. -/
theorem FirstReady.eq_of_last {failed : List (FactoryRun α)} {last : FactoryRun α} {value : α} {made : Made α}
    (h : FirstReady (failed ++ [last]) made) (hfailed : ∀ run ∈ failed, run.value.isReady = false)
    (hlast : last.value = .ready value) : made = ⟨value, failed.length⟩ := by
  obtain ⟨before, first, rest, heq, hbefore, hfirst, hrun⟩ := h
  rcases List.eq_nil_or_concat rest with rfl | ⟨init, final, rfl⟩
  · obtain ⟨rfl, hsingle⟩ := List.append_inj' heq rfl
    obtain rfl := List.singleton_inj.1 hsingle
    rw [hlast, Built.ready.injEq] at hfirst
    rw [hfirst, ← hrun]
  · -- the successful run would be one of the failed ones
    have hsplit : failed ++ [last] = (before ++ first :: init) ++ [final] := by simpa using heq
    have hmem : first ∈ failed := by
      rw [(List.append_inj' hsplit rfl).1]
      simp
    have hfalse := hfailed first hmem
    rw [hfirst] at hfalse
    cases hfalse

private theorem callLaws_empty (hruns : ∀ run ∈ runs, run.value.isReady = false) (call : CacheCall α) :
    CallLaws runs ⟨none, runs.length⟩ call := by
  have hran : ∀ factory, (⟨none, runs.length⟩ : Cache α).ran? (.getOrInit factory) = some factory := ran?_of_none rfl
  have hbuilt := fun factory : FactoryRun α => value_getOrInit_of_none (c := ⟨none, runs.length⟩) rfl factory
  constructor
  case ran_iff =>
    rintro factory rfl
    exact ⟨fun _ => hruns, fun _ => hran factory⟩
  case ran =>
    rintro factory rfl -
    obtain ⟨hresult, hcount⟩ := hbuilt factory
    exact ⟨congrArg CacheReply.built hresult, hcount, log_getOrInit_of_none rfl factory⟩
  case spared =>
    rintro factory rfl hnone
    rw [hran] at hnone
    cases hnone
  case succeeded =>
    intro made hmade
    cases call with
    | getOrInit factory =>
      have hresult : factory.value.numbered runs.length = .ready made :=
        (hbuilt factory).1.symm.trans (CacheReply.built.inj hmade)
      cases hf : factory.value with
      | ready value =>
        rw [hf] at hresult
        cases hresult
        rw [hran]
        exact ⟨runs, factory, [], rfl, hruns, hf, rfl⟩
      | failed error =>
        rw [hf] at hresult
        cases hresult
      | crashed message =>
        rw [hf] at hresult
        cases hresult
    | get => cases hmade
    | isInitialized => cases hmade
  case unsuccessful =>
    intro result hresult hready
    cases call with
    | getOrInit factory =>
      have hnumbered := (hbuilt factory).1.symm.trans (CacheReply.built.inj hresult)
      have hf : factory.value.isReady = false := by rw [← hready, ← hnumbered, Built.isReady_numbered]
      have hcache : ((⟨none, runs.length⟩ : Cache α).call (.getOrInit factory)).2 = ⟨none, runs.length + 1⟩ :=
        getOrInit_keeps_empty rfl hf
      rw [hcache]
      exact ⟨⟨factory, hran factory, hnumbered.symm⟩, rfl, rfl⟩
    | get => cases hresult
    | isInitialized => cases hresult
  case kept =>
    intro made hfirst
    exact absurd hruns hfirst.not_all
  case missing =>
    intro _
    refine ⟨?_, ?_⟩ <;> rintro rfl <;> rfl

private theorem callLaws_filled {failed : List (FactoryRun α)} {last : FactoryRun α} {value : α}
    (hfailed : ∀ run ∈ failed, run.value.isReady = false) (hlast : last.value = .ready value) (call : CacheCall α) :
    CallLaws (failed ++ [last]) ⟨some ⟨value, failed.length⟩, failed.length + 1⟩ call := by
  have hfirst : FirstReady (failed ++ [last]) ⟨value, failed.length⟩ := ⟨failed, last, [], rfl, hfailed, hlast, rfl⟩
  have hran := ran?_of_some (c := ⟨some ⟨value, failed.length⟩, failed.length + 1⟩) rfl call
  constructor
  case ran_iff =>
    rintro factory rfl
    rw [hran]
    exact ⟨nofun, fun hall => absurd hall hfirst.not_all⟩
  case ran =>
    rintro factory rfl hsome
    rw [hran] at hsome
    cases hsome
  case spared =>
    rintro factory rfl -
    rw [getOrInit_of_some rfl]
    exact ⟨rfl, fun other => getOrInit_of_some rfl⟩
  case succeeded =>
    intro made hmade
    rw [hran, Option.toList_none, List.append_nil]
    cases call with
    | getOrInit factory =>
      cases hmade
      exact hfirst
    | get => cases hmade
    | isInitialized => cases hmade
  case unsuccessful =>
    intro result hresult hready
    cases call with
    | getOrInit factory =>
      cases hresult
      cases hready
    | get => cases hresult
    | isInitialized => cases hresult
  case kept =>
    intro made hmade
    obtain rfl := hmade.eq_of_last hfailed hlast
    refine ⟨rfl, ?_, ?_, ?_, ?_⟩
    · intro later
      rw [call_of_some rfl, after_of_some rfl]
    · rintro factory rfl
      rfl
    · rintro rfl
      rfl
    · rintro rfl
      rfl
  case missing =>
    intro hall
    exact absurd hall hfirst.not_all

theorem Holds.callLaws (h : Holds runs c) (call : CacheCall α) : CallLaws runs c call := by
  cases h with
  | empty hruns => exact callLaws_empty hruns call
  | filled hfailed hlast => exact callLaws_filled hfailed hlast call

end Cache

end CatalogGateway
