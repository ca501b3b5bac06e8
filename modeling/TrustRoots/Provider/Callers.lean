import TrustRoots.Provider.Basic

/-! Callers that request a trust store at the same time. Each of them first looks at the cache
under the read lock. One that finds it empty takes the write lock, looks again, loads, and stores
the outcome before it releases the lock. A panic releases the lock with the cache as it was. -/

namespace TrustRoots

/-- Where a caller stands. -/
inductive Phase where
  | arriving
  | waiting
  | holding
  | loading
  | storing (outcome : Outcome)
  | returned (outcome : Outcome)
  | panicked
  deriving DecidableEq

namespace Phase

def settled : Phase → Bool
  | returned _ | panicked => true
  | _ => false

/-- What a caller got that has settled: an outcome, or none if it panicked. -/
def result? : Phase → Option (Option Outcome)
  | returned outcome => some (some outcome)
  | panicked => some none
  | _ => none

end Phase

structure Callers where
  cache : Option Outcome
  loads : Nat
  writer : Option Nat
  phases : List Phase

/-- An atomic step. A finished load has its outcome numbered by the count of loads. -/
inductive Move where
  | arrive
  | look (caller : Nat)
  | lock (caller : Nat)
  | recheck (caller : Nat)
  | finish (caller : Nat) (attempt : Attempt)
  | store (caller : Nat)
  | reset

namespace Callers

def enter (state : Callers) (caller : Nat) (phase : Phase) : Callers :=
  { state with phases := state.phases.set caller phase }

def release (state : Callers) : Callers :=
  { state with writer := none }

/-- The state after a step, or nothing if the step is not possible then. -/
def step? (state : Callers) : Move → Option Callers
  | .arrive => some { state with phases := state.phases ++ [.arriving] }
  | .look caller =>
    match state.phases[caller]?, state.writer, state.cache with
    | some .arriving, none, some outcome => some (state.enter caller (.returned outcome))
    | some .arriving, none, none => some (state.enter caller .waiting)
    | _, _, _ => none
  | .lock caller =>
    match state.phases[caller]?, state.writer with
    | some .waiting, none => some { state.enter caller .holding with writer := some caller }
    | _, _ => none
  | .recheck caller =>
    match state.phases[caller]?, state.cache with
    | some .holding, some outcome => some (state.enter caller (.returned outcome)).release
    | some .holding, none => some { state.enter caller .loading with loads := state.loads + 1 }
    | _, _ => none
  | .finish caller attempt =>
    match state.phases[caller]?, attempt.outcome? state.loads with
    | some .loading, some outcome => some (state.enter caller (.storing outcome))
    | some .loading, none => some (state.enter caller .panicked).release
    | _, _ => none
  | .store caller =>
    match state.phases[caller]? with
    | some (.storing outcome) =>
      some { (state.enter caller (.returned outcome)).release with cache := some outcome }
    | _ => none
  | .reset =>
    match state.writer with
    | none => some { state with cache := none }
    | some _ => none

def tryStep (state : Callers) (move : Move) : Callers :=
  (state.step? move).getD state

/-- Lets a caller take its next step. A load is carried out on the source. -/
def advance [ResourceSource σ] (config : Config) (state : Callers × σ) (caller : Nat) : Callers × σ :=
  let (callers, source) := state
  match callers.phases[caller]? with
  | some .arriving => (callers.tryStep (.look caller), source)
  | some .waiting => (callers.tryStep (.lock caller), source)
  | some .holding => (callers.tryStep (.recheck caller), source)
  | some .loading =>
    let (attempt, source) := (config.attempt source).value
    (callers.tryStep (.finish caller attempt), source)
  | some (.storing _) => (callers.tryStep (.store caller), source)
  | _ => (callers, source)

/-- Lets the callers take turns until all have settled. -/
def runRounds [ResourceSource σ] (config : Config) : Nat → Callers × σ → Callers × σ
  | 0, state => state
  | rounds + 1, state =>
    if state.1.phases.all Phase.settled then state
    else runRounds config rounds ((List.range state.1.phases.length).foldl (advance config) state)

end Callers

namespace Provider

/-- Requests by several callers at once, with what each of them got. A caller takes five steps,
and in every round at least one of those that have not settled takes one. -/
def getTogether [ResourceSource σ] (provider : Provider σ) (callers : Nat) :
    List (Option Outcome) × Provider σ :=
  let start : Callers := {
    cache := provider.cache
    loads := provider.loads
    writer := none
    phases := List.replicate callers .arriving }
  let (ended, source) := Callers.runRounds provider.config (5 * callers) (start, provider.source)
  (ended.phases.filterMap Phase.result?,
    { provider with source, cache := ended.cache, loads := ended.loads })

end Provider

end TrustRoots
