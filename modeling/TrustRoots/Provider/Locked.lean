import TrustRoots.Provider.Basic

/-! The provider with the lock that guards its cache. A load takes place under the lock, and one that
panics leaves the lock poisoned. Whoever takes a poisoned lock is told so and goes on with the value. -/

namespace TrustRoots

structure Lock (α : Type) where
  value : α
  poisoned : Bool := false

namespace Lock

/-- The value, as an error if the lock is poisoned. -/
def acquire (lock : Lock α) : Except α α :=
  if lock.poisoned then .error lock.value else .ok lock.value

/-- The value behind the lock, poisoned or not. -/
def enter (lock : Lock α) : α :=
  match lock.acquire with
  | .ok value => value
  | .error value => value

end Lock

structure LockedProvider (σ : Type) where
  config : Config
  source : σ
  cache : Lock (Option Outcome) := ⟨none, false⟩
  loads : Nat := 0

namespace LockedProvider

/-- A load by the caller that holds the lock. The outcome is put behind the lock once there is one. -/
def loadHolding [ResourceSource σ] (provider : LockedProvider σ) :
    Logged (Option Outcome × LockedProvider σ) := do
  let loads := provider.loads + 1
  let (attempt, source) ← provider.config.attempt provider.source
  match attempt.outcome? loads with
  | none => return (none, { provider with source, loads, cache := { provider.cache with poisoned := true } })
  | some outcome =>
    return (some outcome, { provider with source, loads, cache := { provider.cache with value := some outcome } })

/-- The trust store, loaded on the first call. A caller that finds no outcome takes the lock for
writing and looks again. -/
def get [ResourceSource σ] (provider : LockedProvider σ) : Logged (Option Outcome × LockedProvider σ) := do
  match provider.cache.enter with
  | some (.loaded handle) => return (some (.loaded handle), provider)
  | some (.failed error) =>
    Logged.record (.replayed error)
    return (some (.failed error), provider)
  | none =>
    match provider.cache.enter with
    | some outcome => return (some outcome, provider)
    | none => provider.loadHolding

def reset (provider : LockedProvider σ) : Logged (LockedProvider σ) := do
  if provider.cache.enter.isSome then
    Logged.record (.cleared provider.config.resourceName)
  return { provider with cache := { provider.cache with value := none } }

def isLoaded (provider : LockedProvider σ) : Bool :=
  provider.cache.enter.any Outcome.isLoaded

def unlocked (provider : LockedProvider σ) : Provider σ where
  config := provider.config
  source := provider.source
  cache := provider.cache.value
  loads := provider.loads

end LockedProvider

end TrustRoots
