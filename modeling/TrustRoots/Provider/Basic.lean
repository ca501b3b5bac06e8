import TrustRoots.Config
import TrustRoots.Resource.Source
import TrustRoots.TrustStore.Basic

/-! A provider loads a trust store once and gives the outcome to every later caller. Failures are
kept as well, until a reset. A load that panics leaves nothing behind but its count. -/

namespace TrustRoots

/-- A trust store as callers share it. Handles of different loads are different, even if the
stores are equal. -/
structure Handle where
  load : Nat
  store : TrustStore
  deriving DecidableEq

inductive Outcome where
  | loaded (handle : Handle)
  | failed (error : TrustStoreError)
  deriving DecidableEq

def Outcome.isLoaded : Outcome → Bool
  | loaded _ => true
  | failed _ => false

/-- How a load ends. -/
inductive Attempt where
  | finished (result : Except TrustStoreError TrustStore)
  | panicked

/-- The outcome of a load with the given number, unless it panicked. -/
def Attempt.outcome? (load : Nat) : Attempt → Option Outcome
  | finished (.ok store) => some (.loaded ⟨load, store⟩)
  | finished (.error error) => some (.failed error)
  | panicked => none

namespace Config

def readStore (config : Config) (stream : Stream) : Logged (Except TrustStoreError TrustStore) := do
  match ← KeyStore.ofStream stream config.token with
  | .error cause => return .error (.storeLoad config.resourceName cause)
  | .ok keyStore => TrustStore.ofKeyStore config.resourceName keyStore

def report (config : Config) : Except TrustStoreError TrustStore → Logged Unit
  | .ok store => Logged.record (.loaded config.resourceName store.size)
  | .error error => Logged.record (.failed error)

def finish (config : Config) (result : Except TrustStoreError TrustStore) : Logged Attempt := do
  config.report result
  return .finished result

/-- One load: opens the configured resource and reads it. -/
def attempt [ResourceSource σ] (config : Config) (source : σ) : Logged (Attempt × σ) := do
  Logged.record (.loading config.resourceName)
  let (opening, source) := ResourceSource.openResource config.resourceName source
  match opening with
  | .panicked => return (.panicked, source)
  | .refused reason =>
    return (← config.finish (.error (.resourceUnavailable config.resourceName reason)), source)
  | .stream stream => return (← config.finish (← config.readStore stream), source)

end Config

structure Provider (σ : Type) where
  config : Config
  source : σ
  cache : Option Outcome := none
  loads : Nat := 0

namespace Provider

/-- A load into the empty cache. No outcome is given if it panics. -/
def loadAnew [ResourceSource σ] (provider : Provider σ) : Logged (Option Outcome × Provider σ) := do
  let loads := provider.loads + 1
  let (attempt, source) ← provider.config.attempt provider.source
  let outcome := attempt.outcome? loads
  return (outcome, { provider with source, cache := outcome, loads })

def get [ResourceSource σ] (provider : Provider σ) : Logged (Option Outcome × Provider σ) := do
  match provider.cache with
  | some (.loaded handle) => return (some (.loaded handle), provider)
  | some (.failed error) =>
    Logged.record (.replayed error)
    return (some (.failed error), provider)
  | none => provider.loadAnew

/-- Drops the outcome, so that the next request loads again. -/
def reset (provider : Provider σ) : Logged (Provider σ) := do
  if provider.cache.isSome then
    Logged.record (.cleared provider.config.resourceName)
  return { provider with cache := none }

/-- Whether a trust store is held. A held failure does not count. -/
def isLoaded (provider : Provider σ) : Bool :=
  provider.cache.any Outcome.isLoaded

end Provider

end TrustRoots
