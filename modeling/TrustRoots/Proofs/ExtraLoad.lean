import Mathlib.Logic.Function.Defs
import TrustRoots.Proofs.SessionHistory

/-! Two sessions of which one has made a load more. If nothing is left of that load but its count, the
later loads of this session have other numbers, and that is all that sets the two apart from then on. -/

namespace TrustRoots

/-- The number that a load has if an extra one is counted among the loads. -/
def skipping (extra load : Nat) : Nat :=
  if load < extra then load else load + 1

private theorem skipping_injective (extra : Nat) : Function.Injective (skipping extra) := by
  intro first second same
  unfold skipping at same
  split at same <;> split at same <;> omega

-- The loads before the extra one keep their numbers, and those from it on go up by one.
private theorem skipping_of_le {extra load : Nat} (later : extra ≤ load) : skipping extra load = load + 1 :=
  if_neg (Nat.not_lt_of_le later)

def Handle.renumbered (number : Nat → Nat) (handle : Handle) : Handle :=
  { handle with load := number handle.load }

theorem Handle.renumbered_of_lt {extra : Nat} {handle : Handle} (earlier : handle.load < extra) :
    handle.renumbered (skipping extra) = handle := by
  rw [renumbered, skipping, if_pos earlier]

def Outcome.renumbered (number : Nat → Nat) : Outcome → Outcome
  | loaded handle => .loaded (handle.renumbered number)
  | failed error => .failed error

private theorem Attempt.renumbered_outcome? {number : Nat → Nat} {load : Nat} (attempt : Attempt) :
    (attempt.outcome? load).map (Outcome.renumbered number) = attempt.outcome? (number load) := by
  cases attempt with
  | finished result => cases result <;> rfl
  | panicked => rfl

private theorem Session.see_renumbered {number : Nat → Nat} (injective : Function.Injective number)
    (handles : List Handle) (outcome : Option Outcome) :
    see (handles.map (Handle.renumbered number)) (outcome.map (Outcome.renumbered number)) =
      ((see handles outcome).1, (see handles outcome).2.map (Handle.renumbered number)) := by
  cases outcome with
  | none => rfl
  | some outcome =>
    cases outcome with
    | failed error => rfl
    | loaded handle =>
      have same : (fun known : Handle => decide (known.load = (handle.renumbered number).load)) ∘
          Handle.renumbered number = fun known => decide (known.load = handle.load) :=
        funext fun known => decide_eq_decide.2 injective.eq_iff
      rw [Option.map_some, Outcome.renumbered, see, List.findIdx?_map, same, see]
      cases handles.findIdx? (fun known => known.load = handle.load) with
      | some known => rfl
      | none => rw [List.length_map, List.map_append, List.map_singleton]; rfl

theorem Config.source_attempt [ResourceSource σ] (config : Config) (source : σ) :
    (config.attempt source).value.2 = (ResourceSource.openResource config.resourceName source).2 := by
  rw [attempt]
  rcases ResourceSource.openResource config.resourceName source with ⟨_ | _ | _, after⟩ <;> rfl

theorem Config.attempt_watched [ResourceSource σ] (config : Config) (watched : Watched σ) :
    config.attempt watched = ⟨((config.attempt watched.source).value.1,
      ⟨(config.attempt watched.source).value.2, watched.opened ++ [config.resourceName]⟩),
      (config.attempt watched.source).events⟩ := by
  have opens : ResourceSource.openResource config.resourceName watched =
      ((ResourceSource.openResource config.resourceName watched.source).1,
        ⟨(ResourceSource.openResource config.resourceName watched.source).2,
          watched.opened ++ [config.resourceName]⟩) := rfl
  simp only [attempt, bind, opens]
  cases (ResourceSource.openResource config.resourceName watched.source).1 <;> rfl

namespace Provider

/-- The provider with a load more, of which nothing is left. -/
def ahead (extra : Nat) (provider : Provider (Watched σ)) : Provider (Watched σ) where
  config := provider.config
  source := { provider.source with opened := provider.source.opened ++ [provider.config.resourceName] }
  cache := provider.cache.map (Outcome.renumbered (skipping extra))
  loads := provider.loads + 1

private theorem isLoaded_ahead (extra : Nat) (provider : Provider (Watched σ)) :
    (provider.ahead extra).isLoaded = provider.isLoaded := by
  rw [isLoaded, isLoaded, ahead]
  cases provider.cache with
  | none => rfl
  | some outcome => cases outcome <;> rfl

private theorem reset_ahead (extra : Nat) (provider : Provider (Watched σ)) :
    (provider.ahead extra).reset = ⟨provider.reset.value.ahead extra, provider.reset.events⟩ := by
  obtain ⟨config, source, cache, loads⟩ := provider
  cases cache <;> rfl

variable [ResourceSource σ]

/-- The next load is beyond the extra one, so that its number goes up as well. -/
private theorem loadAnew_ahead {extra : Nat} {provider : Provider (Watched σ)} (counted : extra ≤ provider.loads + 1) :
    (provider.ahead extra).loadAnew =
      ⟨(provider.loadAnew.value.1.map (Outcome.renumbered (skipping extra)), provider.loadAnew.value.2.ahead extra),
        provider.loadAnew.events⟩ := by
  have attempt (watched : Watched σ) := provider.config.attempt_watched watched
  rw [loadAnew, loadAnew]
  simp only [bind, pure, ahead, attempt, Attempt.renumbered_outcome?, skipping_of_le counted]

private theorem get_ahead {extra : Nat} {provider : Provider (Watched σ)} (counted : extra ≤ provider.loads + 1) :
    (provider.ahead extra).get =
      ⟨(provider.get.value.1.map (Outcome.renumbered (skipping extra)), provider.get.value.2.ahead extra),
        provider.get.events⟩ := by
  cases cached : provider.cache with
  | none =>
    have empty : (provider.ahead extra).cache = none := by
      rw [ahead, cached]; rfl
    rw [get_of_empty empty, get_of_empty cached, loadAnew_ahead counted]
  | some outcome =>
    obtain ⟨config, source, cache, loads⟩ := provider
    cases cached
    cases outcome <;> rfl

end Provider

namespace Session

def ahead (extra : Nat) (session : Session σ) : Session σ where
  provider := session.provider.ahead extra
  handles := session.handles.map (Handle.renumbered (skipping extra))

/-- What is seen of a step after an extra load of this resource. -/
def Observation.ahead (resource : String) (observation : Observation ρ) : Observation ρ :=
  { observation with loads := observation.loads + 1, opened := observation.opened ++ [resource] }

variable [ResourceSource σ] {extra : Nat} {session : Session σ} {action : Action σ}

theorem act_ahead (counted : extra ≤ session.provider.loads + 1)
    (alone : ∀ callers, action ≠ .getTogether callers) :
    (session.ahead extra).act action =
      ⟨((session.act action).value.1, (session.act action).value.2.ahead extra),
        (session.act action).events⟩ := by
  cases action with
  | get =>
    have given := Provider.get_ahead counted
    have seen := see_renumbered (skipping_injective extra) session.handles session.provider.get.value.1
    simp only [act, bind, pure, ahead, given, seen]
  | getTogether callers => exact absurd rfl (alone callers)
  | reset =>
    have cleared := Provider.reset_ahead extra session.provider
    simp only [act, bind, pure, ahead, cleared]
  | change update => rfl

theorem observed_ahead (counted : extra ≤ session.provider.loads + 1)
    (alone : ∀ callers, action ≠ .getTogether callers) :
    observed (fun session => session.act action) (session.ahead extra) =
      ((observed (fun session => session.act action) session).1.ahead
        (session.act action).value.2.provider.config.resourceName,
        (session.act action).value.2.ahead extra) := by
  have loaded := Provider.isLoaded_ahead extra (session.act action).value.2.provider
  rw [observed, act_ahead counted alone]
  exact Prod.ext (Observation.ext rfl loaded rfl rfl rfl) rfl

end Session

end TrustRoots
