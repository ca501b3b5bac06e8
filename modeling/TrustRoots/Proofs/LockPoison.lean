import TrustRoots.Provider.Locked
import TrustRoots.Proofs.VerifiedHandles

/-! The lock of a provider makes no difference. It is poisoned as soon as a load has panicked, and what
is requested, reset or asked for then is the same as without any lock. -/

namespace TrustRoots

private theorem Lock.enter_eq (lock : Lock α) : lock.enter = lock.value := by
  unfold Lock.enter Lock.acquire
  cases lock.poisoned <;> rfl

namespace LockedProvider

theorem isLoaded_unlocked (provider : LockedProvider σ) : provider.unlocked.isLoaded = provider.isLoaded := by
  rw [isLoaded, Lock.enter_eq]
  rfl

theorem reset_value (provider : LockedProvider σ) :
    provider.reset.value = { provider with cache := { provider.cache with value := none } } := by
  rw [reset]
  split <;> rfl

theorem reset_unlocked (provider : LockedProvider σ) :
    provider.unlocked.reset = ⟨provider.reset.value.unlocked, provider.reset.events⟩ := by
  rw [Provider.reset, reset, Lock.enter_eq]
  change (if provider.cache.value.isSome then _ else _ : Logged (Provider σ)) = _
  split <;> rfl

variable [ResourceSource σ]

theorem get_of_cached {provider : LockedProvider σ} {outcome : Outcome}
    (cached : provider.cache.value = some outcome) :
    provider.get.value = (some outcome, provider) := by
  rw [get, Lock.enter_eq, cached]
  cases outcome <;> rfl

theorem get_of_empty {provider : LockedProvider σ} (empty : provider.cache.value = none) :
    provider.get = provider.loadHolding := by
  rw [get, Lock.enter_eq, empty]

/-- What a load leaves behind the lock: its outcome or, if it panics, what was there. -/
def afterTrial (cache : Lock (Option Outcome)) : Option Outcome → Lock (Option Outcome)
  | none => { cache with poisoned := true }
  | some outcome => { cache with value := some outcome }

private theorem loadHolding_eq (provider : LockedProvider σ) :
    provider.loadHolding = ⟨(provider.unlocked.trial, { provider with
      source := (provider.config.attempt provider.source).value.2
      cache := afterTrial provider.cache provider.unlocked.trial
      loads := provider.loads + 1 }), (provider.config.attempt provider.source).events⟩ := by
  have trial : provider.unlocked.trial =
      (provider.config.attempt provider.source).value.1.outcome? (provider.loads + 1) := rfl
  simp only [loadHolding, bind, trial]
  cases (provider.config.attempt provider.source).value.1.outcome? (provider.loads + 1) <;>
    exact congrArg (Logged.mk _) (List.append_nil _)

/-- A load under the lock is a load without it, since one that panics puts nothing into the cache. -/
theorem loadAnew_unlocked {provider : LockedProvider σ} (empty : provider.cache.value = none) :
    provider.unlocked.loadAnew =
      ⟨(provider.loadHolding.value.1, provider.loadHolding.value.2.unlocked), provider.loadHolding.events⟩ := by
  have stored : (afterTrial provider.cache provider.unlocked.trial).value = provider.unlocked.trial := by
    cases provider.unlocked.trial with
    | none => exact empty
    | some outcome => rfl
  rw [loadHolding_eq]
  refine Logged.ext ?_ (List.append_nil _)
  exact congrArg (fun cache => (provider.unlocked.trial, { provider.unlocked.loadAnew.value.2 with cache }))
    stored.symm

theorem get_unlocked (provider : LockedProvider σ) :
    provider.unlocked.get = ⟨(provider.get.value.1, provider.get.value.2.unlocked), provider.get.events⟩ := by
  cases cached : provider.cache.value with
  | none =>
    have empty : provider.unlocked.cache = none := cached
    rw [get_of_empty cached, Provider.get_of_empty empty, loadAnew_unlocked cached]
  | some outcome =>
    obtain ⟨config, source, ⟨held, poisoned⟩, loads⟩ := provider
    cases cached
    cases poisoned <;> cases outcome <;> rfl

/-- Nothing that is given, recorded or told sets the provider apart from one that has no lock. -/
structure BehavesAs (provider : LockedProvider σ) (unlocked : Provider σ) : Prop where
  gives : provider.get.value.1 = unlocked.get.value.1
  getRecords : provider.get.events = unlocked.get.events
  resetRecords : provider.reset.events = unlocked.reset.events
  isLoaded : provider.isLoaded = unlocked.isLoaded
  loads : provider.loads = unlocked.loads

theorem behavesAs_unlocked (provider : LockedProvider σ) : provider.BehavesAs provider.unlocked := by
  refine ⟨?_, ?_, ?_, provider.isLoaded_unlocked.symm, rfl⟩
  · rw [get_unlocked]
  · rw [get_unlocked]
  · rw [reset_unlocked]

/-- What becomes of the provider by an action, none of which involves several callers. -/
def after (provider : LockedProvider (Watched σ)) : Option (Action σ) → LockedProvider (Watched σ)
  | some .get => provider.get.value.2
  | some .reset => provider.reset.value
  | some (.change update) =>
    { provider with source := { provider.source with source := update provider.source.source } }
  | some (.getTogether _) | none => provider

/-- Only a request that panics poisons the lock, and nothing clears it again. -/
private theorem poisoned_after (provider : LockedProvider (Watched σ)) (action : Option (Action σ)) :
    (provider.after action).cache.poisoned = true ↔
      provider.cache.poisoned = true ∨ action = some .get ∧ provider.get.value.1 = none := by
  cases action with
  | none => exact (or_iff_left nofun).symm
  | some action =>
    cases action with
    | get =>
      rw [after]
      cases cached : provider.cache.value with
      | some outcome =>
        rw [get_of_cached cached]
        exact (or_iff_left nofun).symm
      | none =>
        rw [get_of_empty cached, loadHolding_eq]
        cases trial : provider.unlocked.trial with
        | none => exact iff_of_true rfl (.inr ⟨rfl, rfl⟩)
        | some outcome => exact (or_iff_left nofun).symm
    | reset =>
      rw [after, reset_value]
      exact (or_iff_left nofun).symm
    | getTogether | change => exact (or_iff_left nofun).symm

end LockedProvider

namespace SoloSession

variable [ResourceSource σ] (solo : SoloSession σ)

/-- The provider with its lock, after some of the actions. -/
def locked : Nat → LockedProvider (Watched σ)
  | 0 => { config := solo.config, source := { source := solo.source } }
  | time + 1 => (locked time).after solo.actions[time]?

theorem unlocked_locked (time : Nat) : (solo.locked time).unlocked = solo.provider time := by
  induction time with
  | zero => rfl
  | succ time ih =>
    have turn := solo.turn time
    rw [locked]
    rw [← ih] at turn
    generalize solo.actions[time]? = action at turn
    generalize solo.provider (time + 1) = next at turn ⊢
    cases turn with
    | replay cached => rw [LockedProvider.after, LockedProvider.get_of_cached cached]
    | load empty =>
      rw [LockedProvider.after, LockedProvider.get_of_empty empty, LockedProvider.loadAnew_unlocked empty]
    | reset =>
      rw [← Provider.reset_value, LockedProvider.reset_unlocked]
      rfl
    | change update => rfl
    | idle => rfl

theorem behavesAs_locked (time : Nat) : (solo.locked time).BehavesAs (solo.provider time) :=
  solo.unlocked_locked time ▸ (solo.locked time).behavesAs_unlocked

theorem gets_iff_locked (time : Nat) (outcome : Option Outcome) :
    solo.Gets time outcome ↔ solo.actions[time]? = some .get ∧ (solo.locked time).get.value.1 = outcome := by
  rw [Gets, ← unlocked_locked, LockedProvider.get_unlocked]

theorem poisoned_locked_iff (time : Nat) :
    (solo.locked time).cache.poisoned = true ↔ ∃ earlier < time, solo.Gets earlier none := by
  induction time with
  | zero => exact iff_of_false Bool.false_ne_true fun ⟨_, before, _⟩ => Nat.not_lt_zero _ before
  | succ time ih =>
    rw [locked, LockedProvider.poisoned_after, ih, ← gets_iff_locked]
    refine ⟨?_, ?_⟩
    · rintro (⟨earlier, before, panics⟩ | panics)
      · exact ⟨earlier, Nat.lt_succ_of_lt before, panics⟩
      · exact ⟨time, Nat.lt_succ_self time, panics⟩
    · rintro ⟨earlier, before, panics⟩
      rcases Nat.lt_succ_iff_lt_or_eq.1 before with sooner | rfl
      · exact .inl ⟨earlier, sooner, panics⟩
      · exact .inr panics

end SoloSession

end TrustRoots
