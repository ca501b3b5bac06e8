import TrustRoots.Provider.Session

/-! Sessions of a caller that is alone: requests and resets between changes of the source. What
an action does to the provider is said once, as a relation with one rule for each case. -/

namespace TrustRoots

namespace Provider

theorem reset_value (provider : Provider σ) : provider.reset.value = { provider with cache := none } := by
  rw [reset]
  split <;> rfl

theorem isLoaded_iff {provider : Provider σ} :
    provider.isLoaded = true ↔ ∃ handle, provider.cache = some (.loaded handle) := by
  refine ⟨?_, ?_⟩
  · intro loaded
    obtain ⟨outcome, cached, ok⟩ := (Option.any_eq_true _ _).1 loaded
    cases outcome with
    | loaded handle => exact ⟨handle, cached⟩
    | failed error => cases ok
  · rintro ⟨handle, cached⟩
    rw [isLoaded, cached]
    rfl

variable [ResourceSource σ]

/-- What a load would give now: an outcome, or none if it would panic. -/
def trial (provider : Provider σ) : Option Outcome :=
  (provider.config.attempt provider.source).value.1.outcome? (provider.loads + 1)

theorem loadAnew_value (provider : Provider σ) :
    provider.loadAnew.value = (provider.trial, { provider with
      source := (provider.config.attempt provider.source).value.2
      cache := provider.trial
      loads := provider.loads + 1 }) := rfl

theorem get_of_cached {provider : Provider σ} {outcome : Outcome} (cached : provider.cache = some outcome) :
    provider.get.value = (some outcome, provider) := by
  rw [get, cached]
  cases outcome <;> rfl

theorem get_of_empty {provider : Provider σ} (empty : provider.cache = none) :
    provider.get = provider.loadAnew := by
  rw [get, empty]

end Provider

theorem Config.opened_attempt [ResourceSource σ] (config : Config) (watched : Watched σ) :
    (config.attempt watched).value.2.opened = watched.opened ++ [config.resourceName] := by
  have opens : (ResourceSource.openResource config.resourceName watched).2.opened =
      watched.opened ++ [config.resourceName] := rfl
  rw [attempt]
  rcases opening : ResourceSource.openResource config.resourceName watched with ⟨opened, after⟩
  rw [opening] at opens
  cases opened <;> exact opens

private theorem Session.observeAll_getElem? (step : Session σ → ι → Logged (ρ × Session σ)) (session : Session σ)
    (steps : List ι) (time : Nat) :
    (observeAll step session steps)[time]? = steps[time]?.map fun next =>
      (observed (fun session => step session next)
        ((steps.take time).foldl (fun session next => (step session next).value.2) session)).1 := by
  induction steps generalizing session time with
  | nil => rfl
  | cons next rest ih =>
    cases time with
    | zero => rfl
    | succ time => exact ih _ time

/-- A provider over a new source and the actions on them, none of which involves several callers. -/
structure SoloSession (σ : Type) where
  config : Config
  source : σ
  actions : List (Action σ)
  alone : ∀ callers, .getTogether callers ∉ actions

namespace SoloSession

section Definitions

variable [ResourceSource σ] (solo : SoloSession σ)

def session (time : Nat) : Session σ :=
  (solo.actions.take time).foldl (fun session action => (session.act action).value.2)
    (.start solo.config solo.source)

def provider (time : Nat) : Provider (Watched σ) :=
  (solo.session time).provider

/-- The action at this time is a request, and this is what it gives: none if it panics. -/
def Gets (time : Nat) (outcome : Option Outcome) : Prop :=
  solo.actions[time]? = some .get ∧ (solo.provider time).get.value.1 = outcome

def Resets (time : Nat) : Prop :=
  solo.actions[time]? = some .reset

/-- No reset lies strictly between two actions. -/
def Unreset (first last : Nat) : Prop :=
  ∀ moment, first < moment → moment < last → ¬ solo.Resets moment

end Definitions

/-- What the provider can become by an action. -/
inductive Turn [ResourceSource σ] (before : Provider (Watched σ)) :
    Option (Action σ) → Provider (Watched σ) → Prop where
  | replay {outcome} (cached : before.cache = some outcome) : Turn before (some .get) before
  | load (empty : before.cache = none) : Turn before (some .get) before.loadAnew.value.2
  | reset : Turn before (some .reset) { before with cache := none }
  | change (update : σ → σ) : Turn before (some (.change update)) (Session.changeSource before update)
  | idle : Turn before none before

variable [ResourceSource σ] (solo : SoloSession σ)

theorem session_succ (time : Nat) :
    solo.session (time + 1) =
      solo.actions[time]?.elim (solo.session time) fun action => ((solo.session time).act action).value.2 := by
  rw [session, List.take_add_one, List.foldl_append, ← session]
  cases solo.actions[time]? <;> rfl

theorem run_getElem? (time : Nat) :
    (Session.run (.start solo.config solo.source) solo.actions)[time]? = solo.actions[time]?.map fun action =>
      (Session.observed (fun session => session.act action) (solo.session time)).1 :=
  Session.observeAll_getElem? Session.act _ solo.actions time

theorem provider_of_observed {time : Nat} {observation : Session.Observation Answer}
    (observed : (Session.run (.start solo.config solo.source) solo.actions)[time]? = some observation) :
    observation.loads = (solo.provider (time + 1)).loads ∧
      observation.opened = (solo.provider (time + 1)).source.opened ∧
      observation.isLoaded = (solo.provider (time + 1)).isLoaded := by
  rw [run_getElem?] at observed
  obtain ⟨action, acting, rfl⟩ := Option.map_eq_some_iff.1 observed
  rw [provider, session_succ, acting]
  exact ⟨rfl, rfl, rfl⟩

theorem turn (time : Nat) : Turn (solo.provider time) solo.actions[time]? (solo.provider (time + 1)) := by
  rw [provider, provider, session_succ]
  cases acting : solo.actions[time]? with
  | none => exact .idle
  | some action =>
    cases action with
    | get =>
      change Turn (solo.session time).provider (some .get) (solo.session time).provider.get.value.2
      cases cached : (solo.session time).provider.cache with
      | none => rw [Provider.get_of_empty cached]; exact .load cached
      | some outcome => rw [Provider.get_of_cached cached]; exact .replay cached
    | getTogether callers => exact absurd (List.mem_of_getElem? acting) (solo.alone callers)
    | reset =>
      change Turn (solo.session time).provider (some .reset) (solo.session time).provider.reset.value
      rw [Provider.reset_value]
      exact .reset
    | change update => exact .change update

end SoloSession

end TrustRoots
