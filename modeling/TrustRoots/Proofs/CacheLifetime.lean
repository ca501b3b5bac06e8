import TrustRoots.KeyStore.Draft
import TrustRoots.Proofs.HandleNumbers

/-! What is in the cache was put there by the first request since the latest reset that did not
panic. Later requests give the same outcome and leave the source alone, whatever has become of
it, and a handle is given out again exactly until a reset. -/

namespace TrustRoots

theorem Attempt.load_of_outcome? {load : Nat} {attempt : Attempt} {handle : Handle}
    (finished : attempt.outcome? load = some (.loaded handle)) : handle.load = load := by
  cases attempt with
  | finished result => cases result <;> cases finished; rfl
  | panicked => cases finished

namespace SoloSession

variable (solo : SoloSession σ)

/-- The moment that follows the latest reset before another moment, or the beginning. -/
structure Since (since time : Nat) : Prop where
  within : since ≤ time
  opening : since = 0 ∨ ∃ reset, since = reset + 1 ∧ solo.Resets reset
  quiet : ∀ moment, since ≤ moment → moment < time → ¬ solo.Resets moment

variable {solo}

private theorem Since.succ {since time : Nat} {action : Option (Action σ)} (fresh : solo.Since since time)
    (acting : solo.actions[time]? = action) (unreset : action ≠ some .reset) :
    solo.Since since (time + 1) := by
  refine ⟨Nat.le_succ_of_le fresh.within, fresh.opening, ?_⟩
  intro moment after before
  rcases Nat.lt_succ_iff_lt_or_eq.1 before with earlier | rfl
  · exact fresh.quiet moment after earlier
  · exact fun resets => unreset (acting.symm.trans resets)

private theorem Since.unique {since other time : Nat} (fresh : solo.Since since time) (same : solo.Since other time) :
    since = other := by
  have le {first second : Nat} (one : solo.Since first time) (two : solo.Since second time) : second ≤ first := by
    rcases two.opening with rfl | ⟨reset, rfl, resets⟩
    · exact Nat.zero_le first
    · apply Nat.le_of_not_lt
      intro later
      exact one.quiet reset (Nat.le_of_lt_succ later) two.within resets
  exact Nat.le_antisymm (le same fresh) (le fresh same)

variable [ResourceSource σ] (solo)

def Unserved (since time : Nat) : Prop :=
  ∀ moment, since ≤ moment → moment < time → ∀ outcome, ¬ solo.Gets moment (some outcome)

/-- A request gives what the source of this moment makes of a load. -/
def LoadsAt (load : Nat) (outcome : Outcome) : Prop :=
  solo.Gets load (some outcome) ∧
    (solo.config.attempt (solo.provider load).source).value.1.outcome? ((solo.provider load).loads + 1) =
      some outcome

/-- The first request after the latest reset that does not panic, with its outcome. -/
def Serves (load time : Nat) (outcome : Outcome) : Prop :=
  ∃ since, solo.Since since time ∧ since ≤ load ∧ load < time ∧
    solo.LoadsAt load outcome ∧ solo.Unserved since load

/-- What the requests since a moment have left in the cache. -/
def Holding (since time : Nat) : Option Outcome → Prop
  | none => solo.Unserved since time
  | some outcome => ∃ load, since ≤ load ∧ load < time ∧ solo.LoadsAt load outcome ∧ solo.Unserved since load

variable {solo}

theorem Turn.config {before after : Provider (Watched σ)} {action : Option (Action σ)}
    (turn : Turn before action after) : after.config = before.config := by
  cases turn <;> rfl

theorem provider_config (solo : SoloSession σ) (time : Nat) : (solo.provider time).config = solo.config := by
  induction time with
  | zero => rfl
  | succ time ih => exact (solo.turn time).config.trans ih

private theorem Unserved.succ {since time : Nat} (unserved : solo.Unserved since time)
    (panics : ∀ outcome, ¬ solo.Gets time (some outcome)) : solo.Unserved since (time + 1) := by
  intro moment after before
  rcases Nat.lt_succ_iff_lt_or_eq.1 before with earlier | rfl
  · exact unserved moment after earlier
  · exact panics

private theorem Holding.succ {since time : Nat} {action : Option (Action σ)} {cache : Option Outcome}
    (holding : solo.Holding since time cache) (acting : solo.actions[time]? = action)
    (ungot : action ≠ some .get) : solo.Holding since (time + 1) cache := by
  cases cache with
  | none => exact Unserved.succ holding fun outcome gets => ungot (acting.symm.trans gets.1)
  | some outcome =>
    obtain ⟨load, after, before, loads, first⟩ := holding
    exact ⟨load, after, Nat.lt_succ_of_lt before, loads, first⟩

private theorem holding_load {since time : Nat} (within : since ≤ time) (unserved : solo.Unserved since time)
    (acting : solo.actions[time]? = some .get) (empty : (solo.provider time).cache = none) :
    solo.Holding since (time + 1) (solo.provider time).trial := by
  have answer : (solo.provider time).get.value.1 = (solo.provider time).trial := by
    rw [Provider.get_of_empty empty, Provider.loadAnew_value]
  cases trial : (solo.provider time).trial with
  | none =>
    refine Unserved.succ unserved ?_
    intro outcome gets
    cases (answer.trans trial).symm.trans gets.2
  | some outcome =>
    have made := trial
    rw [Provider.trial, solo.provider_config time] at made
    exact ⟨time, within, Nat.lt_succ_self time, ⟨⟨acting, answer.trans trial⟩, made⟩, unserved⟩

theorem holding (solo : SoloSession σ) (time : Nat) :
    ∃ since, solo.Since since time ∧ solo.Holding since time (solo.provider time).cache := by
  induction time with
  | zero => exact ⟨0, ⟨Nat.le_refl 0, .inl rfl, fun _ _ before => absurd before (Nat.not_lt_zero _)⟩,
      fun _ _ before => absurd before (Nat.not_lt_zero _)⟩
  | succ time ih =>
    obtain ⟨since, fresh, holding⟩ := ih
    have turn := solo.turn time
    generalize acting : solo.actions[time]? = action at turn
    generalize solo.provider (time + 1) = next at turn ⊢
    cases turn with
    | @replay outcome cached =>
      rw [cached] at holding ⊢
      obtain ⟨load, after, before, loads, first⟩ := holding
      exact ⟨since, fresh.succ acting nofun, load, after, Nat.lt_succ_of_lt before, loads, first⟩
    | load empty =>
      rw [empty] at holding
      exact ⟨since, fresh.succ acting nofun, holding_load fresh.within holding acting empty⟩
    | reset =>
      have passed moment (after : time + 1 ≤ moment) (before : moment < time + 1) : False :=
        absurd (Nat.lt_of_le_of_lt after before) (Nat.lt_irrefl _)
      exact ⟨time + 1, ⟨Nat.le_refl _, .inr ⟨time, rfl, acting⟩,
        fun moment after before => (passed moment after before).elim⟩,
        fun moment after before => (passed moment after before).elim⟩
    | change update => exact ⟨since, fresh.succ acting nofun, Holding.succ holding acting nofun⟩
    | idle => exact ⟨since, fresh.succ acting nofun, Holding.succ holding acting nofun⟩

theorem cache_eq_some_iff {time : Nat} {outcome : Outcome} :
    (solo.provider time).cache = some outcome ↔ ∃ load, solo.Serves load time outcome := by
  obtain ⟨since, fresh, holding⟩ := solo.holding time
  refine ⟨?_, ?_⟩
  · intro cached
    rw [cached] at holding
    obtain ⟨load, after, before, loads, first⟩ := holding
    exact ⟨load, since, fresh, after, before, loads, first⟩
  · rintro ⟨load, other, same, after, before, loads, first⟩
    cases fresh.unique same
    cases cached : (solo.provider time).cache with
    | none =>
      rw [cached] at holding
      exact absurd loads.1 (holding load after before outcome)
    | some held =>
      rw [cached] at holding
      obtain ⟨earlier, afterToo, _, made, firstToo⟩ := holding
      rcases Nat.lt_trichotomy load earlier with sooner | rfl | sooner
      · exact absurd loads.1 (firstToo load after sooner outcome)
      · exact made.1.2.symm.trans loads.1.2
      · exact absurd made.1 (first earlier afterToo sooner held)

theorem cache_of_gets {time : Nat} {outcome : Option Outcome} (gets : solo.Gets time outcome) :
    (solo.provider (time + 1)).cache = outcome := by
  obtain ⟨acting, given⟩ := gets
  have turn := solo.turn time
  rw [acting] at turn
  generalize solo.provider (time + 1) = after at turn ⊢
  cases turn with
  | replay cached =>
    rw [Provider.get_of_cached cached] at given
    exact cached.trans given
  | load empty =>
    rw [Provider.get_of_empty empty] at given
    exact given

theorem gets_of_cached {time : Nat} {outcome : Outcome} (cached : (solo.provider time).cache = some outcome)
    (acting : solo.actions[time]? = some .get) :
    solo.Gets time (some outcome) ∧ solo.provider (time + 1) = solo.provider time := by
  have answer := Provider.get_of_cached cached
  refine ⟨⟨acting, by rw [answer]⟩, ?_⟩
  have turn := solo.turn time
  rw [acting] at turn
  generalize solo.provider (time + 1) = after at turn ⊢
  cases turn with
  | replay => rfl
  | load empty => cases empty.symm.trans cached

theorem Serves.later {load first last : Nat} {outcome : Outcome} (serves : solo.Serves load first outcome)
    (later : first ≤ last) (unreset : ∀ moment, first ≤ moment → moment < last → ¬ solo.Resets moment) :
    solo.Serves load last outcome := by
  obtain ⟨since, fresh, after, before, loads, unserved⟩ := serves
  refine ⟨since, ⟨Nat.le_trans fresh.within later, fresh.opening, ?_⟩, after,
    Nat.lt_of_lt_of_le before later, loads, unserved⟩
  intro moment past within
  rcases Nat.lt_or_ge moment first with inside | beyond
  · exact fresh.quiet moment past inside
  · exact unreset moment beyond within

theorem outcome_eq_of_unreset {first second : Nat} {one other : Outcome} (later : first < second)
    (gets : solo.Gets first (some one)) (again : solo.Gets second (some other))
    (unreset : solo.Unreset first second) : one = other := by
  obtain ⟨load, serves⟩ := cache_eq_some_iff.1 (cache_of_gets gets)
  have cached := cache_eq_some_iff.2 ⟨load, serves.later later unreset⟩
  exact Option.some.inj ((gets_of_cached cached again.1).1.2.symm.trans again.2)

/-- The loads are those that the source has seen, and a handle in the cache is of one of them. -/
structure Counted (provider : Provider (Watched σ)) : Prop where
  opened : provider.loads = provider.source.opened.length
  handles : ∀ handle, provider.cache = some (.loaded handle) → handle.load ≤ provider.loads

theorem Turn.counted {before after : Provider (Watched σ)} {action : Option (Action σ)}
    (turn : Turn before action after) (counted : Counted before) : Counted after := by
  cases turn with
  | replay | idle => exact counted
  | load empty =>
    rw [Provider.loadAnew_value]
    refine ⟨?_, ?_⟩
    · rw [Config.opened_attempt, List.length_append, List.length_singleton, counted.opened]
    · intro handle made
      exact Nat.le_of_eq (Attempt.load_of_outcome? made)
  | reset => exact ⟨counted.opened, nofun⟩
  | change update => exact ⟨counted.opened, counted.handles⟩

theorem counted (solo : SoloSession σ) (time : Nat) : Counted (solo.provider time) := by
  induction time with
  | zero => exact ⟨rfl, nofun⟩
  | succ time ih => exact (solo.turn time).counted ih

theorem isLoaded_iff_serves {time : Nat} :
    (solo.provider time).isLoaded = true ↔ ∃ load handle, solo.Serves load time (.loaded handle) := by
  rw [Provider.isLoaded_iff]
  constructor
  · rintro ⟨handle, cached⟩
    obtain ⟨load, serves⟩ := cache_eq_some_iff.1 cached
    exact ⟨load, handle, serves⟩
  · rintro ⟨load, handle, serves⟩
    exact ⟨handle, cache_eq_some_iff.2 ⟨load, serves⟩⟩

theorem observed_loads {time : Nat} {observation : Session.Observation Answer}
    (observed : (Session.run (.start solo.config solo.source) solo.actions)[time]? = some observation) :
    observation.loads = observation.opened.length ∧
      (observation.isLoaded = true ↔ ∃ load handle, solo.Serves load (time + 1) (.loaded handle)) := by
  obtain ⟨loads, opened, loaded⟩ := solo.provider_of_observed observed
  rw [loads, opened, loaded]
  exact ⟨(solo.counted (time + 1)).opened, isLoaded_iff_serves⟩

private theorem Turn.loads_le {before after : Provider (Watched σ)} {action : Option (Action σ)}
    (turn : Turn before action after) : before.loads ≤ after.loads := by
  cases turn with
  | load empty => exact Nat.le_succ before.loads
  | _ => exact Nat.le_refl before.loads

theorem loads_mono (solo : SoloSession σ) {first last : Nat} (later : first ≤ last) :
    (solo.provider first).loads ≤ (solo.provider last).loads := by
  induction later with
  | refl => exact Nat.le_refl _
  | @step last later ih =>
    exact Nat.le_trans ih (solo.turn last).loads_le

/-- A request after a reset loads anew, so that its handle is not one that was there before. -/
theorem load_lt_of_reset {first reset second : Nat} {one other : Handle} (before : first < reset)
    (after : reset < second) (resets : solo.Resets reset) (gets : solo.Gets first (some (.loaded one)))
    (again : solo.Gets second (some (.loaded other))) : one.load < other.load := by
  obtain ⟨load, since, fresh, beyond, _, loads, _⟩ := cache_eq_some_iff.1 (cache_of_gets again)
  have latest : reset < since :=
    Nat.lt_of_not_le fun inside => fresh.quiet reset inside (Nat.lt_succ_of_lt after) resets
  have known := (solo.counted (first + 1)).handles one (cache_of_gets gets)
  have grown := solo.loads_mono (show first + 1 ≤ load by omega)
  have number := Attempt.load_of_outcome? loads.2
  omega

theorem load_eq_iff_unreset {first second : Nat} {one other : Handle} (later : first < second)
    (gets : solo.Gets first (some (.loaded one))) (again : solo.Gets second (some (.loaded other))) :
    one.load = other.load ↔ solo.Unreset first second := by
  refine ⟨?_, ?_⟩
  · intro same reset before after resets
    exact Nat.ne_of_lt (load_lt_of_reset before after resets gets again) same
  · intro unreset
    cases outcome_eq_of_unreset later gets again unreset
    rfl

/-- A request that does not panic gives what the first such request since the latest reset has
loaded. Until a reset, all requests give equal outcomes and leave the provider and its source
alone; a handle comes again until a reset, and never after it. After every action the loads that are counted
are the resources that were opened, and a store is loaded exactly if a request has served one. -/
theorem outcomes_last_until_reset (solo : SoloSession σ) :
    (∀ time outcome, solo.Gets time (some outcome) → ∃ load, solo.Serves load (time + 1) outcome) ∧
    (∀ first second one other, first < second →
      solo.Gets first (some (.loaded one)) → solo.Gets second (some (.loaded other)) →
        (one.load = other.load ↔ solo.Unreset first second)) ∧
    (∀ first second one other store restored, first < second →
      solo.Sees first (.loaded one store) → solo.Sees second (.loaded other restored) →
        (one = other ↔ solo.Unreset first second)) ∧
    (∀ first second one other, first < second → solo.Gets first (some one) → solo.Gets second (some other) →
      solo.Unreset first second → one = other) ∧
    (∀ load time outcome, solo.Serves load time outcome → solo.actions[time]? = some .get →
      solo.Gets time (some outcome) ∧ solo.provider (time + 1) = solo.provider time) ∧
    (∀ time, (solo.provider time).loads = (solo.provider time).source.opened.length ∧
      ((solo.provider time).isLoaded = true ↔ ∃ load handle, solo.Serves load time (.loaded handle))) ∧
    (∀ time observation, (Session.run (.start solo.config solo.source) solo.actions)[time]? = some observation →
      observation.loads = observation.opened.length ∧
        (observation.isLoaded = true ↔ ∃ load handle, solo.Serves load (time + 1) (.loaded handle))) := by
  refine ⟨?_, ?_, ?_, ?_, ?_, ?_, ?_⟩
  · intro time outcome gets
    exact cache_eq_some_iff.1 (cache_of_gets gets)
  · intro first second one other later gets again
    exact load_eq_iff_unreset later gets again
  · intro first second one other store restored later sees again
    obtain ⟨handle, gets, _, number⟩ := gets_of_sees sees
    obtain ⟨rehandle, regets, _, renumber⟩ := gets_of_sees again
    exact (number_eq_iff (Nat.le_of_lt later) number renumber).trans (load_eq_iff_unreset later gets regets)
  · intro first second one other later gets again unreset
    exact outcome_eq_of_unreset later gets again unreset
  · intro load time outcome serves acting
    exact gets_of_cached (cache_eq_some_iff.2 ⟨load, serves⟩) acting
  · intro time
    exact ⟨(solo.counted time).opened, isLoaded_iff_serves⟩
  · intro time observation observed
    exact observed_loads observed

/-- A load panics, one is refused and remembered, and after a reset one succeeds. -/
def eventful : SoloSession Scripted where
  config := { resource := some "roots" }
  source := {}
  actions :=
    [.change Scripted.panicNext, .get, .get,
      .change (Scripted.put "roots" [.delivered (Draft.encode ⟨.v2, "X.509", []⟩ "notasecret")]), .get,
      .reset, .get, .get, .reset, .get]
  alone := by simp

theorem outcomes_last_until_reset_eventful :
    eventful.Gets 1 none ∧
    (∃ load, eventful.Serves load 5 (.failed (.resourceUnavailable "roots" "roots is not bundled"))) ∧
    (eventful.Unreset 6 7 ∧ ¬ eventful.Unreset 7 9) := by
  have refused : eventful.Gets 4 (some (.failed (.resourceUnavailable "roots" "roots is not bundled"))) :=
    ⟨rfl, by decide +kernel⟩
  have loaded : eventful.Gets 6 (some (.loaded ⟨3, "roots", ⟨.v2, []⟩, []⟩)) := ⟨rfl, by decide +kernel⟩
  have again : eventful.Gets 7 (some (.loaded ⟨3, "roots", ⟨.v2, []⟩, []⟩)) := ⟨rfl, by decide +kernel⟩
  have anew : eventful.Gets 9 (some (.loaded ⟨4, "roots", ⟨.v2, []⟩, []⟩)) := ⟨rfl, by decide +kernel⟩
  obtain ⟨served, handles, _⟩ := outcomes_last_until_reset eventful
  refine ⟨⟨rfl, by decide +kernel⟩, served 4 _ refused, ?_, ?_⟩
  · exact (handles 6 7 _ _ (by decide) loaded again).1 rfl
  · intro unreset
    exact absurd ((handles 7 9 _ _ (by decide) again anew).2 unreset) (by decide)

end SoloSession

end TrustRoots
