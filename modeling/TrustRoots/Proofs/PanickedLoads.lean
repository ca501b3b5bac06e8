import TrustRoots.Proofs.SessionsInStep

/-! What is left of a load that panics. The cache stays empty, the load and the opened name have been
counted, and a record says that the load has begun. The session goes on as if the source had only been
changed as its opening has changed it. -/

namespace TrustRoots

private theorem Config.attempt_of_panicked [ResourceSource σ] {config : Config} {source : σ}
    (panics : (ResourceSource.openResource config.resourceName source).1 = .panicked) :
    config.attempt source = ⟨(.panicked, (ResourceSource.openResource config.resourceName source).2),
      [.loading config.resourceName]⟩ := by
  simp only [attempt, bind, panics]
  rfl

namespace SoloSession

variable [ResourceSource σ]

/-- All that a load that panics does to the session. -/
structure Vanishes (solo : SoloSession σ) (time : Nat) : Prop where
  opens : solo.opening time = .panicked
  empty : (solo.provider time).cache = none
  kept : (solo.provider (time + 1)).cache = none
  counted : (solo.provider (time + 1)).loads = (solo.provider time).loads + 1
  opened : (solo.provider (time + 1)).source.opened =
    (solo.provider time).source.opened ++ [solo.config.resourceName]
  records : solo.emitted time = [.loading solo.config.resourceName]

/-- Instead of a request at this time, the source is changed as its opening changes it. -/
def sparing (solo : SoloSession σ) (time : Nat) : SoloSession σ where
  config := solo.config
  source := solo.source
  actions := solo.actions.set time
    (.change fun source => (ResourceSource.openResource solo.config.resourceName source).2)
  alone := by
    intro callers member
    rcases List.mem_or_eq_of_mem_set member with old | new
    · exact solo.alone callers old
    · cases new

/-- The session at this time, with its source changed as its opening changes it. -/
def spared (solo : SoloSession σ) (time : Nat) : Session σ :=
  { solo.session time with provider := Session.changeSource (solo.provider time) fun source =>
      (ResourceSource.openResource solo.config.resourceName source).2 }

variable {solo : SoloSession σ} {time : Nat}

theorem loads_of_panics (panics : solo.Gets time none) : solo.Loads time := by
  refine ⟨panics.1, ?_⟩
  cases cached : (solo.provider time).cache with
  | none => rfl
  | some outcome => cases (gets_of_cached cached panics.1).1.2.symm.trans panics.2

theorem gets_none_iff_panicked :
    solo.Gets time none ↔ solo.Loads time ∧ solo.opening time = .panicked := by
  refine ⟨?_, ?_⟩
  · intro panics
    exact ⟨loads_of_panics panics, (gets_none_iff (loads_of_panics panics)).1 panics⟩
  · rintro ⟨loads, opens⟩
    exact (gets_none_iff loads).2 opens

private theorem load_le_of_mem_handles {handle : Handle} (seen : handle ∈ (solo.session time).handles) :
    handle.load ≤ (solo.provider time).loads := by
  obtain ⟨load, before, makes⟩ := makes_of_mem_handles seen
  have made : (solo.provider (load + 1)).loads = (solo.provider load).loads + 1 := by
    rw [provider_of_loads makes.loads, Provider.loadAnew_value]
  rw [makes.counted, ← made]
  exact solo.loads_mono before

private theorem loadAnew_of_panics (panics : solo.Gets time none) :
    (solo.provider time).loadAnew = ⟨(none, { solo.provider time with
      source := ⟨(ResourceSource.openResource solo.config.resourceName (solo.provider time).source.source).2,
        (solo.provider time).source.opened ++ [solo.config.resourceName]⟩
      cache := none
      loads := (solo.provider time).loads + 1 }), [.loading solo.config.resourceName]⟩ := by
  have attempt := Config.attempt_of_panicked (gets_none_iff_panicked.1 panics).2
  have watched := (solo.config.attempt_watched (solo.provider time).source)
  rw [attempt, ← solo.provider_config time] at watched
  simp only [Provider.loadAnew, bind, watched]
  rw [solo.provider_config time]
  rfl

theorem vanishes_of_panics (panics : solo.Gets time none) : solo.Vanishes time := by
  have loads := loads_of_panics panics
  have after := provider_of_loads loads
  rw [loadAnew_of_panics panics] at after
  refine ⟨(gets_none_iff_panicked.1 panics).2, loads.2, ?_, ?_, ?_, ?_⟩
  · rw [after]
  · rw [after]
  · rw [after]
  · rw [emitted_of_get loads.1, Provider.get_of_empty loads.2, loadAnew_of_panics panics]

/-- A load that panics puts the session an extra load ahead of where it would be without it. -/
theorem session_of_panics (panics : solo.Gets time none) :
    solo.session (time + 1) = (solo.spared time).ahead ((solo.provider time).loads + 1) := by
  have loads := loads_of_panics panics
  have after := provider_of_loads loads
  have handles : (solo.session (time + 1)).handles = (solo.session time).handles := by
    rw [session_of_get loads.1, panics.2]
    rfl
  have known : (solo.session time).handles.map (Handle.renumbered (skipping ((solo.provider time).loads + 1))) =
      (solo.session time).handles := by
    refine (List.map_congr_left fun handle seen => ?_).trans (List.map_id _)
    exact Handle.renumbered_of_lt (Nat.lt_succ_of_le (load_le_of_mem_handles seen))
  have cache : (solo.provider time).cache.map (Outcome.renumbered (skipping ((solo.provider time).loads + 1))) =
      none := by
    rw [loads.2, Option.map_none]
  change Session.mk (solo.provider (time + 1)) (solo.session (time + 1)).handles = _
  rw [after, loadAnew_of_panics panics, handles]
  simp only [Session.ahead, Provider.ahead, spared, Session.changeSource, known, cache, solo.provider_config time]

section Sparing

variable (solo time)

private theorem sparing_getElem?_of_ne {other : Nat} (apart : time ≠ other) :
    solo.actions[other]? = (solo.sparing time).actions[other]? :=
  (List.getElem?_set_ne apart).symm

private theorem sparing_session : solo.session time = (solo.sparing time).session time := by
  refine session_eq_of_acts rfl fun moment before => ?_
  exact solo.sparing_getElem?_of_ne time (Nat.ne_of_gt before)

theorem observations_sparing_of_lt {earlier : Nat} (before : earlier < time) :
    solo.observations[earlier]? = (solo.sparing time).observations[earlier]? := by
  refine observation_eq_of_acts rfl fun moment within => ?_
  exact solo.sparing_getElem?_of_ne time (Nat.ne_of_gt (Nat.lt_of_le_of_lt within before))

/-- In the session that is spared the load that panics, the source changes all the same. -/
private theorem spared_eq_session (inside : time < solo.actions.length) :
    solo.spared time = (solo.sparing time).session (time + 1) := by
  have acting : (solo.sparing time).actions[time]? = some (.change fun source =>
      (ResourceSource.openResource solo.config.resourceName source).2) := List.getElem?_set_self inside
  rw [session_succ, acting, ← sparing_session]
  rfl

end Sparing

/-- In the spared session, the load that has panicked is missing from then on and nothing else is. -/
theorem observations_sparing_of_gt (panics : solo.Gets time none) {later : Nat} (after : time < later) :
    solo.observations[later]? =
      (solo.sparing time).observations[later]?.map (.ahead solo.config.resourceName) := by
  have inside : time < solo.actions.length := List.getElem?_eq_some_iff.1 panics.1 |>.1
  have begins := session_of_panics panics
  rw [solo.spared_eq_session time inside] at begins
  have counted : (solo.provider time).loads + 1 ≤ ((solo.sparing time).provider (time + 1)).loads + 1 := by
    have grown := (solo.sparing time).loads_mono (Nat.le_succ time)
    rw [provider, ← sparing_session] at grown
    exact Nat.succ_le_succ grown
  have acts (moment : Nat) (beyond : time + 1 ≤ moment) :
      solo.actions[moment]? = (solo.sparing time).actions[moment]? :=
    solo.sparing_getElem?_of_ne time (Nat.ne_of_lt beyond)
  exact observation_of_ahead 0 begins counted acts after

end SoloSession

end TrustRoots
