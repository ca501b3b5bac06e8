import TrustRoots.Proofs.LockPoison
import TrustRoots.Proofs.PanickedLoads

/-! Panics that a scripted source has been told of beforehand. If both the request that panics and the
order for its panic are left out of a session, then what comes after them is the same, except that a
load less is counted. A panic is traceless in this sense, whatever other panics there are around it. -/

namespace TrustRoots

namespace Scripted

private theorem openResource_of_idle {source : Scripted} (name : String) (idle : source.pendingPanics = 0) :
    ResourceSource.openResource name source = (source.opening name, source) := by
  obtain ⟨resources, available, fallsBack, pendingPanics⟩ := source
  cases idle
  rfl

private theorem opening_ne_panicked (name : String) (source : Scripted) : source.opening name ≠ .panicked := by
  rw [opening]
  split
  · nofun
  · split
    · nofun
    · split
      · rw [Bundled.opening]
        split <;> nofun
      · nofun

/-- The update changes nothing about the pending panics and pays no heed to them. -/
structure Steady (update : Scripted → Scripted) : Prop where
  pending : ∀ source, (update source).pendingPanics = source.pendingPanics
  heedless : ∀ source, update source.panicNext = (update source).panicNext

-- These are the changes of a scripted source, other than the scheduling of a panic.
theorem steady_put (name : String) (stream : Stream) : Steady (put name stream) :=
  ⟨fun _ => rfl, fun _ => rfl⟩

theorem steady_remove (name : String) : Steady (remove name) :=
  ⟨fun _ => rfl, fun _ => rfl⟩

theorem steady_switch (available : Bool) : Steady (switch available) :=
  ⟨fun _ => rfl, fun _ => rfl⟩

end Scripted

private theorem Provider.reset_changeSource (provider : Provider (Watched σ)) (update : σ → σ) :
    (Session.changeSource provider update).reset =
      ⟨Session.changeSource provider.reset.value update, provider.reset.events⟩ := by
  obtain ⟨config, source, cache, loads⟩ := provider
  cases cache <;> rfl

/-- With one more panic pending, a request does the same, unless it would load where none was pending. -/
private theorem Provider.get_panicNext {provider : Provider (Watched Scripted)}
    (panics : provider.cache = none → provider.source.source.pendingPanics ≠ 0) :
    (Session.changeSource provider Scripted.panicNext).get =
      ⟨(provider.get.value.1, Session.changeSource provider.get.value.2 Scripted.panicNext),
        provider.get.events⟩ := by
  obtain ⟨config, ⟨⟨resources, available, fallsBack, pendingPanics⟩, opened⟩, cache, loads⟩ := provider
  cases cache with
  | some outcome => cases outcome <;> rfl
  | none =>
    cases pendingPanics with
    | zero => exact absurd rfl (panics rfl)
    | succ pendingPanics => rfl

private theorem Provider.source_loadAnew_panicNext (provider : Provider (Watched Scripted)) :
    (Session.changeSource provider Scripted.panicNext).loadAnew.value.2.source.source = provider.source.source :=
  rfl

namespace Session

/-- The session with one more panic pending. -/
def owing (session : Session Scripted) : Session Scripted :=
  { session with provider := changeSource session.provider Scripted.panicNext }

section Owing

variable {session : Session Scripted} {action : Action Scripted}
  (alone : ∀ callers, action ≠ .getTogether callers)
  (heedless : ∀ update, action = .change update →
    ∀ source : Scripted, update source.panicNext = (update source).panicNext)
  (panics : action = .get → session.provider.cache = none → session.provider.source.source.pendingPanics ≠ 0)

include alone heedless panics

theorem act_owing : session.owing.act action =
    ⟨((session.act action).value.1, (session.act action).value.2.owing), (session.act action).events⟩ := by
  cases action with
  | get =>
    have given := Provider.get_panicNext (panics rfl)
    simp only [act, bind, pure, owing, given]
  | getTogether callers => exact absurd rfl (alone callers)
  | reset =>
    have cleared := Provider.reset_changeSource session.provider Scripted.panicNext
    simp only [act, bind, pure, owing, cleared]
  | change update =>
    have same := heedless update rfl session.provider.source.source
    simp only [act, pure, owing, changeSource, same]

theorem observed_owing : observed (fun session => session.act action) session.owing =
    Prod.map id owing (observed (fun session => session.act action) session) := by
  rw [observed, act_owing alone heedless panics]
  rfl

end Owing

end Session

namespace SoloSession

section Definitions

variable (solo : SoloSession Scripted)

def pending (time : Nat) : Nat :=
  (solo.provider time).source.source.pendingPanics

/-- Panics come to the source only by being scheduled, one by one. -/
def Schedules : Prop :=
  solo.source.pendingPanics = 0 ∧
    ∀ update, .change update ∈ solo.actions → update = Scripted.panicNext ∨ Scripted.Steady update

/-- What panics at the later time may have been scheduled at the earlier one. -/
structure Awaits (schedule time : Nat) : Prop where
  before : schedule < time
  scheduled : solo.actions[schedule]? = some (.change Scripted.panicNext)
  pending : ∀ moment, schedule < moment → moment ≤ time → solo.pending moment ≠ 0

def without (first second : Nat) : SoloSession Scripted where
  config := solo.config
  source := solo.source
  actions := (solo.actions.eraseIdx second).eraseIdx first
  alone := fun callers member =>
    solo.alone callers (List.mem_of_mem_eraseIdx (List.mem_of_mem_eraseIdx member))

end Definitions

variable {solo : SoloSession Scripted} {schedule time : Nat}

theorem pending_of_panics (panics : solo.Gets time none) : solo.pending time ≠ 0 := by
  intro idle
  have opens := (gets_none_iff_panicked.1 panics).2
  rw [opening, Scripted.openResource_of_idle _ idle] at opens
  exact Scripted.opening_ne_panicked _ _ opens

theorem pending_succ (schedules : solo.Schedules) (idle : solo.pending time = 0)
    (unscheduled : solo.actions[time]? ≠ some (.change Scripted.panicNext)) : solo.pending (time + 1) = 0 := by
  have turn := solo.turn time
  rw [pending] at idle ⊢
  generalize acting : solo.actions[time]? = action at turn
  generalize solo.provider (time + 1) = next at turn ⊢
  cases turn with
  | replay | reset | idle => exact idle
  | load empty =>
    rw [Provider.loadAnew_value, Config.attempt_watched, Config.source_attempt,
      Scripted.openResource_of_idle _ idle]
    exact idle
  | change update =>
    rcases schedules.2 update (List.mem_of_getElem? acting) with rfl | steady
    · exact absurd acting unscheduled
    · exact (steady.pending _).trans idle

theorem exists_awaits (schedules : solo.Schedules) (pending : solo.pending time ≠ 0) :
    ∃ schedule, solo.Awaits schedule time := by
  induction time with
  | zero => exact absurd schedules.1 pending
  | succ time ih =>
    by_cases idle : solo.pending time = 0
    · have scheduled : solo.actions[time]? = some (.change Scripted.panicNext) :=
        Classical.byContradiction fun unscheduled => pending (pending_succ schedules idle unscheduled)
      refine ⟨time, Nat.lt_succ_self time, scheduled, fun moment after within => ?_⟩
      rwa [Nat.le_antisymm within after]
    · obtain ⟨schedule, before, scheduled, awaiting⟩ := ih idle
      refine ⟨schedule, Nat.lt_succ_of_lt before, scheduled, fun moment after within => ?_⟩
      rcases Nat.le_succ_iff.1 within with earlier | rfl
      · exact awaiting moment after earlier
      · exact pending

section Without

variable (solo schedule time)

private theorem without_getElem?_of_lt {moment : Nat} (before : schedule < time) (earlier : moment < schedule) :
    solo.actions[moment]? = (solo.without schedule time).actions[moment]? := by
  rw [without, List.getElem?_eraseIdx_of_lt earlier,
    List.getElem?_eraseIdx_of_lt (Nat.lt_trans earlier before)]

private theorem without_getElem?_of_between {moment : Nat} (after : schedule ≤ moment) (earlier : moment + 1 < time) :
    solo.actions[moment + 1]? = (solo.without schedule time).actions[moment]? := by
  rw [without, List.getElem?_eraseIdx_of_ge after, List.getElem?_eraseIdx_of_lt earlier]

private theorem without_getElem?_of_ge {moment : Nat} (before : schedule < time) (later : time ≤ moment + 1) :
    solo.actions[moment + 2]? = (solo.without schedule time).actions[moment]? := by
  rw [without, List.getElem?_eraseIdx_of_ge (by omega), List.getElem?_eraseIdx_of_ge later]

end Without

namespace Awaits

private theorem session_schedule (awaits : solo.Awaits schedule time) :
    solo.session schedule = (solo.without schedule time).session schedule :=
  session_eq_of_acts rfl fun _ earlier => solo.without_getElem?_of_lt schedule time awaits.before earlier

theorem observation_of_lt (awaits : solo.Awaits schedule time) {earlier : Nat} (before : earlier < schedule) :
    solo.observations[earlier]? = (solo.without schedule time).observations[earlier]? :=
  observation_eq_of_acts rfl fun _ within =>
    solo.without_getElem?_of_lt schedule time awaits.before (Nat.lt_of_le_of_lt within before)

private theorem session_scheduled (awaits : solo.Awaits schedule time) :
    solo.session (schedule + 1) = ((solo.without schedule time).session schedule).owing := by
  rw [session_succ, awaits.scheduled, awaits.session_schedule]
  rfl

/-- Until the panic takes place, one more is pending than without it, and a load panics either way. -/
theorem inStep_owing (awaits : solo.Awaits schedule time) (schedules : solo.Schedules) {moment : Nat}
    (after : schedule ≤ moment) (before : moment + 1 < time) :
    InStep solo (solo.without schedule time) Session.owing id 1 moment := by
  have acts := solo.without_getElem?_of_between schedule time after before
  refine ⟨acts, fun same action acting => ?_⟩
  have member : action ∈ solo.actions := List.mem_of_getElem? (acts.trans acting)
  refine Session.observed_owing ?_ ?_ ?_
  · rintro callers rfl
    exact solo.alone callers member
  · rintro update rfl source
    rcases schedules.2 update member with rfl | steady
    · rfl
    · exact steady.heedless source
  · rintro rfl empty
    have loads : solo.Loads (moment + 1) := by
      refine ⟨acts.trans acting, ?_⟩
      rw [provider, same]
      exact empty
    -- This load panics and uses up one panic. Since one is pending even then, it panics without the other.
    have still := awaits.pending (moment + 2) (by omega) before
    rw [SoloSession.pending, provider_of_loads loads, provider, same, Session.owing,
      Provider.source_loadAnew_panicNext] at still
    exact still

theorem session_owing (awaits : solo.Awaits schedule time) (schedules : solo.Schedules) {moment : Nat}
    (after : schedule ≤ moment) (before : moment < time) :
    solo.session (moment + 1) = ((solo.without schedule time).session moment).owing :=
  InStep.session_eq awaits.session_scheduled after fun _ beyond earlier =>
    awaits.inStep_owing schedules beyond (by omega)

theorem observation_of_between (awaits : solo.Awaits schedule time) (schedules : solo.Schedules) {moment : Nat}
    (after : schedule ≤ moment) (before : moment + 1 < time) :
    solo.observations[moment + 1]? = (solo.without schedule time).observations[moment]? := by
  have same := awaits.session_owing schedules after (Nat.lt_of_succ_lt before)
  rw [(awaits.inStep_owing schedules after before).observation same, Option.map_id]
  rfl

/-- The panic uses up what was pending for it, and its load is the extra one from then on. -/
theorem session_panicked {last : Nat} (awaits : solo.Awaits schedule (last + 1)) (schedules : solo.Schedules)
    (panics : solo.Gets (last + 1) none) :
    solo.session (last + 2) = ((solo.without schedule (last + 1)).session last).ahead
      (((solo.without schedule (last + 1)).provider last).loads + 1) := by
  have same := awaits.session_owing schedules (Nat.le_of_lt_succ awaits.before) (Nat.lt_succ_self last)
  have spared : solo.spared (last + 1) = (solo.without schedule (last + 1)).session last := by
    rw [SoloSession.spared, provider, same]
    rfl
  have loads : (solo.provider (last + 1)).loads = ((solo.without schedule (last + 1)).provider last).loads := by
    rw [provider, same]
    rfl
  rw [session_of_panics panics, spared, loads]

theorem observation_of_ge (awaits : solo.Awaits schedule time) (schedules : solo.Schedules)
    (panics : solo.Gets time none) {later : Nat} (after : time ≤ later + 1) :
    solo.observations[later + 2]? =
      (solo.without schedule time).observations[later]?.map (.ahead solo.config.resourceName) := by
  obtain ⟨last, rfl⟩ := Nat.exists_eq_succ_of_ne_zero (Nat.ne_zero_of_lt awaits.before)
  have acts (moment : Nat) (past : last ≤ moment) :=
    solo.without_getElem?_of_ge schedule (last + 1) awaits.before (Nat.succ_le_succ past)
  exact observation_of_ahead 2 (awaits.session_panicked schedules panics) (Nat.le_refl _) acts
    (Nat.le_of_succ_le_succ after)

end Awaits

/-- A load that panics finds and leaves an empty cache, is counted, opens the resource once, and records
only its beginning. Without it, or without it and the order for its panic, the rest of the session is
seen as before, but for that count and that name. The lock is poisoned by it, and nothing tells of that. -/
theorem panics_leave_no_trace [ResourceSource σ] (solo : SoloSession σ) (scripted : SoloSession Scripted)
    (schedules : scripted.Schedules) :
    (∀ time, solo.Gets time none ↔ solo.Loads time ∧ solo.opening time = .panicked) ∧
    (∀ time, solo.Gets time none → solo.Vanishes time ∧
      (∀ earlier < time, solo.observations[earlier]? = (solo.sparing time).observations[earlier]?) ∧
      ∀ later > time, solo.observations[later]? =
        (solo.sparing time).observations[later]?.map (.ahead solo.config.resourceName)) ∧
    (∀ time, scripted.Gets time none → ∃ schedule, scripted.Awaits schedule time) ∧
    (∀ schedule time, scripted.Gets time none → scripted.Awaits schedule time →
      (∀ earlier < schedule,
        scripted.observations[earlier]? = (scripted.without schedule time).observations[earlier]?) ∧
      (∀ moment, schedule ≤ moment → moment + 1 < time →
        scripted.observations[moment + 1]? = (scripted.without schedule time).observations[moment]?) ∧
      ∀ later, time ≤ later + 1 → scripted.observations[later + 2]? =
        (scripted.without schedule time).observations[later]?.map (.ahead scripted.config.resourceName)) ∧
    (∀ time, ((solo.locked time).cache.poisoned = true ↔ ∃ earlier < time, solo.Gets earlier none) ∧
      (solo.locked time).BehavesAs (solo.provider time)) := by
  refine ⟨?_, ?_, ?_, ?_, ?_⟩
  · intro time
    exact gets_none_iff_panicked
  · intro time panics
    refine ⟨vanishes_of_panics panics, ?_, ?_⟩
    · intro earlier before
      exact solo.observations_sparing_of_lt time before
    · intro later after
      exact observations_sparing_of_gt panics after
  · intro time panics
    exact exists_awaits schedules (pending_of_panics panics)
  · intro schedule time panics awaits
    refine ⟨?_, ?_, ?_⟩
    · intro earlier before
      exact awaits.observation_of_lt before
    · intro moment after before
      exact awaits.observation_of_between schedules after before
    · intro later after
      exact awaits.observation_of_ge schedules panics after
  · intro time
    exact ⟨solo.poisoned_locked_iff time, solo.behavesAs_locked time⟩

/-- Two panics are scheduled while a store is cached. Both take place after the reset, and the store is
loaded again, before it is removed, put back and out of reach. -/
def stumbling : SoloSession Scripted where
  config := { resource := some "roots", accessToken := some "secret" }
  source := Scripted.put "roots" [.delivered (identity.toDraft.encode "secret")] {}
  actions :=
    [.get, .change Scripted.panicNext, .change Scripted.panicNext, .reset, .get, .get, .get,
      .change (Scripted.remove "roots"), .change (Scripted.put "roots" []), .change (Scripted.switch false),
      .reset, .get]
  alone := by simp

theorem panics_leave_no_trace_stumbling :
    (stumbling.Loads 5 ∧ stumbling.opening 5 = .panicked) ∧
    (stumbling.Vanishes 5 ∧ stumbling.observations[6]? =
      (stumbling.sparing 5).observations[6]?.map (.ahead "roots")) ∧
    (∃ schedule, stumbling.Awaits schedule 5) ∧
    (stumbling.observations[0]? = (stumbling.without 1 5).observations[0]? ∧
      stumbling.observations[4]? = (stumbling.without 1 5).observations[3]? ∧
      stumbling.observations[11]? = (stumbling.without 1 5).observations[9]?.map (.ahead "roots")) ∧
    (stumbling.locked 6).cache.poisoned = true ∧
    (stumbling.locked 6).BehavesAs (stumbling.provider 6) := by
  have panics : stumbling.Gets 5 none := ⟨rfl, by decide +kernel⟩
  have schedules : stumbling.Schedules := by
    refine ⟨rfl, fun update member => ?_⟩
    have either : update = Scripted.panicNext ∨ update = Scripted.remove "roots" ∨
        update = Scripted.put "roots" [] ∨ update = Scripted.switch false := by
      simpa [stumbling] using member
    rcases either with rfl | rfl | rfl | rfl
    · exact .inl rfl
    · exact .inr (Scripted.steady_remove "roots")
    · exact .inr (Scripted.steady_put "roots" [])
    · exact .inr (Scripted.steady_switch false)
  have pending : ∀ moment < 6, 1 < moment → stumbling.pending moment ≠ 0 := by decide +kernel
  have awaits : stumbling.Awaits 1 5 :=
    ⟨by decide, rfl, fun moment after within => pending moment (Nat.lt_succ_of_le within) after⟩
  obtain ⟨panicked, traceless, awaited, deleted, unmarked⟩ :=
    panics_leave_no_trace stumbling stumbling schedules
  obtain ⟨vanishes, _, spared⟩ := traceless 5 panics
  obtain ⟨before, between, after⟩ := deleted 1 5 panics awaits
  obtain ⟨poisoned, behaves⟩ := unmarked 6
  refine ⟨(panicked 5).1 panics, ⟨vanishes, spared 6 (by decide)⟩, awaited 5 panics, ⟨?_, ?_, ?_⟩,
    poisoned.2 ⟨5, by decide, panics⟩, behaves⟩
  · exact before 0 (by decide)
  · exact between 3 (by decide) (by decide)
  · exact after 9 (by decide)

end SoloSession

end TrustRoots
