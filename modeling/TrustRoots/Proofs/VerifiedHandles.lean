import TrustRoots.Proofs.CacheLifetime
import TrustRoots.Proofs.CallerTransitions
import TrustRoots.Proofs.LoadVerdict

/-! Nothing unverified is trusted. A handle that a request gives was made by a load of the session,
from bytes that the configured resource delivered to the end and that passed every check. It stays
what it was, whatever becomes of the cache and of the source. -/

namespace TrustRoots

namespace Attempt
variable {load : Nat} {attempt : Attempt}

private theorem outcome?_eq_loaded_iff {handle : Handle} :
    attempt.outcome? load = some (.loaded handle) ↔
      handle.load = load ∧ attempt = .finished (.ok handle.store) := by
  refine ⟨?_, ?_⟩
  · intro loaded
    refine ⟨load_of_outcome? loaded, ?_⟩
    cases attempt with
    | finished result => cases result <;> cases loaded; rfl
    | panicked => cases loaded
  · rintro ⟨rfl, rfl⟩
    rfl

private theorem outcome?_eq_failed_iff {error : TrustStoreError} :
    attempt.outcome? load = some (.failed error) ↔ attempt = .finished (.error error) := by
  refine ⟨?_, ?_⟩
  · intro failed
    cases attempt with
    | finished result => cases result <;> cases failed; rfl
    | panicked => cases failed
  · rintro rfl
    rfl

end Attempt

namespace SoloSession

variable [ResourceSource σ] (solo : SoloSession σ)

/-- A request at this time finds nothing in the cache, so that it loads. -/
def Loads (time : Nat) : Prop :=
  solo.actions[time]? = some .get ∧ (solo.provider time).cache = none

/-- What the source makes of the configured resource at this time. -/
def opening (time : Nat) : Opening :=
  (ResourceSource.openResource solo.config.resourceName (solo.provider time).source.source).1

/-- The load at this time has opened the configured resource and made the handle from all bytes
that it delivered. -/
structure Makes (load : Nat) (handle : Handle) : Prop where
  loads : solo.Loads load
  gives : solo.Gets load (some (.loaded handle))
  counted : handle.load = (solo.provider load).loads + 1
  opens : (solo.provider (load + 1)).source.opened =
    (solo.provider load).source.opened ++ [solo.config.resourceName]
  verified : ∃ bytes, (solo.opening load).Delivers bytes ∧ handle.store.Verified solo.config bytes

variable {solo}

theorem provider_of_loads {time : Nat} (loads : solo.Loads time) :
    solo.provider (time + 1) = (solo.provider time).loadAnew.value.2 := by
  have turn := solo.turn time
  rw [loads.1] at turn
  generalize solo.provider (time + 1) = after at turn ⊢
  cases turn with
  | replay cached => cases loads.2.symm.trans cached
  | load empty => rfl

theorem gets_iff_of_loads {time : Nat} (loads : solo.Loads time) (outcome : Option Outcome) :
    solo.Gets time outcome ↔
      (solo.config.attempt (solo.provider time).source).value.1.outcome? ((solo.provider time).loads + 1) =
        outcome := by
  have trial : (solo.provider time).get.value.1 = (solo.provider time).trial := by
    rw [Provider.get_of_empty loads.2, Provider.loadAnew_value]
  rw [Gets, trial, Provider.trial, solo.provider_config time]
  exact and_iff_right loads.1

theorem gets_loaded_iff {time : Nat} (loads : solo.Loads time) (handle : Handle) :
    solo.Gets time (some (.loaded handle)) ↔
      handle.load = (solo.provider time).loads + 1 ∧
        ∃ bytes, (solo.opening time).Delivers bytes ∧ handle.store.Verified solo.config bytes := by
  rw [gets_iff_of_loads loads, Attempt.outcome?_eq_loaded_iff]
  exact and_congr_right' Config.attempt_ok_iff

theorem gets_failed_iff {time : Nat} (loads : solo.Loads time) (error : TrustStoreError) :
    solo.Gets time (some (.failed error)) ↔ (solo.opening time).Fails solo.config error := by
  rw [gets_iff_of_loads loads, Attempt.outcome?_eq_failed_iff]
  exact Config.attempt_error_iff

theorem gets_none_iff {time : Nat} (loads : solo.Loads time) :
    solo.Gets time none ↔ solo.opening time = .panicked := by
  rw [gets_iff_of_loads loads, Attempt.outcome?_eq_none_iff]
  exact Config.attempt_panicked_iff

private theorem makes_of_loads {time : Nat} {handle : Handle} (loads : solo.Loads time)
    (gives : solo.Gets time (some (.loaded handle))) : solo.Makes time handle := by
  obtain ⟨counted, verified⟩ := (gets_loaded_iff loads handle).1 gives
  have opens := Config.opened_attempt solo.config (solo.provider time).source
  rw [← solo.provider_config time] at opens
  refine ⟨loads, gives, counted, ?_, verified⟩
  rw [provider_of_loads loads, Provider.loadAnew_value, ← solo.provider_config time]
  exact opens

private theorem makes_before_succ {time : Nat} {handle : Handle} (made : ∃ load < time, solo.Makes load handle) :
    ∃ load < time + 1, solo.Makes load handle := by
  obtain ⟨load, before, makes⟩ := made
  exact ⟨load, Nat.lt_succ_of_lt before, makes⟩

/-- What is in the cache was made, since only a load puts anything there. -/
private theorem makes_of_cached {time : Nat} {handle : Handle}
    (cached : (solo.provider time).cache = some (.loaded handle)) : ∃ load < time, solo.Makes load handle := by
  induction time with
  | zero => cases cached
  | succ time ih =>
    have turn := solo.turn time
    generalize acting : solo.actions[time]? = action at turn
    generalize solo.provider (time + 1) = next at turn cached
    cases turn with
    | replay | change | idle => exact makes_before_succ (ih cached)
    | load empty =>
      have gives : solo.Gets time (some (.loaded handle)) := by
        refine ⟨acting, ?_⟩
        rw [Provider.get_of_empty empty]
        exact cached
      exact ⟨time, Nat.lt_succ_self time, makes_of_loads ⟨acting, empty⟩ gives⟩
    | reset => cases cached

theorem makes_of_gets {time : Nat} {handle : Handle} (gets : solo.Gets time (some (.loaded handle))) :
    ∃ load ≤ time, solo.Makes load handle := by
  obtain ⟨load, before, makes⟩ := makes_of_cached (cache_of_gets gets)
  exact ⟨load, Nat.le_of_lt_succ before, makes⟩

theorem makes_of_mem_handles {time : Nat} {handle : Handle} (seen : handle ∈ (solo.session time).handles) :
    ∃ load < time, solo.Makes load handle := by
  induction time with
  | zero => cases seen
  | succ time ih =>
    rcases solo.handles_succ time with same | ⟨outcome, gets, shown⟩
    · rw [same] at seen
      exact makes_before_succ (ih seen)
    · rw [shown] at seen
      rcases Session.mem_of_mem_see seen with known | rfl
      · exact makes_before_succ (ih known)
      · obtain ⟨load, within, makes⟩ := makes_of_gets gets
        exact ⟨load, Nat.lt_succ_of_le within, makes⟩

private theorem Makes.load_lt {first second : Nat} {one other : Handle} (makes : solo.Makes first one)
    (remakes : solo.Makes second other) (later : first < second) : one.load < other.load := by
  have counts : (solo.provider (first + 1)).loads = (solo.provider first).loads + 1 := by
    rw [provider_of_loads makes.loads, Provider.loadAnew_value]
  have grown := solo.loads_mono (show first + 1 ≤ second from later)
  rw [makes.counted, remakes.counted]
  omega

theorem Makes.unique {first second : Nat} {one other : Handle} (makes : solo.Makes first one)
    (remakes : solo.Makes second other) (same : one.load = other.load) : one = other := by
  rcases Nat.lt_trichotomy first second with sooner | rfl | later
  · exact absurd same (Nat.ne_of_lt (makes.load_lt remakes sooner))
  · exact Outcome.loaded.inj (Option.some.inj (makes.gives.2.symm.trans remakes.gives.2))
  · exact absurd same.symm (Nat.ne_of_lt (remakes.load_lt makes later))

theorem handle_of_sees {time later number : Nat} {store : TrustStore}
    (sees : solo.Sees time (.loaded number store)) (after : time < later) :
    ∃ handle, solo.Gets time (some (.loaded handle)) ∧ handle.store = store ∧
      (solo.session later).handles[number]? = some handle := by
  obtain ⟨handle, gets, stored, shown⟩ := gets_of_sees sees
  rw [numbered, List.getElem?_map, Option.map_eq_some_iff] at shown
  obtain ⟨held, found, same⟩ := shown
  obtain ⟨load, _, makes⟩ := makes_of_gets gets
  obtain ⟨reload, _, remakes⟩ := makes_of_mem_handles (List.mem_of_getElem? found)
  cases remakes.unique makes same
  obtain ⟨inside, _⟩ := List.getElem?_eq_some_iff.1 found
  have kept := List.prefix_iff_getElem?.1 (solo.handles_prefix after) number inside
  exact ⟨_, gets, stored, kept.trans (List.getElem?_eq_getElem inside ▸ found)⟩

/-- Every handle that a request gives was made by a load of the session, and the number under
which it is seen stands for the same handle at every later time. A load that does not panic fails
exactly for a resource that is not there, cannot be read to its end, does not decode, or holds a
trusted certificate that is no anchor. -/
theorem handles_are_verified (solo : SoloSession σ) :
    (∀ time handle, solo.Gets time (some (.loaded handle)) → ∃ load ≤ time, solo.Makes load handle) ∧
    (∀ time later number store, solo.Sees time (.loaded number store) → time < later →
      ∃ handle, (solo.session later).handles[number]? = some handle ∧ handle.store = store ∧
        ∃ load ≤ time, solo.Makes load handle) ∧
    (∀ time error, solo.Loads time →
      (solo.Gets time (some (.failed error)) ↔ (solo.opening time).Fails solo.config error)) ∧
    (∀ time, solo.Loads time → (solo.Gets time none ↔ solo.opening time = .panicked)) := by
  refine ⟨?_, ?_, ?_, ?_⟩
  · intro time handle gets
    exact makes_of_gets gets
  · intro time later number store sees after
    obtain ⟨handle, gets, stored, kept⟩ := handle_of_sees sees after
    exact ⟨handle, kept, stored, makes_of_gets gets⟩
  · intro time error loads
    exact gets_failed_iff loads error
  · intro time loads
    exact gets_none_iff loads

/-- A certificate in which every part is there and empty. -/
def emptyCertificate : Bytes :=
  [0x30, 0x13, 0x30, 0x0c, 0x02, 0x00, 0x30, 0x00, 0x30, 0x00, 0x30, 0x00, 0x30, 0x00, 0x30, 0x00,
    0x30, 0x00, 0x03, 0x01, 0x00]

def identity : KeyStore where
  version := .v2
  entries := [.privateKey ⟨"key", draftMillis, [7], []⟩, .trusted ⟨"root", draftMillis, emptyCertificate⟩]

/-- A store is loaded and outlives its container, which is then missing and at last panics. -/
def revoked : SoloSession Scripted where
  config := { resource := some " roots", accessToken := some "secret" }
  source := Scripted.put "roots" [.delivered (identity.toDraft.encode "secret")] {}
  actions :=
    [.get, .change (Scripted.remove "roots"), .reset, .get, .reset, .change Scripted.panicNext, .get]
  alone := by simp

theorem handles_are_verified_revoked :
    (∃ load ≤ 0, revoked.Makes load ⟨1, "roots", identity, [⟨[], [], none⟩]⟩) ∧
    (∃ handle, (revoked.session 7).handles[0]? = some handle ∧
      handle.store = ⟨"roots", identity, [⟨[], [], none⟩]⟩ ∧ ∃ load ≤ 0, revoked.Makes load handle) ∧
    (revoked.opening 3).Fails revoked.config (.resourceUnavailable "roots" "roots is not bundled") ∧
    revoked.opening 6 = .panicked := by
  have loaded : revoked.Gets 0 (some (.loaded ⟨1, "roots", identity, [⟨[], [], none⟩]⟩)) :=
    ⟨rfl, by decide +kernel⟩
  have shown : revoked.Sees 0 (.loaded 0 ⟨"roots", identity, [⟨[], [], none⟩]⟩)  := sees_of_gets loaded
  have refused : revoked.Gets 3 (some (.failed (.resourceUnavailable "roots" "roots is not bundled"))) :=
    ⟨rfl, by decide +kernel⟩
  have panicked : revoked.Gets 6 none := ⟨rfl, by decide +kernel⟩
  obtain ⟨made, kept, failed, fell⟩ := handles_are_verified revoked
  refine ⟨made 0 _ loaded, kept 0 7 0 _ shown (by decide), ?_, ?_⟩
  · exact (failed 3 _ ⟨rfl, by decide +kernel⟩).1 refused
  · exact (fell 6 ⟨rfl, by decide +kernel⟩).1 panicked

end SoloSession

end TrustRoots
