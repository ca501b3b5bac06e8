import TrustRoots.Proofs.CallerTransitions

/-! However callers and resets interleave, loads exclude each other, every load is accounted for
by what became of its outcome, and a caller gets what one load has put into the cache. -/

namespace TrustRoots

namespace Callers

def initial : Callers where
  cache := none
  loads := 0
  writer := none
  phases := []

def loadsInProgress (state : Callers) : Nat :=
  state.phases.countP Phase.inLoad

def clears (state : Callers) : Move → Bool
  | .reset => state.cache.isSome
  | _ => false

end Callers

def Move.panics : Move → Bool
  | .finish _ .panicked => true
  | _ => false

namespace Callers

/-- The lock is held by one caller at most, which either looks again or loads. A load is only
in progress while the cache is empty. Every other load has left its outcome in the cache, or
lost it to a reset, or panicked. -/
structure Accounted (cleared panicked : Nat) (state : Callers) : Prop where
  lock : state.phases.countP Phase.rechecks + state.loadsInProgress = state.writer.isSome.toNat
  room : state.cache.isSome.toNat + state.loadsInProgress ≤ 1
  loads : state.loads = cleared + panicked + (state.cache.isSome.toNat + state.loadsInProgress)

theorem accounted_initial : Accounted 0 0 initial := ⟨rfl, by decide, rfl⟩

theorem Accounted.loads_eq {cleared panicked : Nat} {state : Callers}
    (accounted : Accounted cleared panicked state) :
    state.loads = cleared + panicked +
      if state.cache.isSome ∨ 0 < state.loadsInProgress then 1 else 0 := by
  obtain ⟨_, room, loads⟩ := accounted
  rw [loads]
  cases cached : state.cache.isSome with
  | true =>
    rw [cached, Bool.toNat_true] at room
    rw [if_pos (.inl rfl), Bool.toNat_true]
    omega
  | false =>
    rw [cached, Bool.toNat_false] at room
    rw [Bool.toNat_false]
    by_cases loading : 0 < state.loadsInProgress
    · rw [if_pos (.inr loading)]
      omega
    · rw [if_neg (not_or_intro Bool.false_ne_true loading)]
      omega

private theorem Accounted.locked {cleared panicked caller : Nat} {state : Callers} {phase : Phase}
    (accounted : Accounted cleared panicked state) (found : state.phases[caller]? = some phase)
    (holds : 1 ≤ phase.rechecks.toNat + phase.inLoad.toNat) : state.writer.isSome.toNat = 1 := by
  have rechecks := countP_enter found .panicked Phase.rechecks
  have loads := countP_enter found .panicked Phase.inLoad
  have lock := accounted.lock
  have most := Bool.toNat_le state.writer.isSome
  rw [loadsInProgress] at lock
  rw [show Phase.panicked.rechecks = false from rfl, Bool.toNat_false] at rechecks
  rw [show Phase.panicked.inLoad = false from rfl, Bool.toNat_false] at loads
  omega

theorem Accounted.cache_eq_none {cleared panicked caller : Nat} {state : Callers} {phase : Phase}
    (accounted : Accounted cleared panicked state) (found : state.phases[caller]? = some phase)
    (loading : phase.inLoad = true) : state.cache = none := by
  have loads : 0 < state.loadsInProgress :=
    List.countP_pos_iff.2 ⟨phase, List.mem_of_getElem? found, loading⟩
  have room := accounted.room
  cases cached : state.cache with
  | none => rfl
  | some outcome =>
    rw [cached, Option.isSome_some, Bool.toNat_true] at room
    omega

/-- A caller's step keeps the accounts if it keeps them as far as this caller is concerned. -/
private theorem accounted_enter {before after : Callers} {caller cleared panicked panics : Nat}
    {left entered : Phase} (accounted : Accounted cleared panicked before)
    (found : before.phases[caller]? = some left) (moved : after.phases = (before.enter caller entered).phases)
    (lock : before.writer.isSome.toNat + entered.rechecks.toNat + entered.inLoad.toNat =
      after.writer.isSome.toNat + left.rechecks.toNat + left.inLoad.toNat)
    (room : after.cache.isSome.toNat + entered.inLoad.toNat ≤ before.cache.isSome.toNat + left.inLoad.toNat)
    (loads : after.loads + (before.cache.isSome.toNat + left.inLoad.toNat) =
      before.loads + panics + (after.cache.isSome.toNat + entered.inLoad.toNat)) :
    Accounted cleared (panicked + panics) after := by
  have rechecking := countP_enter found entered Phase.rechecks
  have loading := countP_enter found entered Phase.inLoad
  rw [← moved] at rechecking loading
  obtain ⟨lockBefore, roomBefore, loadsBefore⟩ := accounted
  rw [loadsInProgress] at lockBefore roomBefore loadsBefore
  refine ⟨?_, ?_, ?_⟩
  all_goals
    rw [loadsInProgress]
    omega

/-- The load that a caller begins is the only one, since the caller alone has the lock. -/
private theorem accounted_load {before : Callers} {caller cleared panicked : Nat}
    (accounted : Accounted cleared panicked before) (holding : before.phases[caller]? = some .holding)
    (empty : before.cache = none) :
    Accounted cleared panicked { before.enter caller .loading with loads := before.loads + 1 } := by
  have locked := accounted.locked holding (Nat.le_refl 1)
  obtain ⟨lock, _, loads⟩ := accounted
  have rechecking : (before.enter caller .loading).phases.countP Phase.rechecks + 1 =
      before.phases.countP Phase.rechecks + 0 := countP_enter holding .loading Phase.rechecks
  have loading : (before.enter caller .loading).loadsInProgress + 0 = before.loadsInProgress + 1 :=
    countP_enter holding .loading Phase.inLoad
  have none : before.cache.isSome.toNat = 0 := by rw [empty]; rfl
  refine ⟨?_, ?_, ?_⟩
  · change (before.enter caller .loading).phases.countP Phase.rechecks +
      (before.enter caller .loading).loadsInProgress = before.writer.isSome.toNat
    omega
  · change before.cache.isSome.toNat + (before.enter caller .loading).loadsInProgress ≤ 1
    omega
  · change before.loads + 1 =
      cleared + panicked + (before.cache.isSome.toNat + (before.enter caller .loading).loadsInProgress)
    omega

theorem Transition.accounted {before after : Callers} {move : Move} {cleared panicked : Nat}
    (taken : Transition before move after) (accounted : Accounted cleared panicked before) :
    Accounted (cleared + (before.clears move).toNat) (panicked + move.panics.toNat) after := by
  cases taken with
  | arrive =>
    obtain ⟨lock, room, loads⟩ := accounted
    have unmoved (counts : Phase → Bool) (uncounted : counts .arriving = false) :
        (before.phases ++ [Phase.arriving]).countP counts = before.phases.countP counts := by
      rw [List.countP_append, List.countP_singleton, uncounted]
      rfl
    refine ⟨?_, ?_, ?_⟩
    all_goals rw [loadsInProgress, unmoved Phase.inLoad rfl]
    · rw [unmoved Phase.rechecks rfl]
      exact lock
    · exact room
    · exact loads
  | hit arriving free cached => exact accounted_enter accounted arriving rfl rfl (Nat.le_refl _) rfl
  | miss arriving free empty => exact accounted_enter accounted arriving rfl rfl (Nat.le_refl _) rfl
  | lock waiting free =>
    refine accounted_enter accounted waiting rfl ?_ (Nat.le_refl _) rfl
    rw [free]
    rfl
  | share holding cached =>
    have locked := accounted.locked holding (Nat.le_refl 1)
    exact accounted_enter accounted holding rfl locked (Nat.le_refl _) rfl
  | load holding empty => exact accounted_load accounted holding empty
  | @finish caller attempt outcome loading finished =>
    have ended : (Move.finish caller attempt).panics = false := by
      cases attempt with
      | finished result => rfl
      | panicked => cases finished
    rw [ended]
    exact accounted_enter accounted loading rfl rfl (Nat.le_refl _) rfl
  | panic loading =>
    have locked := accounted.locked loading (Nat.le_refl 1)
    exact accounted_enter accounted loading rfl locked (Nat.le_succ _) (Nat.add_right_comm _ _ 1)
  | store storing =>
    have locked := accounted.locked storing (Nat.le_refl 1)
    have empty := accounted.cache_eq_none storing rfl
    refine accounted_enter accounted storing rfl locked ?_ ?_
    · rw [empty]
      exact Nat.le_refl 1
    · rw [empty]
      rfl
  | reset free =>
    obtain ⟨lock, room, loads⟩ := accounted
    rw [free] at lock
    have idle : before.loadsInProgress = 0 := (Nat.add_eq_zero_iff.1 lock).2
    refine ⟨?_, ?_, ?_⟩
    · rw [free]
      exact lock
    · exact Nat.le_trans (Nat.le_of_eq (Nat.zero_add _)) (Nat.le_of_add_left_le room)
    · change before.loads = cleared + before.cache.isSome.toNat + panicked + (0 + before.loadsInProgress)
      omega

end Callers

end TrustRoots
