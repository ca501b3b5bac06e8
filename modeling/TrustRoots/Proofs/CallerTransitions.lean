import TrustRoots.Provider.Callers

/-! The steps of concurrent callers as a relation, one rule for each way in which a step can go.
The rules are those of the step function. What a step can change is said here once: the number
of callers in a phase, the cache, and who enters a phase that matters later. -/

namespace TrustRoots

theorem Attempt.outcome?_eq_none_iff {load : Nat} {attempt : Attempt} :
    attempt.outcome? load = none ↔ attempt = .panicked := by
  cases attempt with
  | finished result => cases result <;> simp [outcome?]
  | panicked => simp [outcome?]

namespace Phase

def rechecks : Phase → Bool
  | holding => true
  | _ => false

/-- A load has begun and has neither panicked nor been stored. -/
def inLoad : Phase → Bool
  | loading | storing _ => true
  | _ => false

end Phase

namespace Callers

inductive Transition (before : Callers) : Move → Callers → Prop where
  | arrive : Transition before .arrive { before with phases := before.phases ++ [.arriving] }
  | hit {caller outcome} (arriving : before.phases[caller]? = some .arriving)
      (free : before.writer = none) (cached : before.cache = some outcome) :
      Transition before (.look caller) (before.enter caller (.returned outcome))
  | miss {caller} (arriving : before.phases[caller]? = some .arriving)
      (free : before.writer = none) (empty : before.cache = none) :
      Transition before (.look caller) (before.enter caller .waiting)
  | lock {caller} (waiting : before.phases[caller]? = some .waiting) (free : before.writer = none) :
      Transition before (.lock caller) { before.enter caller .holding with writer := some caller }
  | share {caller outcome} (holding : before.phases[caller]? = some .holding)
      (cached : before.cache = some outcome) :
      Transition before (.recheck caller) (before.enter caller (.returned outcome)).release
  | load {caller} (holding : before.phases[caller]? = some .holding) (empty : before.cache = none) :
      Transition before (.recheck caller) { before.enter caller .loading with loads := before.loads + 1 }
  | finish {caller attempt outcome} (loading : before.phases[caller]? = some .loading)
      (finished : attempt.outcome? before.loads = some outcome) :
      Transition before (.finish caller attempt) (before.enter caller (.storing outcome))
  | panic {caller} (loading : before.phases[caller]? = some .loading) :
      Transition before (.finish caller .panicked) (before.enter caller .panicked).release
  | store {caller outcome} (storing : before.phases[caller]? = some (.storing outcome)) :
      Transition before (.store caller)
        { (before.enter caller (.returned outcome)).release with cache := some outcome }
  | reset (free : before.writer = none) : Transition before .reset { before with cache := none }

theorem transition_of_step? {before after : Callers} {move : Move} (taken : before.step? move = some after) :
    Transition before move after := by
  cases move with
  | arrive => cases taken; exact .arrive
  | look caller =>
    simp only [step?] at taken
    split at taken
    next arriving free cached => cases taken; exact .hit arriving free cached
    next arriving free empty => cases taken; exact .miss arriving free empty
    next => cases taken
  | lock caller =>
    simp only [step?] at taken
    split at taken
    next waiting free => cases taken; exact .lock waiting free
    next => cases taken
  | recheck caller =>
    simp only [step?] at taken
    split at taken
    next holding cached => cases taken; exact .share holding cached
    next holding empty => cases taken; exact .load holding empty
    next => cases taken
  | finish caller attempt =>
    simp only [step?] at taken
    split at taken
    next loading finished => cases taken; exact .finish loading finished
    next loading unfinished =>
      cases Attempt.outcome?_eq_none_iff.1 unfinished
      cases taken
      exact .panic loading
    next => cases taken
  | store caller =>
    simp only [step?] at taken
    split at taken
    next storing => cases taken; exact .store storing
    next => cases taken
  | reset =>
    simp only [step?] at taken
    split at taken
    next free => cases taken; exact .reset free
    next => cases taken

theorem step?_of_transition {before after : Callers} {move : Move} (taken : Transition before move after) :
    before.step? move = some after := by
  cases taken with
  | arrive => rfl
  | hit arriving free cached => simp only [step?, arriving, free, cached]
  | miss arriving free empty => simp only [step?, arriving, free, empty]
  | lock waiting free => simp only [step?, waiting, free]
  | share holding cached => simp only [step?, holding, cached]
  | load holding empty => simp only [step?, holding, empty]
  | finish loading finished => simp only [step?, loading, finished]
  | panic loading => simp only [step?, loading, Attempt.outcome?]
  | store storing => simp only [step?, storing]
  | reset free => simp only [step?, free]

theorem transition_iff {before after : Callers} {move : Move} :
    before.step? move = some after ↔ Transition before move after :=
  ⟨transition_of_step?, step?_of_transition⟩

variable {before after : Callers} {move : Move}

@[simp] theorem enter_cache (caller : Nat) (phase : Phase) : (before.enter caller phase).cache = before.cache := rfl

@[simp] theorem enter_loads (caller : Nat) (phase : Phase) : (before.enter caller phase).loads = before.loads := rfl

@[simp] theorem enter_writer (caller : Nat) (phase : Phase) : (before.enter caller phase).writer = before.writer := rfl

@[simp] theorem release_cache : before.release.cache = before.cache := rfl

@[simp] theorem release_loads : before.release.loads = before.loads := rfl

@[simp] theorem release_writer : before.release.writer = none := rfl

@[simp] theorem release_phases : before.release.phases = before.phases := rfl

theorem countP_enter {caller : Nat} {left : Phase} (found : before.phases[caller]? = some left)
    (entered : Phase) (counts : Phase → Bool) :
    (before.enter caller entered).phases.countP counts + (counts left).toNat =
      before.phases.countP counts + (counts entered).toNat := by
  obtain ⟨inside, same⟩ := List.getElem?_eq_some_iff.1 found
  have positive : counts left = true → 0 < before.phases.countP counts := fun counted =>
    List.countP_pos_iff.2 ⟨left, List.mem_of_getElem? found, counted⟩
  rw [enter, List.countP_set inside, same]
  cases counted : counts left
  · cases counts entered <;> rfl
  · have some := positive counted
    cases counts entered
    all_goals
      simp only [if_true, Bool.false_eq_true, if_false, Bool.toNat_true, Bool.toNat_false]
      omega

private theorem lt_of_found {caller : Nat} {phase : Phase} (found : before.phases[caller]? = some phase) :
    caller < before.phases.length :=
  (List.getElem?_eq_some_iff.1 found).1

private theorem phase_enter {caller other : Nat} {left entered phase : Phase}
    (found : before.phases[caller]? = some left)
    (present : (before.enter caller entered).phases[other]? = some phase) :
    before.phases[other]? = some phase ∨ other = caller ∧ phase = entered := by
  have inside := lt_of_found found
  by_cases same : caller = other
  · subst same
    rw [enter, List.getElem?_set_self inside] at present
    cases present
    exact .inr ⟨rfl, rfl⟩
  · rw [enter, List.getElem?_set_ne same] at present
    exact .inl present

/-- How a caller can have come into a phase by a step. An outcome is returned only while it is
in the cache. -/
def Entered (before : Callers) (move : Move) (after : Callers) (caller : Nat) : Phase → Prop
  | .arriving => move = .arrive ∧ before.phases.length = caller
  | .loading => move = .recheck caller ∧ before.cache = none
  | .storing outcome => before.phases[caller]? = some .loading ∧
      ∃ attempt, move = .finish caller attempt ∧ attempt.outcome? before.loads = some outcome
  | .returned outcome => caller < before.phases.length ∧ after.cache = some outcome
  | .waiting | .holding | .panicked => True

theorem Transition.phase (taken : Transition before move after) {caller : Nat} {phase : Phase}
    (present : after.phases[caller]? = some phase) :
    before.phases[caller]? = some phase ∨ Entered before move after caller phase := by
  cases taken with
  | arrive =>
    rcases Nat.lt_trichotomy caller before.phases.length with inside | rfl | outside
    · rw [List.getElem?_append_left inside] at present
      exact .inl present
    · rw [List.getElem?_concat_length] at present
      cases present
      exact .inr ⟨rfl, rfl⟩
    · rw [List.getElem?_eq_none (by simpa using Nat.succ_le_of_lt outside)] at present
      cases present
  | hit arriving free cached =>
    refine (phase_enter arriving present).imp_right ?_
    rintro ⟨rfl, rfl⟩
    exact ⟨lt_of_found arriving, cached⟩
  | miss arriving free empty =>
    refine (phase_enter arriving present).imp_right ?_
    rintro ⟨rfl, rfl⟩
    trivial
  | lock waiting free =>
    refine (phase_enter waiting present).imp_right ?_
    rintro ⟨rfl, rfl⟩
    trivial
  | share holding cached =>
    refine (phase_enter holding present).imp_right ?_
    rintro ⟨rfl, rfl⟩
    exact ⟨lt_of_found holding, cached⟩
  | load holding empty =>
    refine (phase_enter holding present).imp_right ?_
    rintro ⟨rfl, rfl⟩
    exact ⟨rfl, empty⟩
  | finish loading finished =>
    refine (phase_enter loading present).imp_right ?_
    rintro ⟨rfl, rfl⟩
    exact ⟨loading, _, rfl, finished⟩
  | panic loading =>
    refine (phase_enter loading present).imp_right ?_
    rintro ⟨rfl, rfl⟩
    trivial
  | store storing =>
    refine (phase_enter storing present).imp_right ?_
    rintro ⟨rfl, rfl⟩
    exact ⟨lt_of_found storing, rfl⟩
  | reset free => exact .inl present

theorem Transition.cache (taken : Transition before move after) {outcome : Outcome}
    (cached : after.cache = some outcome) :
    before.cache = some outcome ∨
      ∃ caller, move = .store caller ∧ before.phases[caller]? = some (.storing outcome) := by
  cases taken with
  | store storing => cases cached; exact .inr ⟨_, rfl, storing⟩
  | reset free => cases cached
  | _ => exact .inl cached

theorem Transition.arrival (taken : Transition before move after) {caller : Nat}
    (present : caller < after.phases.length) :
    caller < before.phases.length ∨ move = .arrive ∧ before.phases.length = caller := by
  cases taken with
  | arrive =>
    rw [List.length_append, List.length_singleton] at present
    rcases Nat.lt_succ_iff_lt_or_eq.1 present with inside | same
    · exact .inl inside
    · exact .inr ⟨rfl, same.symm⟩
  | _ => exact .inl (by simpa [enter, release] using present)

end Callers

end TrustRoots
