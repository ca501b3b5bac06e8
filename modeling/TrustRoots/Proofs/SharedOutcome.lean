import TrustRoots.Proofs.CallerSchedule

/-! An outcome that a caller got was made by one load, was stored by it, and has stayed in the
cache until the caller found it there, whatever the other callers did at the same time. -/

namespace TrustRoots

namespace Callers

/-- The caller that carried out a load, and the moments of its steps. -/
structure Load where
  loader : Nat
  begun : Nat
  finished : Nat
  stored : Nat

namespace Schedule

/-- A load found the cache empty, went on until it had this outcome, and stored it. -/
structure Makes (schedule : Schedule) (load : Load) (outcome : Outcome) : Prop where
  ordered : load.begun < load.finished ∧ load.finished < load.stored
  begins : schedule.moves load.begun = some (.recheck load.loader)
  empty : (schedule.states load.begun).cache = none
  loading : schedule.Held (fun state => state.phases[load.loader]? = some .loading) load.begun load.finished
  finishes : ∃ attempt, schedule.moves load.finished = some (.finish load.loader attempt) ∧
    attempt.outcome? (schedule.states load.finished).loads = some outcome
  storing : schedule.Held (fun state => state.phases[load.loader]? = some (.storing outcome))
    load.finished load.stored
  stores : schedule.moves load.stored = some (.store load.loader)

/-- A caller has got this outcome: it arrived and was answered, and the outcome of one load was in
the cache at its answer. -/
def Served (schedule : Schedule) (caller : Nat) (outcome : Outcome) (time : Nat) : Prop :=
  ∃ arrival answer load,
    arrival < answer ∧ answer < time ∧
    schedule.moves arrival = some .arrive ∧ (schedule.states arrival).phases.length = caller ∧
    (schedule.states answer).phases[caller]? ≠ some (.returned outcome) ∧
    schedule.Held (fun state => state.phases[caller]? = some (.returned outcome)) answer time ∧
    schedule.Makes load outcome ∧ load.stored ≤ answer ∧
    schedule.Held (fun state => state.cache = some outcome) load.stored (answer + 1)

variable {schedule : Schedule}

private theorem makes_of_store {outcome : Outcome} {caller stored : Nat}
    (stores : schedule.moves stored = some (.store caller))
    (storing : (schedule.states stored).phases[caller]? = some (.storing outcome)) :
    ∃ begun finished, schedule.Makes ⟨caller, begun, finished, stored⟩ outcome := by
  obtain ⟨finished, _, finishedBefore, finishes, _, ⟨loading, attempt, rfl, ended⟩, storingSince⟩ :=
    entered_since storing
  obtain ⟨begun, _, begunBefore, begins, _, ⟨rfl, empty⟩, loadingSince⟩ := entered_since loading
  exact ⟨begun, finished, ⟨begunBefore, finishedBefore⟩, begins, empty, loadingSince,
    ⟨attempt, finishes, ended⟩, storingSince, stores⟩

theorem served_of_returned {outcome : Outcome} {caller time : Nat}
    (returned : (schedule.states time).phases[caller]? = some (.returned outcome)) :
    schedule.Served caller outcome time := by
  obtain ⟨answer, _, answered, _, unreturned, ⟨present, cached⟩, returnedSince⟩ := entered_since returned
  obtain ⟨arrival, arrivedBefore, arrives, last⟩ := arrived_before present
  obtain ⟨stored, loader, storedBefore, stores, storing, cachedSince⟩ := cached_since cached
  obtain ⟨begun, finished, makes⟩ := makes_of_store stores storing
  exact ⟨arrival, answer, ⟨loader, begun, finished, stored⟩, arrivedBefore, answered, arrives, last,
    unreturned, returnedSince, makes, Nat.le_of_lt_succ storedBefore, cachedSince⟩

/-- Up to a moment no reset takes place and no load panics. -/
def Undisturbed (schedule : Schedule) (time : Nat) : Prop :=
  ∀ earlier, earlier < time → schedule.moves earlier ≠ some .reset ∧
    ∀ caller, schedule.moves earlier ≠ some (.finish caller .panicked)

theorem cleared_of_undisturbed {time : Nat} (quiet : schedule.Undisturbed time) :
    schedule.cleared time = 0 := by
  refine count_eq_zero ?_
  intro earlier move inside moved
  cases move with
  | reset => exact absurd moved (quiet earlier inside).1
  | _ => rfl

theorem panicked_of_undisturbed {time : Nat} (quiet : schedule.Undisturbed time) :
    schedule.panicked time = 0 := by
  refine count_eq_zero ?_
  intro earlier move inside moved
  cases move with
  | finish caller attempt =>
    cases attempt with
    | finished result => rfl
    | panicked => exact absurd moved ((quiet earlier inside).2 caller)
  | _ => rfl

end Schedule

/-- Without a reset the cache keeps its outcome, since no load is in progress then. -/
private theorem Transition.cache_kept {before after : Callers} {move : Move} {cleared panicked : Nat}
    {outcome : Outcome} (taken : Transition before move after)
    (accounted : Accounted cleared panicked before) (unreset : move ≠ .reset)
    (cached : before.cache = some outcome) : after.cache = some outcome := by
  cases taken with
  | store storing => cases cached.symm.trans (accounted.cache_eq_none storing rfl)
  | reset free => exact absurd rfl unreset
  | _ => exact cached

namespace Schedule

variable {schedule : Schedule}

theorem cached_until {outcome : Outcome} {first last : Nat} (later : first ≤ last)
    (unreset : ∀ moment, first ≤ moment → moment < last → schedule.moves moment ≠ some .reset)
    (cached : (schedule.states first).cache = some outcome) :
    (schedule.states last).cache = some outcome := by
  induction later with
  | refl => exact cached
  | @step last later ih =>
    have kept := ih fun moment after within => unreset moment after (Nat.lt_succ_of_lt within)
    cases moved : schedule.moves last with
    | none => rw [schedule.idle last moved]; exact kept
    | some move =>
      have taken := transition_of_step? (schedule.execution last move moved)
      refine taken.cache_kept (schedule.accounted last) ?_ kept
      rintro rfl
      exact unreset last later (Nat.lt_succ_self last) moved

theorem cached_of_returned {outcome : Outcome} {caller time : Nat} (quiet : schedule.Undisturbed time)
    (returned : (schedule.states time).phases[caller]? = some (.returned outcome)) :
    (schedule.states time).cache = some outcome := by
  obtain ⟨_, answer, load, _, answered, _, _, _, _, _, stored, cached⟩ := served_of_returned returned
  refine cached_until answered (fun moment _ within => (quiet moment within).1) ?_
  exact cached (answer + 1) (Nat.lt_succ_of_le stored) (Nat.le_refl _)

/-- At every moment of every interleaving, one load at most is in progress, and the loads are
accounted for. Every outcome that a caller got comes from a load whose outcome was in the cache
while the caller was there. If nothing is reset and nothing panics, there is one outcome only. -/
theorem loads_are_shared (schedule : Schedule) (time : Nat) :
    (schedule.states time).loadsInProgress ≤ 1 ∧
    (schedule.states time).loads = schedule.cleared time + schedule.panicked time +
      (if (schedule.states time).cache.isSome ∨ 0 < (schedule.states time).loadsInProgress then 1 else 0) ∧
    (∀ caller outcome, (schedule.states time).phases[caller]? = some (.returned outcome) →
      schedule.Served caller outcome time) ∧
    (schedule.Undisturbed time →
      (schedule.states time).loads ≤ 1 ∧
      ∀ (first second : Nat) (one other : Outcome),
        (schedule.states time).phases[first]? = some (.returned one) →
        (schedule.states time).phases[second]? = some (.returned other) → one = other) := by
  have accounted := schedule.accounted time
  have loads := accounted.loads_eq
  refine ⟨Nat.le_trans (Nat.le_add_left _ _) accounted.room, loads, fun _ _ => served_of_returned, ?_⟩
  intro quiet
  refine ⟨?_, ?_⟩
  · rw [cleared_of_undisturbed quiet, panicked_of_undisturbed quiet] at loads
    split at loads <;> omega
  · intro first second one other gotOne gotOther
    have same := (cached_of_returned quiet gotOne).symm.trans (cached_of_returned quiet gotOther)
    exact Option.some.inj same

/-- Of two callers at once the first panics and the second loads. After a reset a third one has
begun to load. The second lock and the first reset are not possible when they are tried. -/
def crowded : Schedule := trying fun time =>
  [.arrive, .arrive, .look 0, .look 1, .lock 0, .lock 1, .recheck 0, .reset, .finish 0 .panicked, .lock 1,
    .recheck 1, .finish 1 (.finished (.ok ⟨"roots", ⟨.v2, []⟩, []⟩)), .store 1, .reset, .arrive, .look 2,
    .lock 2, .recheck 2][time]?

theorem loads_are_shared_crowded :
    (crowded.states 18).loads = 3 ∧ crowded.cleared 18 = 1 ∧ crowded.panicked 18 = 1 ∧
      (crowded.states 18).loadsInProgress = 1 ∧
      crowded.Served 1 (.loaded ⟨2, "roots", ⟨.v2, []⟩, []⟩) 18 :=
  ⟨rfl, rfl, rfl, rfl, (loads_are_shared crowded 18).2.2.1 1 _ rfl⟩

end Schedule

end Callers

end TrustRoots
