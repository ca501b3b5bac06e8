import TrustRoots.Proofs.SingleLoad

/-! Interleavings of callers and resets in discrete time. What holds at a moment has come about
at an earlier one, so that an outcome can be followed back from the caller that got it to the
load that made it. -/

namespace TrustRoots

namespace Callers

/-- One interleaving, from the provider's first moment on. At some moments nothing happens. -/
structure Schedule where
  states : Nat → Callers
  moves : Nat → Option Move
  start : states 0 = initial
  idle : ∀ time, moves time = none → states (time + 1) = states time
  execution : ∀ time move, moves time = some move → (states time).step? move = some (states (time + 1))

namespace Schedule

/-- The states that a script leads through if its impossible moves are left out. -/
def statesOf (script : Nat → Option Move) : Nat → Callers
  | 0 => initial
  | time + 1 => (script time).elim (statesOf script time) (statesOf script time).tryStep

def movesOf (script : Nat → Option Move) (time : Nat) : Option Move :=
  (script time).filter fun move => ((statesOf script time).step? move).isSome

def trying (script : Nat → Option Move) : Schedule where
  states := statesOf script
  moves := movesOf script
  start := rfl
  idle time quiet := by
    cases scripted : script time with
    | none => rw [statesOf, scripted, Option.elim_none]
    | some move =>
      rw [statesOf, scripted, Option.elim_some, tryStep]
      have impossible : ((statesOf script time).step? move).isSome ≠ true :=
        Option.filter_eq_none_iff.1 quiet move scripted
      rw [Option.not_isSome_iff_eq_none.1 impossible, Option.getD_none]
  execution time move moved := by
    obtain ⟨scripted, possible⟩ := Option.filter_eq_some_iff.1 moved
    obtain ⟨after, taken⟩ := Option.isSome_iff_exists.1 possible
    rw [statesOf, scripted, Option.elim_some, tryStep, taken, Option.getD_some]

private theorem statesOf_eq_foldl (moves : List Move) (time : Nat) :
    statesOf (fun time => moves[time]?) time = (moves.take time).foldl tryStep initial := by
  induction time with
  | zero => rfl
  | succ time ih =>
    rw [statesOf, ih, List.take_add_one, List.foldl_append]
    cases moves[time]? <;> rfl

private theorem foldl_tryStep {moves : List Move} {first last : Callers} (run : moves.foldlM step? first = some last) :
    moves.foldl tryStep first = last := by
  induction moves generalizing first with
  | nil => cases run; rfl
  | cons move rest ih =>
    obtain ⟨next, taken, remaining⟩ := Option.bind_eq_some_iff.1 run
    rw [List.foldl_cons, tryStep, taken]
    exact ih remaining

/-- Every state that callers can reach is a state of a schedule. -/
theorem exists_of_run {moves : List Move} {state : Callers} (run : moves.foldlM step? initial = some state) :
    ∃ schedule : Schedule, schedule.states moves.length = state := by
  refine ⟨trying fun time => moves[time]?, ?_⟩
  have reached := statesOf_eq_foldl moves moves.length
  rw [List.take_length, foldl_tryStep run] at reached
  exact reached

variable (schedule : Schedule)

def count (kind : Callers → Move → Bool) (time : Nat) : Nat :=
  (List.range time).countP fun earlier => (schedule.moves earlier).any (kind (schedule.states earlier))

def cleared (time : Nat) : Nat :=
  schedule.count clears time

def panicked (time : Nat) : Nat :=
  schedule.count (fun _ => Move.panics) time

/-- Something is the case at every moment after one and up to another. -/
def Held (holds : Callers → Prop) (first last : Nat) : Prop :=
  ∀ moment, first < moment → moment ≤ last → holds (schedule.states moment)

variable {schedule : Schedule}

private theorem count_succ (kind : Callers → Move → Bool) (time : Nat) :
    schedule.count kind (time + 1) =
      schedule.count kind time + ((schedule.moves time).any (kind (schedule.states time))).toNat := by
  rw [count, List.range_succ, List.countP_append, List.countP_singleton]
  cases (schedule.moves time).any (kind (schedule.states time)) <;> rfl

theorem count_eq_zero {kind : Callers → Move → Bool} {time : Nat}
    (never : ∀ earlier move, earlier < time → schedule.moves earlier = some move →
      kind (schedule.states earlier) move = false) : schedule.count kind time = 0 := by
  refine List.countP_eq_zero.2 ?_
  intro earlier inside counted
  obtain ⟨move, moved, kindred⟩ := (Option.any_eq_true _ _).1 counted
  exact Bool.false_ne_true ((never earlier move (List.mem_range.1 inside) moved).symm.trans kindred)

theorem accounted (schedule : Schedule) (time : Nat) :
    Accounted (schedule.cleared time) (schedule.panicked time) (schedule.states time) := by
  induction time with
  | zero => rw [schedule.start]; exact accounted_initial
  | succ time ih =>
    rw [cleared, panicked, count_succ, count_succ]
    cases moved : schedule.moves time with
    | none => rw [schedule.idle time moved]; exact ih
    | some move => exact (transition_of_step? (schedule.execution time move moved)).accounted ih

theorem held_since (holds : Callers → Prop) (unstarted : ¬ holds initial) {time : Nat}
    (now : holds (schedule.states time)) :
    ∃ moment move, moment < time ∧ schedule.moves moment = some move ∧
      ¬ holds (schedule.states moment) ∧ schedule.Held holds moment time := by
  induction time with
  | zero => rw [schedule.start] at now; exact absurd now unstarted
  | succ time ih =>
    by_cases before : holds (schedule.states time)
    · obtain ⟨moment, move, earlier, moved, begun, held⟩ := ih before
      refine ⟨moment, move, Nat.lt_succ_of_lt earlier, moved, begun, ?_⟩
      intro inside after within
      rcases Nat.le_succ_iff.1 within with past | rfl
      · exact held inside after past
      · exact now
    · cases moved : schedule.moves time with
      | none => rw [schedule.idle time moved] at now; exact absurd now before
      | some move =>
        refine ⟨time, move, Nat.lt_succ_self time, moved, before, ?_⟩
        intro inside after within
        rwa [Nat.le_antisymm within after]

theorem entered_since {caller : Nat} {phase : Phase} {time : Nat}
    (present : (schedule.states time).phases[caller]? = some phase) :
    ∃ moment move, moment < time ∧ schedule.moves moment = some move ∧
      (schedule.states moment).phases[caller]? ≠ some phase ∧
      Entered (schedule.states moment) move (schedule.states (moment + 1)) caller phase ∧
      schedule.Held (fun state => state.phases[caller]? = some phase) moment time := by
  obtain ⟨moment, move, earlier, moved, begun, held⟩ :=
    held_since (fun state => state.phases[caller]? = some phase) (by simp [initial]) present
  have entered := (transition_of_step? (schedule.execution moment move moved)).phase
    (held (moment + 1) (Nat.lt_succ_self moment) earlier)
  exact ⟨moment, move, earlier, moved, begun, entered.resolve_left begun, held⟩

theorem cached_since {outcome : Outcome} {time : Nat}
    (cached : (schedule.states time).cache = some outcome) :
    ∃ moment caller, moment < time ∧ schedule.moves moment = some (.store caller) ∧
      (schedule.states moment).phases[caller]? = some (.storing outcome) ∧
      schedule.Held (fun state => state.cache = some outcome) moment time := by
  obtain ⟨moment, move, earlier, moved, begun, held⟩ :=
    held_since (fun state => state.cache = some outcome) (by simp [initial]) cached
  have came := (transition_of_step? (schedule.execution moment move moved)).cache
    (held (moment + 1) (Nat.lt_succ_self moment) earlier)
  obtain ⟨caller, rfl, storing⟩ := came.resolve_left begun
  exact ⟨moment, caller, earlier, moved, storing, held⟩

theorem arrived_before {caller time : Nat} (present : caller < (schedule.states time).phases.length) :
    ∃ moment, moment < time ∧ schedule.moves moment = some .arrive ∧
      (schedule.states moment).phases.length = caller := by
  obtain ⟨moment, move, earlier, moved, begun, held⟩ :=
    held_since (fun state => caller < state.phases.length) (by simp [initial]) present
  have came := (transition_of_step? (schedule.execution moment move moved)).arrival
    (held (moment + 1) (Nat.lt_succ_self moment) earlier)
  obtain ⟨rfl, last⟩ := came.resolve_left begun
  exact ⟨moment, earlier, moved, last⟩

end Schedule

end Callers

end TrustRoots
