import TrustRoots.Proofs.LoadRecords
import TrustRoots.Proofs.VerifiedHandles

/-! The log of a session. As many records say that a load begins as there are loads, and each load has
one record of its end or has panicked. What is given out of the cache is recorded only if it is a
failure, and a reset only if there is something to clear. -/

namespace TrustRoots

namespace Event

def isLoading : Event → Bool
  | loading _ => true
  | _ => false

/-- The record neither begins nor ends a load. -/
def IsAside (event : Event) : Prop :=
  event.isLoading = false ∧ event.level = .debug

end Event

def Answer.isPanic : Answer → Bool
  | seen .panicked => true
  | _ => false

/-- What is recorded of an outcome that is given again. -/
def Outcome.replay : Outcome → List Event
  | loaded _ => []
  | failed error => [.replayed error]

/-- The records tell of this many loads, of which some have panicked. -/
structure Tallied (events : List Event) (panics loads : Nat) : Prop where
  begun : events.countP Event.isLoading = loads
  ended : events.countP (fun event => event.level = .info) +
    events.countP (fun event => event.level = .warn) + panics = loads

namespace Tallied

theorem append {events more : List Event} {panics morePanics loads moreLoads : Nat}
    (tallied : Tallied events panics loads) (further : Tallied more morePanics moreLoads) :
    Tallied (events ++ more) (panics + morePanics) (loads + moreLoads) := by
  obtain ⟨begun, ended⟩ := tallied
  obtain ⟨moreBegun, moreEnded⟩ := further
  refine ⟨?_, ?_⟩
  · rw [List.countP_append, begun, moreBegun]
  · rw [List.countP_append, List.countP_append]
    omega

private theorem of_asides {events : List Event} (asides : ∀ event ∈ events, event.IsAside) : Tallied events 0 0 := by
  induction events with
  | nil => exact ⟨rfl, rfl⟩
  | cons event rest ih =>
    obtain ⟨⟨begins, level⟩, others⟩ := List.forall_mem_cons.1 asides
    obtain ⟨begun, ended⟩ := ih others
    refine ⟨?_, ?_⟩
    · rw [List.countP_cons_of_neg (by rw [begins]; decide), begun]
    · rw [List.countP_cons_of_neg (by rw [level]; decide), List.countP_cons_of_neg (by rw [level]; decide), ended]

theorem perm {events others : List Event} {panics loads : Nat} (tallied : Tallied events panics loads)
    (same : events.Perm others) : Tallied others panics loads :=
  ⟨(same.countP_eq _).symm.trans tallied.begun,
    by rw [← same.countP_eq, ← same.countP_eq]; exact tallied.ended⟩

end Tallied

private theorem Opening.Shows.asides {config : Config} {opening : Opening} {findings : List Event}
    (shows : opening.Shows config findings) : ∀ event ∈ findings, event.IsAside := by
  cases shows with
  | store delivers decoded =>
    refine List.forall_mem_cons.2 ⟨⟨rfl, rfl⟩, fun event member => ?_⟩
    obtain ⟨key, _, rfl⟩ := List.mem_map.1 member
    exact ⟨rfl, rfl⟩
  | nothing undecoded => exact nofun

/-- A load that panics has no last record, and any other has one, of its success or its failure. -/
private theorem Config.tallied_closing (config : Config) (outcome : Option Outcome) :
    Tallied (.loading config.resourceName :: config.closing outcome) outcome.isNone.toNat 1 := by
  cases outcome with
  | none => exact ⟨rfl, rfl⟩
  | some outcome => cases outcome <;> exact ⟨rfl, rfl⟩

private theorem Opening.Shows.tallied {config : Config} {opening : Opening} {findings : List Event}
    (shows : opening.Shows config findings) (outcome : Option Outcome) :
    Tallied (.loading config.resourceName :: (findings ++ config.closing outcome)) outcome.isNone.toNat 1 := by
  have ended := (Tallied.of_asides shows.asides).append (config.tallied_closing outcome)
  rw [Nat.zero_add, Nat.zero_add] at ended
  exact ended.perm List.perm_middle

namespace SoloSession

section Definitions

variable [ResourceSource σ] (solo : SoloSession σ)

def observations : List (Session.Observation Answer) :=
  Session.run (.start solo.config solo.source) solo.actions

def emitted (time : Nat) : List Event :=
  solo.observations[time]?.elim [] Session.Observation.events

def panicked (time : Nat) : Bool :=
  solo.observations[time]?.any fun observation => observation.result.isPanic

def panics (time : Nat) : Nat :=
  (solo.observations.take time).countP fun observation => observation.result.isPanic

end Definitions

variable [ResourceSource σ] {solo : SoloSession σ}

section Steps

variable {time : Nat} {action : Action σ}

theorem observation_of_acting (acting : solo.actions[time]? = some action) :
    solo.observations[time]? = some (Session.observed (fun session => session.act action) (solo.session time)).1 := by
  rw [observations, run_getElem?, acting]
  rfl

private theorem emitted_of_acting (acting : solo.actions[time]? = some action) :
    solo.emitted time = ((solo.session time).act action).events := by
  rw [emitted, observation_of_acting acting]
  rfl

theorem emitted_of_get (acting : solo.actions[time]? = some .get) :
    solo.emitted time = (solo.provider time).get.events := by
  rw [emitted_of_acting acting]
  exact List.append_nil _

end Steps

end SoloSession

end TrustRoots
