import TrustRoots.Proofs.ExtraLoad
import TrustRoots.Proofs.SessionLog

/-! Two sessions that do the same for a while, one of them some actions later than the other. If one is
the image of the other at the beginning, and every action they share keeps it so, then it stays so, and
what is seen of the one is the image of what is seen of the other. -/

namespace TrustRoots

namespace SoloSession

variable [ResourceSource σ] {solo other : SoloSession σ} {image : Session σ → Session σ}
  {shown : Session.Observation Answer → Session.Observation Answer} {delay time : Nat}

theorem session_eq_of_acts (begins : solo.session 0 = other.session 0)
    (acts : ∀ moment < time, solo.actions[moment]? = other.actions[moment]?) :
    solo.session time = other.session time := by
  induction time with
  | zero => exact begins
  | succ time ih =>
    rw [session_succ, session_succ, acts time (Nat.lt_succ_self time),
      ih fun moment before => acts moment (Nat.lt_succ_of_lt before)]

theorem observation_eq_of_acts (begins : solo.session 0 = other.session 0)
    (acts : ∀ moment ≤ time, solo.actions[moment]? = other.actions[moment]?) :
    solo.observations[time]? = other.observations[time]? := by
  rw [observations, observations, run_getElem?, run_getElem?, acts time (Nat.le_refl time),
    session_eq_of_acts begins fun moment before => acts moment (Nat.le_of_lt before)]

/-- What the sessions do now is the same, and does the same to a session and to its image. -/
structure InStep (solo other : SoloSession σ) (image : Session σ → Session σ)
    (shown : Session.Observation Answer → Session.Observation Answer) (delay time : Nat) : Prop where
  acts : solo.actions[time + delay]? = other.actions[time]?
  keeps : solo.session (time + delay) = image (other.session time) →
    ∀ action, other.actions[time]? = some action →
      Session.observed (fun session => session.act action) (image (other.session time)) =
        Prod.map shown image (Session.observed (fun session => session.act action) (other.session time))

namespace InStep

theorem session_succ (inStep : InStep solo other image shown delay time)
    (same : solo.session (time + delay) = image (other.session time)) :
    solo.session (time + 1 + delay) = image (other.session (time + 1)) := by
  rw [Nat.add_right_comm, SoloSession.session_succ, SoloSession.session_succ, inStep.acts, same]
  cases acting : other.actions[time]? with
  | none => rfl
  | some action => exact congrArg Prod.snd (inStep.keeps same action acting)

theorem observation (inStep : InStep solo other image shown delay time)
    (same : solo.session (time + delay) = image (other.session time)) :
    solo.observations[time + delay]? = other.observations[time]?.map shown := by
  rw [observations, observations, run_getElem?, run_getElem?, inStep.acts, same]
  cases acting : other.actions[time]? with
  | none => rfl
  | some action => exact congrArg (some ∘ Prod.fst) (inStep.keeps same action acting)

/-- An image at the beginning is one as long as the sessions stay in step. -/
theorem session_eq {start : Nat} (begins : solo.session (start + delay) = image (other.session start))
    (later : start ≤ time)
    (inStep : ∀ moment, start ≤ moment → moment < time → InStep solo other image shown delay moment) :
    solo.session (time + delay) = image (other.session time) := by
  induction later with
  | refl => exact begins
  | @step time later ih =>
    have same := ih fun moment after before => inStep moment after (Nat.lt_succ_of_lt before)
    exact (inStep time later (Nat.lt_succ_self time)).session_succ same

/-- An extra load that has been counted keeps sessions with the same actions in step. -/
private theorem of_ahead {extra : Nat} (acts : solo.actions[time + delay]? = other.actions[time]?)
    (counted : extra ≤ (other.provider time).loads + 1) :
    InStep solo other (Session.ahead extra) (Session.Observation.ahead other.config.resourceName) delay time := by
  refine ⟨acts, fun _ action acting => ?_⟩
  have alone (callers : Nat) : action ≠ .getTogether callers := by
    rintro rfl
    exact other.alone callers (List.mem_of_getElem? acting)
  have config : ((other.session time).act action).value.2.provider.config = other.config := by
    rw [← other.provider_config (time + 1), provider, SoloSession.session_succ, acting, Option.elim_some]
  rw [Session.observed_ahead counted alone, config]
  rfl

end InStep

theorem observation_of_ahead (delay : Nat) {extra start : Nat}
    (begins : solo.session (start + delay) = (other.session start).ahead extra)
    (counted : extra ≤ (other.provider start).loads + 1)
    (acts : ∀ moment, start ≤ moment → solo.actions[moment + delay]? = other.actions[moment]?)
    (later : start ≤ time) :
    solo.observations[time + delay]? =
      other.observations[time]?.map (.ahead other.config.resourceName) := by
  have inStep (moment : Nat) (after : start ≤ moment) :
      InStep solo other (Session.ahead extra) (.ahead other.config.resourceName) delay moment := by
    have grown := Nat.succ_le_succ (other.loads_mono after)
    exact .of_ahead (acts moment after) (Nat.le_trans counted grown)
  exact (inStep time later).observation (InStep.session_eq begins later fun moment after _ => inStep moment after)

end SoloSession

end TrustRoots
