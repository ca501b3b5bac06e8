import TrustRoots.Proofs.SessionHistory
import TrustRoots.Proofs.TrimmedText

/-! Settings in their normal form. What a provider does depends on the resource and the token that its
settings come to, and on nothing else in them: two sessions over equal sources look the same as long as
their settings come to the same. -/

namespace TrustRoots

namespace Config

/-- What a setting comes to: what stands between the blanks around it, or the default if there is
nothing else. -/
inductive Settled (default : String) : Option String → String → Prop where
  | absent : Settled default none default
  | blank {field : String} (blank : Blank.AllBlank field.toList) : Settled default (some field) default
  | trimmed {field value : String} {front back : List Char} (split : field.toList = front ++ value.toList ++ back)
      (frontBlank : Blank.AllBlank front) (tight : Blank.Tight value.toList) (backBlank : Blank.AllBlank back) :
      Settled default (some field) value

theorem settled_iff {default value : String} {field : Option String} :
    Settled default field value ↔ value = (field.bind Blank.trimmed?).getD default := by
  constructor
  · intro settled
    cases settled with
    | absent => rfl
    | blank blank => rw [Option.bind_some, Blank.trimmed?_eq_none_iff.2 blank, Option.getD_none]
    | trimmed split frontBlank tight backBlank =>
      rw [Option.bind_some, Blank.trimmed?_eq_some_iff.2 ⟨_, _, split, frontBlank, tight, backBlank⟩, Option.getD_some]
  · rintro rfl
    cases field with
    | none => exact .absent
    | some text =>
      rw [Option.bind_some]
      cases trimmed : Blank.trimmed? text with
      | none => exact .blank (Blank.trimmed?_eq_none_iff.1 trimmed)
      | some kept =>
        obtain ⟨front, back, split, frontBlank, tight, backBlank⟩ := Blank.trimmed?_eq_some_iff.1 trimmed
        exact .trimmed split frontBlank tight backBlank

theorem Settled.tight {default value : String} {field : Option String} (settled : Settled default field value)
    (solid : Blank.Tight default.toList) : Blank.Tight value.toList := by
  cases settled with
  | absent => exact solid
  | blank _ => exact solid
  | trimmed _ _ tight _ => exact tight

private theorem tight_defaultResource : Blank.Tight defaultResource.toList := by
  refine ⟨by decide, ?_, ?_⟩ <;> rintro character ⟨⟩ <;> decide

private theorem tight_defaultAccessToken : Blank.Tight defaultAccessToken.toList := by
  refine ⟨by decide, ?_, ?_⟩ <;> rintro character ⟨⟩ <;> decide

/-- Settings that name outright what others come to. -/
def normalised (config : Config) : Config where
  resource := some config.resourceName
  accessToken := some config.token

structure Agree (config other : Config) : Prop where
  resource : config.resourceName = other.resourceName
  token : config.token = other.token

variable {config other : Config}

theorem Agree.finish (agree : config.Agree other) (result : Except TrustStoreError TrustStore) :
    config.finish result = other.finish result := by
  cases result with
  | error error => rfl
  | ok store => simp only [Config.finish, report, agree.resource]

/-- A load looks at nothing else in the settings. -/
theorem Agree.attempt [ResourceSource σ] (agree : config.Agree other) (source : σ) :
    config.attempt source = other.attempt source := by
  simp only [Config.attempt, readStore, agree.finish, agree.resource, agree.token]

end Config

private theorem Callers.runRounds_of_agree [ResourceSource σ] {config other : Config} (agree : config.Agree other)
    (rounds : Nat) (state : Callers × σ) : runRounds config rounds state = runRounds other rounds state := by
  have advances : (advance config : Callers × σ → Nat → Callers × σ) = advance other := by
    funext state caller
    simp only [advance, agree.attempt]
  induction rounds generalizing state with
  | zero => rfl
  | succ rounds ih => simp only [runRounds, advances, ih]

namespace Provider

def configured (other : Config) (provider : Provider σ) : Provider σ :=
  { provider with config := other }

private theorem reset_configured {provider : Provider σ} {other : Config} (agree : provider.config.Agree other) :
    (provider.configured other).reset = ⟨provider.reset.value.configured other, provider.reset.events⟩ := by
  obtain ⟨config, source, cache, loads⟩ := provider
  cases cache with
  | none => rfl
  | some outcome => simp only [reset, configured, ← agree.resource]; rfl

variable [ResourceSource σ] {provider : Provider σ} {other : Config} (agree : provider.config.Agree other)
include agree

private theorem get_configured :
    (provider.configured other).get =
      ⟨(provider.get.value.1, provider.get.value.2.configured other), provider.get.events⟩ := by
  obtain ⟨config, source, cache, loads⟩ := provider
  cases cache with
  | none => simp only [get, loadAnew, configured, ← agree.attempt]; rfl
  | some outcome => cases outcome <;> rfl

private theorem getTogether_configured (callers : Nat) :
    (provider.configured other).getTogether callers =
      ((provider.getTogether callers).1, (provider.getTogether callers).2.configured other) := by
  simp only [getTogether, configured, ← Callers.runRounds_of_agree agree]

end Provider

namespace Session

def configured (other : Config) (session : Session σ) : Session σ :=
  { session with provider := session.provider.configured other }

/-- The step keeps the settings, and with others that agree it does the same. -/
structure Blind (step : Session σ → ι → Logged (ρ × Session σ)) : Prop where
  keeps : ∀ (session : Session σ) (next : ι), (step session next).value.2.provider.config = session.provider.config
  same : ∀ (session : Session σ) (next : ι) (other : Config), session.provider.config.Agree other →
    step (session.configured other) next =
      ⟨((step session next).value.1, (step session next).value.2.configured other), (step session next).events⟩

theorem Blind.observeAll {step : Session σ → ι → Logged (ρ × Session σ)} (blind : Blind step) {session : Session σ}
    {other : Config} (agree : session.provider.config.Agree other) (steps : List ι) :
    observeAll step (session.configured other) steps = observeAll step session steps := by
  induction steps generalizing session with
  | nil => rfl
  | cons next rest ih =>
    have kept : (step session next).value.2.provider.config.Agree other := blind.keeps session next ▸ agree
    simp only [Session.observeAll, observed, blind.same session next other agree, ih kept]
    rfl

variable [ResourceSource σ]

theorem blind_act : Blind (act : Session σ → Action σ → Logged (Answer × Session σ)) := by
  refine ⟨?_, ?_⟩
  · intro session action
    cases action with
    | get =>
      change session.provider.get.value.2.config = session.provider.config
      cases cached : session.provider.cache with
      | none => rw [Provider.get_of_empty cached]; rfl
      | some outcome => rw [Provider.get_of_cached cached]
    | getTogether callers => rfl
    | reset =>
      change session.provider.reset.value.config = session.provider.config
      rw [Provider.reset_value]
    | change update => rfl
  · intro session action other agree
    cases action with
    | get => simp only [act, bind, pure, configured, Provider.get_configured agree]
    | getTogether callers => simp only [act, configured, Provider.getTogether_configured agree]; rfl
    | reset => simp only [act, bind, pure, configured, Provider.reset_configured agree]
    | change update => rfl

end Session

theorem ScriptedStep.blind_perform : Session.Blind perform := by
  refine ⟨?_, ?_⟩
  · intro session step
    cases step with
    | act action => exact Session.blind_act.keeps session action
    | remove name => rfl
    | settings => rfl
    | inspect handle => rfl
    | opened => rfl
  · intro session step other agree
    cases step with
    | act action =>
      simp only [perform, bind, pure, Session.blind_act.same session action other agree]
    | remove name => rfl
    | settings => simp only [perform, Session.configured, Provider.configured, agree.resource, agree.token]; rfl
    | inspect handle => rfl
    | opened => rfl

namespace Config

theorem tight_resourceName (config : Config) : Blank.Tight config.resourceName.toList :=
  Settled.tight (settled_iff.2 rfl) tight_defaultResource

theorem tight_token (config : Config) : Blank.Tight config.token.toList :=
  Settled.tight (settled_iff.2 rfl) tight_defaultAccessToken

theorem agree_normalised (config : Config) : config.normalised.Agree config := by
  refine ⟨?_, ?_⟩
  · rw [normalised, resourceName, Option.bind_some, config.tight_resourceName.trimmed?_eq, Option.getD_some]
  · rw [normalised, token, Option.bind_some, config.tight_token.trimmed?_eq, Option.getD_some]

/-- A resource and a token have characters and begin and end with others than blanks. Each is the
setting without the blanks around it, or the default if the setting has no other characters. Settings
that name them outright come to the same. As long as settings come to the same, nothing that can be
seen in a session tells them apart, over any source and over one that is scripted. -/
theorem only_the_normal_form_matters :
    (∀ config : Config,
      (Blank.Tight config.resourceName.toList ∧ Blank.Tight config.token.toList) ∧
      (∀ value, Settled defaultResource config.resource value ↔ value = config.resourceName) ∧
      (∀ value, Settled defaultAccessToken config.accessToken value ↔ value = config.token) ∧
      config.normalised.resourceName = config.resourceName ∧ config.normalised.token = config.token) ∧
    ∀ config other : Config, config.resourceName = other.resourceName → config.token = other.token →
      (∀ (σ : Type) [ResourceSource σ] (source : σ) (actions : List (Action σ)),
        Session.run (.start config source) actions = Session.run (.start other source) actions) ∧
      ∀ (source : Scripted) (steps : List ScriptedStep),
        ScriptedStep.run (.start config source) steps = ScriptedStep.run (.start other source) steps := by
  refine ⟨?_, ?_⟩
  · intro config
    have same := config.agree_normalised
    exact ⟨⟨config.tight_resourceName, config.tight_token⟩, fun _ => settled_iff, fun _ => settled_iff,
      same.resource, same.token⟩
  · intro config other resource token
    have agree : config.Agree other := ⟨resource, token⟩
    refine ⟨?_, ?_⟩
    · intro σ _ source actions
      exact (Session.blind_act.observeAll agree actions).symm
    · intro source steps
      exact (ScriptedStep.blind_perform.observeAll agree steps).symm

/-- A name between blanks of several kinds and a token of nothing else, through a panic, a refusal and
requests of several callers. -/
theorem only_the_normal_form_matters_spaced :
    let spaced : Config := ⟨some "\t\u00a0staging.jks\u3000", some "\u2028 "⟩
    let steps : List ScriptedStep := [.act (.change Scripted.panicNext), .act .get, .act .get, .settings,
      .act (.getTogether 3), .act .reset, .opened]
    spaced.resourceName = "staging.jks" ∧ spaced.token = "notasecret" ∧
      ScriptedStep.run (.start spaced {}) steps = ScriptedStep.run (.start ⟨some "staging.jks", none⟩ {}) steps := by
  intro spaced steps
  have resource : spaced.resourceName = "staging.jks" := by decide +kernel
  have token : spaced.token = "notasecret" := by decide +kernel
  obtain ⟨_, undistinguished⟩ := only_the_normal_form_matters
  obtain ⟨_, scripted⟩ := undistinguished spaced ⟨some "staging.jks", none⟩ (resource.trans (by decide +kernel))
    (token.trans rfl)
  exact ⟨resource, token, scripted {} steps⟩

end Config

end TrustRoots
