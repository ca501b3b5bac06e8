import TrustRoots.Provider.Callers
import TrustRoots.Resource.Scripted

/-! Sessions with a provider: requests and resets between arbitrary changes of its source, with
what can be seen after each step. Handles are numbered in the order of their first appearance. -/

namespace TrustRoots

inductive Action (σ : Type) where
  | get
  | getTogether (callers : Nat)
  | reset
  | change (update : σ → σ)

/-- An outcome as it is seen, with the number of its handle. -/
inductive Seen where
  | loaded (handle : Nat) (store : TrustStore)
  | failed (error : TrustStoreError)
  | panicked

inductive Answer where
  | done
  | seen (outcome : Seen)
  | allSeen (calls : Nat) (distinct : List Seen)

structure Session (σ : Type) where
  provider : Provider (Watched σ)
  handles : List Handle := []

namespace Session

def start (config : Config) (source : σ) : Session σ where
  provider := { config, source := { source } }

/-- Sees an outcome, with a new number for a handle that has not appeared before. -/
def see (handles : List Handle) : Option Outcome → Seen × List Handle
  | none => (.panicked, handles)
  | some (.failed error) => (.failed error, handles)
  | some (.loaded handle) =>
    match handles.findIdx? (fun known => known.load = handle.load) with
    | some known => (.loaded known handle.store, handles)
    | none => (.loaded handles.length handle.store, handles ++ [handle])

def seeAll (handles : List Handle) : List (Option Outcome) → List Seen × List Handle
  | [] => ([], handles)
  | outcome :: rest =>
    let (seen, known) := see handles outcome
    let (others, known) := seeAll known rest
    (seen :: others, known)

def changeSource (provider : Provider (Watched σ)) (update : σ → σ) : Provider (Watched σ) :=
  { provider with source := { provider.source with source := update provider.source.source } }

def act [ResourceSource σ] (session : Session σ) : Action σ → Logged (Answer × Session σ)
  | .get => do
    let (outcome, provider) ← session.provider.get
    let (seen, handles) := see session.handles outcome
    return (.seen seen, { provider, handles })
  | .getTogether callers =>
    let (outcomes, provider) := session.provider.getTogether callers
    let (distinct, handles) := seeAll session.handles outcomes.eraseDups
    return (.allSeen callers distinct, { provider, handles })
  | .reset => do
    return (.done, { session with provider := ← session.provider.reset })
  | .change update =>
    return (.done, { session with provider := changeSource session.provider update })

@[ext] structure Observation (ρ : Type) where
  result : ρ
  isLoaded : Bool
  loads : Nat
  opened : List String
  events : List Event

/-- Takes a step and notes what can be seen after it. -/
def observed (step : Session σ → Logged (ρ × Session σ)) (session : Session σ) :
    Observation ρ × Session σ :=
  let after := step session
  let (result, session) := after.value
  ({ result
     isLoaded := session.provider.isLoaded
     loads := session.provider.loads
     opened := session.provider.source.opened
     events := after.events }, session)

def observeAll (step : Session σ → ι → Logged (ρ × Session σ)) (session : Session σ) :
    List ι → List (Observation ρ)
  | [] => []
  | next :: rest =>
    let (seen, session) := observed (fun session => step session next) session
    seen :: observeAll step session rest

def run [ResourceSource σ] (session : Session σ) (actions : List (Action σ)) :
    List (Observation Answer) :=
  observeAll act session actions

end Session

/-- A step of a session with a scripted source: an action, or a question. -/
inductive ScriptedStep where
  | act (action : Action Scripted)
  | remove (name : String)
  | settings
  | inspect (handle : Nat)
  | opened

inductive ScriptedAnswer where
  | answer (answer : Answer)
  | removed (existed : Bool)
  | settings (resource token : String)
  | inspected (store : Option TrustStore)
  | opened (names : List String)

namespace ScriptedStep

def perform (session : Session Scripted) : ScriptedStep → Logged (ScriptedAnswer × Session Scripted)
  | .act action => do
    let (answer, session) ← session.act action
    return (.answer answer, session)
  | .remove name => do
    let existed := session.provider.source.source.holds name
    let (_, session) ← session.act (.change (Scripted.remove name))
    return (.removed existed, session)
  | .settings =>
    let config := session.provider.config
    return (.settings config.resourceName config.token, session)
  | .inspect handle => return (.inspected (session.handles[handle]?.map Handle.store), session)
  | .opened => return (.opened session.provider.source.opened, session)

def run (session : Session Scripted) (steps : List ScriptedStep) :
    List (Session.Observation ScriptedAnswer) :=
  Session.observeAll perform session steps

end ScriptedStep

/-- The provider that a whole process shares, of the bundled trust store. -/
def sharedProvider : Provider Bundled where
  config := {}
  source := {}

end TrustRoots
