import TrustRoots.KeyStore.Entry
import TrustRoots.TrustStore.Error

/-! What loading reports to a log, and values that come with the events recorded on the way. -/

namespace TrustRoots

inductive Level where
  | debug
  | info
  | warn
  deriving DecidableEq

inductive Event where
  | decoded (version : FormatVersion) (count : Nat)
  | ignoredPrivateKey (name resource : String)
  | loading (resource : String)
  | loaded (resource : String) (count : Nat)
  | failed (error : TrustStoreError)
  | replayed (error : TrustStoreError)
  | cleared (resource : String)
  deriving DecidableEq

namespace Event

def level : Event → Level
  | loaded _ _ => .info
  | failed _ => .warn
  | _ => .debug

def text : Event → String
  | decoded version count =>
    "decoded key store: format " ++ Nat.repr version.number ++ ", " ++ Nat.repr count ++ " entries"
  | ignoredPrivateKey name resource =>
    "ignoring private key entry \"" ++ name ++ "\" in trust store \"" ++ resource ++ "\""
  | loading resource => "loading trust store from bundled resource \"" ++ resource ++ "\""
  | loaded resource count =>
    "loaded trust store \"" ++ resource ++ "\" with " ++ Nat.repr count ++ " trusted certificate(s)"
  | failed error => "failed to load trust store: " ++ error.message
  | replayed error => "replaying cached trust store failure: " ++ error.message
  | cleared resource => "cleared cached trust store \"" ++ resource ++ "\""

end Event

/-- A value with the events recorded while it was made, in order. -/
@[ext] structure Logged (α : Type) where
  value : α
  events : List Event

namespace Logged

instance : Monad Logged where
  pure value := ⟨value, []⟩
  bind first next :=
    let second := next first.value
    ⟨second.value, first.events ++ second.events⟩

def record (event : Event) : Logged Unit :=
  ⟨(), [event]⟩

end Logged

end TrustRoots
