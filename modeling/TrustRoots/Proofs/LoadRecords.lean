import TrustRoots.Proofs.LoadVerdict

/-! What a load puts down in the log. It says that it begins, what it finds in a container that decodes,
and how it ends, unless it panics. -/

namespace TrustRoots

namespace Entry

/-- The entry does not keep a trust store from being made. -/
def isPassable : Entry → Bool
  | privateKey _ => true
  | trusted certificate => (Certificate.anchor certificate.der).isOk

def privateKey? : Entry → Option PrivateKey
  | privateKey key => some key
  | trusted _ => none

end Entry

namespace TrustStore

/-- The private keys that are passed over, up to the first certificate that is refused. -/
def ignored (resource : String) (entries : List Entry) : List Event :=
  ((entries.takeWhile Entry.isPassable).filterMap Entry.privateKey?).map fun key =>
    .ignoredPrivateKey key.name resource

end TrustStore

/-- The store itself is put down, and then the private keys in it that are passed over. -/
def KeyStore.findings (resource : String) (keyStore : KeyStore) : List Event :=
  .decoded keyStore.version keyStore.entries.length :: TrustStore.ignored resource keyStore.entries

/-- What is found in an opening: a store, if one was delivered and decodes, and else nothing. -/
inductive Opening.Shows (config : Config) (opening : Opening) : List Event → Prop where
  | store {bytes : Bytes} {keyStore : KeyStore} (delivers : opening.Delivers bytes)
      (decoded : KeyStore.decode bytes config.token = .ok keyStore) :
      Shows config opening (keyStore.findings config.resourceName)
  | nothing (undecoded : ∀ bytes keyStore, opening.Delivers bytes →
      KeyStore.decode bytes config.token ≠ .ok keyStore) :
      Shows config opening []

namespace Config
variable {config : Config}

/-- The last record of a load, which one that panics does not come to. -/
def closing (config : Config) : Option Outcome → List Event
  | some (.loaded handle) => [.loaded config.resourceName handle.store.size]
  | some (.failed error) => [.failed error]
  | none => []

end Config

end TrustRoots
