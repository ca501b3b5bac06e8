import TrustRoots.Certificate.Anchor
import TrustRoots.KeyStore.Entry
import TrustRoots.Log

/-! Trust stores: a key store with the trust anchors of its trusted certificates, in the order
of the container. Private keys are never trusted. -/

namespace TrustRoots

structure TrustStore where
  resource : String
  keyStore : KeyStore
  roots : List Anchor
  deriving DecidableEq

namespace TrustStore

section Judged
variable (judge : Bytes → Except ε Anchor) (message : ε → String) (resource : String)

/-- The anchors of the trusted certificates as they are judged, up to the first that is refused. A private
key is passed over and leaves an event. -/
def anchorsBy : List Entry → Logged (Except TrustStoreError (List Anchor))
  | [] => return .ok []
  | .privateKey key :: rest => do
    Logged.record (.ignoredPrivateKey key.name resource)
    anchorsBy rest
  | .trusted certificate :: rest => do
    match judge certificate.der with
    | .error defect => return .error (.untrustedCertificate resource certificate.name (message defect))
    | .ok anchor =>
      match ← anchorsBy rest with
      | .error error => return .error error
      | .ok others => return .ok (anchor :: others)

def ofKeyStoreBy (keyStore : KeyStore) : Logged (Except TrustStoreError TrustStore) := do
  match ← anchorsBy judge message resource keyStore.entries with
  | .error error => return .error error
  | .ok roots => return .ok { resource, keyStore, roots }

end Judged

/-- The trust store of a key store whose certificates are judged by their DER. -/
def ofKeyStore (resource : String) (keyStore : KeyStore) : Logged (Except TrustStoreError TrustStore) :=
  ofKeyStoreBy Certificate.anchor AnchorDefect.message resource keyStore

def certificates (store : TrustStore) : List TrustedCertificate :=
  store.keyStore.trustedCertificates

def size (store : TrustStore) : Nat :=
  store.certificates.length

def names (store : TrustStore) : List String :=
  store.certificates.map (·.name)

def certificate? (store : TrustStore) (name : String) : Option TrustedCertificate :=
  store.certificates.find? (fun certificate => certificate.name = name)

def containsFingerprint (store : TrustStore) (fingerprint : Fingerprint) : Bool :=
  store.certificates.any (fun certificate => certificate.fingerprint == fingerprint)

/-- The anchors for use by connections that share them. -/
def sharedRoots (store : TrustStore) : List Anchor :=
  store.roots

end TrustStore

end TrustRoots
