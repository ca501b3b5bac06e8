import TrustRoots.Fingerprint
import TrustRoots.KeyStore.Error

/-! What a key store holds: trusted certificates, and private keys with their certificate
chains. A private key stays in its protected form. -/

namespace TrustRoots

inductive FormatVersion where
  | v1
  | v2
  deriving DecidableEq

structure TrustedCertificate where
  name : String
  createdMillis : UInt64
  der : Bytes
  deriving DecidableEq

structure PrivateKey where
  name : String
  createdMillis : UInt64
  protectedKey : Bytes
  chain : List Bytes
  deriving DecidableEq

inductive Entry where
  | privateKey (key : PrivateKey)
  | trusted (certificate : TrustedCertificate)
  deriving DecidableEq

/-- A moment after the Unix epoch. -/
structure Moment where
  seconds : Nat
  nanos : Nat

namespace FormatVersion

def number : FormatVersion → Nat
  | v1 => 1
  | v2 => 2

def ofNumber : Nat → Except KeyStoreError FormatVersion
  | 1 => .ok v1
  | 2 => .ok v2
  | other => .error (.unsupportedVersion other)

end FormatVersion

namespace TrustedCertificate

def created (certificate : TrustedCertificate) : Moment where
  seconds := certificate.createdMillis.toNat / 1000
  nanos := certificate.createdMillis.toNat % 1000 * 1000000

def fingerprint (certificate : TrustedCertificate) : Fingerprint :=
  Fingerprint.of certificate.der

end TrustedCertificate

namespace Entry

def name : Entry → String
  | privateKey key => key.name
  | trusted certificate => certificate.name

def trusted? : Entry → Option TrustedCertificate
  | privateKey _ => none
  | trusted certificate => some certificate

end Entry

structure KeyStore where
  version : FormatVersion
  entries : List Entry
  deriving DecidableEq

namespace KeyStore

def empty : KeyStore := ⟨.v2, []⟩

instance : Inhabited KeyStore := ⟨empty⟩

def get? (store : KeyStore) (name : String) : Option Entry :=
  store.entries.find? (fun entry => entry.name = name)

def trustedCertificates (store : KeyStore) : List TrustedCertificate :=
  store.entries.filterMap Entry.trusted?

end KeyStore

end TrustRoots
