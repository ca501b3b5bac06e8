import TrustRoots.KeyStore.Error

/-! Why a trust store is not available: its resource could not be opened, its bytes are no
valid key store, or one of its certificates cannot be a trust anchor. -/

namespace TrustRoots

inductive TrustStoreError where
  | resourceUnavailable (resource reason : String)
  | storeLoad (resource : String) (cause : KeyStoreError)
  | untrustedCertificate (resource name reason : String)
  deriving DecidableEq

namespace TrustStoreError

def resource : TrustStoreError → String
  | resourceUnavailable resource _ => resource
  | storeLoad resource _ => resource
  | untrustedCertificate resource _ _ => resource

def message : TrustStoreError → String
  | resourceUnavailable resource reason =>
    "trust store resource \"" ++ resource ++ "\" is unavailable: " ++ reason
  | storeLoad resource cause =>
    "trust store resource \"" ++ resource ++ "\" could not be loaded: " ++ cause.message
  | untrustedCertificate resource name reason =>
    "certificate \"" ++ name ++ "\" in \"" ++ resource ++ "\" is not a usable trust anchor: " ++ reason

/-- Whether the resource itself was missing. -/
def isResourceUnavailable : TrustStoreError → Bool
  | resourceUnavailable _ _ => true
  | _ => false

/-- Whether the resource was there and its contents were refused. -/
def isStoreLoad : TrustStoreError → Bool
  | resourceUnavailable _ _ => false
  | _ => true

/-- The error that lies beneath, where there is one. -/
def source? : TrustStoreError → Option KeyStoreError
  | storeLoad _ cause => some cause
  | _ => none

end TrustStoreError

end TrustRoots
