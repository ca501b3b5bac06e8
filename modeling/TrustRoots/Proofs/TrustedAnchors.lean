import Mathlib.Logic.Relation
import TrustRoots.Proofs.VerifiedHandles

/-! The roots of a trust store are the anchors of its trusted certificates, one for each and in their
order. Which private keys stand among them, with which chains, makes no difference to what is trusted. -/

namespace TrustRoots

/-- A private key is put in, taken out or replaced by another, anywhere among the entries. -/
inductive Rekeyed : List Entry → List Entry → Prop where
  | inserted (front : List Entry) (key : PrivateKey) (back : List Entry) :
      Rekeyed (front ++ back) (front ++ .privateKey key :: back)
  | removed (front : List Entry) (key : PrivateKey) (back : List Entry) :
      Rekeyed (front ++ .privateKey key :: back) (front ++ back)
  | replaced (front : List Entry) (key other : PrivateKey) (back : List Entry) :
      Rekeyed (front ++ .privateKey key :: back) (front ++ .privateKey other :: back)

def Rekeyings : List Entry → List Entry → Prop :=
  Relation.ReflTransGen Rekeyed

private theorem filterMap_trusted?_privateKey (front : List Entry) (key : PrivateKey) (back : List Entry) :
    (front ++ .privateKey key :: back).filterMap Entry.trusted? = (front ++ back).filterMap Entry.trusted? := by
  rw [List.filterMap_append, List.filterMap_append]
  rfl

theorem Rekeyed.trusted_eq {entries others : List Entry} (rekeyed : Rekeyed entries others) :
    others.filterMap Entry.trusted? = entries.filterMap Entry.trusted? := by
  cases rekeyed with
  | inserted front key back => exact filterMap_trusted?_privateKey front key back
  | removed front key back => exact (filterMap_trusted?_privateKey front key back).symm
  | replaced front key other back =>
    rw [filterMap_trusted?_privateKey, filterMap_trusted?_privateKey]

theorem Rekeyings.trusted_eq {entries others : List Entry} (rekeyings : Rekeyings entries others) :
    others.filterMap Entry.trusted? = entries.filterMap Entry.trusted? := by
  induction rekeyings with
  | refl => rfl
  | tail _ rekeyed ih => exact rekeyed.trusted_eq.trans ih

namespace TrustStore

/-- There is no difference in what the stores trust. -/
structure Alike (store other : TrustStore) : Prop where
  resource : other.resource = store.resource
  roots : other.roots = store.roots
  size : other.size = store.size
  names : other.names = store.names
  lookups : ∀ name, other.certificate? name = store.certificate? name
  fingerprints : ∀ fingerprint, other.containsFingerprint fingerprint = store.containsFingerprint fingerprint

private theorem alike_of_certificates {store other : TrustStore} (resource : other.resource = store.resource)
    (roots : other.roots = store.roots) (same : other.certificates = store.certificates) : store.Alike other where
  resource := resource
  roots := roots
  size := congrArg List.length same
  names := congrArg (List.map _) same
  lookups _ := congrArg (List.find? _) same
  fingerprints _ := congrArg (List.any · _) same

variable {ε : Type} {judge : Bytes → Except ε Anchor} {message : ε → String} {resource : String}
  {keyStore other : KeyStore}

private theorem length_roots_of_anchored {store : TrustStore}
    (anchored : TrustedCertificate.AnchoredBy judge store.certificates store.roots) :
    store.roots.length = store.size := by
  have lengths := congrArg List.length anchored
  rw [List.length_map, List.length_map] at lengths
  exact lengths.symm

theorem exists_ofKeyStoreBy_iff :
    (∃ store, (ofKeyStoreBy judge message resource keyStore).value = .ok store) ↔
      ∀ certificate ∈ keyStore.trustedCertificates, ∃ anchor, judge certificate.der = .ok anchor := by
  rw [← TrustedCertificate.exists_anchoredBy_iff]
  simp only [ofKeyStoreBy_ok_iff]
  constructor
  · rintro ⟨store, _, _, anchored⟩
    exact ⟨store.roots, anchored⟩
  · rintro ⟨roots, anchored⟩
    exact ⟨⟨resource, keyStore, roots⟩, rfl, rfl, anchored⟩

theorem alike_of_rekeyings {store : TrustStore} (rekeyings : Rekeyings keyStore.entries other.entries)
    (made : (ofKeyStoreBy judge message resource keyStore).value = .ok store) :
    ∃ remade, (ofKeyStoreBy judge message resource other).value = .ok remade ∧ store.Alike remade := by
  obtain ⟨rfl, rfl, anchored⟩ := ofKeyStoreBy_ok_iff.1 made
  have same : other.trustedCertificates = store.keyStore.trustedCertificates := rekeyings.trusted_eq
  refine ⟨{ store with keyStore := other }, ofKeyStoreBy_ok_iff.2 ⟨rfl, rfl, ?_⟩, ?_⟩
  · rw [same]
    exact anchored
  · exact alike_of_certificates rfl rfl same

theorem error_iff_of_rekeyings (rekeyings : Rekeyings keyStore.entries other.entries) {error : TrustStoreError} :
    (ofKeyStoreBy judge message resource keyStore).value = .error error ↔
      (ofKeyStoreBy judge message resource other).value = .error error := by
  have same : other.trustedCertificates = keyStore.trustedCertificates := rekeyings.trusted_eq
  rw [ofKeyStoreBy_error_iff, ofKeyStoreBy_error_iff, same]

/-- Whichever way certificates are judged: a trust store is made exactly if none of them is refused, and
then its roots are their anchors, one for each and in order; else the error tells of the first that is
refused. No change of private keys changes what is trusted, or the error. -/
theorem roots_are_the_trusted_anchors (judge : Bytes → Except ε Anchor) (message : ε → String)
    (resource : String) (keyStore : KeyStore) :
    ((∃ store, (ofKeyStoreBy judge message resource keyStore).value = .ok store) ↔
      ∀ certificate ∈ keyStore.trustedCertificates, ∃ anchor, judge certificate.der = .ok anchor) ∧
    (∀ store, (ofKeyStoreBy judge message resource keyStore).value = .ok store →
      store.resource = resource ∧ store.keyStore = keyStore ∧
        TrustedCertificate.AnchoredBy judge keyStore.trustedCertificates store.roots ∧
        store.roots.length = store.size ∧ store.sharedRoots = store.roots) ∧
    (∀ error, (ofKeyStoreBy judge message resource keyStore).value = .error error ↔
      ∃ certificate defect,
        TrustedCertificate.FirstRefusedBy judge keyStore.trustedCertificates certificate defect ∧
        error = .untrustedCertificate resource certificate.name (message defect)) ∧
    (∀ other, Rekeyings keyStore.entries other.entries →
      (∀ store, (ofKeyStoreBy judge message resource keyStore).value = .ok store →
        ∃ remade, (ofKeyStoreBy judge message resource other).value = .ok remade ∧ store.Alike remade) ∧
      ∀ error, (ofKeyStoreBy judge message resource keyStore).value = .error error ↔
        (ofKeyStoreBy judge message resource other).value = .error error) ∧
    ofKeyStore resource keyStore = ofKeyStoreBy Certificate.anchor AnchorDefect.message resource keyStore := by
  refine ⟨exists_ofKeyStoreBy_iff, ?_, ?_, ?_, rfl⟩
  · intro store made
    obtain ⟨named, rfl, anchored⟩ := ofKeyStoreBy_ok_iff.1 made
    exact ⟨named, rfl, anchored, length_roots_of_anchored anchored, rfl⟩
  · intro error
    exact ofKeyStoreBy_error_iff
  · intro other rekeyings
    exact ⟨fun store made => alike_of_rekeyings rekeyings made, fun error => error_iff_of_rekeyings rekeyings⟩

/-- In the place of one private key there are two others, of which one has a chain. -/
def rekeyedIdentity : KeyStore where
  version := .v1
  entries :=
    [.privateKey ⟨"other", 0, [], [SoloSession.emptyCertificate]⟩,
      .trusted ⟨"root", draftMillis, SoloSession.emptyCertificate⟩, .privateKey ⟨"root", 0, [7], []⟩]

theorem roots_are_the_trusted_anchors_rekeyed :
    ∃ store, (ofKeyStoreBy Certificate.anchor AnchorDefect.message "roots" SoloSession.identity).value = .ok store ∧
      store.roots.length = store.size ∧
      ∃ remade, (ofKeyStoreBy Certificate.anchor AnchorDefect.message "roots" rekeyedIdentity).value = .ok remade ∧
        store.Alike remade := by
  have made : (ofKeyStoreBy Certificate.anchor AnchorDefect.message "roots" SoloSession.identity).value =
      .ok ⟨"roots", SoloSession.identity, [⟨[], [], none⟩]⟩ := by
    rfl
  have rekeyings : Rekeyings SoloSession.identity.entries rekeyedIdentity.entries :=
    (Relation.ReflTransGen.single (.replaced [] _ _ _)).tail (.inserted (rekeyedIdentity.entries.take 2) _ [])
  obtain ⟨_, stored, _, rekeyed, _⟩ :=
    roots_are_the_trusted_anchors Certificate.anchor AnchorDefect.message "roots" SoloSession.identity
  obtain ⟨_, _, _, counted, _⟩ := stored _ made
  exact ⟨_, made, counted, (rekeyed _ rekeyings).1 _ made⟩

end TrustStore

end TrustRoots
