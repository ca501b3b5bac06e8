import TrustRoots.Proofs.AnchorRules
import TrustRoots.Provider.Basic

/-! What a load makes of the resource that it opened. A store comes out exactly if all bytes have
been delivered, decode for the token, and hold trusted certificates that are trust anchors. Any
other opening that does not panic has one error, which says what was missing. -/

namespace TrustRoots

/-- The store is what the bytes hold: they decode for the token, and all trusted certificates are
anchors. -/
structure TrustStore.Verified (config : Config) (bytes : Bytes) (store : TrustStore) : Prop where
  resource : store.resource = config.resourceName
  decoded : KeyStore.decode bytes config.token = .ok store.keyStore
  anchored : TrustedCertificate.AnchoredBy Certificate.anchor store.certificates store.roots

namespace Opening

/-- A stream was opened, and these are all the bytes that it delivered up to its end. -/
def Delivers (opening : Opening) (bytes : Bytes) : Prop :=
  ∃ stream, opening = .stream stream ∧ stream.readToEnd = .ok bytes

theorem delivers_stream_iff {stream : Stream} {bytes : Bytes} :
    (Opening.stream stream).Delivers bytes ↔ stream.readToEnd = .ok bytes := by
  refine ⟨?_, fun delivered => ⟨stream, rfl, delivered⟩⟩
  rintro ⟨_, same, delivered⟩
  cases same
  exact delivered

/-- Why no store comes out of an opening. Each error names the configured resource. -/
inductive Fails (config : Config) (opening : Opening) : TrustStoreError → Prop where
  | unavailable {reason : String} (refused : opening = .refused reason) :
      Fails config opening (.resourceUnavailable config.resourceName reason)
  | unreadable {stream : Stream} {reason : String} (opened : opening = .stream stream)
      (failed : stream.readToEnd = .error reason) :
      Fails config opening (.storeLoad config.resourceName (.unreadable reason))
  | undecodable {bytes : Bytes} {cause : KeyStoreError} (delivers : opening.Delivers bytes)
      (refused : KeyStore.decode bytes config.token = .error cause) :
      Fails config opening (.storeLoad config.resourceName cause)
  | untrusted {bytes : Bytes} {keyStore : KeyStore} {certificate : TrustedCertificate} {defect : AnchorDefect}
      (delivers : opening.Delivers bytes) (decoded : KeyStore.decode bytes config.token = .ok keyStore)
      (refused : TrustedCertificate.FirstRefusedBy Certificate.anchor keyStore.trustedCertificates certificate defect) :
      Fails config opening
        (.untrustedCertificate config.resourceName certificate.name defect.message)

section Fails
variable {config : Config} {stream : Stream} {bytes : Bytes} {error : TrustStoreError}

theorem not_delivers_refused {reason : String} : ¬ (Opening.refused reason).Delivers bytes :=
  fun ⟨_, impossible, _⟩ => nomatch impossible

theorem not_delivers_panicked : ¬ Opening.panicked.Delivers bytes :=
  fun ⟨_, impossible, _⟩ => nomatch impossible

private theorem fails_refused_iff {reason : String} :
    (Opening.refused reason).Fails config error ↔
      error = .resourceUnavailable config.resourceName reason := by
  constructor
  · intro fails
    cases fails with
    | unavailable refused => cases refused; rfl
    | unreadable opened => cases opened
    | undecodable delivers | untrusted delivers => exact absurd delivers not_delivers_refused
  · rintro rfl
    exact .unavailable rfl

private theorem not_fails_panicked : ¬ Opening.panicked.Fails config error := by
  intro fails
  cases fails with
  | unavailable refused => cases refused
  | unreadable opened => cases opened
  | undecodable delivers | untrusted delivers => exact not_delivers_panicked delivers

private theorem fails_iff_of_failed {reason : String} (failed : stream.readToEnd = .error reason) :
    (Opening.stream stream).Fails config error ↔
      error = .storeLoad config.resourceName (.unreadable reason) := by
  constructor
  · intro fails
    cases fails with
    | unavailable refused => cases refused
    | unreadable opened again =>
      cases opened
      cases failed.symm.trans again
      rfl
    | undecodable delivers | untrusted delivers =>
      cases failed.symm.trans (delivers_stream_iff.1 delivers)
  · rintro rfl
    exact .unreadable rfl failed

private theorem fails_iff_of_delivered (delivered : stream.readToEnd = .ok bytes) :
    (Opening.stream stream).Fails config error ↔
      (∃ cause, KeyStore.decode bytes config.token = .error cause ∧
        error = .storeLoad config.resourceName cause) ∨
      ∃ keyStore certificate defect, KeyStore.decode bytes config.token = .ok keyStore ∧
        TrustedCertificate.FirstRefusedBy Certificate.anchor keyStore.trustedCertificates certificate defect ∧
        error = .untrustedCertificate config.resourceName certificate.name defect.message := by
  constructor
  · intro fails
    cases fails with
    | unavailable refused => cases refused
    | unreadable opened failed =>
      cases opened
      cases delivered.symm.trans failed
    | undecodable again refused =>
      cases delivered.symm.trans (delivers_stream_iff.1 again)
      exact .inl ⟨_, refused, rfl⟩
    | untrusted again decoded refused =>
      cases delivered.symm.trans (delivers_stream_iff.1 again)
      exact .inr ⟨_, _, _, decoded, refused, rfl⟩
  · have delivers := delivers_stream_iff.2 delivered
    rintro (⟨cause, refused, rfl⟩ | ⟨keyStore, certificate, defect, decoded, refused, rfl⟩)
    · exact .undecodable delivers refused
    · exact .untrusted delivers decoded refused

end Fails

end Opening

namespace Config
variable {config : Config} {stream : Stream} {bytes : Bytes}

private theorem readStore_of_failed {reason : String} (failed : stream.readToEnd = .error reason) :
    (config.readStore stream).value = .error (.storeLoad config.resourceName (.unreadable reason)) := by
  simp only [readStore, bind, KeyStore.ofStream, failed]
  rfl

private theorem readStore_of_undecodable {cause : KeyStoreError} (delivered : stream.readToEnd = .ok bytes)
    (refused : KeyStore.decode bytes config.token = .error cause) :
    (config.readStore stream).value = .error (.storeLoad config.resourceName cause) := by
  simp only [readStore, bind, KeyStore.ofStream, delivered, KeyStore.accept, refused]
  rfl

private theorem readStore_of_decoded {keyStore : KeyStore} (delivered : stream.readToEnd = .ok bytes)
    (decoded : KeyStore.decode bytes config.token = .ok keyStore) :
    (config.readStore stream).value = (TrustStore.ofKeyStore config.resourceName keyStore).value := by
  simp only [readStore, bind, KeyStore.ofStream, delivered, KeyStore.accept, decoded]

theorem readStore_ok_iff {store : TrustStore} :
    (config.readStore stream).value = .ok store ↔
      ∃ bytes, (Opening.stream stream).Delivers bytes ∧ store.Verified config bytes := by
  simp only [Opening.delivers_stream_iff]
  cases delivered : stream.readToEnd with
  | error reason =>
    rw [readStore_of_failed delivered]
    exact ⟨nofun, fun ⟨_, impossible, _⟩ => nomatch impossible⟩
  | ok bytes =>
    cases decoded : KeyStore.decode bytes config.token with
    | error cause =>
      rw [readStore_of_undecodable delivered decoded]
      refine ⟨nofun, ?_⟩
      rintro ⟨_, same, verified⟩
      cases same
      cases decoded.symm.trans verified.decoded
    | ok keyStore =>
      rw [readStore_of_decoded delivered decoded, TrustStore.ofKeyStore, TrustStore.ofKeyStoreBy_ok_iff]
      constructor
      · rintro ⟨resource, rfl, anchored⟩
        exact ⟨bytes, rfl, resource, decoded, anchored⟩
      · rintro ⟨_, same, resource, found, anchored⟩
        cases same
        cases decoded.symm.trans found
        exact ⟨resource, rfl, anchored⟩

theorem readStore_error_iff {error : TrustStoreError} :
    (config.readStore stream).value = .error error ↔ (Opening.stream stream).Fails config error := by
  cases delivered : stream.readToEnd with
  | error reason =>
    rw [readStore_of_failed delivered, Opening.fails_iff_of_failed delivered, Except.error.injEq, eq_comm]
  | ok bytes =>
    rw [Opening.fails_iff_of_delivered delivered]
    cases decoded : KeyStore.decode bytes config.token with
    | error cause =>
      rw [readStore_of_undecodable delivered decoded]
      simp [eq_comm]
    | ok keyStore =>
      rw [readStore_of_decoded delivered decoded, TrustStore.ofKeyStore, TrustStore.ofKeyStoreBy_error_iff]
      simp

section Attempt
variable [ResourceSource σ] {source : σ}

theorem attempt_of_opening (config : Config) (source : σ) :
    (config.attempt source).value.1 =
      match (ResourceSource.openResource config.resourceName source).1 with
      | .panicked => .panicked
      | .refused reason => .finished (.error (.resourceUnavailable config.resourceName reason))
      | .stream stream => .finished (config.readStore stream).value := by
  rw [attempt]
  rcases ResourceSource.openResource config.resourceName source with ⟨_ | _ | _, after⟩ <;> rfl

theorem attempt_ok_iff {store : TrustStore} :
    (config.attempt source).value.1 = .finished (.ok store) ↔
      ∃ bytes, (ResourceSource.openResource config.resourceName source).1.Delivers bytes ∧
        store.Verified config bytes := by
  rw [attempt_of_opening]
  cases (ResourceSource.openResource config.resourceName source).1 with
  | stream stream => rw [Attempt.finished.injEq, readStore_ok_iff]
  | refused reason => exact ⟨nofun, fun ⟨_, delivers, _⟩ => absurd delivers Opening.not_delivers_refused⟩
  | panicked => exact ⟨nofun, fun ⟨_, delivers, _⟩ => absurd delivers Opening.not_delivers_panicked⟩

theorem attempt_error_iff {error : TrustStoreError} :
    (config.attempt source).value.1 = .finished (.error error) ↔
      (ResourceSource.openResource config.resourceName source).1.Fails config error := by
  rw [attempt_of_opening]
  cases (ResourceSource.openResource config.resourceName source).1 with
  | stream stream => rw [Attempt.finished.injEq, readStore_error_iff]
  | refused reason => rw [Opening.fails_refused_iff, Attempt.finished.injEq, Except.error.injEq, eq_comm]
  | panicked => exact ⟨nofun, fun fails => absurd fails Opening.not_fails_panicked⟩

theorem attempt_panicked_iff :
    (config.attempt source).value.1 = .panicked ↔
      (ResourceSource.openResource config.resourceName source).1 = .panicked := by
  rw [attempt_of_opening]
  cases (ResourceSource.openResource config.resourceName source).1 with
  | panicked => exact ⟨fun _ => rfl, fun _ => rfl⟩
  | refused reason | stream stream => exact ⟨nofun, nofun⟩

end Attempt

end Config

end TrustRoots
