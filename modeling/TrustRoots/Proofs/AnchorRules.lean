import TrustRoots.TrustStore.Basic

/-! The making of trust stores for any way to take an anchor from the bytes of a certificate, with any
words for its refusals. The first refusal decides, and private keys are not asked. -/

namespace TrustRoots

theorem Logged.value_bind (first : Logged α) (next : α → Logged β) :
    (first >>= next).value = (next first.value).value := rfl

namespace TrustedCertificate

def AnchoredBy (judge : Bytes → Except ε Anchor) (certificates : List TrustedCertificate)
    (roots : List Anchor) : Prop :=
  certificates.map (fun certificate => judge certificate.der) = roots.map .ok

/-- The certificate is judged to have no anchor, and it is the first one. -/
structure FirstRefusedBy (judge : Bytes → Except ε Anchor) (certificates : List TrustedCertificate)
    (certificate : TrustedCertificate) (defect : ε) : Prop where
  refused : judge certificate.der = .error defect
  earlier : ∃ front back, certificates = front ++ certificate :: back ∧
    ∀ accepted ∈ front, ∃ anchor, judge accepted.der = .ok anchor

variable {judge : Bytes → Except ε Anchor} {first certificate : TrustedCertificate}
  {rest : List TrustedCertificate}

private theorem anchoredBy_cons_iff {roots : List Anchor} :
    AnchoredBy judge (first :: rest) roots ↔
      ∃ anchor others, roots = anchor :: others ∧ judge first.der = .ok anchor ∧
        AnchoredBy judge rest others := by
  constructor
  · intro anchored
    cases roots with
    | nil => cases anchored
    | cons anchor others => exact ⟨anchor, others, rfl, List.cons.inj anchored⟩
  · rintro ⟨anchor, others, rfl, accepted, anchored⟩
    rw [AnchoredBy, List.map_cons, accepted, anchored]
    rfl

private theorem firstRefusedBy_cons_iff {defect : ε} :
    FirstRefusedBy judge (first :: rest) certificate defect ↔
      (certificate = first ∧ judge first.der = .error defect) ∨
        (∃ anchor, judge first.der = .ok anchor) ∧ FirstRefusedBy judge rest certificate defect := by
  constructor
  · rintro ⟨refused, front, back, split, accepted⟩
    cases front with
    | nil =>
      obtain ⟨rfl, _⟩ := List.cons.inj split
      exact .inl ⟨rfl, refused⟩
    | cons head front =>
      obtain ⟨rfl, behind⟩ := List.cons.inj split
      obtain ⟨headAccepted, others⟩ := List.forall_mem_cons.1 accepted
      exact .inr ⟨headAccepted, refused, front, back, behind, others⟩
  · rintro (⟨rfl, refused⟩ | ⟨headAccepted, refused, front, back, split, accepted⟩)
    · exact ⟨refused, [], rest, rfl, nofun⟩
    · refine ⟨refused, first :: front, back, congrArg _ split, ?_⟩
      exact List.forall_mem_cons.2 ⟨headAccepted, accepted⟩

theorem exists_anchoredBy_iff {certificates : List TrustedCertificate} :
    (∃ roots, AnchoredBy judge certificates roots) ↔
      ∀ certificate ∈ certificates, ∃ anchor, judge certificate.der = .ok anchor := by
  induction certificates with
  | nil => exact ⟨fun _ => nofun, fun _ => ⟨[], rfl⟩⟩
  | cons first rest ih =>
    rw [List.forall_mem_cons, ← ih]
    simp only [anchoredBy_cons_iff]
    constructor
    · rintro ⟨_, anchor, others, rfl, accepted, anchored⟩
      exact ⟨⟨anchor, accepted⟩, others, anchored⟩
    · rintro ⟨⟨anchor, accepted⟩, others, anchored⟩
      exact ⟨_, anchor, others, rfl, accepted, anchored⟩

end TrustedCertificate

namespace TrustStore
variable {ε : Type} {resource : String}

private theorem map_eq_ok_iff {result : Except ε α} {f : α → β} {value : β} :
    result.map f = .ok value ↔ ∃ inner, result = .ok inner ∧ f inner = value := by
  cases result with
  | error error => exact ⟨nofun, fun ⟨_, impossible, _⟩ => nomatch impossible⟩
  | ok inner =>
    refine ⟨fun same => ⟨inner, rfl, Except.ok.inj same⟩, ?_⟩
    rintro ⟨_, same, rfl⟩
    cases same
    rfl

private theorem map_eq_error_iff {result : Except ε α} {f : α → β} {error : ε} :
    result.map f = .error error ↔ result = .error error := by
  cases result with
  | error cause =>
    exact ⟨fun same => congrArg _ (Except.error.inj same), fun same => congrArg _ (Except.error.inj same)⟩
  | ok inner => exact ⟨nofun, nofun⟩

variable {judge : Bytes → Except ε Anchor} {message : ε → String}

private theorem anchorsBy_of_refused {certificate : TrustedCertificate} {defect : ε}
    (refused : judge certificate.der = .error defect) (rest : List Entry) :
    (anchorsBy judge message resource (.trusted certificate :: rest)).value =
      .error (.untrustedCertificate resource certificate.name (message defect)) := by
  rw [anchorsBy, refused]
  rfl

private theorem anchorsBy_of_accepted {certificate : TrustedCertificate} {anchor : Anchor}
    (accepted : judge certificate.der = .ok anchor) (rest : List Entry) :
    (anchorsBy judge message resource (.trusted certificate :: rest)).value =
      (anchorsBy judge message resource rest).value.map (anchor :: ·) := by
  simp only [anchorsBy, accepted, Logged.value_bind]
  cases (anchorsBy judge message resource rest).value <;> rfl

theorem anchorsBy_ok_iff {entries : List Entry} {roots : List Anchor} :
    (anchorsBy judge message resource entries).value = .ok roots ↔
      TrustedCertificate.AnchoredBy judge (entries.filterMap Entry.trusted?) roots := by
  induction entries generalizing roots with
  | nil =>
    rw [List.filterMap_nil, TrustedCertificate.AnchoredBy, List.map_nil, eq_comm, List.nil_eq, List.map_eq_nil_iff]
    exact ⟨Except.ok.inj, congrArg _⟩
  | cons entry rest ih =>
    cases entry with
    | privateKey key => exact ih
    | trusted certificate =>
      change _ ↔ TrustedCertificate.AnchoredBy judge (certificate :: rest.filterMap Entry.trusted?) roots
      rw [TrustedCertificate.anchoredBy_cons_iff]
      cases judged : judge certificate.der with
      | error defect =>
        rw [anchorsBy_of_refused judged]
        exact ⟨nofun, fun ⟨_, _, _, accepted, _⟩ => nomatch accepted⟩
      | ok anchor =>
        rw [anchorsBy_of_accepted judged, map_eq_ok_iff]
        constructor
        · rintro ⟨others, found, rfl⟩
          exact ⟨anchor, others, rfl, rfl, ih.1 found⟩
        · rintro ⟨_, others, rfl, same, anchored⟩
          cases same
          exact ⟨others, ih.2 anchored, rfl⟩

theorem anchorsBy_error_iff {entries : List Entry} {error : TrustStoreError} :
    (anchorsBy judge message resource entries).value = .error error ↔
      ∃ certificate defect,
        TrustedCertificate.FirstRefusedBy judge (entries.filterMap Entry.trusted?) certificate defect ∧
        error = .untrustedCertificate resource certificate.name (message defect) := by
  induction entries with
  | nil =>
    refine ⟨nofun, ?_⟩
    rintro ⟨certificate, defect, ⟨_, front, back, split, _⟩, _⟩
    exact absurd split.symm (List.append_ne_nil_of_right_ne_nil front (List.cons_ne_nil certificate back))
  | cons entry rest ih =>
    cases entry with
    | privateKey key => exact ih
    | trusted certificate =>
      change _ ↔ ∃ found defect, TrustedCertificate.FirstRefusedBy judge
        (certificate :: rest.filterMap Entry.trusted?) found defect ∧ _
      simp only [TrustedCertificate.firstRefusedBy_cons_iff]
      cases judged : judge certificate.der with
      | error defect =>
        rw [anchorsBy_of_refused judged]
        constructor
        · intro failed
          cases failed
          exact ⟨certificate, defect, .inl ⟨rfl, rfl⟩, rfl⟩
        · rintro ⟨found, other, ⟨rfl, same⟩ | ⟨⟨_, accepted⟩, _⟩, rfl⟩
          · cases same
            rfl
          · cases accepted
      | ok anchor =>
        rw [anchorsBy_of_accepted judged, map_eq_error_iff, ih]
        constructor
        · rintro ⟨found, defect, refused, named⟩
          exact ⟨found, defect, .inr ⟨⟨anchor, rfl⟩, refused⟩, named⟩
        · rintro ⟨found, defect, ⟨_, refused⟩ | ⟨_, refused⟩, named⟩
          · cases refused
          · exact ⟨found, defect, refused, named⟩

private theorem ofKeyStoreBy_value (keyStore : KeyStore) :
    (ofKeyStoreBy judge message resource keyStore).value =
      (anchorsBy judge message resource keyStore.entries).value.map fun roots => { resource, keyStore, roots } := by
  simp only [ofKeyStoreBy, Logged.value_bind]
  cases (anchorsBy judge message resource keyStore.entries).value <;> rfl

theorem ofKeyStoreBy_ok_iff {keyStore : KeyStore} {store : TrustStore} :
    (ofKeyStoreBy judge message resource keyStore).value = .ok store ↔
      store.resource = resource ∧ store.keyStore = keyStore ∧
        TrustedCertificate.AnchoredBy judge keyStore.trustedCertificates store.roots := by
  rw [ofKeyStoreBy_value, map_eq_ok_iff]
  constructor
  · rintro ⟨roots, found, rfl⟩
    exact ⟨rfl, rfl, anchorsBy_ok_iff.1 found⟩
  · rintro ⟨rfl, rfl, anchored⟩
    exact ⟨store.roots, anchorsBy_ok_iff.2 anchored, rfl⟩

theorem ofKeyStoreBy_error_iff {keyStore : KeyStore} {error : TrustStoreError} :
    (ofKeyStoreBy judge message resource keyStore).value = .error error ↔
      ∃ certificate defect,
        TrustedCertificate.FirstRefusedBy judge keyStore.trustedCertificates certificate defect ∧
        error = .untrustedCertificate resource certificate.name (message defect) := by
  rw [ofKeyStoreBy_value, map_eq_error_iff]
  exact anchorsBy_error_iff

end TrustStore

end TrustRoots
