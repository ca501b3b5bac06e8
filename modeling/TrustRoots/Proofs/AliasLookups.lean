import Mathlib.Data.List.Nodup
import TrustRoots.KeyStore.Session
import TrustRoots.Proofs.StreamLoads
import TrustRoots.Proofs.VerifiedHandles

/-! An alias stands for one entry. No store that can be come by has an alias twice, so that it makes no
difference whether an alias is looked up among all entries or among the trusted certificates alone. -/

namespace TrustRoots

private theorem find?_eq_some_iff_of_nodup {name : α → String} {stored : List α} (distinct : (stored.map name).Nodup)
    {sought : String} {found : α} :
    stored.find? (fun entry => name entry = sought) = some found ↔ found ∈ stored ∧ name found = sought := by
  constructor
  · intro looked
    exact ⟨List.mem_of_find?_eq_some looked, by simpa using List.find?_some looked⟩
  · rintro ⟨member, rfl⟩
    have present : (stored.find? fun entry => name entry = name found).isSome = true :=
      List.find?_isSome.2 ⟨found, member, decide_eq_true rfl⟩
    obtain ⟨first, looked⟩ := Option.isSome_iff_exists.1 present
    have same : name first = name found := by simpa using List.find?_some looked
    rw [looked, List.inj_on_of_nodup_map distinct (List.mem_of_find?_eq_some looked) member same]

private theorem Entry.trusted?_eq_some_iff {entry : Entry} {certificate : TrustedCertificate} :
    entry.trusted? = some certificate ↔ entry = .trusted certificate := by
  cases entry with
  | privateKey key => exact ⟨nofun, nofun⟩
  | trusted other =>
    exact ⟨fun same => congrArg _ (Option.some.inj same), fun same => congrArg _ (Entry.trusted.inj same)⟩

namespace KeyStore
variable {store : KeyStore}

/-- How one comes by a store. A load is one way whether it succeeds or fails. -/
inductive Obtainable : KeyStore → Prop where
  | empty : Obtainable .empty
  | default : Obtainable default
  | decoded {bytes : Bytes} {token : String} {store : KeyStore} (accepted : decode bytes token = .ok store) :
      Obtainable store
  | loaded {store : KeyStore} (before : Obtainable store) (stream : Stream) (token : String) :
      Obtainable (store.load stream token).value.2

private theorem mem_trustedCertificates_iff {certificate : TrustedCertificate} :
    certificate ∈ store.trustedCertificates ↔ .trusted certificate ∈ store.entries := by
  simp only [trustedCertificates, List.mem_filterMap, Entry.trusted?_eq_some_iff, exists_eq_right]

theorem names_trustedCertificates_sublist (store : KeyStore) :
    (store.trustedCertificates.map (·.name)).Sublist (store.entries.map Entry.name) := by
  unfold trustedCertificates
  induction store.entries with
  | nil => exact List.Sublist.slnil
  | cons entry rest ih =>
    cases entry with
    | privateKey key => exact ih.cons _
    | trusted certificate => exact ih.cons_cons _

theorem distinct_of_decode {bytes : Bytes} {token : String} (accepted : decode bytes token = .ok store) :
    (store.entries.map Entry.name).Nodup := by
  obtain ⟨wellFormed, _⟩ := (decode_eq_ok_iff ..).1 accepted
  exact wellFormed.distinct

/-- The reader lets no alias pass twice, and a load leaves what was read or what was there before. -/
theorem Obtainable.distinct (obtainable : store.Obtainable) : (store.entries.map Entry.name).Nodup := by
  induction obtainable with
  | empty | default => exact List.nodup_nil
  | decoded accepted => exact distinct_of_decode accepted
  | @loaded store before stream token ih =>
    by_cases fruitless : ∀ other, ¬ Delivery.Yields ⟨stream, token⟩ other
    · rw [load_of_fruitless fruitless]
      exact ih
    · obtain ⟨loaded, yields⟩ := Classical.not_forall_not.1 fruitless
      rw [load_of_yields yields]
      obtain ⟨bytes, _, accepted⟩ := yields
      exact distinct_of_decode accepted

theorem get?_eq_some_iff (distinct : (store.entries.map Entry.name).Nodup) {name : String} {entry : Entry} :
    store.get? name = some entry ↔ entry ∈ store.entries ∧ entry.name = name :=
  find?_eq_some_iff_of_nodup distinct

theorem map_get?_names (distinct : (store.entries.map Entry.name).Nodup) :
    (store.entries.map Entry.name).map store.get? = store.entries.map some := by
  rw [List.map_map]
  refine List.map_congr_left fun entry member => ?_
  exact (get?_eq_some_iff distinct).2 ⟨member, rfl⟩

end KeyStore

namespace TrustStore
variable {store : TrustStore}

theorem names_nodup (distinct : (store.keyStore.entries.map Entry.name).Nodup) : store.names.Nodup :=
  distinct.sublist store.keyStore.names_trustedCertificates_sublist

/-- Among the trusted certificates alone, an alias leads where it leads among all entries. -/
theorem certificate?_eq_some_iff (distinct : (store.keyStore.entries.map Entry.name).Nodup) {name : String}
    {certificate : TrustedCertificate} :
    store.certificate? name = some certificate ↔ store.keyStore.get? name = some (.trusted certificate) := by
  have among : store.certificate? name = some certificate ↔
      certificate ∈ store.certificates ∧ certificate.name = name :=
    find?_eq_some_iff_of_nodup (names_nodup distinct)
  rw [among, KeyStore.get?_eq_some_iff distinct, certificates, KeyStore.mem_trustedCertificates_iff]
  rfl

theorem certificate?_of_privateKey (distinct : (store.keyStore.entries.map Entry.name).Nodup) {name : String}
    {key : PrivateKey} (held : store.keyStore.get? name = some (.privateKey key)) :
    store.certificate? name = none := by
  cases looked : store.certificate? name with
  | none => rfl
  | some certificate =>
    rw [certificate?_eq_some_iff distinct, held] at looked
    cases looked

theorem mem_names_iff (distinct : (store.keyStore.entries.map Entry.name).Nodup) {name : String} :
    name ∈ store.names ↔ ∃ certificate, store.certificate? name = some certificate := by
  rw [names, List.mem_map]
  refine exists_congr fun certificate => ?_
  exact (find?_eq_some_iff_of_nodup (names_nodup distinct)).symm

end TrustStore

namespace KeyStore

namespace Desk

/-- Both stores at a desk are come by in one of the ways there are. -/
structure Furnished (desk : Desk) : Prop where
  current : desk.current.Obtainable
  saved : desk.saved.Obtainable

theorem Furnished.step {desk : Desk} (furnished : desk.Furnished) (next : DeskStep) :
    (desk.step next).value.2.Furnished := by
  cases next with
  | load stream token =>
    have loaded := furnished.current.loaded stream token
    have placed : (desk.step (.load stream token)).value.2 =
        { desk with current := (desk.current.load stream token).value.2 } := by
      simp only [Desk.step, bind]
      rcases (desk.current.load stream token).value with ⟨_ | _, after⟩ <;> rfl
    rw [placed]
    exact ⟨loaded, furnished.saved⟩
  | clear => exact ⟨.empty, furnished.saved⟩
  | save => exact ⟨furnished.current, furnished.current⟩
  | equalsSaved | get => exact furnished

theorem Furnished.obtainable_of_observed {desk : Desk} (furnished : desk.Furnished) {steps : List DeskStep}
    {observation : Observation} (observed : observation ∈ desk.observe steps) : observation.store.Obtainable := by
  induction steps generalizing desk with
  | nil => cases observed
  | cons next rest ih =>
    rcases List.mem_cons.1 observed with rfl | later
    · exact (furnished.step next).current
    · exact ih (furnished.step next) later

end Desk

/-- In a store that can be come by, every alias is that of one entry, which looking it up gives. In a
trust store of it, looking an alias up gives the certificate that is trusted under it, if there is one,
and the aliases stand in the order of the container. Every store seen in a session is one that can be
come by. -/
theorem aliases_identify_entries :
    (∀ store, Obtainable store →
      (store.entries.map Entry.name).Nodup ∧
      (∀ name entry, store.get? name = some entry ↔ entry ∈ store.entries ∧ entry.name = name) ∧
      (store.entries.map Entry.name).map store.get? = store.entries.map some ∧
      ∀ resource trust, (TrustStore.ofKeyStore resource store).value = .ok trust →
        trust.keyStore = store ∧
        (∀ name certificate, trust.certificate? name = some certificate ↔
          trust.keyStore.get? name = some (.trusted certificate)) ∧
        (∀ name key, trust.keyStore.get? name = some (.privateKey key) → trust.certificate? name = none) ∧
        (∀ name, name ∈ trust.names ↔ ∃ certificate, trust.certificate? name = some certificate) ∧
        trust.names.Nodup ∧ trust.names.Sublist (store.entries.map Entry.name)) ∧
    (∀ steps observation, observation ∈ Desk.observe {} steps → Obtainable observation.store) := by
  refine ⟨?_, ?_⟩
  · intro store obtainable
    have distinct := obtainable.distinct
    refine ⟨distinct, fun _ _ => get?_eq_some_iff distinct, map_get?_names distinct, ?_⟩
    intro resource trust made
    obtain ⟨_, rfl, _⟩ := TrustStore.ofKeyStoreBy_ok_iff.1 made
    refine ⟨rfl, ?_, ?_, ?_, ?_, ?_⟩
    · intro name certificate
      exact TrustStore.certificate?_eq_some_iff distinct
    · intro name key held
      exact TrustStore.certificate?_of_privateKey distinct held
    · intro name
      exact TrustStore.mem_names_iff distinct
    · exact TrustStore.names_nodup distinct
    · exact names_trustedCertificates_sublist _
  · intro steps observation observed
    have furnished : Desk.Furnished {} := ⟨.empty, .default⟩
    exact furnished.obtainable_of_observed observed

/-- The store holds a private key in front of a trusted certificate. -/
theorem aliases_identify_entries_identity :
    SoloSession.identity.get? "key" = some (.privateKey ⟨"key", draftMillis, [7], []⟩) ∧
    (∃ trust, (TrustStore.ofKeyStore "roots" SoloSession.identity).value = .ok trust ∧
      trust.certificate? "root" = some ⟨"root", draftMillis, SoloSession.emptyCertificate⟩ ∧
      trust.certificate? "key" = none) ∧
    (⟨.done, .empty, []⟩ ∈ Desk.observe {} [.clear] ∧ Obtainable .empty) := by
  have accepted : decode (SoloSession.identity.toDraft.encode "secret") "secret" = .ok SoloSession.identity := by
    decide +kernel
  have made : (TrustStore.ofKeyStore "roots" SoloSession.identity).value =
      .ok ⟨"roots", SoloSession.identity, [⟨[], [], none⟩]⟩ := by
    rfl
  obtain ⟨stores, seen⟩ := aliases_identify_entries
  obtain ⟨_, lookup, _, trusting⟩ := stores SoloSession.identity (.decoded accepted)
  obtain ⟨_, certificates, keys, _⟩ := trusting "roots" _ made
  have key := (lookup "key" (.privateKey ⟨"key", draftMillis, [7], []⟩)).2 ⟨List.mem_cons_self, rfl⟩
  have root := (lookup "root" (.trusted ⟨"root", draftMillis, SoloSession.emptyCertificate⟩)).2
    ⟨List.mem_cons_of_mem _ List.mem_cons_self, rfl⟩
  have cleared : ⟨.done, .empty, []⟩ ∈ Desk.observe {} [.clear] := List.mem_cons_self
  exact ⟨key, ⟨_, made, (certificates _ _).2 root, keys _ _ key⟩, cleared, seen [.clear] _ cleared⟩

end KeyStore

end TrustRoots
