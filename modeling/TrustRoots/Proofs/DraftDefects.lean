import TrustRoots.Proofs.ContainerEnds
import TrustRoots.Proofs.RefusedForms

/-! Drafts with defects. The first entry of a draft that no reader takes decides the error, and the
entries behind it do not matter, however they are read. A draft without such an entry is taken. -/

namespace TrustRoots

def DraftEntry.name : DraftEntry → String
  | stored entry => entry.name
  | bare _ name _ => name

namespace Draft

/-- The entry is written with certificates of a type that no reader takes. -/
def Mistyped (draft : Draft) (entry : Entry) : Prop :=
  draft.version = .v2 ∧ draft.certificateType ≠ x509 ∧ entry.certificates ≠ []

instance (draft : Draft) (entry : Entry) : Decidable (draft.Mistyped entry) :=
  inferInstanceAs (Decidable (_ ∧ _ ∧ _))

def Repeated (draft : Draft) (index : Nat) (entry : DraftEntry) : Prop :=
  entry.name ∈ (draft.entries.take index).map DraftEntry.name

instance (draft : Draft) (index : Nat) (entry : DraftEntry) : Decidable (draft.Repeated index entry) :=
  inferInstanceAs (Decidable (_ ∈ _))

/-- An entry that no reader takes at its place. -/
inductive Defective (draft : Draft) (index : Nat) : DraftEntry → Prop where
  | bare (tag : UInt32) (name : String) (createdMillis : UInt64) :
      Defective draft index (.bare tag name createdMillis)
  | mistyped {entry : Entry} (mistyped : draft.Mistyped entry) : Defective draft index (.stored entry)
  | repeated {entry : DraftEntry} (repeated : draft.Repeated index entry) : Defective draft index entry

private theorem defective_stored_iff {draft : Draft} {index : Nat} {entry : Entry} :
    draft.Defective index (.stored entry) ↔ draft.Mistyped entry ∨ draft.Repeated index (.stored entry) := by
  constructor
  · intro defective
    cases defective with
    | mistyped mistyped => exact .inl mistyped
    | repeated repeated => exact .inr repeated
  · rintro (mistyped | repeated)
    · exact .mistyped mistyped
    · exact .repeated repeated

instance (draft : Draft) (index : Nat) (entry : DraftEntry) : Decidable (draft.Defective index entry) :=
  match entry with
  | .bare tag name createdMillis => isTrue (.bare tag name createdMillis)
  | .stored _ => decidable_of_iff _ defective_stored_iff.symm

/-- The error for a defective entry. A foreign type of certificates goes before an alias that has
been seen. -/
def defect (draft : Draft) (index : Nat) : DraftEntry → KeyStoreError
  | .bare tag _ _ => .unknownEntryTag index tag.toNat
  | .stored entry =>
    if draft.Mistyped entry then .unsupportedCertificateType entry.name draft.certificateType
    else .duplicateAlias entry.name

/-- Every length has room in its width, and bare entries do not have the tag of stored ones. -/
structure Measured (draft : Draft) : Prop where
  count : draft.entries.length < BigEndian.bound 4
  certificateType : draft.certificateType.utf8ByteSize < BigEndian.bound 2
  fits : ∀ entry, .stored entry ∈ draft.entries → entry.Fits
  foreign : ∀ tag name createdMillis, .bare tag name createdMillis ∈ draft.entries →
    tag.toNat ≠ privateKeyTag ∧ tag.toNat ≠ trustedTag

variable {draft : Draft} {index : Nat}

private theorem typed_iff_not_mistyped {entry : Entry} :
    (draft.version = .v1 ∨ draft.certificateType = x509 ∨ entry.certificates = []) ↔ ¬ draft.Mistyped entry := by
  have versions : draft.version = .v1 ↔ draft.version ≠ .v2 := by cases draft.version <;> decide
  rw [Mistyped, versions, not_and_or, not_and_or, not_not, not_not]

private theorem stored_of_sound (inside : index ≤ draft.entries.length)
    (sound : ∀ before < index, ∀ entry, draft.entries[before]? = some entry → ¬ draft.Defective before entry) :
    ∃ read : List Entry, draft.entries.take index = read.map .stored ∧ (read.map Entry.name).Nodup ∧
      ∀ entry ∈ read, ¬ draft.Mistyped entry := by
  induction index with
  | zero => exact ⟨[], by simp, List.nodup_nil, nofun⟩
  | succ index ih =>
    obtain ⟨read, front, distinct, typed⟩ :=
      ih (Nat.le_of_succ_le inside) fun before early => sound before (Nat.lt_succ_of_lt early)
    have last := List.getElem?_eq_getElem inside
    have faultless := sound index (Nat.lt_succ_self index) _ last
    rw [List.take_add_one, last]
    generalize draft.entries[index] = entry at faultless
    cases entry with
    | bare tag name createdMillis => exact absurd (.bare tag name createdMillis) faultless
    | stored entry =>
      have fresh : entry.name ∉ read.map Entry.name := by
        intro known
        refine faultless (.repeated ?_)
        rw [Repeated, front, List.map_map]
        exact known
      refine ⟨read ++ [entry], by rw [front, List.map_append]; rfl, ?_, ?_⟩
      · rw [List.map_append, List.nodup_append]
        refine ⟨distinct, List.pairwise_singleton _ _, ?_⟩
        rintro name known other new rfl
        exact fresh (List.mem_singleton.1 new ▸ known)
      · intro other member mistyped
        rcases List.mem_append.1 member with known | new
        · exact typed other known mistyped
        · rw [List.mem_singleton.1 new] at mistyped
          exact faultless (.mistyped mistyped)

/-- What a draft writes behind the date of an entry. -/
def content (version : FormatVersion) (certificateType : String) : Entry → Bytes
  | .trusted stored => certificate version certificateType stored.der
  | .privateKey key => blob key.protectedKey ++
      (count key.chain.length ++ key.chain.flatMap (certificate version certificateType))

theorem entry_eq (version : FormatVersion) (certificateType : String) (stored : Entry) :
    entry version certificateType (.stored stored) =
      BigEndian.encode 4 stored.tag ++ (text stored.name ++
        (BigEndian.encode 8 stored.createdMillis.toNat ++ content version certificateType stored)) := by
  cases stored <;> simp only [entry, header, content, List.append_assoc] <;> rfl

private theorem refuses_mistyped {certificateType : String} {stored : Entry} (fits : stored.Fits)
    (short : certificateType.utf8ByteSize < BigEndian.bound 2) (foreign : certificateType ≠ x509)
    (holding : stored.certificates ≠ []) :
    (Reading.entry id .v2 index).Refuses (entry .v2 certificateType (.stored stored))
      (.unsupportedCertificateType stored.name certificateType) := by
  have named : text stored.name = Form.text stored.name := measured_of_lt fits.name
  have typed : text certificateType = Form.text certificateType := measured_of_lt short
  rw [entry_eq, named]
  refine Reading.refuses_entry fits.name ?_
  cases stored with
  | trusted certificate =>
    rw [content, Draft.certificate, typed]
    exact ((Reading.refuses_foreign_type foreign short _).append _).bind _
  | privateKey key =>
    obtain ⟨_, small, few, _⟩ := (Entry.fits_privateKey_iff key).1 fits
    have keyed : blob key.protectedKey = Form.blob key.protectedKey := measured_of_lt small
    obtain ⟨der, rest, chain⟩ := List.exists_cons_of_ne_nil (show key.chain ≠ [] from holding)
    have written : ∃ others, key.chain.flatMap (certificate .v2 certificateType) =
        Form.text certificateType ++ others := by
      rw [chain, List.flatMap_cons, certificate, typed, List.append_assoc]
      exact ⟨_, rfl⟩
    obtain ⟨others, written⟩ := written
    rw [content, keyed, count_of_lt few, written]
    exact Reading.reads_blob.bind_refuses small ((Reading.reads_number 4).bind_refuses few
      ((Reading.refuses_foreign_chain foreign short _ holding others).bind _))

/-- The defect is found when the aliases in front of the entry have been seen. -/
private theorem refuses_defective (measured : draft.Measured) {entry : DraftEntry}
    (found : draft.entries[index]? = some entry)
    (defective : draft.Defective index entry) {seen : List String} (count : Nat)
    (known : ∀ name, name ∈ seen ↔ name ∈ (draft.entries.take index).map DraftEntry.name) :
    (Reading.entries id draft.version (count + 1) index seen).Refuses
      (Draft.entry draft.version draft.certificateType entry) (draft.defect index entry) := by
  have member := List.mem_of_getElem? found
  cases entry with
  | bare tag name createdMillis =>
    have foreign := measured.foreign tag name createdMillis member
    rw [Draft.entry, header, List.append_assoc]
    exact ((Reading.refuses_foreign_tag foreign tag.toNat_lt).append _).bind _
  | stored entry =>
    have fits := measured.fits entry member
    by_cases mistyped : draft.Mistyped entry
    · rw [defect, if_pos mistyped]
      obtain ⟨version, foreign, holding⟩ := mistyped
      rw [version]
      exact (refuses_mistyped fits measured.certificateType foreign holding).bind _
    · rw [defect, if_neg mistyped, entry_stored fits (typed_iff_not_mistyped.2 mistyped)]
      have again : entry.name ∈ seen :=
        (known entry.name).2 ((defective_stored_iff.1 defective).resolve_left mistyped)
      rw [← List.append_nil (Form.entry draft.version entry)]
      refine (Reading.reads_entry draft.version index).bind_refuses fits ?_
      rw [if_pos again]
      exact Reading.refuse_refuses

/-- Written in the form of a store up to the first entry that is not, a draft is refused there. -/
private theorem refuses_body (measured : draft.Measured) {entry : DraftEntry}
    (found : draft.entries[index]? = some entry)
    (defective : draft.Defective index entry)
    (sound : ∀ before < index, ∀ earlier, draft.entries[before]? = some earlier → ¬ draft.Defective before earlier) :
    (Reading.keyStore id).Refuses draft.body (draft.defect index entry) := by
  obtain ⟨inside, located⟩ := List.getElem?_eq_some_iff.1 found
  obtain ⟨read, front, distinct, typed⟩ := stored_of_sound (Nat.le_of_lt inside) sound
  obtain rfl : index = read.length := by
    rw [← List.length_map DraftEntry.stored, ← front, List.length_take_of_le (Nat.le_of_lt inside)]
  have split : draft.entries = read.map .stored ++ entry :: draft.entries.drop (read.length + 1) := by
    rw [← front, ← located, ← List.drop_eq_getElem_cons inside, List.take_append_drop]
  have fits : ∀ stored ∈ read, stored.Fits := by
    intro stored member
    refine measured.fits stored ?_
    rw [split]
    exact List.mem_append_left _ (List.mem_map_of_mem member)
  have seen (name : String) : name ∈ (read.map Entry.name).reverse ++ [] ↔
      name ∈ (draft.entries.take read.length).map DraftEntry.name := by
    rw [List.append_nil, List.mem_reverse, front, List.map_map]
    rfl
  generalize draft.entries.drop (read.length + 1) = others at split
  have total : draft.entries.length = read.length + (others.length + 1) := by
    rw [split, List.length_append, List.length_map, List.length_cons]
  have forms : read.flatMap (fun stored => Draft.entry draft.version draft.certificateType (.stored stored)) =
      read.flatMap (Form.entry draft.version) :=
    List.flatMap_congr fun stored member =>
      entry_stored (fits stored member) (typed_iff_not_mistyped.2 (typed stored member))
  have written : draft.entries.flatMap (Draft.entry draft.version draft.certificateType) =
      read.flatMap (Form.entry draft.version) ++ (Draft.entry draft.version draft.certificateType entry ++
        others.flatMap (Draft.entry draft.version draft.certificateType)) := by
    rw [split, List.flatMap_append, List.flatMap_map, forms, List.flatMap_cons]
  have refused := (refuses_defective measured found defective others.length seen).append
    (others.flatMap (Draft.entry draft.version draft.certificateType))
  rw [body, count_of_lt measured.count, written, List.append_assoc, List.append_assoc]
  refine Reading.refuses_keyStore measured.count ?_
  rw [total]
  refine Reading.refuses_entries fits distinct (fun _ _ => List.not_mem_nil) ?_
  rw [Nat.zero_add]
  exact refused

theorem decode_of_sound (measured : draft.Measured)
    (sound : ∀ index entry, draft.entries[index]? = some entry → ¬ draft.Defective index entry) :
    ∃ entries, draft.entries = entries.map .stored ∧
      ∀ token, KeyStore.decode (draft.encode token) token = .ok ⟨draft.version, entries⟩ := by
  obtain ⟨entries, all, distinct, typed⟩ := stored_of_sound (Nat.le_refl draft.entries.length)
    fun index _ entry found => sound index entry found
  rw [List.take_length] at all
  have same : draft = ⟨draft.version, draft.certificateType, entries.map .stored⟩ := by rw [← all]
  have few : entries.length < BigEndian.bound 4 := by
    rw [← List.length_map DraftEntry.stored, ← all]
    exact measured.count
  have fits : ∀ stored ∈ entries, stored.Fits := by
    intro stored member
    refine measured.fits stored ?_
    rw [all]
    exact List.mem_map_of_mem member
  refine ⟨entries, all, fun token => ?_⟩
  rw [same]
  refine decode_encode_stored ⟨few, fits, distinct⟩ ?_ token
  refine or_iff_not_imp_left.2 fun later => or_iff_not_imp_left.2 fun foreign stored member => ?_
  exact ((typed_iff_not_mistyped.2 (typed stored member)).resolve_left later).resolve_left foreign

end Draft

namespace KeyStore

/-- The first entry that no reader takes decides the error, for whatever tokens the draft is sealed
and read. If there is none, the draft is that of a store, which is read back for its token. -/
theorem first_defect_decides (draft : Draft) (measured : draft.Measured) :
    (∀ index entry, draft.entries[index]? = some entry → draft.Defective index entry →
      (∀ before < index, ∀ earlier, draft.entries[before]? = some earlier → ¬ draft.Defective before earlier) →
      ∀ sealing token, decode (draft.encode sealing) token = .error (draft.defect index entry)) ∧
    ((∀ index entry, draft.entries[index]? = some entry → ¬ draft.Defective index entry) →
      ∃ entries, draft.entries = entries.map .stored ∧
        ∀ token, decode (draft.encode token) token = .ok ⟨draft.version, entries⟩) := by
  refine ⟨?_, ?_⟩
  · intro index entry found defective sound sealing token
    obtain ⟨moved, refused⟩ := Draft.refuses_body measured found defective sound 0 (Seal.of sealing draft.body)
    exact decode_of_refused refused token
  · exact Draft.decode_of_sound measured

/-- The certificate of the second key is of a foreign type, its alias is taken, and a bare entry comes
behind it. -/
def crowdedDraft : Draft where
  certificateType := "PGP"
  entries := [.stored (.privateKey ⟨"key", draftMillis, [7], []⟩),
    .stored (.privateKey ⟨"key", draftMillis, [7], [[0x30]]⟩), .bare 3 "key" draftMillis]

theorem first_defect_decides_crowded :
    decode (crowdedDraft.encode "s") "t" = .error (.unsupportedCertificateType "key" "PGP") := by
  have fits (entry : Entry) (member : .stored entry ∈ crowdedDraft.entries) : entry.Fits := by
    simp only [crowdedDraft, List.mem_cons, DraftEntry.stored.injEq, reduceCtorEq, List.not_mem_nil, or_false] at member
    rcases member with rfl | rfl <;> decide
  have foreign (tag : UInt32) (name : String) (createdMillis : UInt64)
      (member : .bare tag name createdMillis ∈ crowdedDraft.entries) :
      tag.toNat ≠ privateKeyTag ∧ tag.toNat ≠ trustedTag := by
    simp only [crowdedDraft, List.mem_cons, DraftEntry.bare.injEq, reduceCtorEq, List.not_mem_nil, or_false,
      false_or] at member
    rw [member.1]
    decide
  refine (first_defect_decides crowdedDraft ⟨by decide, by decide, fits, foreign⟩).1 1 _ rfl (by decide) ?_ "s" "t"
  intro before early earlier found
  obtain rfl := Nat.lt_one_iff.1 early
  cases found
  decide

end KeyStore

end TrustRoots
