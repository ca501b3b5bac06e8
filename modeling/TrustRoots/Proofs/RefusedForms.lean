import TrustRoots.Proofs.KeyStoreReads

/-! What a reading refuses. A form that no value has is refused by its first bytes, so that the same
error is found whatever follows them, and in a sequence once the forms before it have been read. -/

namespace TrustRoots.Reading

/-- The reading finds the error in these bytes, wherever they stand and whatever follows them. -/
def Refuses (reading : Reading α) (bytes : Bytes) (error : KeyStoreError) : Prop :=
  ∀ offset rest, ∃ moved, reading ⟨offset, bytes ++ rest⟩ = (.error error, moved)

variable {error : KeyStoreError} {bytes : Bytes}

theorem refuse_refuses : (refuse error : Reading α).Refuses bytes error :=
  fun offset rest => ⟨⟨offset, bytes ++ rest⟩, rfl⟩

theorem Refuses.append {reading : Reading α} (refuses : reading.Refuses bytes error) (more : Bytes) :
    reading.Refuses (bytes ++ more) error := by
  intro offset rest
  rw [List.append_assoc]
  exact refuses offset (more ++ rest)

theorem Refuses.bind {first : Reading α} (refuses : first.Refuses bytes error) (next : α → Reading β) :
    (first >>= next).Refuses bytes error := by
  intro offset rest
  obtain ⟨moved, failed⟩ := refuses offset rest
  exact ⟨moved, bind_of_error failed⟩

theorem Reads.bind_refuses {first : Reading α} {fits : α → Prop} {form : α → Bytes} (reads : first.Reads fits form)
    {value : α} (fit : fits value) {next : α → Reading β} (refuses : (next value).Refuses bytes error) :
    (first >>= next).Refuses (form value ++ bytes) error := by
  intro offset rest
  have read := (reads ⟨offset, form value ++ bytes ++ rest⟩ value ⟨offset + (form value).length, bytes ++ rest⟩).2
    ⟨fit, List.append_assoc .., rfl⟩
  rw [bind_of_ok read]
  exact refuses _ rest

section Container
variable {version : FormatVersion} {index : Nat}

theorem refuses_foreign_tag {tag : Nat} (foreign : tag ≠ privateKeyTag ∧ tag ≠ trustedTag)
    (small : tag < BigEndian.bound 4) :
    (entry id version index).Refuses (BigEndian.encode 4 tag) (.unknownEntryTag index tag) := by
  rw [← List.append_nil (BigEndian.encode 4 tag)]
  refine (reads_number 4).bind_refuses small ?_
  rw [if_neg (not_or.2 foreign)]
  exact refuse_refuses

section ForeignType
variable {certificateType : String} (foreign : certificateType ≠ x509)
  (short : certificateType.utf8ByteSize < BigEndian.bound 2) (name : String)
include foreign short

theorem refuses_foreign_type :
    (certificate .v2 name index).Refuses (Form.text certificateType)
      (.unsupportedCertificateType name certificateType) := by
  rw [← List.append_nil (Form.text certificateType)]
  refine (reads_text index).bind_refuses short ?_
  rw [if_neg foreign]
  exact refuse_refuses

/-- The first certificate of an entry is enough. -/
theorem refuses_foreign_chain {chain : List Bytes} (holding : chain ≠ []) (others : Bytes) :
    (certificates .v2 name index chain.length).Refuses (Form.text certificateType ++ others)
      (.unsupportedCertificateType name certificateType) := by
  obtain ⟨der, rest, rfl⟩ := List.exists_cons_of_ne_nil holding
  exact ((refuses_foreign_type foreign short name).append others).bind _

end ForeignType

/-- How an entry is read on behind its date. -/
def content (version : FormatVersion) (index : Nat) : Entry → Reading Entry
  | .trusted certificate => trusted version index certificate.name certificate.createdMillis
  | .privateKey key => privateKey id version index key.name key.createdMillis

theorem refuses_entry {stored : Entry} (short : stored.name.utf8ByteSize < BigEndian.bound 2)
    (refuses : (content version index stored).Refuses bytes error) :
    (entry id version index).Refuses
      (BigEndian.encode 4 stored.tag ++ (Form.text stored.name ++
        (BigEndian.encode 8 stored.createdMillis.toNat ++ bytes))) error := by
  refine (reads_number 4).bind_refuses stored.tag_lt ?_
  rw [if_pos stored.tag_cases]
  refine (reads_text index).bind_refuses short ((reads_number 8).bind_refuses stored.createdMillis.toNat_lt ?_)
  rw [UInt64.ofNat_toNat]
  cases stored with
  | trusted certificate => exact refuses
  | privateKey key => exact refuses

/-- Entries that have been read, under aliases of their own, leave the error to those behind them. -/
theorem refuses_entries {read : List Entry} {count : Nat} {seen : List String}
    (fits : ∀ stored ∈ read, stored.Fits) (distinct : (read.map Entry.name).Nodup)
    (fresh : ∀ stored ∈ read, stored.name ∉ seen)
    (refuses : (entries id version count (index + read.length) ((read.map Entry.name).reverse ++ seen)).Refuses
      bytes error) :
    (entries id version (read.length + count) index seen).Refuses
      (read.flatMap (Form.entry version) ++ bytes) error := by
  induction read generalizing index seen with
  | nil => simpa using refuses
  | cons stored others ih =>
    obtain ⟨fit, othersFit⟩ := List.forall_mem_cons.1 fits
    obtain ⟨unknown, othersFresh⟩ := List.forall_mem_cons.1 fresh
    obtain ⟨single, othersDistinct⟩ := List.nodup_cons.1 distinct
    have counted : (stored :: others).length + count = others.length + count + 1 := by
      rw [List.length_cons, Nat.add_right_comm]
    rw [counted, List.flatMap_cons, List.append_assoc]
    refine (reads_entry version index).bind_refuses fit ?_
    rw [if_neg unknown]
    refine (ih othersFit othersDistinct ?_ ?_).bind _
    · intro other member inside
      rcases List.mem_cons.1 inside with same | inside
      · exact single (same ▸ List.mem_map_of_mem member)
      · exact othersFresh other member inside
    · simpa [Nat.add_assoc, Nat.add_comm 1] using refuses

theorem refuses_keyStore {count : Nat} (few : count < BigEndian.bound 4)
    (refuses : (entries id version count 0 []).Refuses bytes error) :
    (keyStore id).Refuses (BigEndian.encode 4 keyStoreMagic ++ (BigEndian.encode 4 version.number ++
      (BigEndian.encode 4 count ++ bytes))) error := by
  refine (reads_number 4).bind_refuses (by decide) ?_
  rw [if_pos rfl]
  exact reads_formatVersion.bind_refuses trivial ((reads_number 4).bind_refuses few (refuses.bind _))

end Container

end TrustRoots.Reading
