import TrustRoots.Proofs.CursorReads
import TrustRoots.Proofs.SealAgreement

/-! The reader of key stores accepts the written form of every well-formed store and nothing
else. Each part of the reader is described by the part of the form that it consumes; the loops
follow the lists that they give. -/

namespace TrustRoots

theorem FormatVersion.ofNumber_eq_ok_iff (declared : Nat) (version : FormatVersion) :
    ofNumber declared = .ok version ↔ declared = version.number := by
  constructor
  · intro accepted
    unfold ofNumber at accepted
    split at accepted <;> cases accepted <;> rfl
  · rintro rfl
    cases version <;> rfl

namespace Reading
variable {cursor moved : Cursor}

theorem reads_certificate (version : FormatVersion) (name : String) (index : Nat) :
    (certificate version name index).Reads (fun der => der.length < BigEndian.bound 4)
      (Form.certificate version) := by
  cases version with
  | v1 => exact reads_blob
  | v2 =>
    intro cursor der moved
    unfold certificate
    rw [(reads_text index).bind_ok_iff]
    constructor
    · intro ⟨declared, place, ⟨_, typed⟩, read⟩
      by_cases known : declared = x509
      · subst known
        rw [if_pos rfl] at read
        obtain ⟨small, passed⟩ := (reads_blob _ _ _).1 read
        exact ⟨small, typed.append passed⟩
      · rw [if_neg known] at read
        exact absurd read refuse_ne_ok
    · intro ⟨small, passed⟩
      obtain ⟨place, typed, passed⟩ := Cursor.passes_append_iff.1 passed
      refine ⟨x509, place, ⟨by decide, typed⟩, ?_⟩
      rw [if_pos rfl]
      exact (reads_blob _ _ _).2 ⟨small, passed⟩

theorem reads_certificates (version : FormatVersion) (name : String) (index count : Nat) :
    (certificates version name index count).Reads
      (fun chain => chain.length = count ∧ ∀ der ∈ chain, der.length < BigEndian.bound 4)
      (fun chain => chain.flatMap (Form.certificate version)) := by
  induction count with
  | zero =>
    intro cursor chain moved
    unfold certificates
    rw [pure_ok_iff]
    constructor
    · rintro ⟨rfl, rfl⟩
      exact ⟨by simp, Cursor.passes_nil_iff.2 rfl⟩
    · intro ⟨⟨empty, _⟩, passed⟩
      obtain rfl := List.length_eq_zero_iff.1 empty
      exact ⟨rfl, Cursor.passes_nil_iff.1 passed⟩
  | succ count ih =>
    intro cursor chain moved
    unfold certificates
    rw [(reads_certificate version name index).bind_ok_iff]
    constructor
    · intro ⟨der, place, ⟨small, first⟩, read⟩
      obtain ⟨others, last, ⟨⟨counted, fits⟩, passed⟩, done⟩ := ih.bind_ok_iff.1 read
      obtain ⟨rfl, rfl⟩ := pure_ok_iff.1 done
      exact ⟨⟨congrArg Nat.succ counted, List.forall_mem_cons.2 ⟨small, fits⟩⟩, first.append passed⟩
    · intro ⟨⟨counted, fits⟩, passed⟩
      cases chain with
      | nil => cases counted
      | cons der others =>
        obtain ⟨small, fits⟩ := List.forall_mem_cons.1 fits
        obtain ⟨place, first, passed⟩ := Cursor.passes_append_iff.1 passed
        exact ⟨der, place, ⟨small, first⟩, ih.bind_ok_iff.2
          ⟨others, moved, ⟨⟨Nat.succ.inj counted, fits⟩, passed⟩, pure_ok_iff.2 ⟨rfl, rfl⟩⟩⟩

private theorem reads_trusted (version : FormatVersion) (index : Nat) (name : String) (createdMillis : UInt64) :
    (trusted version index name createdMillis).Reads
      (fun entry => ∃ der, entry = .trusted ⟨name, createdMillis, der⟩ ∧ der.length < BigEndian.bound 4)
      (Form.content version) := by
  intro cursor entry moved
  unfold trusted
  rw [(reads_certificate version name index).bind_ok_iff]
  constructor
  · intro ⟨der, place, ⟨small, passed⟩, done⟩
    obtain ⟨rfl, rfl⟩ := pure_ok_iff.1 done
    exact ⟨⟨der, rfl, small⟩, passed⟩
  · intro ⟨⟨der, same, small⟩, passed⟩
    subst same
    exact ⟨der, moved, ⟨small, passed⟩, pure_ok_iff.2 ⟨rfl, rfl⟩⟩

private theorem reads_privateKey (version : FormatVersion) (index : Nat) (name : String) (createdMillis : UInt64) :
    (privateKey id version index name createdMillis).Reads
      (fun entry => ∃ protectedKey chain, entry = .privateKey ⟨name, createdMillis, protectedKey, chain⟩ ∧
        protectedKey.length < BigEndian.bound 4 ∧ chain.length < BigEndian.bound 4 ∧
        ∀ der ∈ chain, der.length < BigEndian.bound 4)
      (Form.content version) := by
  intro cursor entry moved
  unfold privateKey
  rw [reads_blob.bind_ok_iff]
  constructor
  · intro ⟨protectedKey, keyed, ⟨small, keyAt⟩, read⟩
    obtain ⟨count, counted, ⟨few, countAt⟩, read⟩ := (reads_number 4).bind_ok_iff.1 read
    obtain ⟨chain, last, ⟨⟨rfl, fits⟩, chainAt⟩, done⟩ :=
      (reads_certificates version name index count).bind_ok_iff.1 read
    obtain ⟨rfl, rfl⟩ := pure_ok_iff.1 done
    exact ⟨⟨protectedKey, chain, rfl, small, few, fits⟩, keyAt.append (countAt.append chainAt)⟩
  · intro ⟨⟨protectedKey, chain, same, small, few, fits⟩, passed⟩
    subst same
    obtain ⟨keyed, keyAt, passed⟩ := Cursor.passes_append_iff.1 passed
    obtain ⟨counted, countAt, passed⟩ := Cursor.passes_append_iff.1 passed
    exact ⟨protectedKey, keyed, ⟨small, keyAt⟩, (reads_number 4).bind_ok_iff.2
      ⟨chain.length, counted, ⟨few, countAt⟩, (reads_certificates version name index _).bind_ok_iff.2
        ⟨chain, moved, ⟨⟨rfl, fits⟩, passed⟩, pure_ok_iff.2 ⟨rfl, rfl⟩⟩⟩⟩

/-- The tag in front of the body decides which kind of entry is read. -/
private theorem reads_entryBody (version : FormatVersion) (index tag : Nat)
    (known : tag = privateKeyTag ∨ tag = trustedTag) :
    (entryBody id version index tag).Reads (fun entry => entry.tag = tag ∧ entry.Fits)
      (fun entry => Form.text entry.name ++
        (BigEndian.encode 8 entry.createdMillis.toNat ++ Form.content version entry)) := by
  intro cursor entry moved
  unfold entryBody
  rw [(reads_text index).bind_ok_iff]
  constructor
  · intro ⟨name, named, ⟨short, nameAt⟩, read⟩
    obtain ⟨millis, dated, ⟨early, millisAt⟩, read⟩ := (reads_number 8).bind_ok_iff.1 read
    have date : (UInt64.ofNat millis).toNat = millis := UInt64.toNat_ofNat_of_lt' early
    rw [← date] at millisAt
    by_cases kind : tag = trustedTag
    · rw [if_pos kind] at read
      obtain ⟨⟨der, rfl, small⟩, passed⟩ := (reads_trusted ..).1 read
      exact ⟨⟨kind.symm, (Entry.fits_trusted_iff _).2 ⟨short, small⟩⟩,
        nameAt.append (millisAt.append passed)⟩
    · rw [if_neg kind] at read
      obtain ⟨⟨protectedKey, chain, rfl, lengths⟩, passed⟩ := (reads_privateKey ..).1 read
      exact ⟨⟨(known.resolve_right kind).symm, (Entry.fits_privateKey_iff _).2 ⟨short, lengths⟩⟩,
        nameAt.append (millisAt.append passed)⟩
  · intro ⟨⟨tagged, fits⟩, passed⟩
    obtain ⟨named, nameAt, passed⟩ := Cursor.passes_append_iff.1 passed
    obtain ⟨dated, millisAt, passed⟩ := Cursor.passes_append_iff.1 passed
    refine ⟨entry.name, named, ⟨fits.name, nameAt⟩, (reads_number 8).bind_ok_iff.2
      ⟨entry.createdMillis.toNat, dated, ⟨entry.createdMillis.toNat_lt, millisAt⟩, ?_⟩⟩
    rw [UInt64.ofNat_toNat]
    subst tagged
    cases entry with
    | trusted certificate =>
      obtain ⟨_, small⟩ := (Entry.fits_trusted_iff _).1 fits
      exact (reads_trusted ..).2 ⟨⟨_, rfl, small⟩, passed⟩
    | privateKey key =>
      obtain ⟨_, lengths⟩ := (Entry.fits_privateKey_iff _).1 fits
      exact (reads_privateKey ..).2 ⟨⟨_, _, rfl, lengths⟩, passed⟩

theorem reads_entry (version : FormatVersion) (index : Nat) :
    (entry id version index).Reads Entry.Fits (Form.entry version) := by
  intro cursor entry moved
  unfold Reading.entry
  rw [(reads_number 4).bind_ok_iff]
  constructor
  · intro ⟨tag, place, ⟨_, tagAt⟩, read⟩
    by_cases known : tag = privateKeyTag ∨ tag = trustedTag
    · rw [if_pos known] at read
      obtain ⟨⟨rfl, fits⟩, passed⟩ := (reads_entryBody version index tag known _ _ _).1 read
      exact ⟨fits, tagAt.append passed⟩
    · rw [if_neg known] at read
      exact absurd read refuse_ne_ok
  · intro ⟨fits, passed⟩
    obtain ⟨place, tagAt, passed⟩ := Cursor.passes_append_iff.1 passed
    refine ⟨entry.tag, place, ⟨entry.tag_lt, tagAt⟩, ?_⟩
    rw [if_pos entry.tag_cases]
    exact (reads_entryBody version index entry.tag entry.tag_cases _ _ _).2 ⟨⟨rfl, fits⟩, passed⟩

theorem reads_entries (version : FormatVersion) (count index : Nat) (seen : List String) :
    (entries id version count index seen).Reads
      (fun stored => stored.length = count ∧ (∀ entry ∈ stored, entry.Fits) ∧
        (stored.map Entry.name).Nodup ∧ ∀ entry ∈ stored, entry.name ∉ seen)
      (fun stored => stored.flatMap (Form.entry version)) := by
  induction count generalizing index seen with
  | zero =>
    intro cursor stored moved
    unfold entries
    rw [pure_ok_iff]
    constructor
    · rintro ⟨rfl, rfl⟩
      exact ⟨by simp, Cursor.passes_nil_iff.2 rfl⟩
    · intro ⟨⟨empty, _⟩, passed⟩
      obtain rfl := List.length_eq_zero_iff.1 empty
      exact ⟨rfl, Cursor.passes_nil_iff.1 passed⟩
  | succ count ih =>
    intro cursor stored moved
    unfold entries
    rw [(reads_entry version index).bind_ok_iff]
    constructor
    · intro ⟨entry, place, ⟨fits, first⟩, read⟩
      by_cases known : entry.name ∈ seen
      · rw [if_pos known] at read
        exact absurd read refuse_ne_ok
      · rw [if_neg known] at read
        obtain ⟨others, last, ⟨⟨counted, othersFit, distinct, fresh⟩, passed⟩, done⟩ :=
          (ih (index + 1) (entry.name :: seen)).bind_ok_iff.1 read
        obtain ⟨rfl, rfl⟩ := pure_ok_iff.1 done
        refine ⟨⟨congrArg Nat.succ counted, List.forall_mem_cons.2 ⟨fits, othersFit⟩, ?_, ?_⟩,
          first.append passed⟩
        · rw [List.map_cons, List.nodup_cons]
          refine ⟨?_, distinct⟩
          intro again
          obtain ⟨other, member, same⟩ := List.mem_map.1 again
          exact fresh other member (same ▸ List.mem_cons_self)
        · exact List.forall_mem_cons.2 ⟨known, fun other member inside =>
            fresh other member (List.mem_cons_of_mem _ inside)⟩
    · intro ⟨⟨counted, fits, distinct, fresh⟩, passed⟩
      cases stored with
      | nil => cases counted
      | cons entry others =>
        obtain ⟨fits, othersFit⟩ := List.forall_mem_cons.1 fits
        obtain ⟨unknown, fresh⟩ := List.forall_mem_cons.1 fresh
        obtain ⟨single, distinct⟩ := List.nodup_cons.1 distinct
        obtain ⟨place, first, passed⟩ := Cursor.passes_append_iff.1 passed
        refine ⟨entry, place, ⟨fits, first⟩, ?_⟩
        rw [if_neg unknown]
        refine (ih (index + 1) (entry.name :: seen)).bind_ok_iff.2
          ⟨others, moved, ⟨⟨Nat.succ.inj counted, othersFit, distinct, ?_⟩, passed⟩, pure_ok_iff.2 ⟨rfl, rfl⟩⟩
        intro other member inside
        rcases List.mem_cons.1 inside with same | inside
        · exact single (same ▸ List.mem_map_of_mem member)
        · exact fresh other member inside

theorem reads_formatVersion :
    formatVersion.Reads (fun _ => True) (fun version => BigEndian.encode 4 version.number) := by
  intro cursor version moved
  unfold formatVersion
  rw [(reads_number 4).bind_ok_iff]
  constructor
  · intro ⟨declared, place, ⟨_, passed⟩, read⟩
    cases accepted : FormatVersion.ofNumber declared with
    | error error =>
      rw [accepted] at read
      exact absurd read refuse_ne_ok
    | ok found =>
      rw [accepted] at read
      obtain ⟨rfl, rfl⟩ := pure_ok_iff.1 read
      rw [FormatVersion.ofNumber_eq_ok_iff] at accepted
      subst accepted
      exact ⟨trivial, passed⟩
  · intro ⟨_, passed⟩
    have small : version.number < BigEndian.bound 4 := by cases version <;> decide
    refine ⟨version.number, moved, ⟨small, passed⟩, ?_⟩
    rw [(FormatVersion.ofNumber_eq_ok_iff _ _).2 rfl]
    exact pure_ok_iff.2 ⟨rfl, rfl⟩

theorem reads_keyStore : (keyStore id).Reads KeyStore.WellFormed Form.keyStore := by
  intro cursor store moved
  unfold keyStore
  rw [(reads_number 4).bind_ok_iff]
  constructor
  · intro ⟨magic, marked, ⟨_, magicAt⟩, read⟩
    by_cases known : magic = keyStoreMagic
    · subst known
      rw [if_pos rfl] at read
      obtain ⟨version, versioned, ⟨_, versionAt⟩, read⟩ := reads_formatVersion.bind_ok_iff.1 read
      obtain ⟨count, counted, ⟨few, countAt⟩, read⟩ := (reads_number 4).bind_ok_iff.1 read
      obtain ⟨stored, last, ⟨⟨rfl, fits, distinct, _⟩, passed⟩, done⟩ :=
        (reads_entries version count 0 []).bind_ok_iff.1 read
      obtain ⟨rfl, rfl⟩ := pure_ok_iff.1 done
      exact ⟨⟨few, fits, distinct⟩, magicAt.append (versionAt.append (countAt.append passed))⟩
    · rw [if_neg known] at read
      exact absurd read refuse_ne_ok
  · intro ⟨wellFormed, passed⟩
    obtain ⟨marked, magicAt, passed⟩ := Cursor.passes_append_iff.1 passed
    obtain ⟨versioned, versionAt, passed⟩ := Cursor.passes_append_iff.1 passed
    obtain ⟨counted, countAt, passed⟩ := Cursor.passes_append_iff.1 passed
    refine ⟨keyStoreMagic, marked, ⟨by decide, magicAt⟩, ?_⟩
    rw [if_pos rfl]
    refine reads_formatVersion.bind_ok_iff.2 ⟨store.version, versioned, ⟨trivial, versionAt⟩,
      (reads_number 4).bind_ok_iff.2 ⟨store.entries.length, counted, ⟨wellFormed.count, countAt⟩,
        (reads_entries store.version _ 0 []).bind_ok_iff.2
          ⟨store.entries, moved, ⟨⟨rfl, wellFormed.fits, wellFormed.distinct, ?_⟩, passed⟩,
            pure_ok_iff.2 ⟨rfl, rfl⟩⟩⟩⟩
    exact fun _ _ => List.not_mem_nil

end Reading

namespace Seal

theorem defect?_eq_none_iff (token : String) (body trailer : Bytes) :
    defect? token body trailer = none ↔ trailer = of token body := by
  have sized : (of token body).length = length := length_of token body
  unfold defect?
  constructor
  · intro sound
    split at sound
    · cases sound
    · split at sound
      · cases sound
      · split at sound
        next agreed => exact (agree_iff sized trailer).1 agreed
        next => cases sound
  · rintro rfl
    rw [sized, if_neg (Nat.lt_irrefl _), if_neg (Nat.lt_irrefl _), if_pos ((agree_iff sized _).2 rfl)]

end Seal

namespace KeyStore

/-- Acceptance fixes every byte: the form of the store, and the seal of that form. -/
theorem decode_eq_ok_iff (bytes : Bytes) (token : String) (store : KeyStore) :
    decode bytes token = .ok store ↔
      store.WellFormed ∧ bytes = Form.keyStore store ++ Seal.of token (Form.keyStore store) := by
  unfold decode decodeWith
  constructor
  · intro decoded
    rcases read : Reading.keyStore id ⟨0, bytes⟩ with ⟨_ | found, cursor⟩
    · rw [read] at decoded
      cases decoded
    · rw [read] at decoded
      obtain ⟨wellFormed, split, offset⟩ := (Reading.reads_keyStore _ _ _).1 read
      simp only [Nat.zero_add] at split offset
      have body : bytes.take cursor.offset = Form.keyStore found := by
        rw [split, offset, List.take_left]
      cases defect : Seal.defect? token (bytes.take cursor.offset) cursor.rest with
      | some error =>
        simp only [defect] at decoded
        cases decoded
      | none =>
        simp only [defect] at decoded
        cases decoded
        rw [Seal.defect?_eq_none_iff, body] at defect
        exact ⟨wellFormed, by rw [split, defect]⟩
  · rintro ⟨wellFormed, rfl⟩
    have read := (Reading.reads_keyStore ⟨0, Form.keyStore store ++ Seal.of token (Form.keyStore store)⟩ store
      ⟨(Form.keyStore store).length, Seal.of token (Form.keyStore store)⟩).2
        ⟨wellFormed, rfl, (Nat.zero_add _).symm⟩
    have sealed := (Seal.defect?_eq_none_iff token (Form.keyStore store) _).2 rfl
    simp only [read, List.take_left, sealed]

end KeyStore

end TrustRoots
