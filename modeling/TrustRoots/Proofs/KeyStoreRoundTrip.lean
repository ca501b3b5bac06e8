import Mathlib.Data.List.Basic
import TrustRoots.KeyStore.Draft
import TrustRoots.Proofs.KeyStoreReads

/-! Drafts and stores. A draft whose lengths have room in their widths is written in the one
form that a reader accepts, so that reading undoes writing and writing undoes reading. -/

namespace TrustRoots

namespace Entry

@[simp] private theorem name_undated (entry : Entry) : entry.undated.name = entry.name := by
  cases entry <;> rfl

@[simp] private theorem certificates_undated (entry : Entry) : entry.undated.certificates = entry.certificates := by
  cases entry <;> rfl

theorem Fits.undated {entry : Entry} (fits : entry.Fits) : entry.undated.Fits := by
  cases entry with
  | privateKey key =>
    have lengths := (fits_privateKey_iff key).1 fits
    exact (fits_privateKey_iff { key with createdMillis := draftMillis }).2 lengths
  | trusted certificate =>
    have lengths := (fits_trusted_iff certificate).1 fits
    exact (fits_trusted_iff { certificate with createdMillis := draftMillis }).2 lengths

theorem undated_eq_self {entry : Entry} (date : entry.createdMillis = draftMillis) : entry.undated = entry := by
  cases entry with
  | privateKey key => cases key; cases date; rfl
  | trusted certificate => cases certificate; cases date; rfl

end Entry

theorem KeyStore.WellFormed.undated {version : FormatVersion} {entries : List Entry}
    (wellFormed : KeyStore.WellFormed ⟨version, entries⟩) :
    KeyStore.WellFormed ⟨version, entries.map Entry.undated⟩ := by
  refine ⟨?_, ?_, ?_⟩
  · simpa only [List.length_map] using wellFormed.count
  · intro entry member
    obtain ⟨original, inside, rfl⟩ := List.mem_map.1 member
    exact (wellFormed.fits original inside).undated
  · simpa only [List.map_map, Function.comp_def, Entry.name_undated] using wellFormed.distinct

namespace Draft

theorem measured_of_lt {width : Nat} {bytes : Bytes} (small : bytes.length < BigEndian.bound width) :
    measured width bytes = Form.measured width bytes := by
  rw [measured, Form.measured, Nat.min_eq_left (Nat.le_sub_one_of_lt small)]

theorem count_of_lt {value : Nat} (small : value < BigEndian.bound 4) :
    count value = BigEndian.encode 4 value := by
  rw [count, Nat.min_eq_left (Nat.le_sub_one_of_lt small)]

/-- Certificates of the right type are written, or none at all. -/
def Typed (version : FormatVersion) (certificateType : String) (entries : List Entry) : Prop :=
  version = .v1 ∨ certificateType = x509 ∨ ∀ entry ∈ entries, entry.certificates = []

private theorem certificate_of_typed {version : FormatVersion} {certificateType : String} {der : Bytes}
    (typed : version = .v1 ∨ certificateType = x509) (small : der.length < BigEndian.bound 4) :
    certificate version certificateType der = Form.certificate version der := by
  have written : blob der = Form.blob der := measured_of_lt small
  cases version with
  | v1 => exact written
  | v2 =>
    obtain rfl := typed.resolve_left (by decide)
    have named : text x509 = Form.text x509 := measured_of_lt (by decide)
    simp only [certificate, Form.certificate, written, named]

private theorem chain_of_typed {version : FormatVersion} {certificateType : String} {chain : List Bytes}
    (typed : version = .v1 ∨ certificateType = x509 ∨ chain = [])
    (fits : ∀ der ∈ chain, der.length < BigEndian.bound 4) :
    chain.flatMap (certificate version certificateType) = chain.flatMap (Form.certificate version) := by
  rcases or_assoc.2 typed with typed | rfl
  · exact List.flatMap_congr fun der member => certificate_of_typed typed (fits der member)
  · rfl

theorem entry_stored {version : FormatVersion} {certificateType : String} {stored : Entry}
    (fits : stored.Fits) (typed : version = .v1 ∨ certificateType = x509 ∨ stored.certificates = []) :
    entry version certificateType (.stored stored) = Form.entry version stored := by
  have named : text stored.name = Form.text stored.name := measured_of_lt fits.name
  cases stored with
  | privateKey key =>
    obtain ⟨_, small, few, chain⟩ := (Entry.fits_privateKey_iff _).1 fits
    have keyed : blob key.protectedKey = Form.blob key.protectedKey := measured_of_lt small
    have chained : key.chain.flatMap (certificate version certificateType) =
        key.chain.flatMap (Form.certificate version) := chain_of_typed typed chain
    simp only [Entry.name] at named
    simp only [entry, header, named, keyed, count_of_lt few, chained, List.append_assoc]
    rfl
  | trusted certificate =>
    obtain ⟨_, small⟩ := (Entry.fits_trusted_iff _).1 fits
    have written : [certificate.der].flatMap (Draft.certificate version certificateType) =
        [certificate.der].flatMap (Form.certificate version) :=
      chain_of_typed typed fits.certificates
    rw [List.flatMap_singleton, List.flatMap_singleton] at written
    simp only [Entry.name] at named
    simp only [entry, header, named, written, List.append_assoc]
    rfl

/-- A draft that can be read back is written in the form of the store that it stands for. -/
private theorem body_stored {version : FormatVersion} {certificateType : String} {entries : List Entry}
    (wellFormed : KeyStore.WellFormed ⟨version, entries⟩) (typed : Typed version certificateType entries) :
    body ⟨version, certificateType, entries.map .stored⟩ = Form.keyStore ⟨version, entries⟩ := by
  have each : ∀ stored ∈ entries, entry version certificateType (.stored stored) = Form.entry version stored := by
    intro stored member
    apply entry_stored (wellFormed.fits stored member)
    exact typed.imp_right fun typed => typed.imp_right fun empty => empty stored member
  simp only [body, Form.keyStore, List.length_map, count_of_lt wellFormed.count, List.flatMap_map,
    List.flatMap_congr each, List.append_assoc]

theorem decode_encode_stored {version : FormatVersion} {certificateType : String} {entries : List Entry}
    (wellFormed : KeyStore.WellFormed ⟨version, entries⟩) (typed : Typed version certificateType entries)
    (token : String) :
    KeyStore.decode (encode ⟨version, certificateType, entries.map .stored⟩ token) token =
      .ok ⟨version, entries⟩ := by
  rw [KeyStore.decode_eq_ok_iff, encode, body_stored wellFormed typed]
  exact ⟨wellFormed, rfl⟩

end Draft

namespace KeyStore

/-- Reading gives back what was written, in order, whatever the dates of the entries are. In
particular it gives back what is written without telling dates. -/
theorem decoding_undoes_encoding (version : FormatVersion) (certificateType : String)
    (entries : List Entry) (token : String) (few : entries.length < BigEndian.bound 4)
    (fits : ∀ entry ∈ entries, entry.Fits) (distinct : (entries.map Entry.name).Nodup)
    (typed : version = .v1 ∨ certificateType = x509 ∨ ∀ entry ∈ entries, entry.certificates = []) :
    decode (Draft.encode ⟨version, certificateType, entries.map .stored⟩ token) token =
        .ok ⟨version, entries⟩ ∧
      decode (Draft.encode ⟨version, certificateType, entries.map fun entry => .stored entry.undated⟩ token)
        token = .ok ⟨version, entries.map Entry.undated⟩ := by
  have wellFormed : WellFormed ⟨version, entries⟩ := ⟨few, fits, distinct⟩
  have undatedTyped : Draft.Typed version certificateType (entries.map Entry.undated) := by
    refine typed.imp_right fun typed => typed.imp_right fun empty => ?_
    intro entry member
    obtain ⟨original, inside, rfl⟩ := List.mem_map.1 member
    rw [Entry.certificates_undated]
    exact empty original inside
  have undated := Draft.decode_encode_stored wellFormed.undated undatedTyped token
  rw [List.map_map] at undated
  exact ⟨Draft.decode_encode_stored wellFormed typed token, undated⟩

/-- A key with a chain of two and a certificate under an alias that is not ASCII. -/
def mixedEntries : List Entry :=
  [.privateKey ⟨"key", 5, [1, 2, 3], [[0x30, 0x00], []]⟩, .trusted ⟨"racine é", 18446744073709551615, [0x30]⟩]

theorem decoding_undoes_encoding_mixed :
    decode (Draft.encode ⟨.v2, "X.509", mixedEntries.map .stored⟩ "secret") "secret" = .ok ⟨.v2, mixedEntries⟩ :=
  (decoding_undoes_encoding .v2 "X.509" mixedEntries "secret" (by decide) (by decide) (by decide)
    (.inr (.inl rfl))).1

/-- Nothing is accepted but the written form of a store behind its seal. A store therefore has
one container for a token, and a draft of the store reproduces it where no date differs from
the one that a draft is not told. -/
theorem encoding_undoes_decoding {bytes : Bytes} {token : String} {store : KeyStore}
    (read : decode bytes token = .ok store) :
    store.WellFormed ∧
      bytes = Form.keyStore store ++
        Sha1.digest (Utf16.encode token ++ Utf8.encode "Mighty Aphrodite" ++ Form.keyStore store) ∧
      (∀ other, decode other token = .ok store → other = bytes) ∧
      ((∀ entry ∈ store.entries, entry.createdMillis = draftMillis) →
        store.toUndatedDraft.encode token = bytes) := by
  obtain ⟨wellFormed, written⟩ := (decode_eq_ok_iff ..).1 read
  refine ⟨wellFormed, written, ?_, ?_⟩
  · intro other accepted
    rw [written]
    exact ((decode_eq_ok_iff ..).1 accepted).2
  · intro dates
    have entries : store.entries.map (fun entry => DraftEntry.stored entry.undated) =
        store.entries.map .stored :=
      List.map_congr_left fun entry member => congrArg _ (Entry.undated_eq_self (dates entry member))
    rw [toUndatedDraft, entries, Draft.encode, Draft.body_stored wellFormed (.inr (.inl rfl)), written]

def smallStore : KeyStore :=
  ⟨.v1, [.trusted ⟨"é", draftMillis, [0x30]⟩]⟩

def smallContainer : Bytes :=
  [0xfe, 0xed, 0xfe, 0xed, 0, 0, 0, 1, 0, 0, 0, 1, 0, 0, 0, 2, 0, 2, 0xc3, 0xa9, 0, 0, 0x01, 0x8b, 0xcf, 0xe5,
   0x68, 0, 0, 0, 0, 0x01, 0x30, 0x79, 0x88, 0x25, 0x72, 0xff, 0xa7, 0x53, 0x7f, 0x71, 0x81, 0x4e, 0xa1, 0xba,
   0xe2, 0x56, 0xed, 0x41, 0x1f, 0x8d, 0xa3]

theorem encoding_undoes_decoding_small :
    decode smallContainer "t" = .ok smallStore ∧ smallStore.toUndatedDraft.encode "t" = smallContainer := by
  have read : decode smallContainer "t" = .ok smallStore :=
    (decode_eq_ok_iff ..).2 ⟨⟨by decide, by decide, by decide⟩, by decide +kernel⟩
  exact ⟨read, (encoding_undoes_decoding read).2.2.2 (by decide)⟩

end KeyStore

end TrustRoots
