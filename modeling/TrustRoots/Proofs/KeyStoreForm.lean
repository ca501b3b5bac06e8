import TrustRoots.KeyStore.Decode

/-! The one way to write a key store, said without the writer of drafts and without a reader.
Nothing is cut to its width here, so the form is meant for stores whose lengths fit. -/

namespace TrustRoots

namespace Entry

def tag : Entry → Nat
  | privateKey _ => privateKeyTag
  | trusted _ => trustedTag

theorem tag_cases (entry : Entry) : entry.tag = privateKeyTag ∨ entry.tag = trustedTag := by
  cases entry
  · exact .inl rfl
  · exact .inr rfl

theorem tag_lt (entry : Entry) : entry.tag < BigEndian.bound 4 := by
  rcases entry.tag_cases with tagged | tagged <;> rw [tagged] <;> decide

def createdMillis : Entry → UInt64
  | privateKey key => key.createdMillis
  | trusted certificate => certificate.createdMillis

/-- The certificates that are written with the entry, in order. -/
def certificates : Entry → List Bytes
  | privateKey key => key.chain
  | trusted certificate => [certificate.der]

/-- Every length in the entry can be written in the width that it has. -/
structure Fits (entry : Entry) : Prop where
  name : entry.name.utf8ByteSize < BigEndian.bound 2
  certificates : ∀ der ∈ entry.certificates, der.length < BigEndian.bound 4
  key : ∀ key, entry = .privateKey key →
    key.protectedKey.length < BigEndian.bound 4 ∧ key.chain.length < BigEndian.bound 4

theorem fits_trusted_iff (certificate : TrustedCertificate) :
    (Entry.trusted certificate).Fits ↔
      certificate.name.utf8ByteSize < BigEndian.bound 2 ∧ certificate.der.length < BigEndian.bound 4 := by
  constructor
  · intro fits
    exact ⟨fits.name, fits.certificates _ (List.mem_singleton.2 rfl)⟩
  · intro ⟨name, der⟩
    refine ⟨name, ?_, fun key impossible => by cases impossible⟩
    intro other member
    rw [List.mem_singleton.1 member]
    exact der

theorem fits_privateKey_iff (key : PrivateKey) :
    (Entry.privateKey key).Fits ↔
      key.name.utf8ByteSize < BigEndian.bound 2 ∧ key.protectedKey.length < BigEndian.bound 4 ∧
        key.chain.length < BigEndian.bound 4 ∧ ∀ der ∈ key.chain, der.length < BigEndian.bound 4 := by
  constructor
  · intro fits
    exact ⟨fits.name, (fits.key key rfl).1, (fits.key key rfl).2, fits.certificates⟩
  · intro ⟨name, protectedKey, count, chain⟩
    refine ⟨name, chain, ?_⟩
    intro other same
    cases same
    exact ⟨protectedKey, count⟩

instance (entry : Entry) : Decidable entry.Fits :=
  match entry with
  | privateKey key => decidable_of_iff _ (fits_privateKey_iff key).symm
  | trusted certificate => decidable_of_iff _ (fits_trusted_iff certificate).symm

end Entry

/-- What a reader may rely on and a container cannot break: every count and length has room in
its width, and no alias occurs twice. -/
structure KeyStore.WellFormed (store : KeyStore) : Prop where
  count : store.entries.length < BigEndian.bound 4
  fits : ∀ entry ∈ store.entries, entry.Fits
  distinct : (store.entries.map Entry.name).Nodup

namespace Form

/-- Bytes behind their length, which takes the given number of bytes. -/
def measured (width : Nat) (bytes : Bytes) : Bytes :=
  BigEndian.encode width bytes.length ++ bytes

theorem length_measured (width : Nat) (bytes : Bytes) : (measured width bytes).length = width + bytes.length := by
  rw [measured, List.length_append, BigEndian.length_encode]

def text (value : String) : Bytes := measured 2 (Utf8.encode value)

def blob (value : Bytes) : Bytes := measured 4 value

def certificate : FormatVersion → Bytes → Bytes
  | .v1, der => blob der
  | .v2, der => text x509 ++ blob der

/-- What follows the date of an entry. -/
def content (version : FormatVersion) : Entry → Bytes
  | .privateKey key =>
    blob key.protectedKey ++ (BigEndian.encode 4 key.chain.length ++ key.chain.flatMap (certificate version))
  | .trusted stored => certificate version stored.der

def entry (version : FormatVersion) (stored : Entry) : Bytes :=
  BigEndian.encode 4 stored.tag ++
    (text stored.name ++ (BigEndian.encode 8 stored.createdMillis.toNat ++ content version stored))

def keyStore (store : KeyStore) : Bytes :=
  BigEndian.encode 4 keyStoreMagic ++
    (BigEndian.encode 4 store.version.number ++
      (BigEndian.encode 4 store.entries.length ++ store.entries.flatMap (entry store.version)))

end Form

end TrustRoots
