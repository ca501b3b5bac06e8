import TrustRoots.KeyStore.Cursor
import TrustRoots.KeyStore.Entry
import TrustRoots.KeyStore.Seal

/-! Decoding of key stores. The container is a magic number, a format version, a count, the
entries, and a digest over all of that. Defects are reported in the order of the bytes, and
the digest is looked at last. -/

namespace TrustRoots

def privateKeyTag : Nat := 1

def trustedTag : Nat := 2

/-- The only type of certificate that a key store may hold. -/
def x509 : String := "X.509"

namespace Reading

/-- A certificate, which format version 2 writes behind its type. -/
def certificate (version : FormatVersion) (name : String) (index : Nat) : Reading Bytes := do
  match version with
  | .v1 => blob
  | .v2 =>
    let certificateType ← text index
    if certificateType = x509 then blob
    else refuse (.unsupportedCertificateType name certificateType)

def certificates (version : FormatVersion) (name : String) (index : Nat) : Nat → Reading (List Bytes)
  | 0 => return []
  | count + 1 => do
    let der ← certificate version name index
    let others ← certificates version name index count
    return der :: others

def trusted (version : FormatVersion) (index : Nat) (name : String) (createdMillis : UInt64) :
    Reading Entry := do
  let der ← certificate version name index
  return .trusted { name, createdMillis, der }

/-- The number of rounds for a declared chain length is given by `rounds`. -/
def privateKey (rounds : Nat → Nat) (version : FormatVersion) (index : Nat) (name : String)
    (createdMillis : UInt64) : Reading Entry := do
  let protectedKey ← blob
  let count ← number 4
  let chain ← certificates version name index (rounds count)
  return .privateKey { name, createdMillis, protectedKey, chain }

/-- The body of an entry, after its tag. -/
def entryBody (rounds : Nat → Nat) (version : FormatVersion) (index tag : Nat) : Reading Entry := do
  let name ← text index
  let millis ← number 8
  let createdMillis := UInt64.ofNat millis
  if tag = trustedTag then trusted version index name createdMillis
  else privateKey rounds version index name createdMillis

def entry (rounds : Nat → Nat) (version : FormatVersion) (index : Nat) : Reading Entry := do
  let tag ← number 4
  if tag = privateKeyTag ∨ tag = trustedTag then entryBody rounds version index tag
  else refuse (.unknownEntryTag index tag)

/-- The entries from an index on. An alias that an earlier entry has is refused once its entry
has been read. -/
def entries (rounds : Nat → Nat) (version : FormatVersion) :
    Nat → Nat → List String → Reading (List Entry)
  | 0, _, _ => return []
  | count + 1, index, seen => do
    let read ← entry rounds version index
    if read.name ∈ seen then refuse (.duplicateAlias read.name)
    else
      let others ← entries rounds version count (index + 1) (read.name :: seen)
      return read :: others

def formatVersion : Reading FormatVersion := do
  let declared ← number 4
  match FormatVersion.ofNumber declared with
  | .ok version => return version
  | .error error => refuse error

/-- Everything but the digest. -/
def keyStore (rounds : Nat → Nat) : Reading KeyStore := do
  let magic ← number 4
  if magic = keyStoreMagic then
    let version ← formatVersion
    let count ← number 4
    let read ← entries rounds version (rounds count) 0 []
    return { version, entries := read }
  else refuse (.badMagic magic)

end Reading

namespace Seal

/-- What is wrong with the bytes that follow a body, if anything is. -/
def defect? (token : String) (body trailer : Bytes) : Option KeyStoreError :=
  if trailer.length < length then some (.truncated body.length (length - trailer.length))
  else if length < trailer.length then some (.trailingBytes (trailer.length - length))
  else if agree (of token body) trailer then none
  else some .integrityCheckFailed

end Seal

namespace KeyStore

def decodeWith (rounds : Nat → Nat) (bytes : Bytes) (token : String) : Except KeyStoreError KeyStore :=
  match Reading.keyStore rounds ⟨0, bytes⟩ with
  | (.error error, _) => .error error
  | (.ok store, cursor) =>
    match Seal.defect? token (bytes.take cursor.offset) cursor.rest with
    | some error => .error error
    | none => .ok store

/-- Decodes a whole container, with every loop run as often as the container declares. -/
def decode (bytes : Bytes) (token : String) : Except KeyStoreError KeyStore :=
  decodeWith id bytes token

end KeyStore

end TrustRoots
