import TrustRoots.KeyStore.Decode

/-! Drafts of key stores and their encoding. A draft may hold defects, such as an entry with a
foreign tag or certificates of a foreign type, so that readers can be tried on them. -/

namespace TrustRoots

/-- The time of creation of an entry for which it does not matter. -/
def draftMillis : UInt64 := 1700000000000

/-- A bare entry is a header with any tag and nothing behind it. -/
inductive DraftEntry where
  | stored (entry : Entry)
  | bare (tag : UInt32) (name : String) (createdMillis : UInt64)

structure Draft where
  version : FormatVersion := .v2
  certificateType : String := x509
  entries : List DraftEntry := []

namespace Draft

/-- Bytes behind their length. A length that is too large for its width is written as the
largest number of that width, and the bytes are written whole all the same. -/
def measured (width : Nat) (bytes : Bytes) : Bytes :=
  BigEndian.encode width (min bytes.length (BigEndian.bound width - 1)) ++ bytes

def text (value : String) : Bytes := measured 2 (Utf8.encode value)

def blob (value : Bytes) : Bytes := measured 4 value

def count (value : Nat) : Bytes := BigEndian.encode 4 (min value (BigEndian.bound 4 - 1))

def header (tag : Nat) (name : String) (createdMillis : UInt64) : Bytes :=
  BigEndian.encode 4 tag ++ text name ++ BigEndian.encode 8 createdMillis.toNat

def certificate (version : FormatVersion) (certificateType : String) (der : Bytes) : Bytes :=
  match version with
  | .v1 => blob der
  | .v2 => text certificateType ++ blob der

def entry (version : FormatVersion) (certificateType : String) : DraftEntry → Bytes
  | .stored (.trusted stored) =>
    header trustedTag stored.name stored.createdMillis ++
      certificate version certificateType stored.der
  | .stored (.privateKey stored) =>
    header privateKeyTag stored.name stored.createdMillis ++ blob stored.protectedKey ++
      count stored.chain.length ++ stored.chain.flatMap (certificate version certificateType)
  | .bare tag name createdMillis => header tag.toNat name createdMillis

def body (draft : Draft) : Bytes :=
  BigEndian.encode 4 keyStoreMagic ++ BigEndian.encode 4 draft.version.number ++
    count draft.entries.length ++
    draft.entries.flatMap (entry draft.version draft.certificateType)

def encode (draft : Draft) (token : String) : Bytes :=
  draft.body ++ Seal.of token draft.body

end Draft

/-- The entry as a draft holds it that is not told when the entry was created. -/
def Entry.undated : Entry → Entry
  | privateKey key => .privateKey { key with createdMillis := draftMillis }
  | trusted certificate => .trusted { certificate with createdMillis := draftMillis }

/-- The draft that holds exactly the entries of a store. -/
def KeyStore.toDraft (store : KeyStore) : Draft where
  version := store.version
  entries := store.entries.map .stored

/-- The draft of a store of which no dates are told. -/
def KeyStore.toUndatedDraft (store : KeyStore) : Draft where
  version := store.version
  entries := store.entries.map fun entry => .stored entry.undated

end TrustRoots
