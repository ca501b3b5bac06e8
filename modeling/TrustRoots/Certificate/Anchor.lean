import TrustRoots.Certificate.Element

/-! Trust anchors taken from certificates. Only the structure of a certificate is looked at:
its signature, dates, names and keys are never judged. The first check that fails decides. -/

namespace TrustRoots

structure Anchor where
  subject : Bytes
  publicKey : Bytes
  nameConstraints : Option Bytes := none
  deriving DecidableEq

inductive AnchorDefect where
  | badEncoding
  | signatureAlgorithmMismatch
  | extensionValueInvalid
  deriving DecidableEq

def AnchorDefect.message : AnchorDefect → String
  | badEncoding => "invalid peer certificate: BadEncoding"
  | signatureAlgorithmMismatch =>
    "invalid peer certificate: Other(OtherError(SignatureAlgorithmMismatch))"
  | extensionValueInvalid => "invalid peer certificate: Other(OtherError(ExtensionValueInvalid))"

namespace Certificate

/-- Decoding of the elements in a content, of which the state is what is left. -/
abbrev Decoding := StateT Bytes (Except AnchorDefect)

def booleanTag : UInt8 := 0x01
def integerTag : UInt8 := 0x02
def bitStringTag : UInt8 := 0x03
def octetStringTag : UInt8 := 0x04
def identifierTag : UInt8 := 0x06
def sequenceTag : UInt8 := 0x30
def extensionsTag : UInt8 := 0xa3

/-- The content of the next element, which must have the given tag. -/
def element (tag : UInt8) : Decoding Bytes := fun bytes =>
  match Element.read? bytes with
  | some (found, rest) => if found.tag = tag then .ok (found.content, rest) else .error .badEncoding
  | none => .error .badEncoding

def finish : Decoding Unit := fun bytes =>
  if bytes = [] then .ok ((), []) else .error .badEncoding

/-- Decodes a content of which nothing may be left over. -/
def wholly (inner : Decoding α) (content : Bytes) : Except AnchorDefect α := do
  let (value, rest) ← inner.run content
  let _ ← finish.run rest
  return value

def within (tag : UInt8) (inner : Decoding α) : Decoding α := do
  let content ← element tag
  wholly inner content

/-- The extensions that are known, by the last number of their identifier: key usage, subject
alternative name, basic constraints, name constraints, distribution points, extended usage. -/
def knownExtensions : List UInt8 := [15, 17, 19, 30, 31, 37]

def keyUsage : UInt8 := 15

def nameConstraintsKind : UInt8 := 30

structure Extensions where
  seen : List UInt8 := []
  nameConstraints : Option Bytes := none

/-- Takes note of a known extension. It may occur once, and its value is one sequence, except
for key usage, of which the value is not looked at. -/
def Extensions.note (known : Extensions) (kind : UInt8) (value : Bytes) :
    Except AnchorDefect Extensions := do
  if kind ∈ known.seen then throw .extensionValueInvalid
  let seen := kind :: known.seen
  if kind = keyUsage then return { known with seen }
  let content ← wholly (element sequenceTag) value
  if kind = nameConstraintsKind then return { seen, nameConstraints := some content }
  return { known with seen }

/-- Whether an extension is critical, which is written only if it is told. -/
def criticality : Decoding Unit := do
  match ← get with
  | 0x01 :: _ =>
    let content ← element booleanTag
    if content = [0x00] ∨ content = [0xff] then return
    else throw .badEncoding
  | _ => return

def extension (known : Extensions) : Decoding Extensions := do
  let identifier ← element identifierTag
  criticality
  let value ← element octetStringTag
  match identifier with
  | [0x55, 0x1d, kind] => if kind ∈ knownExtensions then known.note kind value else return known
  | _ => return known

/-- Every extension takes at least two bytes, so the length of the bytes bounds the rounds. -/
def extensionsWithin : Nat → Extensions → Decoding Extensions
  | 0, known => return known
  | rounds + 1, known => do
    if (← get) = [] then return known
    let known ← within sequenceTag (extension known)
    extensionsWithin rounds known

def extensions : Decoding Extensions := do
  extensionsWithin (← get).length {}

def optionalExtensions : Decoding Extensions := do
  if (← get) = [] then return {}
  within extensionsTag (within sequenceTag extensions)

/-- The bytes that open the signed part of a certificate of version 3. -/
def version3Mark : Bytes := [0xa0, 0x03, 0x02, 0x01, 0x02]

def version3 (algorithm : Bytes) : Decoding Anchor := do
  let _serial ← element integerTag
  let signature ← element sequenceTag
  if signature ≠ algorithm then throw .signatureAlgorithmMismatch
  let _issuer ← element sequenceTag
  let _validity ← element sequenceTag
  let subject ← element sequenceTag
  let publicKey ← element sequenceTag
  let found ← optionalExtensions
  return { subject, publicKey, nameConstraints := found.nameConstraints }

def version1 : Decoding Anchor := do
  let _serial ← element integerTag
  let _signature ← element sequenceTag
  let _issuer ← element sequenceTag
  let _validity ← element sequenceTag
  let subject ← element sequenceTag
  let publicKey ← element sequenceTag
  return { subject, publicKey }

/-- The signed part and the content of the signature algorithm. -/
def signedParts : Decoding (Bytes × Bytes) := within sequenceTag do
  let signed ← element sequenceTag
  let algorithm ← element sequenceTag
  let signature ← element bitStringTag
  if signature.head? = some 0 then return (signed, algorithm)
  else throw .badEncoding

def anchor (der : Bytes) : Except AnchorDefect Anchor := do
  let (signed, algorithm) ← wholly signedParts der
  if version3Mark.isPrefixOf signed then
    wholly (version3 algorithm) (signed.drop version3Mark.length)
  else wholly version1 signed

end Certificate

end TrustRoots
