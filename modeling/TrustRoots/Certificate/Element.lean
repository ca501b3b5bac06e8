import TrustRoots.Bytes.BigEndian

/-! Elements of distinguished encoding: a tag, a length in its shortest form, and a content
that fits in what encloses it. Tags of more than one byte and contents of 65535 bytes or more
are refused. -/

namespace TrustRoots

structure Element where
  tag : UInt8
  content : Bytes

namespace Element

/-- The length that the front of the bytes declares, and the bytes behind it. -/
def length? : Bytes → Option (Nat × Bytes)
  | 0x81 :: value :: rest => if 0x80 ≤ value then some (value.toNat, rest) else none
  | 0x82 :: high :: low :: rest =>
    let length := BigEndian.decode [high, low]
    if 0xff < length ∧ length < 0xffff then some (length, rest) else none
  | value :: rest => if value < 0x80 then some (value.toNat, rest) else none
  | [] => none

/-- The element at the front of the bytes, and the bytes behind it. -/
def read? : Bytes → Option (Element × Bytes)
  | [] => none
  | tag :: rest =>
    if tag &&& 0x1f = 0x1f then none
    else match length? rest with
      | none => none
      | some (length, rest) =>
        let content := rest.take length
        if content.length < length then none
        else some (⟨tag, content⟩, rest.drop length)

end Element

end TrustRoots
