import TrustRoots.Digest.Sha1
import TrustRoots.Text.Utf16

/-! The digest that closes a key store. It is keyed by an access token that is no secret: it
detects damage and stores made for another token. -/

namespace TrustRoots.Seal

def length : Nat := 20

def whitener : Bytes := "Mighty Aphrodite".toList.map fun letter => UInt8.ofNat letter.toNat

def preimage (token : String) (body : Bytes) : Bytes :=
  Utf16.encode token ++ whitener ++ body

def of (token : String) (body : Bytes) : Bytes :=
  Sha1.digest (preimage token body)

@[simp] theorem length_of (token : String) (body : Bytes) : (of token body).length = 20 := by
  simp [of]

/-- The bits in which paired bytes differ, gathered over all pairs so that the time taken does
not tell where the first difference is. -/
def differences (expected found : Bytes) : UInt8 :=
  (expected.zip found).foldl (fun gathered pair => gathered ||| (pair.1 ^^^ pair.2)) 0

def agree (expected found : Bytes) : Bool :=
  found.length == length && differences expected found == 0

end TrustRoots.Seal
