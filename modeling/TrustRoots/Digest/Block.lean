import TrustRoots.Bytes.BigEndian

/-! The frame that the digests share: a message is padded to whole blocks of sixteen
32-bit words, and each full block is compressed into the running state. -/

namespace TrustRoots.Digest

def word (first second third fourth : UInt8) : UInt32 :=
  first.toUInt32 <<< 24 ||| second.toUInt32 <<< 16 ||| third.toUInt32 <<< 8 ||| fourth.toUInt32

def words : Bytes → List UInt32
  | first :: second :: third :: fourth :: rest => word first second third fourth :: words rest
  | _ => []

/-- A one bit, zeros up to eight bytes short of a whole block, and the length in bits. -/
def padded (message : Bytes) : Bytes :=
  message ++ 0x80 :: List.replicate ((119 - message.length % 64) % 64) 0 ++
    BigEndian.encode 8 (8 * message.length)

/-- The words of the block being filled are held newest first. -/
structure Absorbing (σ : Type) where
  state : σ
  block : List UInt32

def absorb (compress : σ → List UInt32 → σ) (progress : Absorbing σ) (next : UInt32) : Absorbing σ :=
  let block := next :: progress.block
  if block.length = 16 then ⟨compress progress.state block, []⟩ else ⟨progress.state, block⟩

def run (compress : σ → List UInt32 → σ) (start : σ) (message : Bytes) : σ :=
  ((words (padded message)).foldl (absorb compress) ⟨start, []⟩).state

/-- Extends a schedule held newest first by the given number of further words. -/
def extend (next : List UInt32 → UInt32) : Nat → List UInt32 → List UInt32
  | 0, schedule => schedule
  | more + 1, schedule => extend next more (next schedule :: schedule)

def rotateLeft (value amount : UInt32) : UInt32 :=
  value <<< amount ||| value >>> (32 - amount)

def rotateRight (value amount : UInt32) : UInt32 :=
  value >>> amount ||| value <<< (32 - amount)

def bytesOf (values : List UInt32) : Bytes :=
  values.flatMap fun value => BigEndian.encode 4 value.toNat

theorem length_bytesOf (values : List UInt32) : (bytesOf values).length = 4 * values.length := by
  induction values with
  | nil => rfl
  | cons value rest ih =>
    simp only [bytesOf, List.flatMap_cons, List.length_append, BigEndian.length_encode,
      List.length_cons] at ih ⊢
    omega

end TrustRoots.Digest
