/-! Unsigned integers as big-endian byte strings of a fixed width. Writing and then
reading a number that fits its width gives the number back. -/

namespace TrustRoots

abbrev Bytes := List UInt8

namespace BigEndian

/-- The low `8 * width` bits of a number, most significant byte first. -/
def encode : Nat → Nat → Bytes
  | 0, _ => []
  | width + 1, value => encode width (value / 256) ++ [UInt8.ofNat value]

/-- The least number that does not fit a width. -/
def bound : Nat → Nat
  | 0 => 1
  | width + 1 => 256 * bound width

def decode (bytes : Bytes) : Nat :=
  bytes.foldl (fun value byte => 256 * value + byte.toNat) 0

@[simp] theorem length_encode (width value : Nat) : (encode width value).length = width := by
  induction width generalizing value with
  | zero => rfl
  | succ width ih => simp [encode, ih]

private theorem decode_append_singleton (bytes : Bytes) (byte : UInt8) :
    decode (bytes ++ [byte]) = 256 * decode bytes + byte.toNat := by
  simp [decode]

theorem decode_encode {width value : Nat} (fits : value < bound width) :
    decode (encode width value) = value := by
  induction width generalizing value with
  | zero => simp [bound] at fits; simp [encode, decode, fits]
  | succ width ih =>
    have quotient : value / 256 < bound width := Nat.div_lt_of_lt_mul fits
    rw [encode, decode_append_singleton, ih quotient]
    simp
    omega

theorem decode_lt_bound {width : Nat} {bytes : Bytes} (filled : bytes.length = width) :
    decode bytes < bound width := by
  induction width generalizing bytes with
  | zero =>
    obtain rfl := List.length_eq_zero_iff.1 filled
    decide
  | succ width ih =>
    rcases List.eq_nil_or_concat bytes with rfl | ⟨front, last, rfl⟩
    · cases filled
    · rw [List.concat_eq_append] at filled ⊢
      have lower : decode front < bound width := ih (by simpa using filled)
      have size := last.toNat_lt
      rw [decode_append_singleton, bound]
      omega

theorem encode_decode {width : Nat} {bytes : Bytes} (filled : bytes.length = width) :
    encode width (decode bytes) = bytes := by
  induction width generalizing bytes with
  | zero => exact (List.length_eq_zero_iff.1 filled).symm
  | succ width ih =>
    rcases List.eq_nil_or_concat bytes with rfl | ⟨front, last, rfl⟩
    · cases filled
    · rw [List.concat_eq_append] at filled ⊢
      have size := last.toNat_lt
      have quotient : (256 * decode front + last.toNat) / 256 = decode front := by omega
      have low : UInt8.ofNat (256 * decode front + last.toNat) = last := by
        apply UInt8.toNat_inj.1
        rw [UInt8.toNat_ofNat']
        omega
      rw [decode_append_singleton, encode, quotient, ih (by simpa using filled), low]

end BigEndian

end TrustRoots
