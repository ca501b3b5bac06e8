import TrustRoots.Proofs.TokenBytes
import TrustRoots.Text.Utf8

/-! Modified UTF-8, which writes each UTF-16 unit of a text by itself: a character above U+FFFF as two
surrogates of three bytes, and U+0000 in two bytes, so that no byte is zero. A text without such
characters has the same bytes in UTF-8. The bytes of any other text are not UTF-8 at all. -/

namespace TrustRoots

theorem Utf8.encode_eq_flatMap (text : String) : encode text = text.toList.flatMap String.utf8EncodeChar := by
  conv => lhs; rw [← String.ofList_toList (s := text)]
  simp only [encode, String.toByteArray_ofList, List.utf8Encode, List.data_toByteArray]

namespace ModifiedUtf8

def unit (value : Nat) : Bytes :=
  if value = 0 then [0xc0, 0x80]
  else if value < 0x80 then [UInt8.ofNat value]
  else if value < 0x800 then [UInt8.ofNat (0xc0 + value / 0x40), UInt8.ofNat (0x80 + value % 0x40)]
  else [UInt8.ofNat (0xe0 + value / 0x1000), UInt8.ofNat (0x80 + value / 0x40 % 0x40), UInt8.ofNat (0x80 + value % 0x40)]

def encode (text : String) : Bytes :=
  (Utf16.encodeUnits text.toList).flatMap unit

/-- The character is neither U+0000 nor above U+FFFF. -/
def Plain (character : Char) : Prop :=
  0 < character.toNat ∧ character.toNat < 0x10000

instance (character : Char) : Decidable (Plain character) :=
  inferInstanceAs (Decidable (_ ∧ _))

def PlainText (text : String) : Prop :=
  ∀ character ∈ text.toList, Plain character

instance (text : String) : Decidable (PlainText text) :=
  List.decidableBAll Plain text.toList

private theorem units_of_plain {character : Char} (plain : Plain character) :
    (Utf16.units character).flatMap unit = String.utf8EncodeChar character := by
  obtain ⟨positive, small⟩ := plain
  have value : character.val.toNat = character.toNat := rfl
  rw [Utf16.units_of_small small, List.flatMap_singleton, unit, String.utf8EncodeChar, value,
    if_neg (Nat.ne_of_gt positive)]
  by_cases one : character.toNat < 0x80
  · rw [if_pos one, if_pos (by omega)]
  · by_cases two : character.toNat < 0x800
    · have high : 0xc0 + character.toNat / 0x40 = character.toNat / 64 % 32 + 192 := by omega
      rw [if_neg one, if_pos two, if_neg (by omega), if_pos (by omega), high, Nat.add_comm 0x80]
    · have high : 0xe0 + character.toNat / 0x1000 = character.toNat / 4096 % 16 + 224 := by omega
      rw [if_neg one, if_neg two, if_neg (by omega), if_neg (by omega), if_pos (by omega), high, Nat.add_comm 0x80,
        Nat.add_comm 0x80]

/-- The bytes begin as no character does in UTF-8: with the overlong form of a character, or with a
surrogate. -/
inductive Foreign : Bytes → Prop where
  | overlong (rest : Bytes) : Foreign (0xc0 :: rest)
  | surrogate {second : UInt8} (high : 0xa0 ≤ second.toNat) (rest : Bytes) : Foreign (0xed :: second :: rest)

theorem Foreign.append {bytes : Bytes} (foreign : Foreign bytes) (rest : Bytes) : Foreign (bytes ++ rest) := by
  cases foreign with
  | overlong behind => exact .overlong (behind ++ rest)
  | surrogate high behind => exact .surrogate high (behind ++ rest)

private theorem foreign_of_not_plain {character : Char} (odd : ¬ Plain character) :
    Foreign ((Utf16.units character).flatMap unit) := by
  have scalar := Utf16.toNat_scalar character
  by_cases small : character.toNat < 0x10000
  · have zero : character.toNat = 0 := Nat.eq_zero_of_not_pos fun positive => odd ⟨positive, small⟩
    rw [Utf16.units_of_small small, zero]
    exact .overlong _
  · rw [Utf16.units_of_large small, List.flatMap_cons]
    refine Foreign.append ?_ _
    rw [unit, if_neg (by omega), if_neg (by omega), if_neg (by omega)]
    have first : 0xe0 + (0xd800 + (character.toNat - 0x10000) / 0x400) / 0x1000 = 0xed := by omega
    rw [first]
    refine .surrogate ?_ _
    rw [UInt8.toNat_ofNat']
    omega

/-- In UTF-8 no character is written in more bytes than it needs, nor does it begin as a surrogate would. -/
private theorem exists_lead (character : Char) :
    ∃ lead tail, String.utf8EncodeChar character = UInt8.ofNat lead :: tail ∧
    lead < 0x100 ∧ lead ≠ 0xc0 ∧
      (lead = 0xed → ∃ second behind, tail = UInt8.ofNat second :: behind ∧ second < 0xa0) := by
  have scalar := Utf16.toNat_scalar character
  have value : character.val.toNat = character.toNat := rfl
  rw [String.utf8EncodeChar, value]
  by_cases one : character.toNat ≤ 127
  · exact ⟨_, _, if_pos one, by omega, by omega, by omega⟩
  · rw [if_neg one]
    by_cases two : character.toNat ≤ 2047
    · exact ⟨_, _, if_pos two, by omega, by omega, by omega⟩
    · rw [if_neg two]
      by_cases three : character.toNat ≤ 65535
      · refine ⟨_, _, if_pos three, by omega, by omega, fun high => ⟨_, _, rfl, ?_⟩⟩
        omega
      · exact ⟨_, _, if_neg three, by omega, by omega, by omega⟩

private theorem not_foreign_utf8 (character : Char) (rest : Bytes) :
    ¬ Foreign (String.utf8EncodeChar character ++ rest) := by
  obtain ⟨lead, tail, written, small, short, second⟩ := exists_lead character
  have toNat {value : Nat} {byte : UInt8} (small : value < 0x100) (same : UInt8.ofNat value = byte) :
      value = byte.toNat := by
    rw [← same, UInt8.toNat_ofNat_of_lt' small]
  intro foreign
  generalize bytes : String.utf8EncodeChar character ++ rest = found at foreign
  rw [written] at bytes
  cases foreign with
  | overlong behind => exact short (toNat small (List.cons.inj bytes).1)
  | surrogate high behind =>
    obtain ⟨first, others⟩ := List.cons.inj bytes
    obtain ⟨value, _, rfl, low⟩ := second (toNat small first)
    have same := toNat (by omega) (List.cons.inj others).1
    omega

private theorem utf8EncodeChar_append_inj {one other : Char} {rest others : Bytes}
    (same : String.utf8EncodeChar one ++ rest = String.utf8EncodeChar other ++ others) : one = other ∧ rest = others := by
  have first (character : Char) (behind : Bytes) :
      (String.utf8EncodeChar character ++ behind).toByteArray.utf8DecodeChar? 0 = some character := by
    rw [List.toByteArray_append]
    exact ByteArray.utf8DecodeChar?_utf8EncodeChar_append
  have characters : some one = some other := by rw [← first one rest, same, first other others]
  cases characters
  exact ⟨rfl, List.append_cancel_left same⟩

theorem encode_of_plain {text : String} (plain : PlainText text) : encode text = Utf8.encode text := by
  rw [Utf8.encode_eq_flatMap, encode, Utf16.encodeUnits, List.flatMap_assoc, List.flatMap_def, List.flatMap_def,
    List.map_congr_left fun character member => units_of_plain (plain character member)]

/-- The first character that is not plain would begin as none does in UTF-8. -/
theorem plain_of_utf8 {characters others : List Char}
    (same : (Utf16.encodeUnits characters).flatMap unit = others.flatMap String.utf8EncodeChar) :
    ∀ character ∈ characters, Plain character := by
  induction characters generalizing others with
  | nil => exact List.forall_mem_nil _
  | cons character characters ih =>
    rw [Utf16.encodeUnits, List.flatMap_cons, List.flatMap_append, ← Utf16.encodeUnits] at same
    by_cases plain : Plain character
    · rw [units_of_plain plain] at same
      cases others with
      | nil => exact absurd (List.append_eq_nil_iff.1 same).1 String.utf8EncodeChar_ne_nil
      | cons other others =>
        rw [List.flatMap_cons] at same
        exact List.forall_mem_cons.2 ⟨plain, ih (utf8EncodeChar_append_inj same).2⟩
    · have foreign := (foreign_of_not_plain plain).append ((Utf16.encodeUnits characters).flatMap unit)
      rw [same] at foreign
      cases others with
      | nil => cases foreign
      | cons other others =>
        rw [List.flatMap_cons] at foreign
        exact absurd foreign (not_foreign_utf8 other _)

theorem decode?_encode (text : String) :
    Utf8.decode? (encode text) = if PlainText text then some text else none := by
  split
  next plain => rw [encode_of_plain plain, Utf8.decode?_encode]
  next odd =>
    cases read : Utf8.decode? (encode text) with
    | none => rfl
    | some found =>
      have bytes := Utf8.eq_encode_of_decode? read
      rw [Utf8.encode_eq_flatMap] at bytes
      exact absurd (plain_of_utf8 bytes) odd

end ModifiedUtf8

end TrustRoots
