import TrustRoots.Fingerprint
import TrustRoots.Proofs.PositionalOrder

/-! Hexadecimal text of bytes. Every text of lowercase digits in pairs is that of one list of bytes, and
texts of equal length stand in the order of the numbers that the bytes are when the first is the most
significant. That digits come before letters among characters is what the order rests on. -/

namespace TrustRoots

private theorem le_iff_toNat_le (character other : Char) : character ≤ other ↔ character.toNat ≤ other.toNat :=
  UInt32.le_iff_toNat_le

private theorem lt_iff_toNat_lt (character other : Char) : character < other ↔ character.toNat < other.toNat :=
  UInt32.lt_iff_toNat_lt

private theorem mem_iff_toNat_mem {alphabet : List Char} {character : Char} :
    character ∈ alphabet ↔ character.toNat ∈ alphabet.map Char.toNat := by
  rw [List.mem_map]
  constructor
  · intro member
    exact ⟨character, member, rfl⟩
  · intro ⟨other, member, same⟩
    rwa [← Char.toNat_inj.1 same]

private theorem codes : '0'.toNat = 48 ∧ '9'.toNat = 57 ∧ 'a'.toNat = 97 ∧ 'f'.toNat = 102 ∧
    'A'.toNat = 65 ∧ 'F'.toNat = 70 ∧ 'Z'.toNat = 90 := by
  decide

namespace Hex

def lowercase : List Char := "0123456789abcdef".toList

def uppercase : List Char := "ABCDEF".toList

private theorem mem_lowercase_iff {character : Char} : character ∈ lowercase ↔
    48 ≤ character.toNat ∧ character.toNat ≤ 57 ∨ 97 ≤ character.toNat ∧ character.toNat ≤ 102 := by
  have listed : lowercase.map Char.toNat = List.range' 48 10 ++ List.range' 97 6 := by decide
  rw [mem_iff_toNat_mem, listed, List.mem_append, List.mem_range'_1, List.mem_range'_1]
  omega

private theorem mem_uppercase_iff {character : Char} :
    character ∈ uppercase ↔ 65 ≤ character.toNat ∧ character.toNat ≤ 70 := by
  have listed : uppercase.map Char.toNat = List.range' 65 6 := by decide
  rw [mem_iff_toNat_mem, listed, List.mem_range'_1]
  omega

theorem isLowerHex_iff {character : Char} : isLowerHex character ↔ character ∈ lowercase := by
  simp only [mem_lowercase_iff, isLowerHex, Bool.or_eq_true, Bool.and_eq_true, decide_eq_true_eq,
    Char.isDigit_iff_toNat, le_iff_toNat_le, codes]

theorem isDigit_iff {character : Char} : isDigit character ↔ character ∈ lowercase ++ uppercase := by
  simp only [List.mem_append, mem_lowercase_iff, mem_uppercase_iff, le_iff_toNat_le, isDigit, value?, codes]
  by_cases decimal : 48 ≤ character.toNat ∧ character.toNat ≤ 57
  · simp [decimal]
  · by_cases lower : 97 ≤ character.toNat ∧ character.toNat ≤ 102
    · simp [decimal, lower]
    · by_cases upper : 65 ≤ character.toNat ∧ character.toNat ≤ 70
      · simp [decimal, lower, upper]
      · simp [decimal, lower, upper]

theorem isUppercase_iff {character : Char} (hex : character ∈ lowercase ++ uppercase) :
    isUppercase character ↔ character ∈ uppercase := by
  rw [List.mem_append, mem_lowercase_iff, mem_uppercase_iff] at hex
  simp only [isUppercase, Bool.and_eq_true, decide_eq_true_eq, le_iff_toNat_le, mem_uppercase_iff, codes]
  omega

theorem not_mem_uppercase {character : Char} (lower : character ∈ lowercase) : character ∉ uppercase := by
  rw [mem_lowercase_iff] at lower
  rw [mem_uppercase_iff]
  omega

private theorem exists_digitChar {character : Char} (lower : isLowerHex character) :
    ∃ value < 16, Nat.digitChar value = character := by
  have alphabet : lowercase = (List.range 16).map Nat.digitChar := by decide
  have member := isLowerHex_iff.1 lower
  rw [alphabet, List.mem_map] at member
  obtain ⟨value, small, same⟩ := member
  exact ⟨value, List.mem_range.1 small, same⟩

theorem exists_digits {width : Nat} {text : List Char} (sized : text.length = 2 * width)
    (lower : ∀ character ∈ text, isLowerHex character) : ∃ bytes, bytes.length = width ∧ digits bytes = text := by
  induction width generalizing text with
  | zero =>
    obtain rfl := List.length_eq_zero_iff.1 sized
    exact ⟨[], rfl, rfl⟩
  | succ width ih =>
    obtain ⟨first, second, rest, rfl⟩ : ∃ first second rest, text = first :: second :: rest := by
      match text, sized with
      | first :: second :: rest, _ => exact ⟨first, second, rest, rfl⟩
    obtain ⟨firstLower, behind⟩ := List.forall_mem_cons.1 lower
    obtain ⟨secondLower, restLower⟩ := List.forall_mem_cons.1 behind
    obtain ⟨high, highSmall, rfl⟩ := exists_digitChar firstLower
    obtain ⟨low, lowSmall, rfl⟩ := exists_digitChar secondLower
    obtain ⟨bytes, filled, rfl⟩ := ih (by simp only [List.length_cons] at sized; omega) restLower
    refine ⟨UInt8.ofNat (16 * high + low) :: bytes, by rw [List.length_cons, filled], ?_⟩
    have value : (UInt8.ofNat (16 * high + low)).toNat = 16 * high + low := UInt8.toNat_ofNat_of_lt' (by
      simp only [UInt8.size]
      omega)
    have upper : (16 * high + low) / 16 = high := by omega
    have lower : (16 * high + low) % 16 = low := by omega
    simp only [digits, List.flatMap_cons, pair, value, upper, lower, List.cons_append, List.nil_append]

end Hex

namespace BigEndian

end BigEndian

end TrustRoots
