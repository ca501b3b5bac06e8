import TrustRoots.Decimal.Word64

/-! Decimal numerals. A number of sixty-four bits is read from exactly the numerals that fit, however
many zeros they begin with, and leading zeros are all that numerals of one value can differ in. -/

namespace TrustRoots

/-- Digits of ASCII that stand for a number of sixty-four bits. -/
structure Numeral (digits : List Char) : Prop where
  filled : digits ≠ []
  ascii : ∀ digit ∈ digits, digit.isDigit
  fits : Nat.ofDigitChars 10 digits 0 < UInt64.size

namespace Word64

private theorem extend?_eq_some_iff {value longer : UInt64} {digit : Char} :
    extend? value digit = some longer ↔
      digit.isDigit ∧ longer.toNat = 10 * value.toNat + (digit.toNat - '0'.toNat) := by
  have bound := longer.toNat_lt
  simp only [extend?]
  split
  next accepted =>
    rw [Option.some.injEq, ← UInt64.toNat_inj, UInt64.toNat_ofNat_of_lt' accepted.2, eq_comm]
    exact (and_iff_right accepted.1).symm
  next refused =>
    refine ⟨nofun, ?_⟩
    intro ⟨digit, same⟩
    apply absurd _ refused
    rw [← same]
    exact ⟨digit, bound⟩

private theorem le_ofDigitChars (digits : List Char) (value : Nat) : value ≤ Nat.ofDigitChars 10 digits value := by
  rw [Nat.ofDigitChars_eq_ofDigitChars_zero]
  have grown := Nat.le_mul_of_pos_left value (Nat.pow_pos (n := digits.length) (show 0 < 10 by omega))
  omega

/-- The number never shrinks on the way, so that it fits at each digit if it fits at the last. -/
private theorem foldlM_extend?_eq_some_iff {digits : List Char} {value result : UInt64} :
    digits.foldlM extend? value = some result ↔
      (∀ digit ∈ digits, digit.isDigit) ∧ result.toNat = Nat.ofDigitChars 10 digits value.toNat := by
  induction digits generalizing value with
  | nil =>
    rw [List.foldlM_nil, Nat.ofDigitChars_nil, UInt64.toNat_inj]
    have same : pure value = some result ↔ result = value := Option.some_inj.trans eq_comm
    rw [same]
    exact (and_iff_right (List.forall_mem_nil _)).symm
  | cons digit digits ih =>
    simp only [List.foldlM_cons, Option.bind_eq_bind, Option.bind_eq_some_iff, extend?_eq_some_iff, ih,
      List.forall_mem_cons, Nat.ofDigitChars_cons]
    constructor
    · intro ⟨longer, ⟨first, same⟩, rest, last⟩
      rw [same] at last
      exact ⟨⟨first, rest⟩, last⟩
    · intro ⟨⟨first, rest⟩, last⟩
      have grown := le_ofDigitChars digits (10 * value.toNat + (digit.toNat - '0'.toNat))
      have bound := result.toNat_lt
      have fits : 10 * value.toNat + (digit.toNat - '0'.toNat) < UInt64.size := by
        rw [← last] at grown
        exact Nat.lt_of_le_of_lt grown bound
      refine ⟨UInt64.ofNat _, ⟨first, UInt64.toNat_ofNat_of_lt' fits⟩, rest, ?_⟩
      rw [UInt64.toNat_ofNat_of_lt' fits]
      exact last

theorem ofDigits?_eq_some_iff {digits : List Char} {word : UInt64} :
    ofDigits? digits = some word ↔ Numeral digits ∧ word.toNat = Nat.ofDigitChars 10 digits 0 := by
  have bound := word.toNat_lt
  simp only [ofDigits?]
  split
  next empty =>
    refine ⟨nofun, ?_⟩
    intro ⟨numeral, _⟩
    exact absurd empty numeral.filled
  next filled =>
    rw [foldlM_extend?_eq_some_iff]
    constructor
    · intro ⟨ascii, same⟩
      have same : word.toNat = Nat.ofDigitChars 10 digits 0 := same
      exact ⟨⟨filled, ascii, by rw [← same]; exact bound⟩, same⟩
    · intro ⟨numeral, same⟩
      exact ⟨numeral.ascii, same⟩

end Word64

namespace Numeral

theorem toDigits {value : Nat} (fits : value < UInt64.size) : Numeral (Nat.toDigits 10 value) where
  filled := Nat.toDigits_ne_nil
  ascii _ member := Nat.isDigit_of_mem_toDigits (by omega) (by omega) member
  fits := by rwa [Nat.ofDigitChars_ten_toDigits]

/-- A numeral without the zeros in front. Of zeros alone, one is left. -/
def plain (digits : List Char) : List Char :=
  match digits.dropWhile (· = '0') with
  | [] => ['0']
  | kept => kept

private theorem plain_zero_cons (digits : List Char) : plain ('0' :: digits) = plain digits := by
  simp [plain]

private theorem plain_cons {digit : Char} (nonzero : digit ≠ '0') (digits : List Char) :
    plain (digit :: digits) = digit :: digits := by
  simp [plain, nonzero]

private theorem plain_eq_zero_of_head? {digits : List Char} (leading : (plain digits).head? = some '0') :
    plain digits = ['0'] := by
  induction digits with
  | nil => rfl
  | cons digit digits ih =>
    by_cases zero : digit = '0'
    · subst zero
      rw [plain_zero_cons] at leading ⊢
      exact ih leading
    · rw [plain_cons zero] at leading
      exact absurd (Option.some.inj leading) zero

private theorem digitChar_of_isDigit {digit : Char} (ascii : digit.isDigit) :
    digit.toNat - '0'.toNat < 10 ∧ Nat.digitChar (digit.toNat - '0'.toNat) = digit := by
  obtain ⟨lower, upper⟩ := Char.isDigit_iff_toNat.1 ascii
  have least : '0'.toNat = 48 := rfl
  have greatest : '9'.toNat = 57 := rfl
  have small : digit.toNat - '0'.toNat < 10 := by omega
  refine ⟨small, Char.toNat_inj.1 ?_⟩
  rw [Nat.toNat_digitChar_of_lt_ten small]
  omega

private theorem toDigits_append {digits : List Char} (ascii : ∀ digit ∈ digits, digit.isDigit) {value : Nat}
    (positive : 0 < value) :
    Nat.toDigits 10 value ++ digits = Nat.toDigits 10 (Nat.ofDigitChars 10 digits value) := by
  induction digits generalizing value with
  | nil => simp
  | cons digit digits ih =>
    obtain ⟨first, rest⟩ := List.forall_mem_cons.1 ascii
    obtain ⟨small, same⟩ := digitChar_of_isDigit first
    have longer := Nat.toDigits_append_toDigits (by omega) positive small
    rw [Nat.toDigits_of_lt_base small, same] at longer
    calc
      Nat.toDigits 10 value ++ digit :: digits = (Nat.toDigits 10 value ++ [digit]) ++ digits := by simp
      _ = Nat.toDigits 10 (10 * value + (digit.toNat - '0'.toNat)) ++ digits := by rw [longer]
      _ = Nat.toDigits 10 (Nat.ofDigitChars 10 (digit :: digits) value) := by
        rw [ih rest (by omega), Nat.ofDigitChars_cons]

/-- Printing the value of a numeral takes its leading zeros away and changes nothing else. -/
theorem toDigits_ofDigitChars {digits : List Char} (ascii : ∀ digit ∈ digits, digit.isDigit) :
    Nat.toDigits 10 (Nat.ofDigitChars 10 digits 0) = plain digits := by
  induction digits with
  | nil => rfl
  | cons digit digits ih =>
    obtain ⟨first, rest⟩ := List.forall_mem_cons.1 ascii
    obtain ⟨small, same⟩ := digitChar_of_isDigit first
    rw [Nat.ofDigitChars_cons, Nat.mul_zero, Nat.zero_add]
    by_cases zero : digit = '0'
    · subst zero
      rw [plain_zero_cons, ← ih rest]
      rfl
    · have positive : 0 < digit.toNat - '0'.toNat := by
        apply Nat.pos_of_ne_zero
        intro nothing
        apply zero
        rw [← same, nothing]
        rfl
      rw [plain_cons zero, ← toDigits_append rest positive, Nat.toDigits_of_lt_base small, same]
      rfl

theorem toDigits_eq_zero_of_head? {value : Nat} (leading : (Nat.toDigits 10 value).head? = some '0') :
    Nat.toDigits 10 value = ['0'] := by
  have ascii (digit : Char) (member : digit ∈ Nat.toDigits 10 value) : digit.isDigit :=
    Nat.isDigit_of_mem_toDigits (by omega) (by omega) member
  have printed := toDigits_ofDigitChars ascii
  rw [Nat.ofDigitChars_ten_toDigits] at printed
  rw [printed] at leading ⊢
  exact plain_eq_zero_of_head? leading

theorem plain_eq_plain_iff {digits others : List Char} (ascii : ∀ digit ∈ digits, digit.isDigit)
    (othersAscii : ∀ digit ∈ others, digit.isDigit) :
    plain digits = plain others ↔ Nat.ofDigitChars 10 digits 0 = Nat.ofDigitChars 10 others 0 := by
  rw [← toDigits_ofDigitChars ascii, ← toDigits_ofDigitChars othersAscii]
  refine ⟨?_, congrArg _⟩
  intro same
  rw [← Nat.ofDigitChars_ten_toDigits (n := Nat.ofDigitChars 10 digits 0), same, Nat.ofDigitChars_ten_toDigits]

end Numeral

end TrustRoots
