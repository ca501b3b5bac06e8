import TrustRoots.Text.Utf16

/-! Tokens as they are digested. No two texts have the same bytes in UTF-16: the bytes tell the
units, and the units tell the characters, one after the other. -/

namespace TrustRoots

namespace BigEndian
variable {width : Nat}

theorem encode_append_inj {value other : Nat} (fits : value < bound width) (otherFits : other < bound width)
    {rest others : Bytes} (same : encode width value ++ rest = encode width other ++ others) :
    value = other ∧ rest = others := by
  obtain ⟨front, back⟩ := List.append_inj same (by rw [length_encode, length_encode])
  refine ⟨?_, back⟩
  rw [← decode_encode fits, front, decode_encode otherFits]

private theorem flatMap_encode_inj (positive : 0 < width) {values others : List Nat}
    (fits : ∀ value ∈ values, value < bound width) (othersFit : ∀ other ∈ others, other < bound width)
    (same : values.flatMap (encode width) = others.flatMap (encode width)) : values = others := by
  have filled (value : Nat) (rest : Bytes) : encode width value ++ rest ≠ [] := by
    intro empty
    have none_left := congrArg List.length empty
    rw [List.length_append, length_encode, List.length_nil] at none_left
    omega
  induction values generalizing others with
  | nil =>
    cases others with
    | nil => rfl
    | cons other others => exact absurd same.symm (filled other _)
  | cons value values ih =>
    cases others with
    | nil => exact absurd same (filled value _)
    | cons other others =>
      obtain ⟨small, valuesFit⟩ := List.forall_mem_cons.1 fits
      obtain ⟨otherSmall, restFit⟩ := List.forall_mem_cons.1 othersFit
      obtain ⟨rfl, rest⟩ := encode_append_inj small otherSmall same
      rw [ih valuesFit restFit rest]

end BigEndian

namespace Utf16

theorem toNat_scalar (character : Char) :
    character.toNat < 0xd800 ∨ 0xdfff < character.toNat ∧ character.toNat < 0x110000 :=
  character.valid

theorem units_of_small {character : Char} (small : character.toNat < 0x10000) :
    units character = [character.toNat] :=
  if_pos small

theorem units_of_large {character : Char} (large : ¬ character.toNat < 0x10000) :
    units character = [0xd800 + (character.toNat - 0x10000) / 0x400, 0xdc00 + (character.toNat - 0x10000) % 0x400] :=
  if_neg large

/-- A high surrogate is not the only unit of any character, so the first unit tells how many units
the character has. -/
private theorem units_append_inj {one other : Char} {rest others : List Nat}
    (same : units one ++ rest = units other ++ others) : one = other ∧ rest = others := by
  have scalar := toNat_scalar one
  have otherScalar := toNat_scalar other
  by_cases small : one.toNat < 0x10000
  · by_cases otherSmall : other.toNat < 0x10000
    · rw [units_of_small small, units_of_small otherSmall] at same
      obtain ⟨unit, rest⟩ := List.cons.inj same
      exact ⟨Char.toNat_inj.1 unit, rest⟩
    · rw [units_of_small small, units_of_large otherSmall] at same
      have unit := (List.cons.inj same).1
      omega
  · by_cases otherSmall : other.toNat < 0x10000
    · rw [units_of_large small, units_of_small otherSmall] at same
      have unit := (List.cons.inj same).1
      omega
    · rw [units_of_large small, units_of_large otherSmall] at same
      obtain ⟨high, behind⟩ := List.cons.inj same
      obtain ⟨low, rest⟩ := List.cons.inj behind
      exact ⟨Char.toNat_inj.1 (by omega), rest⟩

private theorem units_ne_nil (character : Char) (rest : List Nat) : units character ++ rest ≠ [] := by
  unfold units
  dsimp only
  split <;> exact List.cons_ne_nil _ _

private theorem units_lt_bound (character : Char) : ∀ unit ∈ units character, unit < BigEndian.bound 2 := by
  have scalar := toNat_scalar character
  intro unit member
  simp only [BigEndian.bound]
  by_cases small : character.toNat < 0x10000
  · rw [units_of_small small, List.mem_singleton] at member
    omega
  · rw [units_of_large small, List.mem_cons, List.mem_singleton] at member
    omega

theorem encodeUnits_injective {characters others : List Char} (same : encodeUnits characters = encodeUnits others) :
    characters = others := by
  induction characters generalizing others with
  | nil =>
    cases others with
    | nil => rfl
    | cons other others => exact absurd same.symm (units_ne_nil other _)
  | cons character characters ih =>
    cases others with
    | nil => exact absurd same (units_ne_nil character _)
    | cons other others =>
      obtain ⟨rfl, rest⟩ := units_append_inj same
      rw [ih rest]

theorem encodeUnits_lt_bound (characters : List Char) :
    ∀ unit ∈ encodeUnits characters, unit < BigEndian.bound 2 := by
  intro unit member
  obtain ⟨character, _, inside⟩ := List.mem_flatMap.1 member
  exact units_lt_bound character unit inside

theorem encode_injective {text other : String} (same : encode text = encode other) : text = other := by
  apply String.toList_injective
  apply encodeUnits_injective
  exact BigEndian.flatMap_encode_inj (by decide) (encodeUnits_lt_bound _) (encodeUnits_lt_bound _) same

end Utf16

end TrustRoots
