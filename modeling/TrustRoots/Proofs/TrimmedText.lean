import Mathlib.Data.List.TakeWhile
import TrustRoots.Text.Blank

/-! Texts without the blanks around them. Every text that is not all blank has one part that begins and
ends with other characters and has only blanks in front of it and behind it, and trimming gives that
part. -/

namespace TrustRoots.Blank

/-- The code points with the property White_Space, one by one. -/
def whiteSpace : List Nat :=
  [0x9, 0xa, 0xb, 0xc, 0xd, 0x20, 0x85, 0xa0, 0x1680, 0x2000, 0x2001, 0x2002, 0x2003, 0x2004, 0x2005,
   0x2006, 0x2007, 0x2008, 0x2009, 0x200a, 0x2028, 0x2029, 0x202f, 0x205f, 0x3000]

private theorem isBlank_iff {character : Char} : isBlank character ↔ character.toNat ∈ whiteSpace := by
  simp only [isBlank, ranges, whiteSpace, List.any_cons, List.any_nil, Bool.or_eq_true, Bool.and_eq_true,
    decide_eq_true_eq, Bool.false_eq_true, List.mem_cons, List.not_mem_nil, or_false]
  omega

/-- The text has characters, and neither the first nor the last of them is blank. -/
structure Tight (text : List Char) : Prop where
  filled : text ≠ []
  first : ∀ character, text.head? = some character → character.toNat ∉ whiteSpace
  last : ∀ character, text.getLast? = some character → character.toNat ∉ whiteSpace

def AllBlank (text : List Char) : Prop :=
  ∀ character ∈ text, character.toNat ∈ whiteSpace

variable {text front kept back : List Char}

private theorem isBlank_of_mem (blank : AllBlank text) : ∀ character ∈ text, isBlank character :=
  fun character member => isBlank_iff.2 (blank character member)

private theorem trimStart_append (blank : AllBlank front) (first : ∀ character, kept.head? = some character →
    character.toNat ∉ whiteSpace) : trimStart (front ++ kept) = kept := by
  rw [trimStart, List.dropWhile_append_of_pos (isBlank_of_mem blank)]
  cases kept with
  | nil => rfl
  | cons character rest =>
    have solid : ¬ isBlank character := fun blank => first character rfl (isBlank_iff.1 blank)
    exact List.dropWhile_cons_of_neg solid

private theorem trimEnd_eq (text : List Char) : trimEnd text = (trimStart text.reverse).reverse := rfl

private theorem trimEnd_append (blank : AllBlank back) (last : ∀ character, kept.getLast? = some character →
    character.toNat ∉ whiteSpace) : trimEnd (kept ++ back) = kept := by
  have behind : AllBlank back.reverse := fun character member => blank character (List.mem_reverse.1 member)
  rw [trimEnd_eq, List.reverse_append, trimStart_append behind, List.reverse_reverse]
  rwa [List.head?_reverse]

theorem trim_append (frontBlank : AllBlank front) (tight : Tight kept) (backBlank : AllBlank back) :
    trim (front ++ kept ++ back) = kept := by
  have starts (character : Char) (first : (kept ++ back).head? = some character) :
      character.toNat ∉ whiteSpace := by
    obtain ⟨head, rest, rfl⟩ := List.exists_cons_of_ne_nil tight.filled
    exact tight.first character first
  rw [trim, List.append_assoc, trimStart_append frontBlank starts, trimEnd_append backBlank tight.last]

private theorem trim_of_allBlank (blank : AllBlank text) : trim text = [] := by
  have nothing : trimStart (text ++ []) = [] := trimStart_append blank nofun
  rw [List.append_nil] at nothing
  rw [trim, nothing]
  rfl

private theorem exists_trimStart (text : List Char) : ∃ front, AllBlank front ∧ text = front ++ trimStart text ∧
    ∀ character, (trimStart text).head? = some character → character.toNat ∉ whiteSpace := by
  refine ⟨text.takeWhile isBlank, ?_, List.takeWhile_append_dropWhile.symm, ?_⟩
  · intro character member
    exact isBlank_iff.1 (List.mem_takeWhile_imp member)
  · intro character first blank
    have solid := List.head?_dropWhile_not isBlank text
    simp only [trimStart] at first
    rw [first] at solid
    simp [isBlank_iff.2 blank] at solid

theorem exists_tight (solid : ¬ AllBlank text) :
    ∃ front kept back, text = front ++ kept ++ back ∧ AllBlank front ∧ Tight kept ∧ AllBlank back := by
  obtain ⟨front, frontBlank, split, first⟩ := exists_trimStart text
  generalize trimStart text = rest at split first
  obtain ⟨ending, endingBlank, reversed, last⟩ := exists_trimStart rest.reverse
  generalize trimStart rest.reverse = kept at reversed last
  have backBlank : AllBlank ending.reverse := fun character member =>
    endingBlank character (List.mem_reverse.1 member)
  have others : rest = kept.reverse ++ ending.reverse := by
    rw [← List.reverse_append, ← reversed, List.reverse_reverse]
  subst others
  refine ⟨front, kept.reverse, ending.reverse, by rw [split, List.append_assoc], frontBlank, ⟨?_, ?_, ?_⟩, backBlank⟩
  · intro empty
    refine solid fun character member => ?_
    rw [split, empty, List.nil_append] at member
    exact (List.mem_append.1 member).elim (frontBlank character) (backBlank character)
  · intro character head
    exact first character (List.head?_append.trans (by rw [head]; rfl))
  · intro character final
    rw [List.getLast?_reverse] at final
    exact last character final

theorem trim_eq_nil_iff : trim text = [] ↔ AllBlank text := by
  refine ⟨fun empty => ?_, trim_of_allBlank⟩
  refine Classical.byContradiction fun solid => ?_
  obtain ⟨front, kept, back, rfl, frontBlank, tight, backBlank⟩ := exists_tight solid
  rw [trim_append frontBlank tight backBlank] at empty
  exact tight.filled empty

theorem trimmed?_eq_none_iff {text : String} : trimmed? text = none ↔ AllBlank text.toList := by
  rw [← trim_eq_nil_iff, trimmed?]
  split
  next empty => exact iff_of_true rfl empty
  next filled => exact iff_of_false nofun filled

/-- The part is the only one of its kind. -/
theorem trimmed?_eq_some_iff {text kept : String} : trimmed? text = some kept ↔
    ∃ front back, text.toList = front ++ kept.toList ++ back ∧ AllBlank front ∧ Tight kept.toList ∧ AllBlank back := by
  constructor
  · intro trimmed
    have solid : ¬ AllBlank text.toList := by
      rw [← trimmed?_eq_none_iff, trimmed]
      nofun
    obtain ⟨front, part, back, split, frontBlank, tight, backBlank⟩ := exists_tight solid
    rw [trimmed?, split, trim_append frontBlank tight backBlank, if_neg tight.filled] at trimmed
    cases trimmed
    rw [String.toList_ofList]
    exact ⟨front, back, split, frontBlank, tight, backBlank⟩
  · intro ⟨front, back, split, frontBlank, tight, backBlank⟩
    rw [trimmed?, split, trim_append frontBlank tight backBlank, if_neg tight.filled, String.ofList_toList]

theorem Tight.trimmed?_eq {text : String} (tight : Tight text.toList) : trimmed? text = some text := by
  have nothing : AllBlank [] := List.forall_mem_nil _
  exact trimmed?_eq_some_iff.2 ⟨[], [], (List.append_nil _).symm, nothing, tight, nothing⟩

end TrustRoots.Blank
