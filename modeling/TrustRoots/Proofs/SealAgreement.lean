import TrustRoots.KeyStore.Seal

/-! Two digests agree exactly when they are equal: no difference is lost when the differences of
all pairs of bytes are gathered in one byte, and where one of the two goes on without the other, their
lengths differ. -/

namespace TrustRoots.Seal

private theorem gathered_eq_zero_iff (pairs : List (UInt8 × UInt8)) (start : UInt8) :
    pairs.foldl (fun gathered pair => gathered ||| (pair.1 ^^^ pair.2)) start = 0 ↔
      start = 0 ∧ ∀ pair ∈ pairs, pair.1 = pair.2 := by
  induction pairs generalizing start with
  | nil => simp
  | cons pair rest ih =>
    rw [List.foldl_cons, ih, UInt8.or_eq_zero_iff, UInt8.xor_eq_zero_iff, List.forall_mem_cons, and_assoc]

private theorem pairs_equal_iff {first second : Bytes} (sized : first.length = second.length) :
    (∀ pair ∈ first.zip second, pair.1 = pair.2) ↔ first = second := by
  induction first generalizing second with
  | nil =>
    obtain rfl := List.length_eq_zero_iff.1 sized.symm
    simp
  | cons byte rest ih =>
    cases second with
    | nil => cases sized
    | cons other others =>
      rw [List.zip_cons_cons, List.forall_mem_cons, ih (Nat.succ.inj sized), List.cons.injEq]

theorem differences_eq_zero_iff {expected found : Bytes} (sized : expected.length = found.length) :
    differences expected found = 0 ↔ expected = found := by
  rw [differences, gathered_eq_zero_iff, pairs_equal_iff sized]
  exact and_iff_right rfl

theorem agree_iff {expected : Bytes} (sized : expected.length = length) (found : Bytes) :
    agree expected found ↔ found = expected := by
  rw [agree, Bool.and_eq_true, beq_iff_eq, beq_iff_eq]
  constructor
  · intro ⟨filled, undivided⟩
    exact ((differences_eq_zero_iff (sized.trans filled.symm)).1 undivided).symm
  · rintro rfl
    exact ⟨sized, (differences_eq_zero_iff rfl).2 rfl⟩

private theorem testBit_gathered (pairs : List (UInt8 × UInt8)) (start : UInt8) (bit : Nat) :
    (pairs.foldl (fun gathered pair => gathered ||| (pair.1 ^^^ pair.2)) start).toNat.testBit bit =
      (start.toNat.testBit bit || pairs.any fun pair => pair.1.toNat.testBit bit != pair.2.toNat.testBit bit) := by
  induction pairs generalizing start with
  | nil => simp
  | cons pair rest ih =>
    rw [List.foldl_cons, ih, UInt8.toNat_or, UInt8.toNat_xor, Nat.testBit_or, Nat.testBit_xor, List.any_cons,
      Bool.or_assoc]

/-- A bit that differs somewhere stays set, whatever other bytes do. -/
theorem testBit_differences_iff {expected found : Bytes} {bit : Nat} :
    (differences expected found).toNat.testBit bit = true ↔
      ∃ (place : Nat) (one other : UInt8), expected[place]? = some one ∧ found[place]? = some other ∧
        one.toNat.testBit bit ≠ other.toNat.testBit bit := by
  rw [differences, testBit_gathered, UInt8.toNat_zero, Nat.zero_testBit, Bool.false_or, List.any_eq_true]
  constructor
  · intro ⟨pair, member, differ⟩
    obtain ⟨place, here⟩ := List.mem_iff_getElem?.1 member
    obtain ⟨one, other⟩ := List.getElem?_zip_eq_some.1 here
    exact ⟨place, pair.1, pair.2, one, other, bne_iff_ne.1 differ⟩
  · intro ⟨place, one, other, first, second, differ⟩
    have here : (expected.zip found)[place]? = some (one, other) := List.getElem?_zip_eq_some.2 ⟨first, second⟩
    exact ⟨(one, other), List.mem_of_getElem? here, bne_iff_ne.2 differ⟩

theorem differences_of_prefix {expected found : Bytes} (begins : found <+: expected ∨ expected <+: found) :
    differences expected found = 0 := by
  have common : expected.take (min expected.length found.length) = found.take (min expected.length found.length) := by
    rcases begins with ⟨more, rfl⟩ | ⟨more, rfl⟩
    · simp
    · simp
  rw [differences, List.zip_eq_zip_take_min, common]
  exact (differences_eq_zero_iff rfl).2 rfl

private theorem eq_iff_getElem? {expected found : Bytes} (sized : expected.length = length) :
    found = expected ↔ found.length = length ∧ ∀ place < length, found[place]? = expected[place]? := by
  constructor
  · rintro rfl
    exact ⟨sized, fun _ _ => rfl⟩
  · intro ⟨filled, same⟩
    refine List.ext_getElem? fun place => ?_
    rcases Nat.lt_or_ge place length with inside | beyond
    · exact same place inside
    · rw [List.getElem?_eq_none (by omega), List.getElem?_eq_none (by omega)]

/-- A digest agrees with bytes that are as long and the same at every place, and with no others. A bit of the
differences is set exactly if it differs at some place, so that differences never cancel. They show nothing
of bytes without a partner, but then the lengths differ. -/
theorem agreement_is_equality {expected : Bytes} (sized : expected.length = length) (found : Bytes) :
    (agree expected found = true ↔
      found.length = length ∧ ∀ place < length, found[place]? = expected[place]?) ∧
    (∀ bit, (differences expected found).toNat.testBit bit = true ↔
      ∃ (place : Nat) (one other : UInt8), expected[place]? = some one ∧ found[place]? = some other ∧
        one.toNat.testBit bit ≠ other.toNat.testBit bit) ∧
    (found <+: expected ∨ expected <+: found → differences expected found = 0) ∧
    (found.length ≠ length → agree expected found = false) := by
  refine ⟨(agree_iff sized found).trans (eq_iff_getElem? sized), fun bit => testBit_differences_iff,
    differences_of_prefix, ?_⟩
  intro other
  rw [← Bool.not_eq_true, agree_iff sized]
  rintro rfl
  exact other sized

/-- The same bit differs at two places, and a whole digest has a byte more behind it. -/
theorem agreement_is_equality_twice :
    agree (List.replicate 20 7) (List.replicate 20 7) = true ∧
    (differences (List.replicate 20 7) ([6, 6] ++ List.replicate 18 7)).toNat.testBit 0 = true ∧
    agree (List.replicate 20 7) ([6, 6] ++ List.replicate 18 7) = false ∧
    differences (List.replicate 20 7) (List.replicate 21 7) = 0 ∧
    agree (List.replicate 20 7) (List.replicate 21 7) = false := by
  have sized : (List.replicate 20 (7 : UInt8)).length = length := rfl
  obtain ⟨same, _⟩ := agreement_is_equality sized (List.replicate 20 7)
  obtain ⟨twice, bits, _⟩ := agreement_is_equality sized ([6, 6] ++ List.replicate 18 7)
  obtain ⟨_, _, longer, refused⟩ := agreement_is_equality sized (List.replicate 21 7)
  refine ⟨same.2 ⟨rfl, fun _ _ => rfl⟩, (bits 0).2 ⟨1, 7, 6, rfl, rfl, by decide⟩, ?_,
    longer (.inr ⟨[7], rfl⟩), refused (by decide)⟩
  rw [← Bool.not_eq_true, twice]
  intro ⟨_, equal⟩
  exact absurd (equal 1 (by decide)) (by decide)

end TrustRoots.Seal
