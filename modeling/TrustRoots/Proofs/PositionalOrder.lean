/-! Numbers written in two places compare as those in the first place do, and as those in the second
where the first are equal. -/

namespace TrustRoots

variable {base high low otherHigh otherLow : Nat}

private theorem positional_lt_of_lt (small : low < base) (later : high < otherHigh) :
    base * high + low < base * otherHigh + otherLow := by
  have grown : base * (high + 1) ≤ base * otherHigh := Nat.mul_le_mul_left base later
  rw [Nat.mul_succ] at grown
  omega

theorem compare_positional (small : low < base) (otherSmall : otherLow < base) :
    compare (base * high + low) (base * otherHigh + otherLow) =
      (compare high otherHigh).then (compare low otherLow) := by
  rcases Nat.lt_trichotomy high otherHigh with less | same | more
  · rw [Nat.compare_eq_lt.2 less, Nat.compare_eq_lt.2 (positional_lt_of_lt small less)]
    rfl
  · subst same
    rw [Nat.compare_eq_eq.2 rfl, Ordering.eq_then]
    rcases Nat.lt_trichotomy low otherLow with less | same | more
    · rw [Nat.compare_eq_lt.2 less, Nat.compare_eq_lt.2 (Nat.add_lt_add_left less _)]
    · rw [same, Nat.compare_eq_eq.2 rfl, Nat.compare_eq_eq.2 rfl]
    · rw [Nat.compare_eq_gt.2 more, Nat.compare_eq_gt.2 (Nat.add_lt_add_left more _)]
  · rw [Nat.compare_eq_gt.2 more, Nat.compare_eq_gt.2 (positional_lt_of_lt otherSmall more)]
    rfl

end TrustRoots
