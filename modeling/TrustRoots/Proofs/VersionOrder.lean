import TrustRoots.Proofs.CanonicalVersions
import TrustRoots.Proofs.PositionalOrder

/-! The order of versions. Versions are ranked by one number, whose last bit tells releases from
snapshots. Rounding the number up to the next odd one is what taking the release does, so that the
release is the least one from there on and nothing lies between it and its snapshot. -/

namespace TrustRoots.SemanticVersion

variable {version other : SemanticVersion}

/-- The three parts as one number. -/
def number (version : SemanticVersion) : Nat :=
  UInt64.size * (UInt64.size * version.major.toNat + version.minor.toNat) + version.patch.toNat

def rank (version : SemanticVersion) : Nat :=
  2 * version.number + (!version.snapshot).toNat

private theorem compare_eq_compare_toNat (word other : UInt64) :
    compare word other = compare word.toNat other.toNat := by
  simp only [compare, compareOfLessAndEq, UInt64.lt_iff_toNat_lt, UInt64.toNat_inj]

private theorem compare_bit (bit other : Bool) : compare bit other = compare bit.toNat other.toNat := by
  cases bit <;> cases other <;> rfl

private theorem compare_eq (version other : SemanticVersion) : compare version other =
    (compare version.major other.major).then ((compare version.minor other.minor).then
      ((compare version.patch other.patch).then (compare (!version.snapshot) (!other.snapshot)))) :=
  rfl

theorem compare_eq_compare_rank (version other : SemanticVersion) :
    compare version other = compare version.rank other.rank := by
  rw [compare_eq, rank, rank, compare_positional (Bool.toNat_lt _) (Bool.toNat_lt _), number, number,
    compare_positional version.patch.toNat_lt other.patch.toNat_lt,
    compare_positional version.minor.toNat_lt other.minor.toNat_lt, Ordering.then_assoc, Ordering.then_assoc,
    compare_eq_compare_toNat, compare_eq_compare_toNat, compare_eq_compare_toNat, compare_bit]

theorem le_iff_rank_le : version ≤ other ↔ version.rank ≤ other.rank := by
  have unfolded : version ≤ other ↔ (compare version other).isLE := Iff.rfl
  rw [unfolded, compare_eq_compare_rank, Nat.isLE_compare]

theorem lt_iff_rank_lt : version < other ↔ version.rank < other.rank := by
  have unfolded : version < other ↔ compare version other = .lt := Iff.rfl
  rw [unfolded, compare_eq_compare_rank, Nat.compare_eq_lt]

theorem beq_iff_rank_eq : (version == other) = true ↔ version.rank = other.rank := by
  rw [← Nat.compare_eq_eq, ← compare_eq_compare_rank, beq_iff, compare_eq, Ordering.then_eq_eq, Ordering.then_eq_eq,
    Ordering.then_eq_eq, Std.LawfulEqOrd.compare_eq_iff_eq, Std.LawfulEqOrd.compare_eq_iff_eq,
    Std.LawfulEqOrd.compare_eq_iff_eq, Std.LawfulEqOrd.compare_eq_iff_eq, Bool.not_inj_iff]

theorem rank_release (version : SemanticVersion) : version.release.rank = 2 * (version.rank / 2) + 1 := by
  have bit := Bool.toNat_lt (!version.snapshot)
  have rounded : version.rank / 2 = version.number := by
    unfold rank
    omega
  rw [rounded]
  rfl

private theorem snapshot_eq_true_iff : version.snapshot = true ↔ version.rank % 2 = 0 := by
  unfold rank
  cases version.snapshot <;> simp

private theorem snapshot_eq_false_iff : version.snapshot = false ↔ version.rank % 2 = 1 := by
  rw [← Bool.not_eq_true, snapshot_eq_true_iff]
  omega

/-- The order is total, and takes versions for the same exactly if they are equal. A version is at most
its release, and equal to it exactly if it is no snapshot. Taking the release keeps the order, changes
nothing the second time, and gives the least version from there on that is no snapshot. Between a
snapshot and its release there is no version. -/
theorem release_is_a_closure :
    (∀ u v : SemanticVersion, u ≤ v ∨ v ≤ u) ∧
    (∀ u v w : SemanticVersion, (u ≤ v → v ≤ w → u ≤ w) ∧ (u < v → v < w → u < w)) ∧
    (∀ v w : SemanticVersion, compare v w = .eq ↔ (v == w) = true) ∧
    (∀ v w : SemanticVersion, compare w v = (compare v w).swap) ∧
    (∀ v w : SemanticVersion, partialCompare v w = some (compare v w)) ∧
    (∀ v : SemanticVersion, v ≤ v.release ∧ ((v == v.release) = true ↔ v.snapshot = false)) ∧
    (∀ v w : SemanticVersion, v ≤ w → v.release ≤ w.release) ∧
    (∀ v : SemanticVersion, v.release.release = v.release) ∧
    (∀ v : SemanticVersion, v.release.snapshot = false ∧ ∀ w, w.snapshot = false → v ≤ w → v.release ≤ w) ∧
    ∀ v w : SemanticVersion, v.snapshot = true → ¬ (v < w ∧ w < v.release) := by
  -- Ranks make arithmetic of all but the reversed comparison and the release of a release.
  simp only [le_iff_rank_le, lt_iff_rank_lt, beq_iff_rank_eq, compare_eq_compare_rank, rank_release,
    Nat.compare_eq_eq, snapshot_eq_false_iff, snapshot_eq_true_iff]
  refine ⟨?total, ?transitive, ?same, ?reversed, ?partially, ?above, ?monotone, ?idempotent, ?least, ?gap⟩
  case total =>
    intro u v
    exact Nat.le_total u.rank v.rank
  case transitive =>
    intro u v w
    exact ⟨Nat.le_trans, Nat.lt_trans⟩
  case same => exact fun _ _ => trivial
  case reversed =>
    intro v w
    exact (Nat.compare_swap v.rank w.rank).symm
  case partially =>
    intro v w
    exact congrArg some (compare_eq_compare_rank v w)
  case above =>
    intro v
    omega
  case monotone =>
    intro v w ordered
    omega
  case idempotent => exact fun _ => rfl
  case least =>
    intro v
    refine ⟨by omega, fun w final ordered => ?_⟩
    omega
  case gap =>
    intro v w snapshot between
    omega

theorem release_is_a_closure_between :
    ∃ snapshot next : SemanticVersion, snapshot.snapshot = true ∧ snapshot < snapshot.release ∧
      snapshot.release < next ∧ snapshot ≤ next ∧ snapshot < next ∧ snapshot.release ≤ next.release ∧
      snapshot.release ≤ current ∧ ¬ (snapshot < next ∧ next < snapshot.release) := by
  let snapshot : SemanticVersion := ⟨"1.0.0-SNAPSHOT", 1, 0, 0, true⟩
  let next : SemanticVersion := ⟨"1.0.1-SNAPSHOT", 1, 0, 1, true⟩
  obtain ⟨_, transitive, _, _, _, _, monotone, _, least, gap⟩ := release_is_a_closure
  have first : snapshot < snapshot.release := rfl
  have second : snapshot.release < next := rfl
  have later : snapshot ≤ next := (transitive snapshot snapshot.release next).1 rfl rfl
  exact ⟨snapshot, next, rfl, first, second, later, (transitive _ _ _).2 first second, monotone snapshot next later,
    (least snapshot).2 current rfl rfl, gap snapshot next rfl⟩

end TrustRoots.SemanticVersion
