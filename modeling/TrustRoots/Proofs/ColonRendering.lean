import TrustRoots.Proofs.DigestFingerprints

/-! Fingerprints as uppercase pairs of digits between colons. The text is cut between its bytes, and
what is no text by itself would be lost. A fingerprint has digits only, so nothing is: without its
colons and in lowercase the rendering is the fingerprint again, and renderings stand in the order of
the fingerprints. -/

namespace TrustRoots

namespace Hex

def upperPair (byte : UInt8) : List Char :=
  (pair byte).map Char.toUpper

def colons (bytes : Bytes) : List Char :=
  [':'].intercalate (bytes.map upperPair)

private theorem toUpper_of_mem_lowercase : ∀ digit ∈ lowercase,
    digit.toUpper ∈ "0123456789ABCDEF".toList ∧ digit.toUpper.toLower = digit ∧ digit.toUpper.utf8Size = 1 ∧
      digit.toUpper ≠ ':' := by
  have all : (lowercase.all fun digit => digit.toUpper ∈ "0123456789ABCDEF".toList ∧ digit.toUpper.toLower = digit ∧
      digit.toUpper.utf8Size = 1 ∧ digit.toUpper ≠ ':') = true := by decide
  intro digit member
  exact of_decide_eq_true (List.all_eq_true.1 all digit member)

private theorem toUpper_order : ∀ digit ∈ lowercase, ∀ other ∈ lowercase,
    (digit.toUpper < other.toUpper ↔ digit < other) ∧ (digit.toUpper = other.toUpper ↔ digit = other) := by
  have all : (lowercase.all fun digit => lowercase.all fun other =>
      (digit.toUpper < other.toUpper ↔ digit < other) ∧ (digit.toUpper = other.toUpper ↔ digit = other)) = true := by
    decide
  intro digit member other inside
  exact of_decide_eq_true (List.all_eq_true.1 (List.all_eq_true.1 all digit member) other inside)

private theorem mem_lowercase_of_mem_pair {byte : UInt8} {digit : Char} (member : digit ∈ pair byte) :
    digit ∈ lowercase := by
  apply isLowerHex_iff.1
  apply Fingerprint.lower_digits [byte]
  rwa [digits, List.flatMap_singleton]

private theorem mem_upperPair {byte : UInt8} {digit : Char} (member : digit ∈ upperPair byte) :
    digit ∈ "0123456789ABCDEF".toList ∧ digit.utf8Size = 1 ∧ digit ≠ ':' := by
  obtain ⟨lower, inside, rfl⟩ := List.mem_map.1 member
  obtain ⟨hex, _, narrow, noColon⟩ := toUpper_of_mem_lowercase lower (mem_lowercase_of_mem_pair inside)
  exact ⟨hex, narrow, noColon⟩

private theorem toLower_upperPair (byte : UInt8) : (upperPair byte).map Char.toLower = pair byte := by
  rw [upperPair, List.map_map]
  refine (List.map_congr_left fun digit member => ?_).trans (List.map_id _)
  exact (toUpper_of_mem_lowercase digit (mem_lowercase_of_mem_pair member)).2.1

private theorem colons_cons (byte : UInt8) (rest : Bytes) :
    colons (byte :: rest) = upperPair byte ++ rest.flatMap fun next => ':' :: upperPair next := by
  induction rest generalizing byte with
  | nil => rfl
  | cons next rest ih =>
    rw [List.flatMap_cons, List.cons_append, ← ih, colons, List.map_cons, List.map_cons, List.intercalate_cons_cons,
      List.append_assoc]
    rfl

private theorem length_colons (byte : UInt8) (rest : Bytes) : (colons (byte :: rest)).length = 2 + 3 * rest.length := by
  have wide (next : UInt8) : (':' :: upperPair next).length = 3 := rfl
  rw [colons_cons, List.length_append, List.length_flatMap, List.map_congr_left fun next _ => wide next,
    List.map_const', List.sum_replicate_nat, Nat.mul_comm]
  rfl

private theorem filter_colons (bytes : Bytes) :
    (colons bytes).filter (fun character => character ≠ ':') = bytes.flatMap upperPair := by
  have kept (byte : UInt8) : (upperPair byte).filter (fun character => character ≠ ':') = upperPair byte :=
    List.filter_eq_self.2 fun digit member => decide_eq_true (mem_upperPair member).2.2
  cases bytes with
  | nil => rfl
  | cons byte rest =>
    rw [colons_cons, List.filter_append, kept, List.filter_flatMap, List.flatMap_cons]
    exact congrArg (upperPair byte ++ rest.flatMap ·) (funext kept)

private theorem toLower_filter_colons (bytes : Bytes) :
    ((colons bytes).filter (fun character => character ≠ ':')).map Char.toLower = digits bytes := by
  rw [filter_colons, List.map_flatMap]
  exact congrArg (bytes.flatMap ·) (funext toLower_upperPair)

private theorem upperPair_append_lt_iff (byte other : UInt8) {upper otherUpper lower otherLower : List Char}
    (behind : upper < otherUpper ↔ lower < otherLower) :
    upperPair byte ++ upper < upperPair other ++ otherUpper ↔ pair byte ++ lower < pair other ++ otherLower := by
  have digit {value : Nat} (small : value < 16) : Nat.digitChar value ∈ lowercase :=
    isLowerHex_iff.1 (Fingerprint.isLowerHex_digitChar small)
  have size := byte.toNat_lt
  have otherSize := other.toNat_lt
  obtain ⟨highLess, highSame⟩ := toUpper_order (Nat.digitChar (byte.toNat / 16)) (digit (by omega))
    (Nat.digitChar (other.toNat / 16)) (digit (by omega))
  obtain ⟨lowLess, lowSame⟩ := toUpper_order (Nat.digitChar (byte.toNat % 16)) (digit (by omega))
    (Nat.digitChar (other.toNat % 16)) (digit (by omega))
  simp only [upperPair, pair, List.map_cons, List.map_nil, List.cons_append, List.nil_append, List.cons_lt_cons_iff,
    highLess, highSame, lowLess, lowSame, behind]

private theorem flatMap_colon_lt_iff {bytes others : Bytes} (sized : bytes.length = others.length) :
    (bytes.flatMap fun next => ':' :: upperPair next) < (others.flatMap fun next => ':' :: upperPair next) ↔
      digits bytes < digits others := by
  induction bytes generalizing others with
  | nil =>
    obtain rfl := List.length_eq_zero_iff.1 sized.symm
    exact iff_of_false (List.lt_irrefl _) (List.lt_irrefl _)
  | cons byte rest ih =>
    cases others with
    | nil => cases sized
    | cons other others =>
      rw [List.flatMap_cons, List.flatMap_cons, List.cons_append, List.cons_append, List.cons_lt_cons_self]
      exact upperPair_append_lt_iff byte other (ih (Nat.succ.inj sized))

/-- The first digit that differs decides the order, with colons and without. -/
private theorem colons_lt_iff {bytes others : Bytes} (sized : bytes.length = others.length) :
    colons bytes < colons others ↔ digits bytes < digits others := by
  cases bytes with
  | nil =>
    obtain rfl := List.length_eq_zero_iff.1 sized.symm
    exact iff_of_false (List.lt_irrefl _) (List.lt_irrefl _)
  | cons byte rest =>
    cases others with
    | nil => cases sized
    | cons other others =>
      rw [colons_cons, colons_cons]
      exact upperPair_append_lt_iff byte other (flatMap_colon_lt_iff (Nat.succ.inj sized))

end Hex

namespace Fingerprint

def withoutColons (rendering : String) : String :=
  String.ofList ((rendering.toList.filter fun character => character ≠ ':').map Char.toLower)

private theorem bytePairs_append {first : Bytes} (sized : first.length = 2) (rest : Bytes) :
    bytePairs (first ++ rest) = first :: bytePairs rest := by
  match first, sized with
  | [_, _], _ => rfl

/-- Each digit is one byte, so that the cuts fall between the pairs, and every pair is text. -/
private theorem bytePairs_encode (bytes : Bytes) :
    (bytePairs (Utf8.encode (String.ofList ((Hex.digits bytes).map Char.toUpper)))).filterMap Utf8.decode? =
      bytes.map fun byte => String.ofList (Hex.upperPair byte) := by
  induction bytes with
  | nil => rfl
  | cons byte rest ih =>
    have split : (Hex.digits (byte :: rest)).map Char.toUpper =
        Hex.upperPair byte ++ (Hex.digits rest).map Char.toUpper := rfl
    have sized : (Utf8.encode (String.ofList (Hex.upperPair byte))).length = 2 :=
      Utf8.utf8ByteSize_ofList fun digit member => (Hex.mem_upperPair member).2.1
    rw [split, String.ofList_append, Utf8.encode_append, bytePairs_append sized,
      List.filterMap_cons_some (Utf8.decode?_encode _), ih, List.map_cons]

section
variable {fingerprint other : Fingerprint} {digest otherDigest : Bytes}

theorem colonSeparated_eq (rendered : Hex.digits digest = fingerprint.text.toList) :
    fingerprint.colonSeparated = ":".intercalate (digest.map fun byte => String.ofList (Hex.upperPair byte)) := by
  rw [colonSeparated, ← rendered]
  exact congrArg _ (bytePairs_encode digest)

theorem toList_colonSeparated (rendered : Hex.digits digest = fingerprint.text.toList) :
    fingerprint.colonSeparated.toList = Hex.colons digest := by
  rw [colonSeparated_eq rendered, String.toList_intercalate, List.map_map, Hex.colons]
  simp only [Function.comp_def, String.toList_ofList]
  rfl

theorem withoutColons_colonSeparated (fingerprint : Fingerprint) :
    withoutColons fingerprint.colonSeparated = fingerprint.text := by
  obtain ⟨digest, _, rendered⟩ := fingerprint.exists_digest
  rw [withoutColons, toList_colonSeparated rendered, Hex.toLower_filter_colons, rendered, String.ofList_toList]

theorem colonSeparated_inj : fingerprint.colonSeparated = other.colonSeparated ↔ fingerprint.text = other.text := by
  constructor
  · intro same
    rw [← withoutColons_colonSeparated, same, withoutColons_colonSeparated]
  · intro same
    rw [colonSeparated, same, ← colonSeparated]

theorem colonSeparated_lt_iff : fingerprint.colonSeparated < other.colonSeparated ↔ fingerprint.text < other.text := by
  obtain ⟨digest, filled, rendered⟩ := fingerprint.exists_digest
  obtain ⟨otherDigest, otherFilled, otherRendered⟩ := other.exists_digest
  rw [String.lt_iff, String.lt_iff, toList_colonSeparated rendered, toList_colonSeparated otherRendered, ← rendered,
    ← otherRendered, Hex.colons_lt_iff (filled.trans otherFilled.symm)]

theorem compare_colonSeparated :
    compare fingerprint.colonSeparated other.colonSeparated = compare fingerprint other := by
  have texts (left right : String) : compare left right = compareOfLessAndEq left right := rfl
  have fingerprints : compare fingerprint other = compare fingerprint.text other.text := rfl
  simp only [fingerprints, texts, compareOfLessAndEq, colonSeparated_lt_iff, colonSeparated_inj]

end

/-- A rendering has thirty-two pairs of uppercase digits with a colon between any two of them. Without
the colons and in lowercase it is the text of the fingerprint, and is read as that fingerprint.
Renderings are equal only for equal fingerprints and compare as the fingerprints do. -/
theorem colon_renderings_lose_nothing :
    (∀ fingerprint : Fingerprint,
      (∃ groups : List String, groups.length = 32 ∧
        (∀ group ∈ groups, group.length = 2 ∧ ∀ digit ∈ group.toList, digit ∈ "0123456789ABCDEF".toList) ∧
        fingerprint.colonSeparated = ":".intercalate groups) ∧
      fingerprint.colonSeparated.length = 95 ∧
      withoutColons fingerprint.colonSeparated = fingerprint.text ∧
      parse (withoutColons fingerprint.colonSeparated) = .ok fingerprint) ∧
    ∀ fingerprint other : Fingerprint,
      ((fingerprint == other) = true ↔ fingerprint.colonSeparated = other.colonSeparated) ∧
        compare fingerprint.colonSeparated other.colonSeparated = compare fingerprint other := by
  refine ⟨?_, fun fingerprint other => ⟨beq_iff_text_eq.trans colonSeparated_inj.symm, compare_colonSeparated⟩⟩
  intro fingerprint
  obtain ⟨digest, filled, rendered⟩ := fingerprint.exists_digest
  have restored := withoutColons_colonSeparated fingerprint
  refine ⟨⟨digest.map fun byte => String.ofList (Hex.upperPair byte), ?_, ?_, colonSeparated_eq rendered⟩, ?_,
    restored, parse_eq_ok_iff.2 restored.symm⟩
  · rw [List.length_map, filled]
  · intro group member
    obtain ⟨byte, _, rfl⟩ := List.mem_map.1 member
    rw [String.length_ofList, String.toList_ofList]
    exact ⟨rfl, fun digit inside => (Hex.mem_upperPair inside).1⟩
  · obtain ⟨byte, rest, rfl⟩ := List.exists_cons_of_length_eq_add_one filled
    have behind : rest.length = 31 := Nat.succ.inj filled
    rw [← String.length_toList, toList_colonSeparated rendered, Hex.length_colons, behind]

/-- The fingerprint of no bytes. -/
theorem colon_renderings_lose_nothing_empty :
    (of []).colonSeparated =
      "E3:B0:C4:42:98:FC:1C:14:9A:FB:F4:C8:99:6F:B9:24:27:AE:41:E4:64:9B:93:4C:A4:95:99:1B:78:52:B8:55" ∧
    parse (withoutColons
      "E3:B0:C4:42:98:FC:1C:14:9A:FB:F4:C8:99:6F:B9:24:27:AE:41:E4:64:9B:93:4C:A4:95:99:1B:78:52:B8:55") =
        .ok (of []) := by
  have rendering : (of []).colonSeparated =
      "E3:B0:C4:42:98:FC:1C:14:9A:FB:F4:C8:99:6F:B9:24:27:AE:41:E4:64:9B:93:4C:A4:95:99:1B:78:52:B8:55" := by
    decide +kernel
  obtain ⟨lossless, _⟩ := colon_renderings_lose_nothing
  obtain ⟨_, _, _, read⟩ := lossless (of [])
  exact ⟨rendering, rendering ▸ read⟩

end Fingerprint

end TrustRoots
