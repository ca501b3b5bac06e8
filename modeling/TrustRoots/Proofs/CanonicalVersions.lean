import TrustRoots.Proofs.VersionGrammar

/-! The canonical text of versions. A release is written so that reading it gives the release back, with
no zero in front of a part that could be left out, and two versions are equal exactly if their releases
are written alike and both or neither are snapshots. -/

namespace TrustRoots.SemanticVersion

namespace Captures
variable {parts others : Captures}

def plain (parts : Captures) : Captures :=
  { parts with major := Numeral.plain parts.major, minor := Numeral.plain parts.minor, patch := Numeral.plain parts.patch }

structure Tidy (parts : Captures) : Prop where
  major : parts.major.head? = some '0' → parts.major = ['0']
  minor : parts.minor.head? = some '0' → parts.minor = ['0']
  patch : parts.patch.head? = some '0' → parts.patch = ['0']

end Captures

variable {raw : String} {version other : SemanticVersion} {parts others : Captures}

def printed (version : SemanticVersion) (suffixed : Bool) : Captures where
  major := Nat.toDigits 10 version.major.toNat
  minor := Nat.toDigits 10 version.minor.toNat
  patch := Nat.toDigits 10 version.patch.toNat
  suffixed := suffixed

private theorem numeric_printed (version : SemanticVersion) (suffixed : Bool) : (version.printed suffixed).Numeric where
  major := .toDigits version.major.toNat_lt
  minor := .toDigits version.minor.toNat_lt
  patch := .toDigits version.patch.toNat_lt

private theorem tidy_printed (version : SemanticVersion) (suffixed : Bool) : (version.printed suffixed).Tidy where
  major := Numeral.toDigits_eq_zero_of_head?
  minor := Numeral.toDigits_eq_zero_of_head?
  patch := Numeral.toDigits_eq_zero_of_head?

private theorem toList_numbersText (version : SemanticVersion) :
    version.numbersText.toList = (version.printed false).text := by
  simp [numbersText, printed, Captures.text, ending]

private theorem toList_numbersText_append (version : SemanticVersion) (suffixed : Bool) :
    (version.numbersText ++ if suffixed then snapshotSuffix else "").toList = (version.printed suffixed).text := by
  cases suffixed with
  | false => rw [← toList_numbersText]; simp
  | true =>
    rw [if_pos rfl, String.toList_append, toList_numbersText]
    simp [printed, Captures.text, ending]

private theorem parse?_of_printed {suffixed : Bool} (form : raw.toList = (version.printed suffixed).text) :
    parse? raw = some { version with raw, snapshot := suffixed } := by
  apply parse?_eq_some_iff.2
  exact ⟨version.printed suffixed, version.numeric_printed suffixed, form,
    ⟨Nat.ofDigitChars_ten_toDigits.symm, Nat.ofDigitChars_ten_toDigits.symm,
      Nat.ofDigitChars_ten_toDigits.symm, rfl⟩, rfl⟩

theorem parse?_release (version : SemanticVersion) : parse? version.release.raw = some version.release :=
  parse?_of_printed version.toList_numbersText

private theorem captures?_release (version : SemanticVersion) :
    captures? version.release.raw.toList = some (version.printed false) :=
  captures?_eq_some_iff.2 ⟨(version.numeric_printed false).matched, version.toList_numbersText⟩

private theorem beq_iff_key : (version == other) = true ↔ version.key = other.key :=
  beq_iff_eq (a := version.key) (b := other.key)

theorem beq_iff : (version == other) = true ↔
    version.major = other.major ∧ version.minor = other.minor ∧ version.patch = other.patch ∧
      version.snapshot = other.snapshot := by
  rw [beq_iff_key, key, key, Prod.mk.injEq, Prod.mk.injEq, Prod.mk.injEq, Bool.not_inj_iff]

theorem hash_eq_of_beq (same : (version == other) = true) : hash version = hash other := by
  have keys : hash version.key = hash other.key := by rw [beq_iff_key.1 same]
  exact keys

/-- The text of a release tells its numbers, since it reads back as they are. -/
theorem beq_iff_release_raw : (version == other) = true ↔
    version.release.raw = other.release.raw ∧ version.snapshot = other.snapshot := by
  rw [beq_iff]
  constructor
  · intro ⟨major, minor, patch, snapshot⟩
    refine ⟨?_, snapshot⟩
    simp only [release, numbersText, major, minor, patch]
  · intro ⟨text, snapshot⟩
    have back := version.parse?_release
    rw [text, other.parse?_release, Option.some.injEq] at back
    simp only [release, SemanticVersion.mk.injEq] at back
    obtain ⟨_, major, minor, patch, _⟩ := back
    exact ⟨major.symm, minor.symm, patch.symm, snapshot⟩

theorem beq_iff_plain (numeric : parts.Numeric) (spells : parts.Spells version) (othersNumeric : others.Numeric)
    (othersSpell : others.Spells other) : (version == other) = true ↔ parts.plain = others.plain := by
  rw [beq_iff, ← UInt64.toNat_inj, ← UInt64.toNat_inj, ← UInt64.toNat_inj, spells.major, spells.minor, spells.patch,
    spells.snapshot, othersSpell.major, othersSpell.minor, othersSpell.patch, othersSpell.snapshot,
    ← Numeral.plain_eq_plain_iff numeric.major.ascii othersNumeric.major.ascii,
    ← Numeral.plain_eq_plain_iff numeric.minor.ascii othersNumeric.minor.ascii,
    ← Numeral.plain_eq_plain_iff numeric.patch.ascii othersNumeric.patch.ascii,
    Captures.plain, Captures.plain, Captures.mk.injEq]

private theorem spells_of_captures? (read : parse? raw = some version) (found : captures? raw.toList = some parts) :
    parts.Numeric ∧ parts.Spells version := by
  obtain ⟨others, numeric, form, spells, _⟩ := parse?_eq_some_iff.1 read
  obtain rfl := captures_unique numeric form found
  exact ⟨numeric, spells⟩

/-- The release of a version that was read has a text that reads back as the release, with no zero that
could be left out, and with the suffix of a snapshot put back as a version equal to the first. Versions
are equal exactly if the texts of their releases are, both or neither being snapshots, which is to say
that the texts they were read from differ in leading zeros only. Equal versions have equal hashes. -/
theorem equality_is_of_canonical_text :
    (∀ raw version, parse raw = .ok version →
      (∃ again, parse version.release.raw = .ok again ∧ again.raw = version.release.raw ∧
        again.major = version.major ∧ again.minor = version.minor ∧ again.patch = version.patch ∧
        again.snapshot = false) ∧
      (∃ parts, captures? version.release.raw.toList = some parts ∧ parts.Tidy) ∧
      ∃ again, parse (version.release.raw ++ if version.snapshot then snapshotSuffix else "") = .ok again ∧
        (again == version) = true) ∧
    ∀ raw version otherRaw other, parse raw = .ok version → parse otherRaw = .ok other →
      ((version == other) = true ↔
        version.release.raw = other.release.raw ∧ version.snapshot = other.snapshot) ∧
      (∀ parts others, captures? raw.toList = some parts → captures? otherRaw.toList = some others →
        ((version == other) = true ↔ parts.plain = others.plain)) ∧
      ((version == other) = true → hash version = hash other) := by
  simp only [parse_eq_ok_iff]
  constructor
  · intro raw version _
    refine ⟨⟨version.release, version.parse?_release, rfl, rfl, rfl, rfl, rfl⟩,
      ⟨version.printed false, version.captures?_release, version.tidy_printed false⟩, ?_⟩
    have restored := parse?_of_printed (version.toList_numbersText_append version.snapshot)
    exact ⟨_, restored, beq_iff.2 ⟨rfl, rfl, rfl, rfl⟩⟩
  · intro raw version otherRaw other read otherRead
    refine ⟨beq_iff_release_raw, ?_, hash_eq_of_beq⟩
    intro parts others found othersFound
    obtain ⟨numeric, spells⟩ := spells_of_captures? read found
    obtain ⟨othersNumeric, othersSpell⟩ := spells_of_captures? otherRead othersFound
    exact beq_iff_plain numeric spells othersNumeric othersSpell

theorem equality_is_of_canonical_text_padded :
    ∃ version other, parse "007.0.18446744073709551615-SNAPSHOT" = .ok version ∧
      parse "7.00.018446744073709551615-SNAPSHOT" = .ok other ∧
      (∃ again, parse version.release.raw = .ok again ∧ again.raw = version.release.raw) ∧
      (version == other) = true ∧ version.release.raw = other.release.raw ∧ hash version = hash other := by
  have read : parse "007.0.18446744073709551615-SNAPSHOT" =
      .ok ⟨"007.0.18446744073709551615-SNAPSHOT", 7, 0, 18446744073709551615, true⟩ := by rfl
  have otherRead : parse "7.00.018446744073709551615-SNAPSHOT" =
      .ok ⟨"7.00.018446744073709551615-SNAPSHOT", 7, 0, 18446744073709551615, true⟩ := by rfl
  obtain ⟨⟨again, back, text, _⟩, _⟩ := equality_is_of_canonical_text.1 _ _ read
  obtain ⟨byRelease, byParts, hashed⟩ := equality_is_of_canonical_text.2 _ _ _ _ read otherRead
  have same := (byParts _ _ rfl rfl).2 (by decide)
  exact ⟨_, _, read, otherRead, ⟨again, back, text⟩, same, (byRelease.1 same).1, hashed same⟩

end TrustRoots.SemanticVersion
