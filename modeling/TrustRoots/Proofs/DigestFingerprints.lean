import TrustRoots.Proofs.HexText

/-! Fingerprints are the digests of thirty-two bytes. A text is one exactly if it has sixty-four lowercase
hexadecimal digits, and it is the text of one digest. Every other text is refused for the first of three
defects. Fingerprints stand in the order of their digests as numbers. -/

namespace TrustRoots.Fingerprint

/-- What is wrong with a text. A later defect is one of a text without the earlier ones. -/
inductive Faulty (value : String) : FingerprintDefect → Prop where
  | wrongLength (misfit : value.utf8ByteSize ≠ 64) : Faulty value (.wrongLength value.utf8ByteSize)
  | nonHex {front back : List Char} {character : Char} (sized : value.utf8ByteSize = 64)
      (first : value.toList = front ++ character :: back)
      (before : ∀ digit ∈ front, digit ∈ Hex.lowercase ++ Hex.uppercase)
      (foreign : character ∉ Hex.lowercase ++ Hex.uppercase) : Faulty value (.nonHex character)
  | notLowercase (sized : value.utf8ByteSize = 64)
      (hex : ∀ digit ∈ value.toList, digit ∈ Hex.lowercase ++ Hex.uppercase)
      (upper : ∃ digit ∈ value.toList, digit ∈ Hex.uppercase) : Faulty value .notLowercase

private theorem find?_eq_none_iff {text : List Char} :
    text.find? (fun character => !Hex.isDigit character) = none ↔
      ∀ digit ∈ text, digit ∈ Hex.lowercase ++ Hex.uppercase := by
  simp only [List.find?_eq_none, Bool.not_eq_true', Bool.not_eq_false, Hex.isDigit_iff]

private theorem find?_eq_some_iff {text : List Char} {character : Char} :
    text.find? (fun character => !Hex.isDigit character) = some character ↔
      character ∉ Hex.lowercase ++ Hex.uppercase ∧
        ∃ front back, text = front ++ character :: back ∧
          ∀ digit ∈ front, digit ∈ Hex.lowercase ++ Hex.uppercase := by
  simp only [List.find?_eq_some_iff_append, ← Hex.isDigit_iff, Bool.not_not, Bool.not_eq_true', Bool.not_eq_true]

private theorem any_isUppercase_iff {text : List Char} (hex : ∀ digit ∈ text, digit ∈ Hex.lowercase ++ Hex.uppercase) :
    text.any isUppercase ↔ ∃ digit ∈ text, digit ∈ Hex.uppercase := by
  rw [List.any_eq_true]
  exact exists_congr fun digit => and_congr_right fun member => Hex.isUppercase_iff (hex digit member)

private theorem faulty_of_defect? {value : String} {defect : FingerprintDefect} (found : defect? value = some defect) :
    Faulty value defect := by
  unfold defect? at found
  split at found
  next misfit =>
    cases found
    exact .wrongLength misfit
  next fits =>
    have sized := Decidable.not_not.1 fits
    split at found
    next character outside =>
      cases found
      obtain ⟨foreign, front, back, first, before⟩ := find?_eq_some_iff.1 outside
      exact .nonHex sized first before foreign
    next inside =>
      have hex := find?_eq_none_iff.1 inside
      split at found
      next upper =>
        cases found
        exact .notLowercase sized hex ((any_isUppercase_iff hex).1 upper)
      next => cases found

private theorem Faulty.defect?_eq {value : String} {defect : FingerprintDefect} (faulty : Faulty value defect) :
    defect? value = some defect := by
  unfold defect?
  cases faulty with
  | wrongLength misfit => exact if_pos misfit
  | nonHex sized first before foreign => simp [sized, find?_eq_some_iff.2 ⟨foreign, _, _, first, before⟩]
  | notLowercase sized hex upper =>
    simp only [sized, find?_eq_none_iff.2 hex, (any_isUppercase_iff hex).2 upper]
    rfl

private theorem defect?_text (fingerprint : Fingerprint) : defect? fingerprint.text = none := by
  have lower (digit : Char) (member : digit ∈ fingerprint.text.toList) : digit ∈ Hex.lowercase :=
    Hex.isLowerHex_iff.1 (fingerprint.lower_text digit member)
  have hex (digit : Char) (member : digit ∈ fingerprint.text.toList) : digit ∈ Hex.lowercase ++ Hex.uppercase :=
    List.mem_append_left _ (lower digit member)
  have sized : fingerprint.text.utf8ByteSize = 64 := by
    rw [Utf8.utf8ByteSize_eq_length, fingerprint.length_text]
    intro digit member
    exact utf8Size_of_isLowerHex (fingerprint.lower_text digit member)
  cases found : defect? fingerprint.text with
  | none => rfl
  | some defect =>
    cases faulty_of_defect? found with
    | wrongLength misfit => exact absurd sized misfit
    | nonHex _ first _ foreign =>
      exact absurd (hex _ (by rw [first]; exact List.mem_append_right _ List.mem_cons_self)) foreign
    | notLowercase _ _ upper =>
      obtain ⟨digit, member, letter⟩ := upper
      exact absurd letter (Hex.not_mem_uppercase (lower digit member))

theorem parse_eq_ok_iff {value : String} {fingerprint : Fingerprint} :
    parse value = .ok fingerprint ↔ fingerprint.text = value := by
  unfold parse
  split
  next defect found =>
    refine ⟨nofun, ?_⟩
    intro same
    subst same
    rw [defect?_text] at found
    cases found
  next found =>
    rw [Except.ok.injEq]
    constructor
    · intro same
      rw [← same]
    · intro same
      cases fingerprint
      cases same
      rfl

theorem parse_eq_error_iff {value : String} {error : InvalidFingerprint} :
    parse value = .error error ↔ error.value = value ∧ Faulty value error.defect := by
  unfold parse
  split
  next defect found =>
    rw [Except.error.injEq]
    constructor
    · intro same
      subst same
      exact ⟨rfl, faulty_of_defect? found⟩
    · intro ⟨same, faulty⟩
      subst same
      rw [faulty.defect?_eq] at found
      cases found
      rfl
  next sound =>
    refine ⟨nofun, ?_⟩
    intro ⟨_, faulty⟩
    rw [faulty.defect?_eq] at sound
    cases sound

/-- The bytes behind a fingerprint. They are all that its text is the text of. -/
theorem exists_digest (fingerprint : Fingerprint) :
    ∃ digest, digest.length = 32 ∧ Hex.digits digest = fingerprint.text.toList :=
  Hex.exists_digits fingerprint.length_text fingerprint.lower_text

section
variable {fingerprint other : Fingerprint} {digest otherDigest : Bytes}

theorem beq_iff_text_eq : (fingerprint == other) = true ↔ fingerprint.text = other.text :=
  beq_iff_eq (a := fingerprint.text) (b := other.text)

end

end TrustRoots.Fingerprint
