import TrustRoots.Bytes.Hex
import TrustRoots.Digest.Sha256
import TrustRoots.Text.Utf8

/-! SHA-256 fingerprints of certificates, held as sixty-four lowercase hexadecimal digits.
A text is refused for its length in UTF-8 bytes, then for its first character that is no
hexadecimal digit, then for an uppercase digit. -/

namespace TrustRoots

def isLowerHex (character : Char) : Bool :=
  character.isDigit || ('a' ≤ character && character ≤ 'f')

def isUppercase (character : Char) : Bool :=
  'A' ≤ character && character ≤ 'Z'

structure Fingerprint where
  text : String
  length_text : text.toList.length = 64
  lower_text : ∀ character ∈ text.toList, isLowerHex character

inductive FingerprintDefect where
  | wrongLength (found : Nat)
  | nonHex (character : Char)
  | notLowercase

structure InvalidFingerprint where
  value : String
  defect : FingerprintDefect

def FingerprintDefect.message : FingerprintDefect → String
  | .wrongLength found => "expected 64 hex characters, got " ++ Nat.repr found
  | .nonHex character => "non-hex character '" ++ String.singleton character ++ "'"
  | .notLowercase => "fingerprint must be lowercase"

def InvalidFingerprint.message (error : InvalidFingerprint) : String :=
  "invalid SHA-256 fingerprint \"" ++ error.value ++ "\": " ++ error.defect.message

namespace Fingerprint

def defect? (value : String) : Option FingerprintDefect :=
  if value.utf8ByteSize ≠ 64 then some (.wrongLength value.utf8ByteSize)
  else match value.toList.find? (fun character => !Hex.isDigit character) with
    | some character => some (.nonHex character)
    | none => if value.toList.any isUppercase then some .notLowercase else none

private theorem isLowerHex_of_isDigit {character : Char} (digit : Hex.isDigit character)
    (lower : ¬ isUppercase character) : isLowerHex character := by
  simp only [Hex.isDigit, Hex.value?] at digit
  simp only [isUppercase, Bool.and_eq_true, decide_eq_true_eq, not_and] at lower
  split at digit
  · next decimal => simp [isLowerHex, Char.isDigit, Char.le_def] at decimal ⊢; left; exact decimal
  · split at digit
    · next letter => simp [isLowerHex, letter]
    · split at digit
      · next upper =>
        refine absurd ?_ (lower ?_) <;> simp only [Char.le_def] at upper ⊢
        · exact UInt32.le_trans upper.2 (by decide)
        · exact upper.1
      · cases digit

theorem utf8Size_of_isLowerHex {character : Char} (lower : isLowerHex character) :
    character.utf8Size = 1 := by
  rw [Char.utf8Size_eq_one_iff]
  simp only [isLowerHex, Char.isDigit, Char.le_def, Bool.or_eq_true, Bool.and_eq_true,
    decide_eq_true_eq] at lower
  rcases lower with digit | letter
  · exact UInt32.le_trans digit.2 (by decide)
  · exact UInt32.le_trans letter.2 (by decide)

private theorem lower_of_defect?_eq_none {value : String} (sound : defect? value = none) :
    ∀ character ∈ value.toList, isLowerHex character := by
  intro character member
  simp only [defect?] at sound
  split at sound
  · cases sound
  · split at sound
    · cases sound
    · next allHex =>
      split at sound
      · cases sound
      · next noUpper =>
        refine isLowerHex_of_isDigit ?_ fun upper => noUpper (List.any_eq_true.2 ⟨_, member, upper⟩)
        simpa using List.find?_eq_none.1 allHex character member

private theorem length_of_defect?_eq_none {value : String} (sound : defect? value = none) :
    value.toList.length = 64 := by
  rw [← Utf8.utf8ByteSize_eq_length fun character member =>
    utf8Size_of_isLowerHex (lower_of_defect?_eq_none sound character member)]
  simp only [defect?] at sound
  split at sound
  · cases sound
  · next size => exact Decidable.not_not.1 size

def parse (value : String) : Except InvalidFingerprint Fingerprint :=
  match found : defect? value with
  | some defect => .error ⟨value, defect⟩
  | none => .ok ⟨value, length_of_defect?_eq_none found, lower_of_defect?_eq_none found⟩

/-- Reading a text that stays with its owner. -/
def ofBorrowed (value : String) : Except InvalidFingerprint Fingerprint :=
  parse value

/-- Reading a text that is handed over, and kept if it is a fingerprint. -/
def ofOwned (value : String) : Except InvalidFingerprint Fingerprint :=
  parse value

theorem isLowerHex_digitChar {value : Nat} (small : value < 16) : isLowerHex (Nat.digitChar value) := by
  revert value
  decide

theorem length_digits (bytes : Bytes) : (Hex.digits bytes).length = 2 * bytes.length := by
  induction bytes with
  | nil => rfl
  | cons byte rest ih =>
    simp only [Hex.digits, List.flatMap_cons, Hex.pair, List.length_append, List.length_cons,
      List.length_nil] at ih ⊢
    omega

theorem lower_digits (bytes : Bytes) : ∀ character ∈ Hex.digits bytes, isLowerHex character := by
  intro character member
  obtain ⟨byte, _, inside⟩ := List.mem_flatMap.1 member
  have bound := byte.toNat_lt
  simp only [Hex.pair, List.mem_cons, List.not_mem_nil, or_false] at inside
  rcases inside with rfl | rfl
  · exact isLowerHex_digitChar (by omega)
  · exact isLowerHex_digitChar (by omega)

def of (der : Bytes) : Fingerprint where
  text := Hex.render (Sha256.digest der)
  length_text := by simp [Hex.render, length_digits]
  lower_text := by simpa [Hex.render] using lower_digits (Sha256.digest der)

/-- Bytes two by two; an odd last one is left by itself. -/
def bytePairs : Bytes → List Bytes
  | first :: second :: rest => [first, second] :: bytePairs rest
  | [last] => [[last]]
  | [] => []

/-- Uppercase pairs of digits joined by colons. The text is cut between its bytes, and what is no text
by itself then is left out. -/
def colonSeparated (fingerprint : Fingerprint) : String :=
  let upper := String.ofList (fingerprint.text.toList.map Char.toUpper)
  ":".intercalate ((bytePairs (Utf8.encode upper)).filterMap Utf8.decode?)

instance : BEq Fingerprint := ⟨fun left right => left.text == right.text⟩

instance : Ord Fingerprint := ⟨fun left right => compare left.text right.text⟩

def sort (fingerprints : List Fingerprint) : List Fingerprint :=
  fingerprints.mergeSort fun left right => (compare left right).isLE

end Fingerprint

end TrustRoots
