import TrustRoots.Proofs.DecimalNumerals
import TrustRoots.Version

/-! The grammar of versions. A text is read as a version exactly if it is three numerals joined by dots,
with the suffix behind them or nothing. The pattern lets digits of other scripts pass as well, and it is
the numbers that stop them. -/

namespace TrustRoots

namespace DecimalDigit

private theorem isDecimal_of_isDigit {character : Char} (ascii : character.isDigit) : isDecimal character := by
  obtain ⟨lower, upper⟩ := Char.isDigit_iff_toNat.1 ascii
  apply List.any_eq_true.2
  refine ⟨0x30, List.mem_cons_self, ?_⟩
  rw [Bool.and_eq_true, decide_eq_true_eq, decide_eq_true_eq]
  exact ⟨lower, Nat.lt_succ_of_le upper⟩

end DecimalDigit

namespace SemanticVersion

/-- Decimal digits of whatever script, one at least. -/
structure Run (digits : List Char) : Prop where
  filled : digits ≠ []
  decimal : ∀ digit ∈ digits, DecimalDigit.isDecimal digit

private theorem Run.of_numeral {digits : List Char} (numeral : Numeral digits) : Run digits where
  filled := numeral.filled
  decimal digit member := DecimalDigit.isDecimal_of_isDigit (numeral.ascii digit member)

def ending (suffixed : Bool) : List Char :=
  if suffixed then snapshotSuffix.toList else []

private theorem ending?_eq_some_iff {text : List Char} {suffixed : Bool} :
    ending? text = some suffixed ↔ text = ending suffixed := by
  have filled : snapshotSuffix.toList ≠ [] := by decide
  simp only [ending?, ending]
  by_cases empty : text = []
  · cases suffixed <;> simp [empty, filled.symm]
  · by_cases last : text = snapshotSuffix.toList
    · cases suffixed <;> simp [last, filled]
    · cases suffixed <;> simp [empty, last]

namespace Captures
variable {captures : Captures}

def text (captures : Captures) : List Char :=
  captures.major ++ '.' :: (captures.minor ++ '.' :: (captures.patch ++ ending captures.suffixed))

/-- What the pattern asks of the parts. -/
structure Matched (captures : Captures) : Prop where
  major : Run captures.major
  minor : Run captures.minor
  patch : Run captures.patch

/-- What the grammar asks of the parts. -/
structure Numeric (captures : Captures) : Prop where
  major : Numeral captures.major
  minor : Numeral captures.minor
  patch : Numeral captures.patch

/-- The version that the parts stand for, whatever text it carries. -/
structure Spells (captures : Captures) (version : SemanticVersion) : Prop where
  major : version.major.toNat = Nat.ofDigitChars 10 captures.major 0
  minor : version.minor.toNat = Nat.ofDigitChars 10 captures.minor 0
  patch : version.patch.toNat = Nat.ofDigitChars 10 captures.patch 0
  snapshot : version.snapshot = captures.suffixed

theorem Numeric.matched (numeric : captures.Numeric) : captures.Matched where
  major := .of_numeral numeric.major
  minor := .of_numeral numeric.minor
  patch := .of_numeral numeric.patch

end Captures

private theorem digits?_append {digits rest : List Char} (run : Run digits)
    (stop : ∀ character, rest.head? = some character → DecimalDigit.isDecimal character = false) :
    digits? (digits ++ rest) = some (digits, rest) := by
  have taken : rest.takeWhile DecimalDigit.isDecimal = [] ∧ rest.dropWhile DecimalDigit.isDecimal = rest := by
    cases rest with
    | nil => exact ⟨rfl, rfl⟩
    | cons character rest => simp [stop character rfl]
  simp [digits?, List.takeWhile_append_of_pos run.decimal, List.dropWhile_append_of_pos run.decimal, taken,
    run.filled]

private theorem run_of_digits? {text digits rest : List Char} (found : digits? text = some (digits, rest)) :
    Run digits ∧ text = digits ++ rest := by
  simp only [digits?] at found
  split at found
  · cases found
  next filled =>
    cases found
    refine ⟨⟨filled, ?_⟩, List.takeWhile_append_dropWhile.symm⟩
    exact List.all_eq_true.1 List.all_takeWhile

private theorem run_of_dottedDigits? {text digits rest : List Char} (found : dottedDigits? text = some (digits, rest)) :
    Run digits ∧ text = '.' :: (digits ++ rest) := by
  unfold dottedDigits? at found
  split at found
  · obtain ⟨run, rfl⟩ := run_of_digits? found
    exact ⟨run, rfl⟩
  · cases found

private theorem captures?_text {captures : Captures} (matched : captures.Matched) :
    captures? captures.text = some captures := by
  have dot (rest : List Char) (character : Char) (first : ('.' :: rest).head? = some character) :
      DecimalDigit.isDecimal character = false := by
    cases first
    decide
  have last (character : Char) (first : (ending captures.suffixed).head? = some character) :
      DecimalDigit.isDecimal character = false := by
    cases suffix : captures.suffixed with
    | false =>
      rw [suffix] at first
      cases first
    | true =>
      rw [suffix] at first
      cases first
      decide
  simp only [captures?, Captures.text, digits?_append matched.major (dot _), dottedDigits?, Option.bind_eq_bind,
    Option.bind_some, digits?_append matched.minor (dot _), digits?_append matched.patch last,
    ending?_eq_some_iff.2 rfl]
  rfl

theorem captures?_eq_some_iff {text : List Char} {captures : Captures} :
    captures? text = some captures ↔ captures.Matched ∧ text = captures.text := by
  constructor
  · intro found
    simp only [captures?, Option.bind_eq_bind, Option.bind_eq_some_iff, Prod.exists] at found
    obtain ⟨major, afterMajor, majorFound, minor, afterMinor, minorFound, patch, afterPatch, patchFound, suffixed,
      endFound, same⟩ := found
    cases same
    obtain ⟨majorRun, rfl⟩ := run_of_digits? majorFound
    obtain ⟨minorRun, rfl⟩ := run_of_dottedDigits? minorFound
    obtain ⟨patchRun, rfl⟩ := run_of_dottedDigits? patchFound
    obtain rfl := ending?_eq_some_iff.1 endFound
    exact ⟨⟨majorRun, minorRun, patchRun⟩, rfl⟩
  · intro ⟨matched, form⟩
    subst form
    exact captures?_text matched

/-- No sign is a digit, so that the sign a number may have elsewhere does not come up. -/
private theorem read?_of_run {digits : List Char} (run : Run digits) :
    Word64.read? digits = Word64.ofDigits? digits := by
  unfold Word64.read?
  split
  next rest =>
    have sign : DecimalDigit.isDecimal '+' := run.decimal '+' List.mem_cons_self
    exact absurd sign (by decide)
  next => rfl

private theorem run_and_read?_iff {digits : List Char} {word : UInt64} :
    (Run digits ∧ Word64.read? digits = some word) ↔
      Numeral digits ∧ word.toNat = Nat.ofDigitChars 10 digits 0 := by
  rw [← Word64.ofDigits?_eq_some_iff]
  constructor
  · intro ⟨run, read⟩
    rwa [← read?_of_run run]
  · intro read
    have run := Run.of_numeral (Word64.ofDigits?_eq_some_iff.1 read).1
    exact ⟨run, (read?_of_run run).trans read⟩

theorem parse?_eq_some_iff {raw : String} {version : SemanticVersion} :
    parse? raw = some version ↔
      ∃ parts : Captures, parts.Numeric ∧ raw.toList = parts.text ∧ parts.Spells version ∧ version.raw = raw := by
  simp only [parse?, Option.bind_eq_bind, Option.bind_eq_some_iff, captures?_eq_some_iff]
  constructor
  · intro ⟨parts, ⟨matched, form⟩, major, majorRead, minor, minorRead, patch, patchRead, same⟩
    cases same
    obtain ⟨majorNumeral, majorValue⟩ := run_and_read?_iff.1 ⟨matched.major, majorRead⟩
    obtain ⟨minorNumeral, minorValue⟩ := run_and_read?_iff.1 ⟨matched.minor, minorRead⟩
    obtain ⟨patchNumeral, patchValue⟩ := run_and_read?_iff.1 ⟨matched.patch, patchRead⟩
    exact ⟨parts, ⟨majorNumeral, minorNumeral, patchNumeral⟩, form,
      ⟨majorValue, minorValue, patchValue, rfl⟩, rfl⟩
  · intro ⟨parts, numeric, form, spells, same⟩
    subst same
    refine ⟨parts, ⟨numeric.matched, form⟩, version.major, ?_, version.minor, ?_, version.patch, ?_, ?_⟩
    · exact (run_and_read?_iff.2 ⟨numeric.major, spells.major⟩).2
    · exact (run_and_read?_iff.2 ⟨numeric.minor, spells.minor⟩).2
    · exact (run_and_read?_iff.2 ⟨numeric.patch, spells.patch⟩).2
    · rw [← spells.snapshot]
      rfl

theorem parse_eq_ok_iff {raw : String} {version : SemanticVersion} :
    parse raw = .ok version ↔ parse? raw = some version := by
  unfold parse
  split
  next other found => rw [found, Except.ok.injEq, Option.some.injEq]
  next missing => simp [missing]

theorem parse_eq_error_iff {raw : String} {error : MalformedVersion} :
    parse raw = .error error ↔ error.raw = raw ∧ parse? raw = none := by
  unfold parse
  split
  next version found => simp [found]
  next missing =>
    rw [Except.error.injEq]
    constructor
    · intro same
      subst same
      exact ⟨rfl, missing⟩
    · intro ⟨same, _⟩
      subst same
      rfl

theorem exists_parse?_of_numeric {raw : String} {parts : Captures} (numeric : parts.Numeric)
    (form : raw.toList = parts.text) : ∃ version, parse? raw = some version := by
  refine ⟨⟨raw, UInt64.ofNat (Nat.ofDigitChars 10 parts.major 0), UInt64.ofNat (Nat.ofDigitChars 10 parts.minor 0),
    UInt64.ofNat (Nat.ofDigitChars 10 parts.patch 0), parts.suffixed⟩, ?_⟩
  apply parse?_eq_some_iff.2
  exact ⟨parts, numeric, form, ⟨UInt64.toNat_ofNat_of_lt' numeric.major.fits,
    UInt64.toNat_ofNat_of_lt' numeric.minor.fits, UInt64.toNat_ofNat_of_lt' numeric.patch.fits, rfl⟩, rfl⟩

theorem exists_parse?_iff {raw : String} :
    (∃ version, parse? raw = some version) ↔ ∃ parts : Captures, parts.Numeric ∧ raw.toList = parts.text := by
  constructor
  · intro ⟨version, read⟩
    obtain ⟨parts, numeric, form, _⟩ := parse?_eq_some_iff.1 read
    exact ⟨parts, numeric, form⟩
  · intro ⟨parts, numeric, form⟩
    exact exists_parse?_of_numeric numeric form

theorem captures_unique {text : List Char} {parts others : Captures} (numeric : parts.Numeric)
    (form : text = parts.text) (found : captures? text = some others) : parts = others := by
  subst form
  rw [captures?_text numeric.matched] at found
  exact Option.some.inj found

/-- Exactly the texts of the grammar are read. What is read are the values of the numerals and whether
the suffix is there, next to the text itself, and what is refused is told as it was. A digit of another
script passes the pattern, but no text with one is read. All ways of reading agree. -/
theorem reading_accepts_the_grammar :
    (∀ raw, (∃ version, parse raw = .ok version) ↔
      ∃ parts : Captures, parts.Numeric ∧ raw.toList = parts.text) ∧
    (∀ raw version, parse raw = .ok version ↔
      ∃ parts : Captures, parts.Numeric ∧ raw.toList = parts.text ∧ parts.Spells version ∧
        version.raw = raw ∧ toString version = raw) ∧
    (∀ raw error, parse raw = .error error ↔
      error.raw = raw ∧ ¬ ∃ parts : Captures, parts.Numeric ∧ raw.toList = parts.text) ∧
    (∀ raw parts, captures? raw.toList = some parts →
      ∀ digit ∈ parts.major ++ parts.minor ++ parts.patch, digit.isDigit = false → parse raw = .error ⟨raw⟩) ∧
    ∀ raw, ofString raw = parse raw ∧ tryOfString raw = parse raw ∧ VersionInfo.ofLiteral raw = parse raw := by
  have refused (raw : String) (error : MalformedVersion) : parse raw = .error error ↔
      error.raw = raw ∧ ¬ ∃ parts : Captures, parts.Numeric ∧ raw.toList = parts.text := by
    rw [parse_eq_error_iff, ← exists_parse?_iff, ← Option.isSome_iff_exists, Option.not_isSome_iff_eq_none]
  refine ⟨?_, ?_, refused, ?_, fun _ => ⟨rfl, rfl, rfl⟩⟩
  · intro raw
    simp only [parse_eq_ok_iff]
    exact exists_parse?_iff
  · intro raw version
    rw [parse_eq_ok_iff, parse?_eq_some_iff]
    have shown : version.raw = raw ↔ version.raw = raw ∧ toString version = raw := (and_self_iff).symm
    rw [← shown]
  · intro raw parts found digit member foreign
    apply (refused raw ⟨raw⟩).2
    refine ⟨rfl, ?_⟩
    intro ⟨others, numeric, form⟩
    obtain rfl := captures_unique numeric form found
    have ascii : digit.isDigit := by
      rcases List.mem_append.1 member with front | last
      · rcases List.mem_append.1 front with first | second
        · exact numeric.major.ascii digit first
        · exact numeric.minor.ascii digit second
      · exact numeric.patch.ascii digit last
    rw [ascii] at foreign
    cases foreign

theorem reading_accepts_the_grammar_foreign :
    captures? "1.\u0662.3-SNAPSHOT".toList = some ⟨['1'], ['\u0662'], ['3'], true⟩ ∧
      parse "1.\u0662.3-SNAPSHOT" = .error ⟨"1.\u0662.3-SNAPSHOT"⟩ := by
  have found : captures? "1.\u0662.3-SNAPSHOT".toList = some ⟨['1'], ['\u0662'], ['3'], true⟩ := by decide
  exact ⟨found, reading_accepts_the_grammar.2.2.2.1 _ _ found '\u0662' (by decide) (by decide)⟩

end SemanticVersion

end TrustRoots
