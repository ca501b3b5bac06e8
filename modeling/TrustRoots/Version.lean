import TrustRoots.Decimal.Word64
import TrustRoots.Text.DecimalDigit

/-! Versions of the form MAJOR.MINOR.PATCH with an optional snapshot suffix. A text is taken apart
by a pattern that admits decimal digits of every script, and then each part is read as a number of
sixty-four bits, which admits those of ASCII alone. Equality and order look at the three numbers
and the suffix only, never at leading zeros, and a snapshot comes before the release with the same
numbers. -/

namespace TrustRoots

structure SemanticVersion where
  raw : String
  major : UInt64
  minor : UInt64
  patch : UInt64
  snapshot : Bool

structure MalformedVersion where
  raw : String

def MalformedVersion.message (error : MalformedVersion) : String :=
  "malformed version \"" ++ error.raw ++
    "\": expected MAJOR.MINOR.PATCH with an optional -SNAPSHOT suffix"

namespace SemanticVersion

def snapshotSuffix : String := "-SNAPSHOT"

/-- What the pattern captures in a text: three runs of decimal digits, and whether the suffix
follows them. -/
structure Captures where
  major : List Char
  minor : List Char
  patch : List Char
  suffixed : Bool
  deriving DecidableEq

/-- Takes the decimal digits, of whatever script, from the front of a text. There must be one. -/
def digits? (text : List Char) : Option (List Char × List Char) :=
  let digits := text.takeWhile DecimalDigit.isDecimal
  if digits = [] then none else some (digits, text.dropWhile DecimalDigit.isDecimal)

def dottedDigits? : List Char → Option (List Char × List Char)
  | '.' :: rest => digits? rest
  | _ => none

def ending? (text : List Char) : Option Bool :=
  if text = [] then some false
  else if text = snapshotSuffix.toList then some true
  else none

/-- Matches a whole text, from its first character to its last. -/
def captures? (text : List Char) : Option Captures := do
  let (major, rest) ← digits? text
  let (minor, rest) ← dottedDigits? rest
  let (patch, rest) ← dottedDigits? rest
  let suffixed ← ending? rest
  return { major, minor, patch, suffixed }

def parse? (raw : String) : Option SemanticVersion := do
  let captures ← captures? raw.toList
  let major ← Word64.read? captures.major
  let minor ← Word64.read? captures.minor
  let patch ← Word64.read? captures.patch
  return { raw, major, minor, patch, snapshot := captures.suffixed }

def parse (raw : String) : Except MalformedVersion SemanticVersion :=
  match parse? raw with
  | some version => .ok version
  | none => .error ⟨raw⟩

/-- Reading as the conversion that every text offers. -/
def ofString (raw : String) : Except MalformedVersion SemanticVersion :=
  parse raw

/-- Reading as a conversion that may fail. -/
def tryOfString (raw : String) : Except MalformedVersion SemanticVersion :=
  parse raw

/-- A version is shown as it was written. -/
instance : ToString SemanticVersion := ⟨raw⟩

def numbersText (version : SemanticVersion) : String :=
  Nat.repr version.major.toNat ++ "." ++ Nat.repr version.minor.toNat ++ "." ++
    Nat.repr version.patch.toNat

/-- The release that a version leads up to, written without leading zeros. -/
def release (version : SemanticVersion) : SemanticVersion :=
  { version with raw := version.numbersText, snapshot := false }

/-- What equality, hashing and order look at. Releases come after their snapshots. -/
def key (version : SemanticVersion) : UInt64 × UInt64 × UInt64 × Bool :=
  (version.major, version.minor, version.patch, !version.snapshot)

instance : BEq SemanticVersion := ⟨fun left right => left.key == right.key⟩

instance : Hashable SemanticVersion := ⟨fun version => hash version.key⟩

instance : Ord SemanticVersion where
  compare left right :=
    (compare left.major right.major).then <|
    (compare left.minor right.minor).then <|
    (compare left.patch right.patch).then <|
    compare (!left.snapshot) (!right.snapshot)

def partialCompare (left right : SemanticVersion) : Option Ordering :=
  some (compare left right)

instance : LE SemanticVersion := leOfOrd

instance : LT SemanticVersion := ltOfOrd

/-- Ascending, with equal versions kept in the order in which they came. -/
def sort (versions : List SemanticVersion) : List SemanticVersion :=
  versions.mergeSort fun left right => (compare left right).isLE

/-- The version of this library. -/
def current : SemanticVersion :=
  { raw := "1.0.0", major := 1, minor := 0, patch := 0, snapshot := false }

end SemanticVersion

namespace VersionInfo

/-- Reads a version literal, for those who want to check one of their own. -/
def ofLiteral (raw : String) : Except MalformedVersion SemanticVersion :=
  SemanticVersion.parse raw

end VersionInfo

end TrustRoots
