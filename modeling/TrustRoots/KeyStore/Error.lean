import TrustRoots.Bytes.Hex

/-! Why the bytes of a key store are refused. Each cause names the offending value, and
`message` words it for an operator. -/

namespace TrustRoots

/-- The number that opens every key store. -/
def keyStoreMagic : Nat := 0xfeedfeed

inductive KeyStoreError where
  | truncated (offset needed : Nat)
  | badMagic (found : Nat)
  | unsupportedVersion (version : Nat)
  | unknownEntryTag (index tag : Nat)
  | invalidString (index : Nat)
  | duplicateAlias (name : String)
  | unsupportedCertificateType (name certificateType : String)
  | integrityCheckFailed
  | trailingBytes (count : Nat)
  | unreadable (reason : String)
  deriving DecidableEq

namespace KeyStoreError

/-- Eight hexadecimal digits behind the mark `0x`. -/
def wordText (value : Nat) : String :=
  "0x" ++ Hex.render (BigEndian.encode 4 value)

def message : KeyStoreError → String
  | truncated offset needed =>
    "key store truncated at byte " ++ Nat.repr offset ++ ": needed " ++ Nat.repr needed ++ " more byte(s)"
  | badMagic found =>
    "unrecognised key store magic " ++ wordText found ++ "; expected " ++ wordText keyStoreMagic
  | unsupportedVersion version =>
    "unsupported key store format version " ++ Nat.repr version ++ "; expected 1 or 2"
  | unknownEntryTag index tag => "entry " ++ Nat.repr index ++ " has unknown tag " ++ Nat.repr tag
  | invalidString index => "entry " ++ Nat.repr index ++ " contains a string that is not valid UTF-8"
  | duplicateAlias name => "duplicate alias \"" ++ name ++ "\""
  | unsupportedCertificateType name certificateType =>
    "certificate under alias \"" ++ name ++ "\" has unsupported type \"" ++ certificateType ++ "\""
  | integrityCheckFailed => "key store integrity check failed: wrong access token or tampered data"
  | trailingBytes count => Nat.repr count ++ " unexpected byte(s) after the integrity digest"
  | unreadable reason => "failed to read key store stream: " ++ reason

end KeyStoreError

end TrustRoots
