import TrustRoots.Decimal.Shortest
import TrustRoots.Text.Blank
import TrustRoots.Toml.Document

/-! Settings of a trust store: the resource to open and the access token that keys its digest.
Settings that are absent or blank fall back to the defaults. -/

namespace TrustRoots

structure Config where
  resource : Option String := none
  accessToken : Option String := none
  deriving DecidableEq

inductive ConfigError where
  | malformed
  | unknownField (key : String)
  | invalidType (found : String)
  deriving DecidableEq

def ConfigError.message : ConfigError → String
  | malformed => "malformed document"
  | unknownField key => "unknown field `" ++ key ++ "`, expected `resource` or `access_token`"
  | invalidType found => "invalid type: " ++ found ++ ", expected a string"

namespace Config

def defaultResource : String := "api-roots.jks"

def defaultAccessToken : String := "notasecret"

/-- The name under which a loader looks for the settings. -/
def packageName : String := "apiclient"

def loadWith (loader : String → Config) : Config :=
  loader packageName

def resourceName (config : Config) : String :=
  (config.resource.bind Blank.trimmed?).getD defaultResource

def token (config : Config) : String :=
  (config.accessToken.bind Blank.trimmed?).getD defaultAccessToken

def realText? : Toml.Real → Option String
  | .notANumber => some "NaN"
  | .infinite negative => some (if negative then "-inf" else "inf")
  | .finite negative digits exponent =>
    (Binary64.ofDecimal? digits exponent).map fun number =>
      if negative then "-" ++ number.text else number.text

def fitsSigned (bytes : Nat) (value : Int) : Bool :=
  -(BigEndian.bound bytes : Int) ≤ 2 * value && 2 * value < BigEndian.bound bytes

def fitsUnsigned (bytes : Nat) (value : Int) : Bool :=
  0 ≤ value && value < BigEndian.bound bytes

def signedText (value : Int) : String :=
  if value < 0 then "-" ++ Nat.repr value.natAbs else Nat.repr value.natAbs

/-- A whole number, with the type it takes if eight bytes are too few. -/
def integerText? (value : Int) : Option String :=
  let shown (type : String) := some ("integer `" ++ signedText value ++ "`" ++ type)
  if fitsSigned 8 value || fitsUnsigned 8 value then shown ""
  else if fitsSigned 16 value then shown " as i128"
  else if fitsUnsigned 16 value then shown " as u128"
  else none

/-- What kind of value stands where a text is expected. Numbers without a value or outside every
range have none. -/
def kind? : Toml.Value → Option String
  | .text content => some ("string \"" ++ content ++ "\"")
  | .integer number => number.value?.bind integerText?
  | .real value => (realText? value).map fun text => "floating point `" ++ text ++ "`"
  | .boolean value => some (if value then "boolean `true`" else "boolean `false`")
  | .array _ | .tables _ _ => some "sequence"
  | .table _ _ | .moment _ => some "map"

def text (value : Toml.Value) : Except ConfigError String :=
  match value with
  | .text content => .ok content
  | other =>
    match kind? other with
    | some found => .error (.invalidType found)
    | none => .error .malformed

def addBinding (config : Config) (binding : String × Toml.Value) : Except ConfigError Config := do
  if binding.1 = "resource" then
    return { config with resource := some (← text binding.2) }
  else if binding.1 = "access_token" then
    return { config with accessToken := some (← text binding.2) }
  else throw (.unknownField binding.1)

/-- The settings in a root table. Its keys are visited in ascending order, and the first that is
unknown or bound to something other than a text decides the error. -/
def ofTable (table : Toml.Table) : Except ConfigError Config :=
  (table.mergeSort fun left right => left.1 ≤ right.1).foldlM addBinding {}

/-- The settings in a document, of which `parse` gives the root table if it is well-formed. -/
def ofTomlBy (parse : String → Option Toml.Table) (source : String) : Except ConfigError Config :=
  match parse source with
  | none => .error .malformed
  | some table => ofTable table

def ofToml (source : String) : Except ConfigError Config :=
  ofTomlBy Toml.parse? source

end Config

end TrustRoots
