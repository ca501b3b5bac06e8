import TrustRoots.Toml.Number

/-! Values of a configuration document. Tables remember how they came to be, since that decides
what may still be added to them. -/

namespace TrustRoots.Toml

inductive Origin where
  | written
  | implied
  | dotted
  | headed
  deriving DecidableEq

inductive Value where
  | text (content : String)
  | integer (number : Whole)
  | real (value : Real)
  | boolean (value : Bool)
  | moment (written : String)
  | array (items : List Value)
  | tables (latest : List (String × Value)) (earlier : List (List (String × Value)))
  | table (origin : Origin) (entries : List (String × Value))

/-- Keys with their values, in the order in which they came. -/
abbrev Table := List (String × Value)

end TrustRoots.Toml
