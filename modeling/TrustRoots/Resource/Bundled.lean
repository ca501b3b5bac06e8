import TrustRoots.Resource.ApiRoots
import TrustRoots.Resource.Source

/-! The resources that ship with the library. -/

namespace TrustRoots

/-- The source of bundled resources, which never changes. -/
structure Bundled where

namespace Bundled

def resources : List (String × Bytes) :=
  [("api-roots.jks", apiRoots)]

def names : List String :=
  resources.map Prod.fst

def bytes? (name : String) : Option Bytes :=
  resources.lookup name

def opening (name : String) : Opening :=
  match bytes? name with
  | some bytes => .stream [.delivered bytes]
  | none => .refused ("no bundled resource named \"" ++ name ++ "\"")

instance : ResourceSource Bundled where
  openResource name source := (opening name, source)

end Bundled

end TrustRoots
