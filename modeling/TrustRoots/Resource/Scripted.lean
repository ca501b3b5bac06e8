import TrustRoots.Resource.Bundled

/-! A source that is told beforehand what opening a resource shall do: panic, refuse everything,
serve what has been put on it, or fall back to the bundled resources. -/

namespace TrustRoots

structure Scripted where
  resources : List (String × Stream) := []
  available : Bool := true
  fallsBack : Bool := false
  pendingPanics : Nat := 0

namespace Scripted

def put (name : String) (stream : Stream) (source : Scripted) : Scripted :=
  { source with resources := (name, stream) :: source.resources.filter (fun held => held.1 ≠ name) }

def holds (name : String) (source : Scripted) : Bool :=
  source.resources.any (fun held => held.1 = name)

def remove (name : String) (source : Scripted) : Scripted :=
  { source with resources := source.resources.filter (fun held => held.1 ≠ name) }

def switch (available : Bool) (source : Scripted) : Scripted :=
  { source with available }

def panicNext (source : Scripted) : Scripted :=
  { source with pendingPanics := source.pendingPanics + 1 }

def opening (name : String) (source : Scripted) : Opening :=
  if !source.available then .refused ("resource \"" ++ name ++ "\" has not been bundled yet")
  else match source.resources.lookup name with
    | some stream => .stream stream
    | none =>
      if source.fallsBack then Bundled.opening name
      else .refused (name ++ " is not bundled")

instance : ResourceSource Scripted where
  openResource name source :=
    match source.pendingPanics with
    | pending + 1 => (.panicked, { source with pendingPanics := pending })
    | 0 => (source.opening name, source)

end Scripted

end TrustRoots
