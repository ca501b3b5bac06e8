import TrustRoots.KeyStore.Stream

/-! Where named resources come from. Opening one may change the source, and it may panic. -/

namespace TrustRoots

inductive Opening where
  | stream (stream : Stream)
  | refused (reason : String)
  | panicked

class ResourceSource (σ : Type) where
  openResource : String → σ → Opening × σ

/-- A source with the names that have been opened through it, in order. -/
structure Watched (σ : Type) where
  source : σ
  opened : List String := []

instance [ResourceSource σ] : ResourceSource (Watched σ) where
  openResource name watched :=
    let (opening, source) := ResourceSource.openResource name watched.source
    (opening, { source, opened := watched.opened ++ [name] })

end TrustRoots
