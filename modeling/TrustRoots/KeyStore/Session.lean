import TrustRoots.KeyStore.Stream

/-! A working key store beside a saved copy, driven step by step. -/

namespace TrustRoots.KeyStore

structure Desk where
  current : KeyStore := .empty
  saved : KeyStore := .empty

inductive DeskStep where
  | load (stream : Stream) (token : String)
  | clear
  | save
  | equalsSaved
  | get (name : String)

inductive DeskResult where
  | done
  | refused (error : KeyStoreError)
  | answer (value : Bool)
  | found (entry : Option Entry)

namespace Desk

def step (desk : Desk) : DeskStep → Logged (DeskResult × Desk)
  | .load stream token => do
    match ← desk.current.load stream token with
    | (.error error, current) => return (.refused error, { desk with current })
    | (.ok (), current) => return (.done, { desk with current })
  | .clear => return (.done, { desk with current := .empty })
  | .save => return (.done, { desk with saved := desk.current })
  | .equalsSaved => return (.answer (desk.current = desk.saved), desk)
  | .get name => return (.found (desk.current.get? name), desk)

structure Observation where
  result : DeskResult
  store : KeyStore
  events : List Event

def observe (desk : Desk) : List DeskStep → List Observation
  | [] => []
  | next :: rest =>
    let after := desk.step next
    ⟨after.value.1, after.value.2.current, after.events⟩ :: observe after.value.2 rest

end Desk

end TrustRoots.KeyStore
