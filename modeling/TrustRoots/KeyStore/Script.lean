import TrustRoots.KeyStore.Decode
import TrustRoots.KeyStore.Guarded

/-! Decoders as scripts of what they ask of their reader. A script may go on after an error, and what it
asks next may depend on all answers before. It is run on a cursor or on a buffer of the machine. -/

namespace TrustRoots

inductive Call : Type → Type where
  | take (length : Nat) : Call Bytes
  | number (width : Nat) : Call Nat
  | text (index : Nat) : Call String
  | blob : Call Bytes

namespace Call

def onCursor : Call α → Reading α
  | take length => Reading.take length
  | number width => Reading.number width
  | text index => Reading.text index
  | blob => Reading.blob

/-- The size is the number of words that the machine has. -/
def onBuffer (size : Nat) : Call α → Guarded α
  | take length => Guarded.take size length
  | number width => Guarded.number size width
  | text index => Guarded.text size index
  | blob => Guarded.blob size

end Call

inductive Script (α : Type) : Type 1 where
  | done (result : Except KeyStoreError α)
  | ask {β : Type} (call : Call β) (next : Except KeyStoreError β → Script α)

namespace Script

def onCursor : Script α → Reading α
  | done result, cursor => (result, cursor)
  | ask call next, cursor =>
    let (answer, moved) := call.onCursor cursor
    (next answer).onCursor moved

def onBuffer (size : Nat) : Script α → Guarded α
  | done result, buffer => .ok (result, buffer)
  | ask call next, buffer => do
    let (answer, moved) ← call.onBuffer size buffer
    (next answer).onBuffer size moved

/-- Decodes a whole container on a machine, by a script for all but the digest. -/
def decode (size : Nat) (script : Script KeyStore) (bytes : Bytes) (token : String) :
    Except Fault (Except KeyStoreError KeyStore) := do
  match ← script.onBuffer size ⟨bytes, 0⟩ with
  | (.error error, _) => return .error error
  | (.ok store, buffer) =>
    match ← Seal.guardedDefect? token bytes buffer.offset with
    | some error => return .error error
    | none => return .ok store

end Script

end TrustRoots
