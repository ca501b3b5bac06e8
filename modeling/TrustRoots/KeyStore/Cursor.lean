import TrustRoots.KeyStore.Error
import TrustRoots.Text.Utf8

/-! A cursor over the bytes of a key store, and the reads that move it. A read that fails
leaves the cursor where that read began; the reads before it stay done. -/

namespace TrustRoots

structure Cursor where
  offset : Nat
  rest : Bytes

/-- A step of decoding: it gives a value or a cause, and says where the cursor is then. -/
def Reading (α : Type) : Type :=
  Cursor → Except KeyStoreError α × Cursor

namespace Reading

instance : Monad Reading where
  pure value := fun cursor => (.ok value, cursor)
  bind first next := fun cursor =>
    match first cursor with
    | (.ok value, moved) => next value moved
    | (.error error, moved) => (.error error, moved)

def refuse (error : KeyStoreError) : Reading α :=
  fun cursor => (.error error, cursor)

def take (length : Nat) : Reading Bytes := fun cursor =>
  let taken := cursor.rest.take length
  if taken.length < length then
    (.error (.truncated cursor.offset (length - taken.length)), cursor)
  else
    (.ok taken, ⟨cursor.offset + length, cursor.rest.drop length⟩)

def number (width : Nat) : Reading Nat := do
  let bytes ← take width
  return BigEndian.decode bytes

/-- UTF-8 text behind its length in two bytes. The index is that of the entry being read. -/
def text (index : Nat) : Reading String := do
  let length ← number 2
  let bytes ← take length
  match Utf8.decode? bytes with
  | some text => return text
  | none => refuse (.invalidString index)

/-- Bytes behind their length in four bytes. -/
def blob : Reading Bytes := do
  let length ← number 4
  take length

theorem pure_apply (value : α) (cursor : Cursor) :
    (pure value : Reading α) cursor = (.ok value, cursor) := rfl

theorem bind_of_ok {first : Reading α} {next : α → Reading β} {cursor moved : Cursor} {value : α}
    (read : first cursor = (.ok value, moved)) : (first >>= next) cursor = next value moved := by
  simp only [bind, read]

theorem bind_of_error {first : Reading α} {next : α → Reading β} {cursor moved : Cursor}
    {error : KeyStoreError} (failed : first cursor = (.error error, moved)) :
    (first >>= next) cursor = (.error error, moved) := by
  simp only [bind, failed]

theorem take_append (front rest : Bytes) (offset : Nat) :
    take front.length ⟨offset, front ++ rest⟩ = (.ok front, ⟨offset + front.length, rest⟩) := by
  simp [take]

theorem take_of_short {length : Nat} {cursor : Cursor} (short : cursor.rest.length < length) :
    take length cursor = (.error (.truncated cursor.offset (length - cursor.rest.length)), cursor) := by
  have whole : cursor.rest.take length = cursor.rest := List.take_of_length_le (by omega)
  simp [take, whole, short]

end Reading

end TrustRoots
