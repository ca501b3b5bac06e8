import TrustRoots.KeyStore.Cursor
import TrustRoots.Proofs.KeyStoreForm

/-! What a successful reading says about the bytes behind the cursor. A reading is described by
the values that it can give and by the one form in which each of them is written: it succeeds
exactly when that form stands at the cursor, and then it moves past it. -/

namespace TrustRoots

/-- The bytes between two places of a cursor. -/
def Cursor.Passes (cursor : Cursor) (bytes : Bytes) (moved : Cursor) : Prop :=
  cursor.rest = bytes ++ moved.rest ∧ moved.offset = cursor.offset + bytes.length

namespace Cursor
variable {cursor moved : Cursor}

theorem passes_nil_iff : cursor.Passes [] moved ↔ moved = cursor := by
  cases cursor
  cases moved
  simp only [Passes, List.nil_append, List.length_nil, Nat.add_zero, Cursor.mk.injEq]
  constructor
  · intro ⟨rest, offset⟩
    exact ⟨offset, rest.symm⟩
  · intro ⟨offset, rest⟩
    exact ⟨rest.symm, offset⟩

theorem passes_append_iff {first last : Bytes} :
    cursor.Passes (first ++ last) moved ↔ ∃ place, cursor.Passes first place ∧ place.Passes last moved := by
  constructor
  · intro ⟨rest, offset⟩
    refine ⟨⟨cursor.offset + first.length, last ++ moved.rest⟩, ⟨?_, rfl⟩, rfl, ?_⟩
    · rw [rest, List.append_assoc]
    · rw [offset, List.length_append, Nat.add_assoc]
  · intro ⟨place, ⟨firstRest, firstOffset⟩, lastRest, lastOffset⟩
    refine ⟨?_, ?_⟩
    · rw [firstRest, lastRest, List.append_assoc]
    · rw [lastOffset, firstOffset, List.length_append, Nat.add_assoc]

theorem Passes.append {place : Cursor} {first last : Bytes} (front : cursor.Passes first place)
    (back : place.Passes last moved) : cursor.Passes (first ++ last) moved :=
  passes_append_iff.2 ⟨place, front, back⟩

end Cursor

namespace Reading

/-- The reading succeeds on the forms of the values that fit, and on nothing else. -/
def Reads (reading : Reading α) (fits : α → Prop) (form : α → Bytes) : Prop :=
  ∀ cursor value moved, reading cursor = (.ok value, moved) ↔ fits value ∧ cursor.Passes (form value) moved

theorem pure_ok_iff {value found : α} {cursor moved : Cursor} :
    (pure value : Reading α) cursor = (.ok found, moved) ↔ found = value ∧ moved = cursor := by
  rw [pure_apply, Prod.mk.injEq, Except.ok.injEq, eq_comm, eq_comm (a := cursor)]

theorem refuse_ne_ok {error : KeyStoreError} {found : α} {cursor moved : Cursor} :
    (refuse error : Reading α) cursor ≠ (.ok found, moved) := by
  intro same
  cases same

theorem bind_ok_iff {first : Reading α} {next : α → Reading β} {cursor moved : Cursor} {found : β} :
    (first >>= next) cursor = (.ok found, moved) ↔
      ∃ value place, first cursor = (.ok value, place) ∧ next value place = (.ok found, moved) := by
  constructor
  · intro done
    rcases read : first cursor with ⟨_ | value, place⟩
    · rw [bind_of_error read] at done
      cases done
    · rw [bind_of_ok read] at done
      exact ⟨value, place, rfl, done⟩
  · intro ⟨value, place, read, done⟩
    rw [bind_of_ok read, done]

/-- The first part of a sequence may be replaced by what it reads. -/
theorem Reads.bind_ok_iff {first : Reading α} {fits : α → Prop} {form : α → Bytes}
    (reads : first.Reads fits form) {next : α → Reading β} {cursor moved : Cursor} {found : β} :
    (first >>= next) cursor = (.ok found, moved) ↔
      ∃ value place, (fits value ∧ cursor.Passes (form value) place) ∧
        next value place = (.ok found, moved) := by
  simp only [Reading.bind_ok_iff, reads _ _ _]

theorem reads_take (length : Nat) : (take length).Reads (fun bytes => bytes.length = length) id := by
  intro cursor bytes moved
  obtain ⟨offset, rest⟩ := cursor
  obtain ⟨movedOffset, movedRest⟩ := moved
  simp only [Cursor.Passes, id_eq]
  constructor
  · intro read
    by_cases short : rest.length < length
    · rw [take_of_short short] at read
      cases read
    · have whole : (rest.take length).length = length := List.length_take_of_le (by omega)
      have taken := take_append (rest.take length) (rest.drop length) offset
      rw [List.take_append_drop, whole, read] at taken
      cases taken
      exact ⟨whole, (List.take_append_drop length rest).symm, by rw [whole]⟩
  · intro ⟨filled, bytesRest, bytesOffset⟩
    rw [bytesRest, bytesOffset, ← filled]
    exact take_append bytes movedRest offset

theorem reads_number (width : Nat) :
    (number width).Reads (fun value => value < BigEndian.bound width) (BigEndian.encode width) := by
  intro cursor value moved
  unfold number
  rw [(reads_take width).bind_ok_iff]
  constructor
  · intro ⟨bytes, place, ⟨filled, passed⟩, done⟩
    obtain ⟨rfl, rfl⟩ := pure_ok_iff.1 done
    refine ⟨BigEndian.decode_lt_bound filled, ?_⟩
    rw [BigEndian.encode_decode filled]
    exact passed
  · intro ⟨small, passed⟩
    refine ⟨_, moved, ⟨BigEndian.length_encode width value, passed⟩, ?_⟩
    rw [BigEndian.decode_encode small]
    exact pure_ok_iff.2 ⟨rfl, rfl⟩

theorem reads_text (index : Nat) :
    (text index).Reads (fun value => value.utf8ByteSize < BigEndian.bound 2) Form.text := by
  intro cursor value moved
  unfold text
  rw [(reads_number 2).bind_ok_iff]
  constructor
  · intro ⟨length, place, ⟨small, measured⟩, read⟩
    obtain ⟨bytes, last, ⟨filled, passed⟩, read⟩ := (reads_take length).bind_ok_iff.1 read
    cases decoded : Utf8.decode? bytes with
    | none =>
      rw [decoded] at read
      exact absurd read refuse_ne_ok
    | some text =>
      rw [decoded] at read
      obtain ⟨rfl, rfl⟩ := pure_ok_iff.1 read
      obtain rfl := Utf8.eq_encode_of_decode? decoded
      rw [← filled] at small measured
      exact ⟨small, measured.append passed⟩
  · intro ⟨small, passed⟩
    obtain ⟨place, measured, passed⟩ := Cursor.passes_append_iff.1 passed
    refine ⟨_, place, ⟨small, measured⟩, (reads_take _).bind_ok_iff.2
      ⟨Utf8.encode value, moved, ⟨rfl, passed⟩, ?_⟩⟩
    rw [Utf8.decode?_encode]
    exact pure_ok_iff.2 ⟨rfl, rfl⟩

theorem reads_blob : blob.Reads (fun value => value.length < BigEndian.bound 4) Form.blob := by
  intro cursor value moved
  unfold blob
  rw [(reads_number 4).bind_ok_iff]
  constructor
  · intro ⟨length, place, ⟨small, measured⟩, read⟩
    obtain ⟨rfl, passed⟩ := (reads_take length _ _ _).1 read
    exact ⟨small, measured.append passed⟩
  · intro ⟨small, passed⟩
    obtain ⟨place, measured, passed⟩ := Cursor.passes_append_iff.1 passed
    exact ⟨_, place, ⟨small, measured⟩, (reads_take _ _ _ _).2 ⟨rfl, passed⟩⟩

end Reading

end TrustRoots
