import TrustRoots.KeyStore.Decode

/-! What a reading of some bytes tells about a reading of more. A value or a defect stays what it
is, whatever follows the bytes. A reading that has run short says how many bytes it misses: with
fewer than these it misses the others, and with as many it gets beyond the bytes that it had. -/

namespace TrustRoots

namespace Cursor
variable {cursor place moved : Cursor}

/-- The place behind the last byte. -/
def limit (cursor : Cursor) : Nat :=
  cursor.offset + cursor.rest.length

/-- The cursor with more bytes behind those that it has. -/
def extend (cursor : Cursor) (more : Bytes) : Cursor :=
  ⟨cursor.offset, cursor.rest ++ more⟩

structure Onward (cursor moved : Cursor) : Prop where
  forward : cursor.offset ≤ moved.offset
  within : moved.limit = cursor.limit

theorem Onward.refl (cursor : Cursor) : cursor.Onward cursor :=
  ⟨Nat.le_refl _, rfl⟩

theorem Onward.trans (first : cursor.Onward place) (last : place.Onward moved) : cursor.Onward moved :=
  ⟨Nat.le_trans first.forward last.forward, last.within.trans first.within⟩

end Cursor

/-- The defects that the bytes of a container can show. A reading finds no others, unless it runs
out of bytes. -/
def KeyStoreError.Structural : KeyStoreError → Prop
  | badMagic _ | unsupportedVersion _ | unknownEntryTag _ _ | invalidString _ | duplicateAlias _
  | unsupportedCertificateType _ _ => True
  | truncated _ _ | integrityCheckFailed | trailingBytes _ | unreadable _ => False

namespace Reading

/-- From the end of a reading: what becomes of it if more bytes follow. -/
inductive Foretells (more : Bytes) :
    Except KeyStoreError α × Cursor → Except KeyStoreError α × Cursor → Prop where
  | settled {result : Except KeyStoreError α} {moved : Cursor}
      (final : ∀ offset needed, result ≠ .error (.truncated offset needed)) :
      Foretells more (result, moved) (result, moved.extend more)
  | short {offset needed : Nat} {moved : Cursor} (few : more.length < needed) :
      Foretells more (.error (.truncated offset needed), moved)
        (.error (.truncated offset (needed - more.length)), moved.extend more)
  | fed {offset needed : Nat} {moved : Cursor} {longer : Except KeyStoreError α × Cursor}
      (enough : needed ≤ more.length) (beyond : moved.limit + needed ≤ longer.2.offset) :
      Foretells more (.error (.truncated offset needed), moved) longer

structure Steady (reading : Reading α) : Prop where
  onward : ∀ cursor : Cursor, cursor.Onward (reading cursor).2
  ends : ∀ (cursor : Cursor) (error : KeyStoreError) (moved : Cursor), reading cursor = (.error error, moved) →
    error.Structural ∨ ∃ needed, 0 < needed ∧ error = .truncated moved.offset needed
  foretells : ∀ (cursor : Cursor) (more : Bytes), Foretells more (reading cursor) (reading (cursor.extend more))

theorem steady_pure (value : α) : (pure value : Reading α).Steady := by
  refine ⟨Cursor.Onward.refl, ?_, fun cursor more => .settled nofun⟩
  intro cursor error moved failed
  cases failed

theorem steady_refuse {error : KeyStoreError} (structural : error.Structural) :
    (refuse error : Reading α).Steady := by
  refine ⟨Cursor.Onward.refl, ?_, ?_⟩
  · intro cursor found moved failed
    cases failed
    exact .inl structural
  · intro cursor more
    refine .settled ?_
    rintro offset needed same
    cases same
    exact structural

theorem take_of_enough {length : Nat} {cursor : Cursor} (enough : length ≤ cursor.rest.length) :
    take length cursor = (.ok (cursor.rest.take length), ⟨cursor.offset + length, cursor.rest.drop length⟩) := by
  have taken := take_append (cursor.rest.take length) (cursor.rest.drop length) cursor.offset
  rwa [List.take_append_drop, List.length_take_of_le enough] at taken

theorem steady_take (length : Nat) : (take length).Steady := by
  refine ⟨?_, ?_, ?_⟩
  · intro cursor
    rcases Nat.lt_or_ge cursor.rest.length length with short | enough
    · rw [take_of_short short]
      exact Cursor.Onward.refl cursor
    · rw [take_of_enough enough]
      refine ⟨Nat.le_add_right _ _, ?_⟩
      simp only [Cursor.limit, List.length_drop]
      omega
  · intro cursor error moved failed
    rcases Nat.lt_or_ge cursor.rest.length length with short | enough
    · rw [take_of_short short] at failed
      cases failed
      exact .inr ⟨_, Nat.sub_pos_of_lt short, rfl⟩
    · rw [take_of_enough enough] at failed
      cases failed
  · intro cursor more
    have grown : (cursor.extend more).rest.length = cursor.rest.length + more.length := List.length_append
    rcases Nat.lt_or_ge cursor.rest.length length with short | enough
    · rw [take_of_short short]
      rcases Nat.lt_or_ge (cursor.extend more).rest.length length with stillShort | fed
      · rw [take_of_short stillShort, grown, ← Nat.sub_sub]
        exact .short (by omega)
      · rw [take_of_enough fed]
        refine .fed (by omega) ?_
        simp only [Cursor.limit, Cursor.extend]
        omega
    · rw [take_of_enough enough, take_of_enough (by omega)]
      simp only [Cursor.extend, List.take_append_of_le_length enough, List.drop_append_of_le_length enough]
      exact .settled nofun

/-- What follows a value starts from equal places in both readings, so the longer one of them gets
no less far. -/
theorem Steady.bind {first : Reading α} {next : α → Reading β} (steady : first.Steady)
    (continues : ∀ value, (next value).Steady) : (first >>= next).Steady := by
  refine ⟨?_, ?_, ?_⟩
  · intro cursor
    have onward := steady.onward cursor
    rcases read : first cursor with ⟨_ | value, place⟩
    · rw [bind_of_error read]
      rwa [read] at onward
    · rw [bind_of_ok read]
      rw [read] at onward
      exact onward.trans ((continues value).onward place)
  · intro cursor error moved failed
    rcases read : first cursor with ⟨found | value, place⟩
    · rw [bind_of_error read] at failed
      cases failed
      exact steady.ends _ _ _ read
    · rw [bind_of_ok read] at failed
      exact (continues value).ends _ _ _ failed
  · intro cursor more
    have told := steady.foretells cursor more
    generalize read : first cursor = shorter at told
    generalize reread : first (cursor.extend more) = longer at told
    cases told with
    | @settled result moved final =>
      cases result with
      | error error =>
        rw [bind_of_error read, bind_of_error reread]
        exact .settled fun offset needed same => final offset needed (congrArg _ (Except.error.inj same))
      | ok value =>
        rw [bind_of_ok read, bind_of_ok reread]
        exact (continues value).foretells moved more
    | short few =>
      rw [bind_of_error read, bind_of_error reread]
      exact .short few
    | fed enough beyond =>
      rw [bind_of_error read]
      refine .fed enough ?_
      rcases longer with ⟨_ | value, place⟩
      · rw [bind_of_error reread]
        exact beyond
      · rw [bind_of_ok reread]
        exact Nat.le_trans beyond ((continues value).onward place).forward

theorem steady_number (width : Nat) : (number width).Steady :=
  (steady_take width).bind fun _ => steady_pure _

theorem steady_text (index : Nat) : (text index).Steady := by
  refine (steady_number 2).bind fun length => (steady_take length).bind fun bytes => ?_
  cases Utf8.decode? bytes with
  | none => exact steady_refuse trivial
  | some text => exact steady_pure text

theorem steady_blob : blob.Steady :=
  (steady_number 4).bind steady_take

section Container
variable (rounds : Nat → Nat) (version : FormatVersion) (name : String) (index : Nat) (createdMillis : UInt64)

theorem steady_certificate : (certificate version name index).Steady := by
  cases version with
  | v1 => exact steady_blob
  | v2 =>
    refine (steady_text index).bind fun certificateType => ?_
    split
    · exact steady_blob
    · exact steady_refuse trivial

theorem steady_certificates (count : Nat) : (certificates version name index count).Steady := by
  induction count with
  | zero => exact steady_pure []
  | succ count ih =>
    exact (steady_certificate version name index).bind fun _ => ih.bind fun _ => steady_pure _

private theorem steady_trusted : (trusted version index name createdMillis).Steady :=
  (steady_certificate version name index).bind fun _ => steady_pure _

private theorem steady_privateKey : (privateKey rounds version index name createdMillis).Steady :=
  steady_blob.bind fun _ => (steady_number 4).bind fun count =>
    (steady_certificates version name index (rounds count)).bind fun _ => steady_pure _

private theorem steady_entryBody (tag : Nat) : (entryBody rounds version index tag).Steady := by
  refine (steady_text index).bind fun name => (steady_number 8).bind fun millis => ?_
  split
  · exact steady_trusted version name index _
  · exact steady_privateKey rounds version name index _

theorem steady_entry : (entry rounds version index).Steady := by
  refine (steady_number 4).bind fun tag => ?_
  split
  · exact steady_entryBody rounds version index tag
  · exact steady_refuse trivial

theorem steady_entries (count : Nat) (seen : List String) : (entries rounds version count index seen).Steady := by
  induction count generalizing index seen with
  | zero => exact steady_pure []
  | succ count ih =>
    refine (steady_entry rounds version index).bind fun read => ?_
    split
    · exact steady_refuse trivial
    · exact (ih (index + 1) (read.name :: seen)).bind fun _ => steady_pure _

theorem steady_formatVersion : formatVersion.Steady := by
  refine (steady_number 4).bind fun declared => ?_
  unfold FormatVersion.ofNumber
  split
  next version accepted => exact steady_pure version
  next error refused =>
    split at refused <;> cases refused
    exact steady_refuse trivial

theorem steady_keyStore : (keyStore rounds).Steady := by
  refine (steady_number 4).bind fun magic => ?_
  split
  · exact steady_formatVersion.bind fun version => (steady_number 4).bind fun count =>
      (steady_entries rounds version 0 (rounds count) []).bind fun _ => steady_pure _
  · exact steady_refuse trivial

end Container

end Reading

end TrustRoots
