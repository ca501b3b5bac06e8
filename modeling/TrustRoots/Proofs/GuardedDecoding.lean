import TrustRoots.Proofs.ContainerEnds
import TrustRoots.Proofs.GuardedCalls

/-! Decoding on a machine. Whatever a decoder asks of its reader, in whatever order and after whatever
errors, the machine survives it. The decoder of key stores asks for nothing else, and its reader ends at a
place of the buffer, so that the bytes can be split there and their digest be looked at. -/

namespace TrustRoots

namespace Script
variable {size : Nat} {before : Buffer}

def Survives (size : Nat) : Script α → Buffer → Prop
  | done _, _ => True
  | ask call next, before => ∃ answer after, call.onBuffer size before = .ok (answer, after) ∧
      call.Sound size before answer after ∧ (next answer).Survives size after

theorem survives (script : Script α) (inside : before.Inside size) : script.Survives size before := by
  induction script generalizing before with
  | done result => trivial
  | ask call next ih =>
    obtain ⟨answer, after, read, sound⟩ := call.exists_sound inside
    exact ⟨answer, after, read, sound, ih answer (sound.ahead.inside inside)⟩

theorem follows (script : Script α) (inside : before.Inside size) :
    ∃ answer after, script.onBuffer size before = .ok (answer, after) ∧ before.Ahead after ∧
      (Word.Wide size → script.onCursor before.cursor = (answer, after.cursor)) := by
  induction script generalizing before with
  | done result => exact ⟨result, before, rfl, inside.refl, fun _ => rfl⟩
  | ask call next ih =>
    obtain ⟨answer, between, read, sound⟩ := call.exists_sound inside
    obtain ⟨result, after, run, ahead, same⟩ := ih answer (sound.ahead.inside inside)
    refine ⟨result, after, ?_, sound.ahead.trans ahead, ?_⟩
    · simp only [onBuffer, read]
      exact run
    · intro wide
      simp only [onCursor, sound.agrees wide]
      exact same wide

/-- One script and behind it, if it gives a value, another. -/
def followedBy : Script α → (α → Script β) → Script β
  | done (.ok value), next => next value
  | done (.error error), _ => done (.error error)
  | ask call rest, next => ask call fun answer => (rest answer).followedBy next

theorem onCursor_followedBy (first : Script α) (next : α → Script β) :
    (first.followedBy next).onCursor = (first.onCursor >>= fun value => (next value).onCursor) := by
  funext cursor
  induction first generalizing cursor with
  | done result => cases result <;> rfl
  | ask call rest ih => exact ih _ _

end Script

namespace Reading

/-- The reading does nothing but ask, like a script. -/
def Scripted (reading : Reading α) : Prop :=
  ∃ script : Script α, script.onCursor = reading

private theorem scripted_pure (value : α) : (pure value : Reading α).Scripted :=
  ⟨.done (.ok value), rfl⟩

private theorem scripted_refuse (error : KeyStoreError) : (refuse error : Reading α).Scripted :=
  ⟨.done (.error error), rfl⟩

private theorem scripted_call (call : Call α) : call.onCursor.Scripted :=
  ⟨.ask call .done, rfl⟩

theorem Scripted.bind {first : Reading α} {next : α → Reading β} (scripted : first.Scripted)
    (continues : ∀ value, (next value).Scripted) : (first >>= next).Scripted := by
  obtain ⟨script, rfl⟩ := scripted
  -- The continuation needs a script for every value at once.
  refine ⟨script.followedBy fun value => Classical.choose (continues value), ?_⟩
  rw [Script.onCursor_followedBy]
  exact congrArg _ (funext fun value => Classical.choose_spec (continues value))

section Container
variable (version : FormatVersion) (name : String) (index : Nat) (createdMillis : UInt64)

private theorem scripted_number (width : Nat) : (number width).Scripted :=
  scripted_call (.number width)

private theorem scripted_text : (text index).Scripted :=
  scripted_call (.text index)

private theorem scripted_blob : blob.Scripted :=
  scripted_call .blob

private theorem scripted_certificate : (certificate version name index).Scripted := by
  cases version with
  | v1 => exact scripted_blob
  | v2 =>
    refine (scripted_text index).bind fun certificateType => ?_
    split
    · exact scripted_blob
    · exact scripted_refuse _

private theorem scripted_certificates (count : Nat) : (certificates version name index count).Scripted := by
  induction count with
  | zero => exact scripted_pure []
  | succ count ih =>
    exact (scripted_certificate version name index).bind fun _ => ih.bind fun _ => scripted_pure _

private theorem scripted_entryBody (tag : Nat) : (entryBody id version index tag).Scripted := by
  refine (scripted_text index).bind fun name => (scripted_number 8).bind fun millis => ?_
  split
  · exact (scripted_certificate version name index).bind fun _ => scripted_pure _
  · exact scripted_blob.bind fun _ => (scripted_number 4).bind fun count =>
      (scripted_certificates version name index count).bind fun _ => scripted_pure _

private theorem scripted_entry : (entry id version index).Scripted := by
  refine (scripted_number 4).bind fun tag => ?_
  split
  · exact scripted_entryBody version index tag
  · exact scripted_refuse _

private theorem scripted_entries (count : Nat) (seen : List String) :
    (entries id version count index seen).Scripted := by
  induction count generalizing index seen with
  | zero => exact scripted_pure []
  | succ count ih =>
    refine (scripted_entry version index).bind fun read => ?_
    split
    · exact scripted_refuse _
    · exact (ih (index + 1) _).bind fun _ => scripted_pure _

private theorem scripted_formatVersion : formatVersion.Scripted := by
  refine (scripted_number 4).bind fun declared => ?_
  cases FormatVersion.ofNumber declared with
  | ok version => exact scripted_pure version
  | error error => exact scripted_refuse error

theorem scripted_keyStore : (keyStore id).Scripted := by
  refine (scripted_number 4).bind fun magic => ?_
  split
  · exact scripted_formatVersion.bind fun version => (scripted_number 4).bind fun count =>
      (scripted_entries version 0 count []).bind fun _ => scripted_pure _
  · exact scripted_refuse _

end Container

end Reading

/-- Where the bytes can be split, the lengths that are subtracted have been compared before. -/
theorem Seal.guardedDefect?_of_within {bytes : Bytes} {bodyLength : Nat} (token : String)
    (within : bodyLength ≤ bytes.length) :
    guardedDefect? token bytes bodyLength = .ok (defect? token (bytes.take bodyLength) (bytes.drop bodyLength)) := by
  have split : splitBytes bytes bodyLength = .ok (bytes.take bodyLength, bytes.drop bodyLength) := if_pos within
  have whole : (bytes.take bodyLength).length = bodyLength := List.length_take_of_le within
  simp only [guardedDefect?, defect?, split, whole, Fault.ok_bind]
  by_cases short : (bytes.drop bodyLength).length < length
  · simp only [if_pos short, Word.difference, if_pos (Nat.le_of_lt short), Fault.ok_bind]
    rfl
  · by_cases long : length < (bytes.drop bodyLength).length
    · simp only [if_neg short, if_pos long, Word.difference, if_pos (Nat.le_of_lt long), Fault.ok_bind]
      rfl
    · simp only [if_neg short, if_neg long]
      exact (apply_ite Except.ok _ _ _).symm

namespace KeyStore
variable {size : Nat} {bytes : Bytes}

/-- Whatever the script is, the digest is looked for at a place of the buffer. -/
theorem exists_decoded (sized : bytes.length < size) (script : Script KeyStore) (token : String) :
    ∃ result, script.decode size bytes token = .ok result ∧
      (Word.Wide size → script.onCursor = Reading.keyStore id → result = decode bytes token) := by
  have inside : Buffer.Inside size ⟨bytes, 0⟩ := ⟨sized, Nat.zero_le _⟩
  obtain ⟨answer, ⟨buffered, place⟩, run, ahead, same⟩ := script.follows inside
  obtain rfl : buffered = bytes := ahead.bytes
  have within : place ≤ buffered.length := ahead.within
  cases answer with
  | error error =>
    refine ⟨.error error, ?_, fun wide decodes => (decode_of_refused (decodes ▸ same wide) token).symm⟩
    simp only [Script.decode, run, Fault.ok_bind]
    rfl
  | ok store =>
    refine ⟨(Seal.defect? token (buffered.take place) (buffered.drop place)).elim (.ok store) .error, ?_, ?_⟩
    · simp only [Script.decode, run, Seal.guardedDefect?_of_within token within, Fault.ok_bind]
      cases Seal.defect? token (buffered.take place) (buffered.drop place) <;> rfl
    · intro wide decodes
      exact (decode_of_read (decodes ▸ same wide) token).symm

/-- A reader stays within its buffer, whatever it is asked for: a sum is a word, a cut is within the bytes, a
read of fixed width that fails moves nothing, and what is read is what the place has moved over. So the bytes
can be split where a decoder ends, and the decoder of key stores gives on the machine what `decode` gives. The
bytes are as many as some word, as all bytes in a memory are. -/
theorem reads_stay_in_the_buffer (sized : bytes.length < size) :
    (∀ (α : Type) (script : Script α), script.Survives size ⟨bytes, 0⟩) ∧
    (∃ script : Script KeyStore, script.onCursor = Reading.keyStore id) ∧
    ∀ (script : Script KeyStore) (token : String), ∃ result, script.decode size bytes token = .ok result ∧
      (Word.Wide size → script.onCursor = Reading.keyStore id → result = decode bytes token) :=
  ⟨fun _ script => script.survives ⟨sized, Nat.zero_le _⟩, Reading.scripted_keyStore, exists_decoded sized⟩

/-- Goes on after a text that fails behind its length, and after the greatest word of a small machine. -/
def stubborn : Script Bytes :=
  .ask (.text 0) fun _ => .ask (.take 255) fun _ => .ask (.take 2) .done

theorem reads_stay_in_the_buffer_stubborn :
    stubborn.Survives 256 ⟨[0, 3, 0x6f, 0x6b], 0⟩ ∧
    stubborn.onBuffer 256 ⟨[0, 3, 0x6f, 0x6b], 0⟩ = .ok (.ok [0x6f, 0x6b], ⟨[0, 3, 0x6f, 0x6b], 4⟩) ∧
    ∃ script : Script KeyStore, script.onCursor = Reading.keyStore id ∧
      script.decode UInt64.size smallContainer "t" = .ok (.ok smallStore) := by
  have few : ([0, 3, 0x6f, 0x6b] : Bytes).length < 256 := by decide
  have sized : smallContainer.length < UInt64.size := by decide
  have wide : Word.Wide UInt64.size := (by decide : BigEndian.bound 4 ≤ UInt64.size)
  obtain ⟨survives, _⟩ := reads_stay_in_the_buffer few
  obtain ⟨_, ⟨script, decodes⟩, total⟩ := reads_stay_in_the_buffer sized
  obtain ⟨result, run, same⟩ := total script "t"
  refine ⟨survives Bytes stubborn, rfl, script, decodes, ?_⟩
  rw [run, same wide decodes, decode_smallContainer]

end KeyStore

end TrustRoots
