import TrustRoots.KeyStore.Script
import TrustRoots.Proofs.CursorReads
import TrustRoots.Proofs.LongerInput

/-! What a reader does on a machine. Its place never leaves the buffer, so that all sums are words, all
differences are numbers and all cuts lie within the bytes. What it gives is what a cursor gives that
knows of no machine. -/

namespace TrustRoots

/-- Every length that a container can declare is a word. -/
def Word.Wide (size : Nat) : Prop :=
  BigEndian.bound 4 ≤ size

namespace Buffer
variable {size : Nat} {before between after : Buffer}

def cursor (buffer : Buffer) : Cursor :=
  ⟨buffer.offset, buffer.bytes.drop buffer.offset⟩

def remaining (buffer : Buffer) : Nat :=
  buffer.bytes.length - buffer.offset

def coming (buffer : Buffer) (length : Nat) : Bytes :=
  (buffer.bytes.drop buffer.offset).take length

def skip (buffer : Buffer) (length : Nat) : Buffer :=
  { buffer with offset := buffer.offset + length }

def upTo (before after : Buffer) : Bytes :=
  (before.bytes.take after.offset).drop before.offset

/-- The number of the bytes is a word, and the place is not beyond them. -/
structure Inside (size : Nat) (buffer : Buffer) : Prop where
  sized : buffer.bytes.length < size
  within : buffer.offset ≤ buffer.bytes.length

/-- The place has moved over bytes of the same buffer, if at all. -/
structure Ahead (before after : Buffer) : Prop where
  bytes : after.bytes = before.bytes
  forward : before.offset ≤ after.offset
  within : after.offset ≤ after.bytes.length

theorem Inside.refl (inside : before.Inside size) : before.Ahead before :=
  ⟨rfl, Nat.le_refl _, inside.within⟩

theorem Ahead.trans (first : before.Ahead between) (last : between.Ahead after) : before.Ahead after :=
  ⟨last.bytes.trans first.bytes, Nat.le_trans first.forward last.forward, last.within⟩

theorem Ahead.inside (ahead : before.Ahead after) (inside : before.Inside size) : after.Inside size :=
  ⟨by rw [ahead.bytes]; exact inside.sized, ahead.within⟩

private theorem Inside.skip (inside : before.Inside size) {length : Nat} (enough : length ≤ before.remaining) :
    before.Ahead (before.skip length) := by
  refine ⟨rfl, Nat.le_add_right _ _, ?_⟩
  have within := inside.within
  change before.offset + length ≤ before.bytes.length
  unfold remaining at enough
  omega

private theorem length_rest_cursor (buffer : Buffer) : buffer.cursor.rest.length = buffer.remaining :=
  List.length_drop

private theorem length_coming {length : Nat} (enough : length ≤ before.remaining) :
    (before.coming length).length = length :=
  List.length_take_of_le (before.length_rest_cursor ▸ enough)

/-- A length that remains leads to a word, and to a place up to which the bytes can be cut. -/
theorem Inside.room (inside : before.Inside size) {length : Nat} (enough : length ≤ before.remaining) :
    before.offset + length < size ∧
    cut? before.bytes before.offset (before.offset + length) = some (before.coming length) := by
  obtain ⟨sized, within⟩ := inside
  unfold remaining at enough
  refine ⟨by omega, ?_⟩
  rw [cut?, if_pos (by omega), List.drop_take, Nat.add_sub_cancel_left]
  rfl

private theorem upTo_of_passes {passed : Bytes} (passes : before.cursor.Passes passed after.cursor) :
    before.upTo after = passed := by
  obtain ⟨rest, offset⟩ := passes
  simp only [cursor] at rest offset
  rw [upTo, List.drop_take, rest, offset, Nat.add_sub_cancel_left]
  exact List.take_left

end Buffer

namespace Guarded
variable {size length width : Nat} {before after : Buffer} {first : Guarded α} {next : α → Guarded β} {value : α}

theorem bind_of_ok (read : first before = .ok (.ok value, after)) : (first >>= next) before = next value after := by
  simp only [bind, read]

theorem bind_of_error {error : KeyStoreError} (failed : first before = .ok (.error error, after)) :
    (first >>= next) before = .ok (.error error, after) := by
  simp only [bind, failed]

theorem take_of_short (short : before.remaining < length) :
    take size length before = .ok (.error (.truncated before.offset (length - before.remaining)), before) := by
  unfold Buffer.remaining at short
  simp only [take, if_pos short, Word.difference, if_pos (Nat.le_of_lt short), Fault.ok_bind]
  rfl

theorem take_of_enough (inside : before.Inside size) (enough : length ≤ before.remaining) :
    take size length before = .ok (.ok (before.coming length), before.skip length) := by
  obtain ⟨word, cut⟩ := inside.room enough
  unfold Buffer.remaining at enough
  simp only [take, if_neg (Nat.not_lt.2 enough), Word.sum, if_pos word, Fault.ok_bind, cut]
  rfl

/-- At a place beyond the bytes an empty read is not refused, and there is no cut for it. -/
example : take 8 0 ⟨[1], 3⟩ = .error (.fallback (.truncated 3 0)) := rfl

theorem take_cases (inside : before.Inside size) {answer : Except KeyStoreError Bytes}
    (read : take size length before = .ok (answer, after)) :
    before.remaining < length ∧ answer = .error (.truncated before.offset (length - before.remaining)) ∧
      after = before ∨
    length ≤ before.remaining ∧ answer = .ok (before.coming length) ∧ after = before.skip length := by
  rcases Nat.lt_or_ge before.remaining length with short | enough
  · cases (take_of_short short).symm.trans read
    exact .inl ⟨short, rfl, rfl⟩
  · cases (take_of_enough inside enough).symm.trans read
    exact .inr ⟨enough, rfl, rfl⟩

theorem number_cases (inside : before.Inside size) {answer : Except KeyStoreError Nat}
    (read : number size width before = .ok (answer, after)) :
    before.remaining < width ∧ answer = .error (.truncated before.offset (width - before.remaining)) ∧
      after = before ∨
    width ≤ before.remaining ∧ answer = .ok (BigEndian.decode (before.coming width)) ∧ after = before.skip width := by
  rcases Nat.lt_or_ge before.remaining width with short | enough
  · cases (bind_of_error (take_of_short short)).symm.trans read
    exact .inl ⟨short, rfl, rfl⟩
  · rw [number, bind_of_ok (take_of_enough inside enough), if_pos (Buffer.length_coming enough)] at read
    cases read
    exact .inr ⟨enough, rfl, rfl⟩

/-- At this place the machine survives the guarded reading, which goes ahead in the buffer. What it gives is
what the reading gives on the cursor there. Only an error may name another number, if not all lengths are
words. -/
def Follows (size : Nat) (guarded : Guarded α) (reading : Reading α) (before : Buffer) : Prop :=
  ∃ answer after, guarded before = .ok (answer, after) ∧ before.Ahead after ∧
    (Word.Wide size ∨ (∃ value, answer = .ok value) → reading before.cursor = (answer, after.cursor))

private theorem follows_pure (inside : before.Inside size) (value : α) :
    Follows size (pure value) (pure value) before :=
  ⟨.ok value, before, rfl, inside.refl, fun _ => rfl⟩

private theorem follows_refuse (inside : before.Inside size) (error : KeyStoreError) :
    Follows size (refuse error : Guarded α) (Reading.refuse error) before :=
  ⟨.error error, before, rfl, inside.refl, fun _ => rfl⟩

theorem Follows.bind {reading : Reading α} {rest : α → Reading β} (follows : Follows size first reading before)
    (behind : ∀ value after, first before = .ok (.ok value, after) → before.Ahead after →
      Follows size (next value) (rest value) after) : Follows size (first >>= next) (reading >>= rest) before := by
  obtain ⟨answer, between, read, ahead, same⟩ := follows
  cases answer with
  | error error =>
    refine ⟨.error error, between, bind_of_error read, ahead, ?_⟩
    intro known
    exact Reading.bind_of_error (same (known.imp_right fun ⟨_, given⟩ => nomatch given))
  | ok value =>
    obtain ⟨answer, after, readNext, aheadNext, sameNext⟩ := behind value between read ahead
    refine ⟨answer, after, (bind_of_ok read).trans readNext, ahead.trans aheadNext, ?_⟩
    intro known
    exact (Reading.bind_of_ok (same (.inr ⟨value, rfl⟩))).trans (sameNext known)

private theorem follows_take (inside : before.Inside size) (length : Nat) :
    Follows size (take size length) (Reading.take length) before := by
  have few := before.length_rest_cursor
  rcases Nat.lt_or_ge before.remaining length with short | enough
  · refine ⟨_, _, take_of_short short, inside.refl, fun _ => ?_⟩
    exact (Reading.take_of_short (by omega)).trans (by rw [few]; rfl)
  · refine ⟨_, _, take_of_enough inside enough, inside.skip enough, fun _ => ?_⟩
    rw [Reading.take_of_enough (by omega)]
    simp only [Buffer.cursor, Buffer.coming, Buffer.skip, List.drop_drop]

private theorem follows_number (inside : before.Inside size) (width : Nat) :
    Follows size (number size width) (Reading.number width) before := by
  refine (follows_take inside width).bind fun taken after read ahead => ?_
  have copied : taken.length = width := by
    obtain ⟨_, given, _⟩ | ⟨enough, given, _⟩ := take_cases inside read
    · cases given
    · cases given
      exact Buffer.length_coming enough
  rw [if_pos copied]
  exact follows_pure (ahead.inside inside) _

private theorem follows_text (inside : before.Inside size) (index : Nat) :
    Follows size (text size index) (Reading.text index) before := by
  refine (follows_number inside 2).bind fun length between _ measured => ?_
  have insideBetween := measured.inside inside
  refine (follows_take insideBetween length).bind fun bytes after _ ahead => ?_
  have insideAfter := ahead.inside insideBetween
  cases Utf8.decode? bytes with
  | none => exact follows_refuse insideAfter _
  | some text => exact follows_pure insideAfter text

/-- Behind its own four bytes a length that is no word is more than what remains, and so is the greatest word. -/
private theorem follows_blob (inside : before.Inside size) : Follows size (blob size) Reading.blob before := by
  refine (follows_number inside 4).bind fun length after read ahead => ?_
  have insideAfter := ahead.inside inside
  -- The length is no word only if the machine is narrow.
  by_cases word : length < size
  · rw [Word.saturated, if_pos word]
    exact follows_take insideAfter length
  · obtain ⟨_, given, _⟩ | ⟨enough, given, rfl⟩ := number_cases inside read
    · cases given
    · cases given
      have short : (before.skip 4).remaining < size - 1 := by
        have sized := inside.sized
        unfold Buffer.remaining Buffer.skip at *
        dsimp only
        omega
      rw [Word.saturated, if_neg word]
      refine ⟨_, _, take_of_short short, insideAfter.refl, ?_⟩
      rintro (wide | ⟨_, given⟩)
      · have small := BigEndian.decode_lt_bound (Buffer.length_coming enough)
        exact absurd (Nat.lt_of_lt_of_le small wide) word
      · cases given

end Guarded

namespace Call

/-- A call that moves over all that it asks for or not at all. -/
def IsFixed : Call α → Prop
  | take _ | number _ => True
  | text _ | blob => False

/-- How what a call gives is written. -/
def form : Call α → α → Bytes
  | take _ => id
  | number width => BigEndian.encode width
  | text _ => Form.text
  | blob => Form.blob

/-- A call at a place of the buffer: what there is room for before it, where it leads and what it gives. -/
structure Sound (size : Nat) (call : Call α) (before : Buffer) (answer : Except KeyStoreError α) (after : Buffer) :
    Prop where
  room : ∀ length ≤ before.remaining, before.offset + length < size ∧
    cut? before.bytes before.offset (before.offset + length) = some (before.coming length)
  ahead : before.Ahead after
  unmoved : call.IsFixed → ∀ error, answer = .error error → after = before
  exactly : ∀ value, answer = .ok value → before.upTo after = call.form value
  agrees : Word.Wide size → call.onCursor before.cursor = (answer, after.cursor)

variable {size : Nat} {before after : Buffer} {value : α}

private theorem passes_of_ok {call : Call α} {cursor moved : Cursor}
    (read : call.onCursor cursor = (.ok value, moved)) :
    cursor.Passes (call.form value) moved := by
  cases call with
  | take length => exact ((Reading.reads_take length ..).1 read).2
  | number width => exact ((Reading.reads_number width ..).1 read).2
  | text index => exact ((Reading.reads_text index ..).1 read).2
  | blob => exact ((Reading.reads_blob ..).1 read).2

theorem follows (call : Call α) (inside : before.Inside size) :
    Guarded.Follows size (call.onBuffer size) call.onCursor before := by
  cases call with
  | take length => exact Guarded.follows_take inside length
  | number width => exact Guarded.follows_number inside width
  | text index => exact Guarded.follows_text inside index
  | blob => exact Guarded.follows_blob inside

private theorem unmoved_of_error {call : Call α} (inside : before.Inside size) (fixed : call.IsFixed)
    {error : KeyStoreError}
    (failed : call.onBuffer size before = .ok (.error error, after)) : after = before := by
  cases call with
  | take length =>
    obtain ⟨_, _, unmoved⟩ | ⟨_, given, _⟩ := Guarded.take_cases inside failed
    · exact unmoved
    · cases given
  | number width =>
    obtain ⟨_, _, unmoved⟩ | ⟨_, given, _⟩ := Guarded.number_cases inside failed
    · exact unmoved
    · cases given
  | text | blob => cases fixed

theorem exists_sound (call : Call α) (inside : before.Inside size) :
    ∃ answer after, call.onBuffer size before = .ok (answer, after) ∧ call.Sound size before answer after := by
  obtain ⟨answer, after, read, ahead, same⟩ := call.follows inside
  refine ⟨answer, after, read, fun _ => inside.room, ahead, ?_, ?_, fun wide => same (.inl wide)⟩
  · rintro fixed error rfl
    exact unmoved_of_error inside fixed read
  · rintro value rfl
    exact Buffer.upTo_of_passes (passes_of_ok (same (.inr ⟨value, rfl⟩)))

end Call

end TrustRoots
