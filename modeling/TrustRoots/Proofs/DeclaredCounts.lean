import TrustRoots.Proofs.ConsumedBytes

/-! What the counts in a container can make a reader do. A loop that declares more rounds than there
are bytes fails like one that declares as many as there are, since each round takes bytes of its own. -/

namespace TrustRoots

/-- At most as many rounds as there are bytes. -/
def capped (bytes : Bytes) (declared : Nat) : Nat :=
  min declared bytes.length

namespace Reading

/-- The readings do the same wherever fewer bytes than these are left. -/
def AgreeBelow (limit : Nat) (one other : Reading α) : Prop :=
  ∀ cursor : Cursor, cursor.rest.length < limit → one cursor = other cursor

/-- A round of a loop begins if the rounds before it succeed, as a loop of their own. -/
def Begins (loop : Nat → Reading α) (count round : Nat) (start : Cursor) : Prop :=
  round < count ∧ ∃ value moved, loop round start = (.ok value, moved)

section Agreement
variable {limit : Nat} {one other last : Reading α} {next rest : α → Reading β}

theorem AgreeBelow.refl (limit : Nat) (reading : Reading α) : AgreeBelow limit reading reading :=
  fun _ _ => rfl

theorem AgreeBelow.zero (one other : Reading α) : AgreeBelow 0 one other :=
  fun _ impossible => absurd impossible (Nat.not_lt_zero _)

theorem AgreeBelow.trans (first : AgreeBelow limit one other)
    (second : AgreeBelow limit other last) : AgreeBelow limit one last :=
  fun cursor few => (first cursor few).trans (second cursor few)

/-- What has been read leaves fewer bytes behind it. -/
theorem AgreeBelow.bind {width : Nat} (first : AgreeBelow (limit + width) one other)
    (consumes : other.Consumes width) (behind : ∀ value, AgreeBelow limit (next value) (rest value)) :
    AgreeBelow (limit + width) (one >>= next) (other >>= rest) := by
  intro cursor few
  have same := first cursor few
  rcases read : other cursor with ⟨error | value, moved⟩
  · rw [bind_of_error read, bind_of_error (same.trans read)]
  · have taken := consumes _ _ _ read
    rw [bind_of_ok read, bind_of_ok (same.trans read)]
    exact behind value moved (by omega)

theorem AgreeBelow.after (steady : one.Steady) (behind : ∀ value, AgreeBelow limit (next value) (rest value)) :
    AgreeBelow limit (one >>= next) (one >>= rest) :=
  (AgreeBelow.refl (limit + 0) one).bind steady.consumes behind

theorem AgreeBelow.before (first : AgreeBelow limit one other) (steady : other.Steady) (next : α → Reading β) :
    AgreeBelow limit (one >>= next) (other >>= next) :=
  AgreeBelow.bind (show AgreeBelow (limit + 0) one other from first) steady.consumes fun _ => .refl _ _

end Agreement

/-- Loops that agree where either would run out of bytes may have their count capped. -/
theorem AgreeBelow.capped {loop : Nat → Reading α} {width : Nat} (positive : 0 < width)
    (agree : ∀ count other, AgreeBelow (width * min count other) (loop count) (loop other)) (bytes : Bytes)
    (count : Nat) : AgreeBelow bytes.length (loop (capped bytes count)) (loop count) := by
  intro cursor few
  rcases Nat.le_total count bytes.length with small | large
  · rw [TrustRoots.capped, Nat.min_eq_left small]
  · rw [TrustRoots.capped, Nat.min_eq_right large]
    refine agree bytes.length count cursor (Nat.lt_of_lt_of_le few ?_)
    rw [Nat.min_eq_left large]
    exact Nat.le_mul_of_pos_left _ positive

section Container
variable (version : FormatVersion) (name : String) (index : Nat) (createdMillis : UInt64) (bytes : Bytes)

private theorem agree_certificates (count other : Nat) :
    AgreeBelow (4 * min count other) (certificates version name index count) (certificates version name index other) := by
  -- the rounds are the same in both, and the bytes run out before the lesser count does
  induction count generalizing other with
  | zero =>
    rw [Nat.zero_min]
    exact .zero _ _
  | succ count ih =>
    cases other with
    | zero => exact .zero _ _
    | succ other =>
      rw [Nat.add_min_add_right, Nat.mul_succ]
      refine (AgreeBelow.refl _ _).bind (consumes_certificate version name index) fun der => ?_
      exact (ih other).before (steady_certificates version name index other) _

private theorem agree_privateKey : AgreeBelow bytes.length (privateKey (capped bytes) version index name createdMillis)
    (privateKey id version index name createdMillis) :=
  .after steady_blob fun _ => .after (steady_number 4) fun count =>
    (AgreeBelow.capped (by decide) (agree_certificates version name index) bytes count).before
      (steady_certificates version name index count) _

private theorem agree_entry :
    AgreeBelow bytes.length (entry (capped bytes) version index) (entry id version index) := by
  refine .after (steady_number 4) fun tag => ?_
  split
  · refine .after (steady_text index) fun name => .after (steady_number 8) fun millis => ?_
    split
    · exact .refl _ _
    · exact agree_privateKey version name index _ bytes
  · exact .refl _ _

/-- The counts inside the entries. -/
private theorem agree_entries_rounds (count : Nat) (seen : List String) :
    AgreeBelow bytes.length (entries (capped bytes) version count index seen) (entries id version count index seen) := by
  induction count generalizing index seen with
  | zero => exact .refl _ _
  | succ count ih =>
    refine (agree_entry version index bytes).bind (steady_entry id version index).consumes fun read => ?_
    split
    · exact .refl _ _
    · exact (ih (index + 1) _).before (steady_entries id version (index + 1) count _) _

/-- The count of the entries. -/
private theorem agree_entries (count other : Nat) (seen : List String) :
    AgreeBelow (18 * min count other) (entries id version count index seen) (entries id version other index seen) := by
  induction count generalizing other index seen with
  | zero =>
    rw [Nat.zero_min]
    exact .zero _ _
  | succ count ih =>
    cases other with
    | zero => exact .zero _ _
    | succ other =>
      rw [Nat.add_min_add_right, Nat.mul_succ]
      refine (AgreeBelow.refl _ _).bind (consumes_entry version index) fun read => ?_
      split
      · exact .refl _ _
      · exact (ih (index + 1) other _).before (steady_entries id version (index + 1) other _) _

/-- Behind the magic number fewer bytes are left than there are. -/
theorem agree_keyStore : AgreeBelow (bytes.length + 4) (keyStore (capped bytes)) (keyStore id) := by
  refine (AgreeBelow.refl _ (number 4)).bind (consumes_number 4) fun magic => ?_
  split
  · refine .after steady_formatVersion fun version => .after (steady_number 4) fun count => ?_
    have few := AgreeBelow.capped (by decide) (fun count other => agree_entries version 0 count other []) bytes count
    exact ((agree_entries_rounds version 0 bytes _ []).trans few).before (steady_entries id version 0 count []) _
  · exact .refl _ _

end Container

/-- Behind a count there are too few bytes for a round more. -/
theorem Begins.lt_length {loop : Nat → Reading α} {width : Nat} (positive : 0 < width)
    (consumes : ∀ rounds, (loop rounds).Consumes (width * rounds)) {bytes : Bytes} {cursor start : Cursor}
    {count round : Nat} (inside : cursor.rest <:+ bytes) (counted : number 4 cursor = (.ok count, start))
    (begins : Begins loop count round start) : round < bytes.length := by
  obtain ⟨_, value, moved, read⟩ := begins
  have taken := consumes round _ _ _ read
  have measured := consumes_number 4 _ _ _ counted
  have within := inside.length_le
  have rounds : round ≤ width * round := Nat.le_mul_of_pos_left _ positive
  omega

end Reading

namespace KeyStore

/-- Whatever counts a container declares, it is read as if they were at most the number of its bytes, and
a loop behind a count begins fewer rounds than that. An error that names an entry by its number shows
that there are bytes for the entries before it, and so do the entries of a container that is accepted,
which are as many as it declares. -/
theorem declared_counts_cannot_drive_the_loops (bytes : Bytes) (token : String) :
    decodeWith (fun declared => min declared bytes.length) bytes token = decode bytes token ∧
    (∀ (cursor start : Cursor) (count : Nat), cursor.rest <:+ bytes →
      Reading.number 4 cursor = (.ok count, start) → ∀ (version : FormatVersion) (round : Nat),
        (Reading.Begins (fun rounds => Reading.entries id version rounds 0 []) count round start →
          round < bytes.length) ∧
        ∀ name index, Reading.Begins (Reading.certificates version name index) count round start →
          round < bytes.length) ∧
    (∀ index tag, decode bytes token = .error (.unknownEntryTag index tag) → 16 + 18 * index ≤ bytes.length) ∧
    (∀ index, decode bytes token = .error (.invalidString index) → 19 + 18 * index ≤ bytes.length) ∧
    ∀ store, decode bytes token = .ok store → 32 + 18 * store.entries.length ≤ bytes.length ∧
      BigEndian.decode ((bytes.drop 8).take 4) = store.entries.length := by
  refine ⟨?_, ?_, ?_, ?_, ?_⟩
  · have same := Reading.agree_keyStore bytes ⟨0, bytes⟩ (Nat.lt_add_of_pos_right (by decide))
    unfold decode decodeWith
    rw [← same]
    rfl
  · intro cursor start count inside counted version round
    refine ⟨?_, ?_⟩
    · exact Reading.Begins.lt_length (by decide) (fun rounds => Reading.consumes_entries version rounds 0 [])
        inside counted
    · intro name index
      exact Reading.Begins.lt_length (by decide) (Reading.consumes_certificates version name index) inside counted
  · intro index tag refused
    have needed := extent_le_of_decode refused
    simp only [KeyStoreError.extent] at needed
    omega
  · intro index refused
    have needed := extent_le_of_decode refused
    simp only [KeyStoreError.extent] at needed
    omega
  · intro store accepted
    exact ⟨length_of_decode accepted, count_of_decode accepted⟩

/-- One key, behind which a chain of as many certificates is declared as there are said to be entries. -/
def boundless : Bytes :=
  [0xfe, 0xed, 0xfe, 0xed, 0, 0, 0, 2, 0xff, 0xff, 0xff, 0xff, 0, 0, 0, 1, 0, 0, 0, 0, 1, 0x8b, 0xcf, 0xe5, 0x68, 0,
   0, 0, 0, 0, 0xff, 0xff, 0xff, 0xff]

theorem declared_counts_cannot_drive_the_loops_boundless :
    decodeWith (fun declared => min declared boundless.length) boundless "t" = .error (.truncated 34 2) ∧
    0 < boundless.length ∧
    16 + 18 * 0 ≤ (boundless.take 12 ++ [0, 0, 0, 9]).length ∧
    19 + 18 * 0 ≤ (boundless.take 16 ++ [0, 1, 0xff]).length ∧
    32 + 18 * 1 ≤ smallContainer.length := by
  obtain ⟨same, begun, _⟩ := declared_counts_cannot_drive_the_loops boundless "t"
  obtain ⟨_, _, tag, _⟩ := declared_counts_cannot_drive_the_loops (boundless.take 12 ++ [0, 0, 0, 9]) "t"
  obtain ⟨_, _, _, string, _⟩ := declared_counts_cannot_drive_the_loops (boundless.take 16 ++ [0, 1, 0xff]) "t"
  obtain ⟨_, _, _, _, accepted⟩ := declared_counts_cannot_drive_the_loops smallContainer "t"
  refine ⟨?_, ?_, tag 0 9 (by decide +kernel), string 0 (by decide +kernel), (accepted smallStore decode_smallContainer).1⟩
  · rw [same]
    decide +kernel
  · exact (begun ⟨30, boundless.drop 30⟩ ⟨34, []⟩ 0xffffffff (List.drop_suffix ..) (by rfl) .v2 0).2 "" 0
      ⟨by decide, [], ⟨34, []⟩, rfl⟩

end KeyStore

end TrustRoots
