import TrustRoots.Proofs.LastingDefects

/-! How many bytes a reading takes. A certificate takes four at least and an entry eighteen, however
little they hold, so that the number of an entry tells how many bytes were there for those before it. -/

namespace TrustRoots

namespace Form

private theorem four_le_certificate (version : FormatVersion) (der : Bytes) : 4 ≤ (certificate version der).length := by
  cases version with
  | v1 =>
    rw [certificate, blob, length_measured]
    exact Nat.le_add_right 4 _
  | v2 =>
    rw [certificate, List.length_append, blob, length_measured]
    omega

private theorem four_le_content (version : FormatVersion) (stored : Entry) : 4 ≤ (content version stored).length := by
  cases stored with
  | privateKey key =>
    rw [content, List.length_append, blob, length_measured]
    omega
  | trusted stored => exact four_le_certificate version stored.der

private theorem eighteen_le_entry (version : FormatVersion) (stored : Entry) : 18 ≤ (entry version stored).length := by
  have behind := four_le_content version stored
  simp only [entry, text, List.length_append, BigEndian.length_encode, length_measured]
  omega

private theorem mul_length_le_flatMap {form : α → Bytes} {width : Nat} (least : ∀ value, width ≤ (form value).length)
    (values : List α) : width * values.length ≤ (values.flatMap form).length := by
  induction values with
  | nil => exact Nat.zero_le _
  | cons value values ih =>
    have size := least value
    rw [List.length_cons, List.flatMap_cons, List.length_append, Nat.mul_succ]
    omega

end Form

namespace Reading

/-- Having read a value, the reading has taken as many bytes at least. -/
def Consumes (reading : Reading α) (width : Nat) : Prop :=
  ∀ cursor value moved, reading cursor = (.ok value, moved) → moved.rest.length + width ≤ cursor.rest.length

theorem Reads.consumes {reading : Reading α} {fits : α → Prop} {form : α → Bytes} (reads : reading.Reads fits form)
    {width : Nat} (least : ∀ value, fits value → width ≤ (form value).length) : reading.Consumes width := by
  intro cursor value moved read
  obtain ⟨fit, passed, _⟩ := (reads ..).1 read
  have size := least value fit
  rw [passed, List.length_append]
  omega

theorem Steady.consumes {reading : Reading α} (steady : reading.Steady) : reading.Consumes 0 := by
  intro cursor value moved read
  have onward := steady.onward cursor
  rw [read] at onward
  obtain ⟨forward, within⟩ := onward
  simp only [Cursor.limit] at forward within
  omega

theorem consumes_number (width : Nat) : (number width).Consumes width :=
  (reads_number width).consumes fun value _ => Nat.le_of_eq (BigEndian.length_encode width value).symm

theorem consumes_formatVersion : formatVersion.Consumes 4 :=
  reads_formatVersion.consumes fun version _ => Nat.le_of_eq (BigEndian.length_encode 4 version.number).symm

theorem consumes_certificate (version : FormatVersion) (name : String) (index : Nat) :
    (certificate version name index).Consumes 4 :=
  (reads_certificate version name index).consumes fun der _ => Form.four_le_certificate version der

theorem consumes_certificates (version : FormatVersion) (name : String) (index : Nat) (count : Nat) :
    (certificates version name index count).Consumes (4 * count) := by
  refine (reads_certificates version name index count).consumes ?_
  rintro chain ⟨rfl, _⟩
  exact Form.mul_length_le_flatMap (Form.four_le_certificate version) chain

theorem consumes_entry (version : FormatVersion) (index : Nat) : (entry id version index).Consumes 18 :=
  (reads_entry version index).consumes fun stored _ => Form.eighteen_le_entry version stored

theorem consumes_entries (version : FormatVersion) (count index : Nat) (seen : List String) :
    (entries id version count index seen).Consumes (18 * count) := by
  refine (reads_entries version count index seen).consumes ?_
  rintro stored ⟨rfl, _⟩
  exact Form.mul_length_le_flatMap (Form.eighteen_le_entry version) stored

end Reading

/-- How many bytes a container has at least, if an error names one of its entries by number: those in
front of the entries, those of the entries before, and what shows the defect. -/
def KeyStoreError.extent : KeyStoreError → Nat
  | unknownEntryTag index _ => 12 + 18 * index + 4
  | invalidString index => 12 + 18 * index + 4 + 3
  | _ => 0

namespace Reading
variable {error : KeyStoreError} {spent : Nat}

/-- With the bytes that were spent on what comes before, the reading has those that its errors need. -/
def Accounts (reading : Reading α) (spent : Nat) : Prop :=
  ∀ cursor error moved, reading cursor = (.error error, moved) → error.extent ≤ spent + cursor.rest.length

private theorem accounts_pure (value : α) : (pure value : Reading α).Accounts spent := by
  intro cursor error moved failed
  cases failed

private theorem accounts_refuse (paid : error.extent ≤ spent) : (refuse error : Reading α).Accounts spent := by
  intro cursor found moved failed
  cases failed
  exact Nat.le_trans paid (Nat.le_add_right _ _)

private theorem accounts_take (length : Nat) : (take length).Accounts spent := by
  intro cursor error moved failed
  rcases Nat.lt_or_ge cursor.rest.length length with short | enough
  · rw [take_of_short short] at failed
    cases failed
    exact Nat.zero_le _
  · rw [take_of_enough enough] at failed
    cases failed

theorem Accounts.bind {first : Reading α} {next : α → Reading β} {width : Nat} (front : first.Accounts spent)
    (consumes : first.Consumes width) (back : ∀ value, (next value).Accounts (spent + width)) :
    (first >>= next).Accounts spent := by
  intro cursor error moved failed
  rcases read : first cursor with ⟨found | value, place⟩
  · rw [bind_of_error read] at failed
    cases failed
    exact front _ _ _ read
  · rw [bind_of_ok read] at failed
    have taken := consumes _ _ _ read
    have paid := back value place error moved failed
    omega

private theorem Accounts.followed {first : Reading α} {next : α → Reading β} (front : first.Accounts spent)
    (steady : first.Steady) (back : ∀ value, (next value).Accounts spent) : (first >>= next).Accounts spent :=
  front.bind steady.consumes back

private theorem accounts_number (width : Nat) : (number width).Accounts spent :=
  (accounts_take width).followed (steady_take width) fun _ => accounts_pure _

private theorem accounts_blob : blob.Accounts spent :=
  (accounts_number 4).followed (steady_number 4) accounts_take

private theorem accounts_text {index : Nat} (paid : 12 + 18 * index + 4 ≤ spent) : (text index).Accounts spent := by
  refine (accounts_number 2).bind (consumes_number 2) fun length => ?_
  intro cursor error moved failed
  rcases read : take length cursor with ⟨found | bytes, place⟩
  · rw [bind_of_error read] at failed
    cases failed
    exact accounts_take length _ _ _ read
  · rw [bind_of_ok read] at failed
    have body : cursor.rest = bytes ++ place.rest := ((reads_take length ..).1 read).2.1
    cases decoded : Utf8.decode? bytes with
    | some text =>
      rw [decoded] at failed
      cases failed
    | none =>
      rw [decoded] at failed
      cases failed
      -- no bytes at all would be a text
      have holding : bytes ≠ [] := by
        rintro rfl
        cases decoded
      have filled := List.length_pos_iff.2 holding
      rw [body, List.length_append, KeyStoreError.extent]
      omega

section Container
variable (version : FormatVersion) (name : String) {index : Nat} (createdMillis : UInt64)

private theorem accounts_certificate (paid : 12 + 18 * index + 4 ≤ spent) :
    (certificate version name index).Accounts spent := by
  cases version with
  | v1 => exact accounts_blob
  | v2 =>
    refine (accounts_text paid).followed (steady_text index) fun certificateType => ?_
    split
    · exact accounts_blob
    · exact accounts_refuse (Nat.zero_le _)

private theorem accounts_certificates (paid : 12 + 18 * index + 4 ≤ spent) (count : Nat) :
    (certificates version name index count).Accounts spent := by
  induction count with
  | zero => exact accounts_pure []
  | succ count ih =>
    exact (accounts_certificate version name paid).followed (steady_certificate version name index) fun _ =>
      ih.followed (steady_certificates version name index count) fun _ => accounts_pure _

private theorem accounts_entryBody (paid : 12 + 18 * index + 4 ≤ spent) (tag : Nat) :
    (entryBody id version index tag).Accounts spent := by
  refine (accounts_text paid).followed (steady_text index) fun name =>
    (accounts_number 8).followed (steady_number 8) fun millis => ?_
  split
  · exact (accounts_certificate version name paid).followed (steady_certificate version name index) fun _ =>
      accounts_pure _
  · exact accounts_blob.followed steady_blob fun _ => (accounts_number 4).followed (steady_number 4) fun count =>
      (accounts_certificates version name paid count).followed (steady_certificates version name index count) fun _ =>
        accounts_pure _

private theorem accounts_entry (paid : 12 + 18 * index ≤ spent) : (entry id version index).Accounts spent := by
  refine (accounts_number 4).bind (consumes_number 4) fun tag => ?_
  have paidTag : 12 + 18 * index + 4 ≤ spent + 4 := Nat.add_le_add_right paid 4
  split
  · exact accounts_entryBody version paidTag tag
  · exact accounts_refuse paidTag

/-- Each entry pays for those behind it. -/
private theorem accounts_entries (paid : 12 + 18 * index ≤ spent) (count : Nat) (seen : List String) :
    (entries id version count index seen).Accounts spent := by
  induction count generalizing index seen spent with
  | zero => exact accounts_pure []
  | succ count ih =>
    refine (accounts_entry version paid).bind (consumes_entry version index) fun read => ?_
    split
    · exact accounts_refuse (Nat.zero_le _)
    · have paidEntry : 12 + 18 * (index + 1) ≤ spent + 18 := by omega
      exact (ih paidEntry _).followed (steady_entries id version (index + 1) count _) fun _ => accounts_pure _

private theorem accounts_formatVersion : formatVersion.Accounts spent := by
  refine (accounts_number 4).followed (steady_number 4) fun declared => ?_
  unfold FormatVersion.ofNumber
  split
  next version accepted => exact accounts_pure version
  next error refused =>
    split at refused <;> cases refused
    exact accounts_refuse (Nat.zero_le _)

theorem accounts_keyStore : (keyStore id).Accounts 0 := by
  refine (accounts_number 4).bind (consumes_number 4) fun magic => ?_
  split
  · exact accounts_formatVersion.bind consumes_formatVersion fun version =>
      (accounts_number 4).bind (consumes_number 4) fun count =>
        (accounts_entries version (Nat.le_refl 12) count []).followed (steady_entries id version 0 count []) fun _ =>
          accounts_pure _
  · exact accounts_refuse (Nat.zero_le _)

end Container

end Reading

namespace KeyStore

theorem extent_le_of_decode {bytes : Bytes} {token : String} {error : KeyStoreError}
    (refused : decode bytes token = .error error) : error.extent ≤ bytes.length := by
  rcases decode_error_cases refused with ⟨moved, read⟩ | ⟨store, moved, _, defect⟩
  · have paid := Reading.accounts_keyStore ⟨0, bytes⟩ error moved read
    rwa [Nat.zero_add] at paid
  · rcases Seal.defect?_cases defect with ⟨needed, rfl, _⟩ | ⟨count, surplus, _⟩
    · exact Nat.zero_le _
    · cases error <;> first | exact Nat.zero_le _ | cases surplus

theorem length_of_decode {bytes : Bytes} {token : String} {store : KeyStore}
    (accepted : decode bytes token = .ok store) : 32 + 18 * store.entries.length ≤ bytes.length := by
  have entries := Form.mul_length_le_flatMap (Form.eighteen_le_entry store.version) store.entries
  rw [((decode_eq_ok_iff ..).1 accepted).2]
  simp only [Form.keyStore, List.length_append, BigEndian.length_encode, Seal.length_of]
  omega

theorem count_of_decode {bytes : Bytes} {token : String} {store : KeyStore}
    (accepted : decode bytes token = .ok store) :
    BigEndian.decode ((bytes.drop 8).take 4) = store.entries.length := by
  obtain ⟨wellFormed, rfl⟩ := (decode_eq_ok_iff ..).1 accepted
  have words (front back rest : Bytes) (first : front.length = 4) (second : back.length = 4) :
      (front ++ (back ++ rest)).drop 8 = rest := by
    rw [← List.append_assoc]
    exact List.drop_left' (by rw [List.length_append, first, second])
  simp only [Form.keyStore, List.append_assoc]
  rw [words _ _ _ (BigEndian.length_encode ..) (BigEndian.length_encode ..),
    List.take_left' (BigEndian.length_encode ..), BigEndian.decode_encode wellFormed.count]

end KeyStore

end TrustRoots
