import TrustRoots.Proofs.ContainerEnds

/-! What becomes of a refusal if more bytes follow. A defect of the entries stays what it is, and too
many bytes become more. What is missing is told exactly: fewer bytes than that leave the rest of them
missing, and just as many bring the reader to the end of what it then has. -/

namespace TrustRoots

/-- How many bytes there are too many, if a whole digest follows the entries. -/
def KeyStoreError.surplus? : KeyStoreError → Option Nat
  | integrityCheckFailed => some 0
  | trailingBytes count => some count
  | _ => none

private theorem KeyStoreError.Structural.surplus?_eq_none {error : KeyStoreError} (structural : error.Structural) :
    error.surplus? = none := by
  cases error <;> first | rfl | exact structural.elim

theorem Seal.defect?_cases {token : String} {body trailer : Bytes} {error : KeyStoreError}
    (defect : defect? token body trailer = some error) :
    (∃ needed, error = .truncated body.length needed ∧ 0 < needed ∧ trailer.length + needed = length) ∨
      ∃ count, error.surplus? = some count ∧ trailer.length = length + count := by
  rcases Nat.lt_trichotomy trailer.length length with short | sized | long
  · rw [defect?_of_short token body short] at defect
    cases defect
    exact .inl ⟨_, rfl, Nat.sub_pos_of_lt short, Nat.add_sub_of_le (Nat.le_of_lt short)⟩
  · rw [defect?_of_sized token body sized] at defect
    split at defect <;> cases defect
    exact .inr ⟨0, rfl, sized⟩
  · rw [defect?_of_long token body long] at defect
    cases defect
    exact .inr ⟨_, rfl, (Nat.add_sub_of_le (Nat.le_of_lt long)).symm⟩

namespace KeyStore
variable {bytes more : Bytes} {token : String} {store : KeyStore} {error : KeyStoreError} {moved : Cursor}

theorem decode_error_cases (refused : decode bytes token = .error error) :
    (∃ moved, Reading.keyStore id ⟨0, bytes⟩ = (.error error, moved)) ∨
      ∃ store moved, Reading.keyStore id ⟨0, bytes⟩ = (.ok store, moved) ∧
        Seal.defect? token (bytes.take moved.offset) moved.rest = some error := by
  rcases read : Reading.keyStore id ⟨0, bytes⟩ with ⟨found | store, moved⟩
  · rw [decode_of_refused read] at refused
    cases refused
    exact .inl ⟨moved, rfl⟩
  · rw [decode_of_read read] at refused
    refine .inr ⟨store, moved, rfl, ?_⟩
    cases defect : Seal.defect? token (bytes.take moved.offset) moved.rest <;> rw [defect] at refused <;>
      cases refused
    rfl

private theorem limit_of_read {result : Except KeyStoreError KeyStore}
    (read : Reading.keyStore id ⟨0, bytes⟩ = (result, moved)) : moved.limit = bytes.length := by
  have onward := (Reading.steady_keyStore id).onward ⟨0, bytes⟩
  rw [read] at onward
  exact onward.within.trans (Nat.zero_add _)

private theorem offset_le_of_read {result : Except KeyStoreError KeyStore}
    (read : Reading.keyStore id ⟨0, bytes⟩ = (result, moved)) : moved.offset ≤ bytes.length :=
  limit_of_read read ▸ Nat.le_add_right _ _

private theorem foretells_of_read {result : Except KeyStoreError KeyStore}
    (read : Reading.keyStore id ⟨0, bytes⟩ = (result, moved)) (more : Bytes) :
    Reading.Foretells more (result, moved) (Reading.keyStore id ⟨0, bytes ++ more⟩) :=
  read ▸ (Reading.steady_keyStore id).foretells ⟨0, bytes⟩ more

/-- Once the entries have been read, more bytes are more of a trailer. -/
private theorem decode_append_of_read (read : Reading.keyStore id ⟨0, bytes⟩ = (.ok store, moved)) (more : Bytes)
    (other : String) :
    decode (bytes ++ more) other =
      (Seal.defect? other (bytes.take moved.offset) (moved.rest ++ more)).elim (.ok store) .error := by
  have body : (bytes ++ more).take moved.offset = bytes.take moved.offset :=
    List.take_append_of_le_length (offset_le_of_read read)
  have told := foretells_of_read read more
  generalize reread : Reading.keyStore id ⟨0, bytes ++ more⟩ = longer at told
  cases told with
  | settled final =>
    rw [decode_of_read reread]
    exact body ▸ rfl

theorem decode_append_of_structural (structural : error.Structural)
    (refused : decode bytes token = .error error) (more : Bytes) (other : String) :
    decode (bytes ++ more) other = .error error := by
  rcases decode_error_cases refused with ⟨moved, read⟩ | ⟨store, moved, read, defect⟩
  · have told := foretells_of_read read more
    generalize reread : Reading.keyStore id ⟨0, bytes ++ more⟩ = longer at told
    cases told with
    | settled final => exact decode_of_refused reread other
    | short few => exact structural.elim
    | fed enough beyond => exact structural.elim
  · rcases Seal.defect?_cases defect with ⟨needed, rfl, _⟩ | ⟨count, surplus, _⟩
    · exact structural.elim
    · cases structural.surplus?_eq_none.symm.trans surplus

theorem decode_append_of_surplus {count : Nat} (surplus : error.surplus? = some count)
    (refused : decode bytes token = .error error) (proper : more ≠ []) (other : String) :
    decode (bytes ++ more) other = .error (.trailingBytes (count + more.length)) := by
  rcases decode_error_cases refused with ⟨moved, read⟩ | ⟨store, moved, read, defect⟩
  · rcases (Reading.steady_keyStore id).ends _ _ _ read with structural | ⟨needed, _, rfl⟩
    · cases structural.surplus?_eq_none.symm.trans surplus
    · cases surplus
  · rcases Seal.defect?_cases defect with ⟨needed, rfl, _⟩ | ⟨found, same, sized⟩
    · cases surplus
    · cases same.symm.trans surplus
      have behind : 0 < more.length := List.length_pos_iff.2 proper
      have total : (moved.rest ++ more).length = Seal.length + (count + more.length) := by
        rw [List.length_append, sized, Nat.add_assoc]
      rw [decode_append_of_read read, Seal.defect?_of_long _ _ (by omega), total, Nat.add_sub_cancel_left]
      rfl

section Truncated
variable {offset needed : Nat} (refused : decode bytes token = .error (.truncated offset needed))
include refused

private theorem truncated_cases :
    (∃ moved, Reading.keyStore id ⟨0, bytes⟩ = (.error (.truncated offset needed), moved)) ∨
      ∃ store moved, Reading.keyStore id ⟨0, bytes⟩ = (.ok store, moved) ∧
        offset = (bytes.take moved.offset).length ∧ 0 < needed ∧ moved.rest.length + needed = Seal.length := by
  refine (decode_error_cases refused).imp_right ?_
  rintro ⟨store, moved, read, defect⟩
  rcases Seal.defect?_cases defect with ⟨_, same, positive, total⟩ | ⟨_, impossible, _⟩
  · cases same
    exact ⟨store, moved, read, rfl, positive, total⟩
  · cases impossible

theorem decode_append_of_truncated (few : more.length < needed) (other : String) :
    decode (bytes ++ more) other = .error (.truncated offset (needed - more.length)) := by
  rcases truncated_cases refused with ⟨moved, read⟩ | ⟨store, moved, read, rfl, _, total⟩
  · have told := foretells_of_read read more
    generalize reread : Reading.keyStore id ⟨0, bytes ++ more⟩ = longer at told
    cases told with
    | settled final => exact absurd rfl (final offset needed)
    | short few => exact decode_of_refused reread other
    | fed enough beyond => exact absurd few (Nat.not_lt_of_ge enough)
  · have grown : (moved.rest ++ more).length = moved.rest.length + more.length := List.length_append
    rw [decode_append_of_read read, Seal.defect?_of_short _ _ (by omega), grown]
    simp only [Option.elim_some, Except.error.injEq, KeyStoreError.truncated.injEq, true_and]
    omega

/-- The reader gets beyond the bytes that it had, and there are no more of them. -/
private theorem offset_of_decode_append {place lacking : Nat} {other : String} (sized : more.length = needed)
    (again : decode (bytes ++ more) other = .error (.truncated place lacking)) :
    place = bytes.length + needed := by
  rcases truncated_cases refused with ⟨moved, read⟩ | ⟨store, moved, read, rfl, _, total⟩
  · have told := foretells_of_read read more
    generalize reread : Reading.keyStore id ⟨0, bytes ++ more⟩ = longer at told
    cases told with
    | settled final => exact absurd rfl (final offset needed)
    | short few => omega
    | fed enough beyond =>
      obtain ⟨result, last⟩ := longer
      have within := offset_le_of_read reread
      simp only [limit_of_read read] at beyond
      rw [List.length_append] at within
      have reached : last.offset = bytes.length + needed := by omega
      rcases truncated_cases again with ⟨moved, failed⟩ | ⟨store, moved, finished, rfl, _⟩
      · cases reread.symm.trans failed
        rcases (Reading.steady_keyStore id).ends _ _ _ failed with structural | ⟨_, _, same⟩
        · exact structural.elim
        · cases same
          exact reached
      · cases reread.symm.trans finished
        rw [List.length_take_of_le (offset_le_of_read finished)]
        exact reached
  · have whole : (moved.rest ++ more).length = Seal.length := by rw [List.length_append, sized, total]
    rw [decode_append_of_read read, Seal.defect?_of_sized _ _ whole] at again
    split at again <;> cases again

end Truncated

/-- A defect of the entries outlasts whatever follows them, and a byte too many stays too many. If
bytes are missing, then as long as there are fewer of them the others are, and just as many either
mend the defect or let the reader run out of bytes at their end. -/
theorem refusals_outlast_more_bytes (bytes : Bytes) (token : String) (error : KeyStoreError)
    (refused : decode bytes token = .error error) (more : Bytes) (other : String) :
    (error.Structural → decode (bytes ++ more) other = .error error) ∧
    (∀ count, error.surplus? = some count → more ≠ [] →
      decode (bytes ++ more) other = .error (.trailingBytes (count + more.length))) ∧
    (∀ offset needed, error = .truncated offset needed → more.length < needed →
      decode (bytes ++ more) other = .error (.truncated offset (needed - more.length))) ∧
    (∀ offset needed, error = .truncated offset needed → more.length = needed → ∀ place lacking,
      decode (bytes ++ more) other = .error (.truncated place lacking) → place = bytes.length + needed) := by
  refine ⟨?_, ?_, ?_, ?_⟩
  · intro structural
    exact decode_append_of_structural structural refused more other
  · intro count surplus proper
    exact decode_append_of_surplus surplus refused proper other
  · rintro offset needed rfl few
    exact decode_append_of_truncated refused few other
  · rintro offset needed rfl sized place lacking again
    exact offset_of_decode_append refused sized again

/-- Behind a wrong magic number anything may follow. A container cut inside a length lacks what it lacks
of that, and then the digest. A digest of zeros is refused, and a byte behind it for being one too many. -/
theorem refusals_outlast_more_bytes_small :
    decode [0, 0, 0, 7, 1, 2] "t" = .error (.badMagic 7) ∧
    decode (smallContainer.take 30 ++ [0]) "u" = .error (.truncated 28 1) ∧
    (∀ place lacking, decode (smallContainer.take 30 ++ [0, 0]) "u" = .error (.truncated place lacking) →
      place = 32) ∧
    decode (Seal.body smallContainer ++ List.replicate 20 0 ++ [1]) "u" = .error (.trailingBytes 1) := by
  have magic : decode [0, 0, 0, 7] "t" = .error (.badMagic 7) := by decide +kernel
  have cut : decode (smallContainer.take 30) "t" = .error (.truncated 28 2) := by decide +kernel
  have digest : decode (Seal.body smallContainer ++ List.replicate 20 0) "t" = .error .integrityCheckFailed := by
    decide +kernel
  obtain ⟨defect, _⟩ := refusals_outlast_more_bytes _ _ _ magic [1, 2] "t"
  obtain ⟨_, _, lacking, _⟩ := refusals_outlast_more_bytes _ _ _ cut [0] "u"
  obtain ⟨_, _, _, reached⟩ := refusals_outlast_more_bytes _ _ _ cut [0, 0] "u"
  obtain ⟨_, surplus, _⟩ := refusals_outlast_more_bytes _ _ _ digest [1] "u"
  exact ⟨defect trivial, lacking 28 2 rfl (by decide), reached 28 2 rfl rfl, surplus 0 rfl (by decide)⟩

end KeyStore

end TrustRoots
