import TrustRoots.Proofs.ContainerEnds

/-! What the access token has a say in. Everything but the digest is judged before the token is
looked at, so that two tokens can differ only in whether the digest is theirs. -/

namespace TrustRoots

private theorem KeyStoreError.Structural.ne_integrityCheckFailed {error : KeyStoreError}
    (structural : error.Structural) :
    error ≠ .integrityCheckFailed := by
  rintro rfl
  exact structural

/-- The length of a trailer is judged for all tokens alike, and only a digest for each of them. -/
private theorem Seal.defect?_of_all_tokens (body trailer : Bytes) :
    (∃ error, error ≠ .integrityCheckFailed ∧ ∀ token, defect? token body trailer = some error) ∨
      ∀ token, defect? token body trailer = none ∨ defect? token body trailer = some .integrityCheckFailed := by
  rcases Nat.lt_trichotomy trailer.length length with short | sized | long
  · exact .inl ⟨.truncated _ _, nofun, fun token => defect?_of_short token body short⟩
  · right
    intro token
    rw [defect?_of_sized token body sized]
    split
    · exact .inl rfl
    · exact .inr rfl
  · exact .inl ⟨.trailingBytes _, nofun, fun token => defect?_of_long token body long⟩

namespace KeyStore

theorem decode_of_all_tokens (bytes : Bytes) :
    (∃ error, error ≠ .integrityCheckFailed ∧ ∀ token, decode bytes token = .error error) ∨
      ∃ store, ∀ token, decode bytes token = .error .integrityCheckFailed ∨ decode bytes token = .ok store := by
  rcases read : Reading.keyStore id ⟨0, bytes⟩ with ⟨error | store, moved⟩
  · left
    refine ⟨error, ?_, decode_of_refused read⟩
    rcases (Reading.steady_keyStore id).ends _ _ _ read with structural | ⟨_, _, rfl⟩
    · exact structural.ne_integrityCheckFailed
    · exact nofun
  · rcases Seal.defect?_of_all_tokens (bytes.take moved.offset) moved.rest with ⟨error, other, defect⟩ | digest
    · refine .inl ⟨error, other, fun token => ?_⟩
      rw [decode_of_read read, defect token]
      rfl
    · refine .inr ⟨store, fun token => ?_⟩
      rw [decode_of_read read]
      rcases digest token with accepted | refused
      · rw [accepted]
        exact .inr rfl
      · rw [refused]
        exact .inl rfl

theorem decode_form_append_eq_ok_iff {store : KeyStore} (wellFormed : store.WellFormed) (token : String)
    (trailer : Bytes) :
    (∃ found, decode (Form.keyStore store ++ trailer) token = .ok found) ↔
      trailer = Seal.of token (Form.keyStore store) := by
  rw [decode_form_append wellFormed, ← Seal.defect?_eq_none_iff]
  cases Seal.defect? token (Form.keyStore store) trailer with
  | none => exact ⟨fun _ => rfl, fun _ => ⟨store, rfl⟩⟩
  | some error =>
    refine ⟨?_, nofun⟩
    rintro ⟨found, impossible⟩
    cases impossible

/-- Two tokens find the same defect of some bytes, or the same store but for its digest. For any
token there is one trailer, of whatever length, that turns the body of a container into a
container again: the digest of that body for the token. -/
theorem tokens_decide_only_the_digest :
    (∀ bytes one other,
      (∃ error, error ≠ .integrityCheckFailed ∧ decode bytes one = .error error ∧
        decode bytes other = .error error) ∨
      ∃ store, (decode bytes one = .error .integrityCheckFailed ∨ decode bytes one = .ok store) ∧
        (decode bytes other = .error .integrityCheckFailed ∨ decode bytes other = .ok store)) ∧
    (∀ container sealing store, decode container sealing = .ok store → ∀ token trailer,
      (∃ found, decode (Seal.body container ++ trailer) token = .ok found) ↔
        trailer = Seal.of token (Seal.body container)) := by
  refine ⟨?_, ?_⟩
  · intro bytes one other
    rcases decode_of_all_tokens bytes with ⟨error, structural, refused⟩ | ⟨store, judged⟩
    · exact .inl ⟨error, structural, refused one, refused other⟩
    · exact .inr ⟨store, judged one, judged other⟩
  · intro container sealing store accepted token trailer
    rw [body_of_decode accepted]
    exact decode_form_append_eq_ok_iff ((decode_eq_ok_iff ..).1 accepted).1 token trailer

/-- Sealed anew for another token, the body of a container is accepted for that token. -/
theorem tokens_decide_only_the_digest_small :
    ∃ found, decode (Seal.body smallContainer ++ Seal.of "other" (Seal.body smallContainer)) "other" = .ok found :=
  (tokens_decide_only_the_digest.2 smallContainer "t" smallStore decode_smallContainer "other" _).2 rfl

end KeyStore

end TrustRoots
