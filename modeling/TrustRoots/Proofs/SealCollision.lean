import Mathlib.Data.FinEnum
import Mathlib.Data.Fintype.BigOperators
import Mathlib.Data.Fintype.Pigeonhole
import Mathlib.Data.Set.Finite.List
import TrustRoots.Proofs.ContainerEnds
import TrustRoots.Proofs.TokenBytes

/-! What a digest vouches for. The bytes that are digested tell the token and the body of a known
length apart, although nothing marks where the token ends. Two accepted containers of one length
with one digest therefore are the same for the same token, or they are a collision of the digest
function. There are such collisions, since there are more tokens than digests. -/

namespace TrustRoots

/-- Two messages that one digest stands for. -/
structure Sha1.Collision (first second : Bytes) : Prop where
  different : first ≠ second
  digest : Sha1.digest first = Sha1.digest second

namespace Seal

/-- The boundary between token and body is not marked, but the length of the body gives it away. -/
theorem preimage_inj {token other : String} {body otherBody : Bytes} (sized : body.length = otherBody.length)
    (same : preimage token body = preimage other otherBody) : token = other ∧ body = otherBody := by
  obtain ⟨front, back⟩ := List.append_inj' same sized
  exact ⟨Utf16.encode_injective (List.append_cancel_right front), back⟩

theorem preimage_inj_of_token {token : String} {body otherBody : Bytes}
    (same : preimage token body = preimage token otherBody) : body = otherBody :=
  List.append_cancel_left same

private theorem length_body (container : Bytes) : (body container).length = container.length - length :=
  List.length_take_of_le (Nat.sub_le _ _)

private theorem eq_of_body_of_trailer {first second : Bytes} (bodies : body first = body second)
    (trailers : trailer first = trailer second) : first = second := by
  rw [← body_append_trailer first, bodies, trailers, body_append_trailer]

theorem exists_shared (body : Bytes) : ∃ first second, first ≠ second ∧ of first body = of second body := by
  have finite : {digest : Bytes | digest.length = 20}.Finite := List.finite_length_eq UInt8 20
  obtain ⟨first, _, second, _, different, same⟩ :=
    Set.infinite_univ.exists_ne_map_eq_of_mapsTo (fun token _ => length_of token body) finite
  exact ⟨first, second, different, same⟩

end Seal

namespace KeyStore

private theorem digest_eq_of_trailer_eq {first second : Bytes} {token other : String} {one another : KeyStore}
    (accepted : decode first token = .ok one) (otherAccepted : decode second other = .ok another)
    (trailers : Seal.trailer first = Seal.trailer second) :
    Sha1.digest (Seal.preimage token (Seal.body first)) = Sha1.digest (Seal.preimage other (Seal.body second)) := by
  rw [trailer_of_decode accepted, trailer_of_decode otherAccepted] at trailers
  exact trailers

theorem decode_of_other_trailer {container trailer : Bytes} {token : String} {store : KeyStore}
    (accepted : decode container token = .ok store) (sized : trailer.length = 20)
    (different : trailer ≠ Seal.trailer container) :
    decode (Seal.body container ++ trailer) token = .error .integrityCheckFailed := by
  rw [trailer_of_decode accepted, body_of_decode accepted] at different
  rw [body_of_decode accepted, decode_form_append ((decode_eq_ok_iff ..).1 accepted).1,
    Seal.defect?_of_sized _ _ sized, if_neg different]
  rfl

/-- Two containers of one length and with one digest, or one container and two tokens, or two
containers for one token, are accepted only if what is digested is a collision. Any other digest
is refused where one is accepted. -/
theorem acceptance_of_both_is_a_collision :
    (∀ first second token other one another, first.length = second.length → (first, token) ≠ (second, other) →
      decode first token = .ok one → decode second other = .ok another →
      Seal.trailer first = Seal.trailer second →
      Sha1.Collision (Seal.preimage token (Seal.body first)) (Seal.preimage other (Seal.body second))) ∧
    (∀ container token other one another, token ≠ other →
      decode container token = .ok one → decode container other = .ok another →
      Sha1.Collision (Seal.preimage token (Seal.body container)) (Seal.preimage other (Seal.body container))) ∧
    (∀ first second token one another, first ≠ second →
      decode first token = .ok one → decode second token = .ok another →
      Seal.trailer first = Seal.trailer second →
      Sha1.Collision (Seal.preimage token (Seal.body first)) (Seal.preimage token (Seal.body second))) ∧
    (∀ container token store trailer, decode container token = .ok store → trailer.length = 20 →
      trailer ≠ Seal.trailer container →
      decode (Seal.body container ++ trailer) token = .error .integrityCheckFailed) := by
  refine ⟨?_, ?_, ?_, ?_⟩
  · intro first second token other one another sized different accepted otherAccepted trailers
    refine ⟨?_, digest_eq_of_trailer_eq accepted otherAccepted trailers⟩
    intro same
    have bodies : (Seal.body first).length = (Seal.body second).length := by
      rw [Seal.length_body, Seal.length_body, sized]
    obtain ⟨rfl, body⟩ := Seal.preimage_inj bodies same
    obtain rfl := Seal.eq_of_body_of_trailer body trailers
    exact different rfl
  · intro container token other one another different accepted otherAccepted
    refine ⟨?_, digest_eq_of_trailer_eq accepted otherAccepted rfl⟩
    intro same
    exact different (Seal.preimage_inj rfl same).1
  · intro first second token one another different accepted otherAccepted trailers
    refine ⟨?_, digest_eq_of_trailer_eq accepted otherAccepted trailers⟩
    intro same
    exact different (Seal.eq_of_body_of_trailer (Seal.preimage_inj_of_token same) trailers)
  · intro container token store trailer accepted sized different
    exact decode_of_other_trailer accepted sized different

def single (der : Bytes) : KeyStore :=
  ⟨.v2, [.trusted ⟨"c", draftMillis, der⟩]⟩

private theorem wellFormed_single {der : Bytes} (short : der.length < BigEndian.bound 4) : (single der).WellFormed := by
  have count : 1 < BigEndian.bound 4 := by decide
  have name : "c".utf8ByteSize < BigEndian.bound 2 := by decide
  refine ⟨count, ?_, List.nodup_singleton _⟩
  intro entry member
  rw [List.mem_singleton.1 member]
  exact (Entry.fits_trusted_iff _).2 ⟨name, short⟩

/-- The digest of a store of one certificate of 21 bytes. There are more of these than digests. -/
def sealSingle (token : String) (der : List.Vector UInt8 21) : List.Vector UInt8 20 :=
  ⟨Seal.of token (Form.keyStore (single der.toList)), Seal.length_of _ _⟩

private theorem exists_shared_single (token : String) :
    ∃ first second, first ≠ second ∧ (single first).WellFormed ∧ (single second).WellFormed ∧
      Seal.of token (Form.keyStore (single first)) = Seal.of token (Form.keyStore (single second)) := by
  have fewer : Fintype.card (List.Vector UInt8 20) < Fintype.card (List.Vector UInt8 21) := by
    rw [card_vector, card_vector]
    exact Nat.pow_lt_pow_right (Fintype.one_lt_card_iff.2 ⟨0, 1, by decide⟩) (Nat.lt_succ_self 20)
  have wellFormed (der : List.Vector UInt8 21) : (single der.toList).WellFormed :=
    wellFormed_single (by rw [der.toList_length]; decide)
  obtain ⟨first, second, different, same⟩ := Fintype.exists_ne_map_eq_of_card_lt (sealSingle token) fewer
  refine ⟨first.toList, second.toList, ?_, wellFormed first, wellFormed second, congrArg List.Vector.toList same⟩
  exact fun equal => different (List.Vector.toList_injective equal)

/-- Some container is accepted for two tokens, some two containers with one digest are accepted for
one token, and a digest of zeros is refused. -/
theorem acceptance_of_both_is_a_collision_small :
    (∃ container first second, first ≠ second ∧
      decode container first = .ok smallStore ∧ decode container second = .ok smallStore ∧
      Sha1.Collision (Seal.preimage first (Seal.body container)) (Seal.preimage second (Seal.body container))) ∧
    (∃ first second one other, one ≠ other ∧ decode first "t" = .ok one ∧ decode second "t" = .ok other ∧
      Sha1.Collision (Seal.preimage "t" (Seal.body first)) (Seal.preimage "t" (Seal.body second))) ∧
    decode (Seal.body smallContainer ++ List.replicate 20 0) "t" = .error .integrityCheckFailed := by
  obtain ⟨general, _, bodies, trailer⟩ := acceptance_of_both_is_a_collision
  refine ⟨?_, ?_, trailer smallContainer "t" smallStore _ decode_smallContainer (by decide) (by decide)⟩
  · obtain ⟨first, second, different, shared⟩ := Seal.exists_shared (Form.keyStore smallStore)
    have wellFormed : smallStore.WellFormed := ⟨by decide, by decide, by decide⟩
    have accepted := (decode_eq_ok_iff _ first smallStore).2 ⟨wellFormed, rfl⟩
    have otherAccepted := (decode_eq_ok_iff _ second smallStore).2 ⟨wellFormed, congrArg _ shared⟩
    refine ⟨_, first, second, different, accepted, otherAccepted, ?_⟩
    exact general _ _ first second _ _ rfl (fun same => different (Prod.mk.inj same).2) accepted otherAccepted rfl
  · obtain ⟨first, second, different, wellFormed, otherWellFormed, shared⟩ := exists_shared_single "t"
    have accepted := (decode_eq_ok_iff _ "t" (single first)).2 ⟨wellFormed, rfl⟩
    have otherAccepted := (decode_eq_ok_iff _ "t" (single second)).2 ⟨otherWellFormed, rfl⟩
    have stores : single first ≠ single second := fun same => different (by cases same; rfl)
    refine ⟨_, _, _, _, stores, accepted, otherAccepted, bodies _ _ "t" _ _ ?_ accepted otherAccepted ?_⟩
    · intro same
      rw [same] at accepted
      exact stores (Except.ok.inj (accepted.symm.trans otherAccepted))
    · rw [Seal.trailer_append (Seal.length_of _ _), Seal.trailer_append (Seal.length_of _ _)]
      exact shared

end KeyStore

end TrustRoots
