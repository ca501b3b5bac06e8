import TrustRoots.Proofs.KeyStoreRoundTrip
import TrustRoots.Proofs.LongerInput

/-! Where a container ends. What a reader accepts is a form with a digest behind it, and nothing
else that begins like it: cut anywhere it lacks bytes, and extended it has too many. -/

namespace TrustRoots

namespace Seal

def body (container : Bytes) : Bytes :=
  container.take (container.length - length)

/-- The digest at the end, or all there is if that is shorter. -/
def trailer (container : Bytes) : Bytes :=
  container.drop (container.length - length)

theorem body_append_trailer (container : Bytes) : body container ++ trailer container = container :=
  List.take_append_drop _ _

private theorem length_body_append {front back : Bytes} (sized : back.length = length) :
    (front ++ back).length - length = front.length := by
  rw [List.length_append, sized, Nat.add_sub_cancel]

theorem body_append {front back : Bytes} (sized : back.length = length) : body (front ++ back) = front := by
  rw [body, length_body_append sized, List.take_left]

theorem trailer_append {front back : Bytes} (sized : back.length = length) : trailer (front ++ back) = back := by
  rw [trailer, length_body_append sized, List.drop_left]

theorem defect?_of_short {trailer : Bytes} (token : String) (body : Bytes) (short : trailer.length < length) :
    defect? token body trailer = some (.truncated body.length (length - trailer.length)) :=
  if_pos short

theorem defect?_of_long {trailer : Bytes} (token : String) (body : Bytes) (long : length < trailer.length) :
    defect? token body trailer = some (.trailingBytes (trailer.length - length)) := by
  rw [defect?, if_neg (Nat.lt_asymm long), if_pos long]

theorem defect?_of_sized {trailer : Bytes} (token : String) (body : Bytes) (sized : trailer.length = length) :
    defect? token body trailer = if trailer = of token body then none else some .integrityCheckFailed := by
  rw [defect?, if_neg (Nat.not_lt_of_ge (Nat.le_of_eq sized.symm)), if_neg (Nat.not_lt_of_ge (Nat.le_of_eq sized))]
  simp only [agree_iff (length_of token body)]

end Seal

namespace KeyStore
variable {container : Bytes} {token : String} {store : KeyStore}

theorem decode_of_refused {bytes : Bytes} {error : KeyStoreError} {moved : Cursor}
    (read : Reading.keyStore id ⟨0, bytes⟩ = (.error error, moved)) (token : String) :
    decode bytes token = .error error := by
  simp only [decode, decodeWith, read]

theorem decode_of_read {bytes : Bytes} {moved : Cursor}
    (read : Reading.keyStore id ⟨0, bytes⟩ = (.ok store, moved)) (token : String) :
    decode bytes token =
      (Seal.defect? token (bytes.take moved.offset) moved.rest).elim (.ok store) .error := by
  simp only [decode, decodeWith, read]
  cases Seal.defect? token (bytes.take moved.offset) moved.rest <;> rfl

theorem decode_form_append (wellFormed : store.WellFormed) (token : String) (trailer : Bytes) :
    decode (Form.keyStore store ++ trailer) token =
      (Seal.defect? token (Form.keyStore store) trailer).elim (.ok store) .error := by
  have read := (Reading.reads_keyStore ⟨0, Form.keyStore store ++ trailer⟩ store
    ⟨(Form.keyStore store).length, trailer⟩).2 ⟨wellFormed, rfl, (Nat.zero_add _).symm⟩
  rw [decode_of_read read, List.take_left]

theorem body_of_decode (accepted : decode container token = .ok store) :
    Seal.body container = Form.keyStore store := by
  rw [((decode_eq_ok_iff ..).1 accepted).2]
  exact Seal.body_append (Seal.length_of _ _)

theorem trailer_of_decode (accepted : decode container token = .ok store) :
    Seal.trailer container = Seal.of token (Seal.body container) := by
  rw [body_of_decode accepted, ((decode_eq_ok_iff ..).1 accepted).2]
  exact Seal.trailer_append (Seal.length_of _ _)

/-- The form of the store has been read from the part, or the reader misses bytes of it. -/
theorem decode_of_cut {part lost : Bytes} (accepted : decode (part ++ lost) token = .ok store)
    (proper : lost ≠ []) (other : String) :
    ∃ offset needed, decode part other = .error (.truncated offset needed) ∧ offset ≤ part.length ∧
      1 ≤ needed ∧ part.length + needed ≤ (part ++ lost).length := by
  obtain ⟨wellFormed, written⟩ := (decode_eq_ok_iff ..).1 accepted
  have missing : 0 < lost.length := List.length_pos_iff.2 proper
  have total : (part ++ lost).length = (Form.keyStore store).length + Seal.length := by
    rw [written, List.length_append, Seal.length_of]
    rfl
  have whole : Reading.keyStore id (Cursor.extend ⟨0, part⟩ lost) =
      (.ok store, ⟨(Form.keyStore store).length, Seal.of token (Form.keyStore store)⟩) :=
    (Reading.reads_keyStore _ _ _).2 ⟨wellFormed, written, (Nat.zero_add _).symm⟩
  have steady := Reading.steady_keyStore id
  have told := steady.foretells ⟨0, part⟩ lost
  have onward := steady.onward ⟨0, part⟩
  generalize read : Reading.keyStore id ⟨0, part⟩ = shorter at told onward
  generalize Reading.keyStore id (Cursor.extend ⟨0, part⟩ lost) = longer at told whole
  have limit : shorter.2.limit = part.length := onward.within.trans (Nat.zero_add _)
  have inside : shorter.2.offset ≤ part.length := limit ▸ Nat.le_add_right _ _
  rw [List.length_append] at total ⊢
  cases told with
  | @settled result moved final =>
    obtain ⟨rfl, place⟩ := Prod.mk.inj whole
    have form : moved.offset = (Form.keyStore store).length := congrArg Cursor.offset place
    simp only [Cursor.limit] at limit
    have short : moved.rest.length < Seal.length := by omega
    refine ⟨moved.offset, Seal.length - moved.rest.length, ?_, inside, Nat.sub_pos_of_lt short, by omega⟩
    rw [decode_of_read read, Seal.defect?_of_short _ _ short, List.length_take_of_le inside]
    rfl
  | short few => cases (Prod.mk.inj whole).1
  | @fed offset needed moved _ enough beyond =>
    obtain ⟨_, positive, same⟩ := (steady.ends _ _ _ read).resolve_left id
    cases same
    rw [limit, whole] at beyond
    exact ⟨moved.offset, needed, decode_of_refused read other, inside, positive, by omega⟩

theorem decode_of_extended {behind : Bytes} (accepted : decode container token = .ok store)
    (proper : behind ≠ []) (other : String) :
    decode (container ++ behind) other = .error (.trailingBytes behind.length) := by
  obtain ⟨wellFormed, rfl⟩ := (decode_eq_ok_iff ..).1 accepted
  have some_behind : 0 < behind.length := List.length_pos_iff.2 proper
  have sized : (Seal.of token (Form.keyStore store) ++ behind).length = Seal.length + behind.length := by
    rw [List.length_append, Seal.length_of]
    rfl
  rw [List.append_assoc, decode_form_append wellFormed, Seal.defect?_of_long _ _ (by omega), sized,
    Nat.add_sub_cancel_left]
  rfl

/-- A container that is accepted for some token has no beginning and no continuation that is
accepted for any. The error tells how many bytes lack at least, or how many there are too many. -/
theorem containers_are_prefix_free (container : Bytes) (token : String) (store : KeyStore)
    (accepted : decode container token = .ok store) :
    (∀ part other, part <+: container → part ≠ container →
      ∃ offset needed, decode part other = .error (.truncated offset needed) ∧ offset ≤ part.length ∧
        1 ≤ needed ∧ part.length + needed ≤ container.length) ∧
    (∀ behind other, behind ≠ [] →
      decode (container ++ behind) other = .error (.trailingBytes behind.length)) := by
  refine ⟨?_, fun behind other proper => decode_of_extended accepted proper other⟩
  rintro part other ⟨lost, rfl⟩ different
  refine decode_of_cut accepted ?_ other
  rintro rfl
  exact different (List.append_nil part).symm

theorem decode_smallContainer : decode smallContainer "t" = .ok smallStore :=
  (decode_eq_ok_iff ..).2 ⟨⟨by decide, by decide, by decide⟩, by decide +kernel⟩

/-- Cut inside the alias, the container lacks one byte of it at least, and a byte behind the digest
is one too many. -/
theorem containers_are_prefix_free_small :
    (∃ offset needed, decode (smallContainer.take 19) "any" = .error (.truncated offset needed) ∧
      offset ≤ 19 ∧ 1 ≤ needed ∧ 19 + needed ≤ 53) ∧
    decode (smallContainer ++ [0x79]) "any" = .error (.trailingBytes 1) := by
  obtain ⟨cut, extended⟩ := containers_are_prefix_free smallContainer "t" smallStore decode_smallContainer
  exact ⟨cut (smallContainer.take 19) "any" (List.take_prefix 19 _) (by decide), extended [0x79] "any" (by decide)⟩

end KeyStore

end TrustRoots
