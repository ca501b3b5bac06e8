import TrustRoots.Proofs.ModifiedUtf8
import TrustRoots.Proofs.OverlongAliases

/-! Containers whose texts are in modified UTF-8. A reader takes them for UTF-8. It gets every alias
whose bytes are the same in both, and refuses the entry of the first other alias, although nothing is
wrong with the container. -/

namespace TrustRoots
open ModifiedUtf8 (PlainText)

namespace Form

def modifiedText (value : String) : Bytes :=
  measured 2 (ModifiedUtf8.encode value)

/-- The type of certificates in the content of the entry has the same bytes in both encodings. -/
def modifiedEntry (version : FormatVersion) (stored : Entry) : Bytes :=
  BigEndian.encode 4 stored.tag ++
    (modifiedText stored.name ++ (BigEndian.encode 8 stored.createdMillis.toNat ++ content version stored))

example : modifiedText x509 = text x509 := by decide

def modifiedKeyStore (store : KeyStore) : Bytes :=
  BigEndian.encode 4 keyStoreMagic ++
    (BigEndian.encode 4 store.version.number ++
      (BigEndian.encode 4 store.entries.length ++ store.entries.flatMap (modifiedEntry store.version)))

end Form

namespace Entry

/-- Every length can be written in the width that it has, that of the alias in modified UTF-8. -/
structure Writable (entry : Entry) : Prop where
  name : (ModifiedUtf8.encode entry.name).length < BigEndian.bound 2
  content : entry.ContentFits

theorem Writable.fits {entry : Entry} (writable : entry.Writable) (plain : PlainText entry.name) : entry.Fits := by
  have short := writable.name
  rw [ModifiedUtf8.encode_of_plain plain, Utf8.length_encode] at short
  exact ⟨short, writable.content.certificates, writable.content.key⟩

end Entry

/-- The store can be written in modified UTF-8, with no alias written twice. -/
structure KeyStore.Writable (store : KeyStore) : Prop where
  count : store.entries.length < BigEndian.bound 4
  entries : ∀ entry ∈ store.entries, entry.Writable
  distinct : (store.entries.map Entry.name).Nodup

private theorem Form.modifiedEntry_of_plain {stored : Entry} (plain : PlainText stored.name) (version : FormatVersion) :
    modifiedEntry version stored = entry version stored := by
  rw [modifiedEntry, modifiedText, ModifiedUtf8.encode_of_plain plain]
  rfl

private theorem Form.flatMap_modifiedEntry {stored : List Entry} (plain : ∀ entry ∈ stored, PlainText entry.name)
    (version : FormatVersion) : stored.flatMap (modifiedEntry version) = stored.flatMap (entry version) :=
  List.flatMap_congr fun one member => modifiedEntry_of_plain (plain one member) version

namespace Reading

/-- The body is judged once it has been read, so that the cursor is behind it in any case. -/
private theorem text_measured {body : Bytes} (short : body.length < BigEndian.bound 2) (index offset : Nat)
    (rest : Bytes) :
    text index ⟨offset, Form.measured 2 body ++ rest⟩ =
      ((Utf8.decode? body).elim (.error (.invalidString index)) .ok,
        ⟨offset + (Form.measured 2 body).length, rest⟩) := by
  have counted : number 2 ⟨offset, Form.measured 2 body ++ rest⟩ = (.ok body.length, ⟨offset + 2, body ++ rest⟩) := by
    refine (reads_number 2 _ _ _).2 ⟨short, List.append_assoc .., ?_⟩
    rw [BigEndian.length_encode]
  have length : offset + 2 + body.length = offset + (Form.measured 2 body).length := by
    rw [Form.length_measured, Nat.add_assoc]
  rw [text, bind_of_ok counted, bind_of_ok (take_append body rest (offset + 2)), length]
  cases Utf8.decode? body <;> rfl

private theorem text_modified {name : String} (short : (ModifiedUtf8.encode name).length < BigEndian.bound 2)
    (index offset : Nat) (rest : Bytes) :
    text index ⟨offset, Form.modifiedText name ++ rest⟩ =
      (if PlainText name then .ok name else .error (.invalidString index),
        ⟨offset + (Form.modifiedText name).length, rest⟩) := by
  rw [Form.modifiedText, text_measured short, ModifiedUtf8.decode?_encode]
  split <;> rfl

private theorem refuses_modifiedEntry {stored : Entry} (writable : stored.Writable) (odd : ¬ PlainText stored.name)
    (version : FormatVersion) (index : Nat) :
    (entry id version index).Refuses (Form.modifiedEntry version stored) (.invalidString index) := by
  have refused : (text index).Refuses (Form.modifiedText stored.name) (.invalidString index) := by
    intro offset rest
    rw [text_modified writable.name, if_neg odd]
    exact ⟨_, rfl⟩
  refine (reads_number 4).bind_refuses stored.tag_lt ?_
  rw [if_pos stored.tag_cases]
  exact (refused.append _).bind _

end Reading

namespace KeyStore
variable {store : KeyStore}

private theorem decode_of_plain (writable : store.Writable) (plain : ∀ entry ∈ store.entries, PlainText entry.name)
    (token : String) :
    decode (Form.modifiedKeyStore store ++ Seal.of token (Form.modifiedKeyStore store)) token = .ok store := by
  have form : Form.modifiedKeyStore store = Form.keyStore store := by
    rw [Form.modifiedKeyStore, Form.flatMap_modifiedEntry plain]
    rfl
  rw [form]
  refine (decode_eq_ok_iff ..).2 ⟨⟨writable.count, ?_, writable.distinct⟩, rfl⟩
  intro entry member
  exact (writable.entries entry member).fits (plain entry member)

/-- Entries in front of the first alias that is not plain are read as they were written. -/
private theorem decode_of_odd (writable : store.Writable) {front behind : List Entry} {odd : Entry}
    (split : store.entries = front ++ odd :: behind) (plain : ∀ entry ∈ front, PlainText entry.name)
    (other : ¬ PlainText odd.name) (trailer : Bytes) (token : String) :
    decode (Form.modifiedKeyStore store ++ trailer) token = .error (.invalidString front.length) := by
  obtain ⟨count, entries, distinct⟩ := writable
  rw [split] at count entries distinct
  have fits : ∀ entry ∈ front, entry.Fits := fun entry member =>
    (entries entry (List.mem_append_left _ member)).fits (plain entry member)
  have single : (front.map Entry.name).Nodup := by
    rw [List.map_append] at distinct
    exact (List.nodup_append.1 distinct).1
  have found := (Reading.refuses_modifiedEntry (entries odd (List.mem_append_right _ List.mem_cons_self)) other
    store.version front.length).append (behind.flatMap (Form.modifiedEntry store.version))
  have refuses : (Reading.entries id store.version (front ++ odd :: behind).length 0 []).Refuses
      ((front ++ odd :: behind).flatMap (Form.modifiedEntry store.version)) (.invalidString front.length) := by
    rw [List.flatMap_append, List.flatMap_cons, Form.flatMap_modifiedEntry plain, List.length_append]
    refine Reading.refuses_entries fits single (fun _ _ => List.not_mem_nil) ?_
    rw [Nat.zero_add]
    exact found.bind _
  obtain ⟨moved, failed⟩ := Reading.refuses_keyStore count refuses 0 trailer
  rw [← split] at failed
  exact decode_of_refused failed token

theorem decode_modified (writable : store.Writable) (token : String) :
    decode (Form.modifiedKeyStore store ++ Seal.of token (Form.modifiedKeyStore store)) token =
      (store.entries.findIdx? fun entry => ¬ PlainText entry.name).elim (.ok store)
        fun index => .error (.invalidString index) := by
  cases found : store.entries.findIdx? fun entry => ¬ PlainText entry.name with
  | none =>
    refine decode_of_plain writable ?_ token
    intro entry member
    simpa using List.findIdx?_eq_none_iff.1 found entry member
  | some index =>
    obtain ⟨inside, odd, plain⟩ := List.findIdx?_eq_some_iff_getElem.1 found
    have split : store.entries = store.entries.take index ++ store.entries[index] :: store.entries.drop (index + 1) := by
      rw [← List.drop_eq_getElem_cons inside, List.take_append_drop]
    have counted : (store.entries.take index).length = index := List.length_take_of_le (Nat.le_of_lt inside)
    have front : ∀ entry ∈ store.entries.take index, PlainText entry.name := by
      intro entry member
      obtain ⟨before, early, rfl⟩ := List.mem_take_iff_getElem.1 member
      simpa using plain before (Nat.lt_of_lt_of_le early (Nat.min_le_left _ _))
    have refused := decode_of_odd writable split front (by simpa using odd)
      (Seal.of token (Form.modifiedKeyStore store)) token
    rwa [counted] at refused

/-- What is written in modified UTF-8 is read back if it has neither U+0000 nor a character above
U+FFFF. Any other text is refused as no UTF-8, with the cursor just behind it, and a container at the
first alias of that kind. -/
theorem modified_texts_are_read_if_plain (name : String) (short : (ModifiedUtf8.encode name).length < BigEndian.bound 2)
    (store : KeyStore) (writable : store.Writable) :
    (∀ (index offset : Nat) (rest : Bytes),
      Reading.text index ⟨offset, BigEndian.encode 2 (ModifiedUtf8.encode name).length ++ ModifiedUtf8.encode name ++ rest⟩ =
        (if PlainText name then .ok name else .error (.invalidString index),
          ⟨offset + (2 + (ModifiedUtf8.encode name).length), rest⟩)) ∧
    ∀ token, decode (Form.modifiedKeyStore store ++ Seal.of token (Form.modifiedKeyStore store)) token =
      (store.entries.findIdx? fun entry => ¬ PlainText entry.name).elim (.ok store)
        fun index => .error (.invalidString index) := by
  refine ⟨?_, decode_modified writable⟩
  intro index offset rest
  rw [← Form.length_measured]
  exact Reading.text_modified short index offset rest

/-- The only character of the second alias is written as two surrogates. -/
def pairedStore : KeyStore :=
  ⟨.v2, [.trusted ⟨"é", draftMillis, [0x30]⟩, .trusted ⟨"😀", draftMillis, []⟩]⟩

private theorem writable_pairedStore : pairedStore.Writable where
  count := by decide
  distinct := by decide
  entries := by
    intro entry member
    simp only [pairedStore, List.mem_cons, List.not_mem_nil, or_false] at member
    rcases member with rfl | rfl <;> exact ⟨by decide, by decide, nofun⟩

theorem modified_texts_are_read_if_plain_paired :
    Reading.text 7 ⟨30, [0, 4, 0xc3, 0xa9, 0xc0, 0x80, 1]⟩ = (.error (.invalidString 7), ⟨36, [1]⟩) ∧
    decode (Form.modifiedKeyStore pairedStore ++ Seal.of "t" (Form.modifiedKeyStore pairedStore)) "t" =
      .error (.invalidString 1) := by
  obtain ⟨texts, stores⟩ := modified_texts_are_read_if_plain "é\u0000" (by decide) pairedStore writable_pairedStore
  exact ⟨texts 7 30 [1], stores "t"⟩

/-- Neither a text with U+0000 nor a container with an alias above U+FFFF is read back. -/
theorem modified_texts_are_not_all_read :
    (¬ ∀ (name : String) (index offset : Nat) (rest : Bytes), (ModifiedUtf8.encode name).length < BigEndian.bound 2 →
      Reading.text index ⟨offset, Form.modifiedText name ++ rest⟩ =
        (.ok name, ⟨offset + (Form.modifiedText name).length, rest⟩)) ∧
    ¬ ∀ (store : KeyStore) (token : String), store.Writable →
      decode (Form.modifiedKeyStore store ++ Seal.of token (Form.modifiedKeyStore store)) token = .ok store := by
  refine ⟨?_, ?_⟩
  · intro all
    have read := all "\u0000" 0 0 [] (by decide)
    rw [Reading.text_modified (by decide), if_neg (by decide)] at read
    cases congrArg Prod.fst read
  · intro all
    have read := all pairedStore "t" writable_pairedStore
    have split : pairedStore.entries = [.trusted ⟨"é", draftMillis, [0x30]⟩] ++ [.trusted ⟨"😀", draftMillis, []⟩] := rfl
    rw [decode_of_odd writable_pairedStore split (by decide) (by decide)] at read
    cases read

end KeyStore

end TrustRoots
