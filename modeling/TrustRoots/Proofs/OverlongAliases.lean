import TrustRoots.Proofs.DraftDefects
import TrustRoots.Proofs.TokenBytes

/-! Aliases that are too long for their width. A draft writes them whole behind the largest length, so
that a reader takes the end of such an alias for what should follow it. What is read agrees with what
was written up to the first such entry, of which the tag and the beginning of the alias remain. The
rest may be read as something else, and a whole container as that of another store. -/

namespace TrustRoots

theorem Reading.Reads.form_inj {reading : Reading α} {fits : α → Prop} {form : α → Bytes}
    (reads : reading.Reads fits form) {first second : α} {rest others : Bytes} (fit : fits first)
    (otherFit : fits second) (same : form first ++ rest = form second ++ others) : first = second ∧ rest = others := by
  have read := (reads ⟨0, form first ++ rest⟩ first ⟨(form first).length, rest⟩).2
    ⟨fit, rfl, (Nat.zero_add _).symm⟩
  have reread := (reads ⟨0, form first ++ rest⟩ second ⟨(form second).length, others⟩).2
    ⟨otherFit, same, (Nat.zero_add _).symm⟩
  cases read.symm.trans reread
  exact ⟨rfl, rfl⟩

/-- Every length in the entry but that of the alias can be written in the width that it has. -/
structure Entry.ContentFits (entry : Entry) : Prop where
  certificates : ∀ der ∈ entry.certificates, der.length < BigEndian.bound 4
  key : ∀ key, entry = .privateKey key →
    key.protectedKey.length < BigEndian.bound 4 ∧ key.chain.length < BigEndian.bound 4

/-- What is read for an entry: the entry itself, or what is left of one with an overlong alias. -/
def Entry.ReadAs (entry found : Entry) : Prop :=
  if entry.name.utf8ByteSize < BigEndian.bound 2 then found = entry
  else found.tag = entry.tag ∧ Utf8.encode found.name = (Utf8.encode entry.name).take (BigEndian.bound 2 - 1)

namespace Draft
variable {version : FormatVersion} {entry found : Entry} {rest others : Bytes}

private theorem form_of_short (short : entry.name.utf8ByteSize < BigEndian.bound 2) (fits : entry.ContentFits)
    (foundFits : found.Fits)
    (same : Draft.entry version x509 (.stored entry) ++ rest = Form.entry version found ++ others) :
    found = entry ∧ rest = others := by
  have whole : entry.Fits := ⟨short, fits.certificates, fits.key⟩
  rw [entry_stored whole (.inr (.inl rfl))] at same
  obtain ⟨rfl, behind⟩ := (Reading.reads_entry version 0).form_inj whole foundFits same
  exact ⟨rfl, behind⟩

private theorem form_of_long (long : BigEndian.bound 2 ≤ entry.name.utf8ByteSize) (foundFits : found.Fits)
    (same : Draft.entry version x509 (.stored entry) ++ rest = Form.entry version found ++ others) :
    found.tag = entry.tag ∧ Utf8.encode found.name = (Utf8.encode entry.name).take (BigEndian.bound 2 - 1) := by
  simp only [entry_eq, Form.entry, List.append_assoc] at same
  obtain ⟨tagged, behind⟩ := BigEndian.encode_append_inj entry.tag_lt found.tag_lt same
  have saturated : min (Utf8.encode entry.name).length (BigEndian.bound 2 - 1) = BigEndian.bound 2 - 1 := by
    rw [Utf8.length_encode]
    omega
  simp only [text, measured, Form.text, Form.measured, saturated, List.append_assoc] at behind
  obtain ⟨length, names⟩ : BigEndian.bound 2 - 1 = (Utf8.encode found.name).length ∧ _ :=
    BigEndian.encode_append_inj (by decide) foundFits.name behind
  refine ⟨tagged.symm, ?_⟩
  rw [length]
  refine List.prefix_iff_eq_take.1 (List.prefix_of_prefix_length_le ⟨_, names.symm⟩ (List.prefix_append _ _) ?_)
  rw [← length, Utf8.length_encode]
  omega

/-- Entries in front of the first overlong alias take up what they should, so that the next entry is
read from its own beginning. -/
private theorem readAs_of_forms {entries founds : List Entry} (counts : entries.length = founds.length)
    (fits : ∀ entry ∈ entries, entry.ContentFits) (foundFits : ∀ found ∈ founds, found.Fits)
    (same : entries.flatMap (fun entry => Draft.entry version x509 (.stored entry)) =
      founds.flatMap (Form.entry version))
    {index : Nat} (located : entries[index]? = some entry)
    (short : ∀ before < index, ∀ earlier : Entry, entries[before]? = some earlier →
      earlier.name.utf8ByteSize < BigEndian.bound 2) :
    ∃ found, founds[index]? = some found ∧ entry.ReadAs found := by
  induction index generalizing entries founds with
  | zero =>
    cases entries with
    | nil => cases located
    | cons first rest =>
      cases located
      cases founds with
      | nil => cases counts
      | cons found others =>
        refine ⟨found, rfl, ?_⟩
        have firstFits := foundFits found List.mem_cons_self
        rw [Entry.ReadAs]
        split
        next short => exact (form_of_short short (fits entry List.mem_cons_self) firstFits same).1
        next long => exact form_of_long (Nat.le_of_not_lt long) firstFits same
  | succ index ih =>
    cases entries with
    | nil => cases located
    | cons first rest =>
      cases founds with
      | nil => cases counts
      | cons found others =>
        obtain ⟨firstFits, restFits⟩ := List.forall_mem_cons.1 fits
        obtain ⟨foundFits, othersFit⟩ := List.forall_mem_cons.1 foundFits
        have firstShort := short 0 (Nat.succ_pos index) first rfl
        obtain ⟨_, behind⟩ := form_of_short firstShort firstFits foundFits same
        exact ih (Nat.succ.inj counts) restFits othersFit behind located fun before early =>
          short (before + 1) (Nat.succ_lt_succ early)

private theorem body_eq_form {entries : List Entry} {store : KeyStore} (few : entries.length < BigEndian.bound 4)
    (foundFew : store.entries.length < BigEndian.bound 4)
    (same : body ⟨version, x509, entries.map .stored⟩ = Form.keyStore store) :
    store.version = version ∧ entries.length = store.entries.length ∧
      entries.flatMap (fun entry => Draft.entry version x509 (.stored entry)) =
        store.entries.flatMap (Form.entry store.version) := by
  simp only [body, Form.keyStore, List.length_map, count_of_lt few, List.flatMap_map, List.append_assoc] at same
  obtain ⟨versions, behind⟩ :=
    Reading.reads_formatVersion.form_inj trivial trivial (List.append_cancel_left same)
  obtain ⟨counts, behind⟩ := BigEndian.encode_append_inj few foundFew behind
  exact ⟨versions.symm, counts, behind⟩

end Draft

namespace KeyStore

theorem body_of_accepted {draft : Draft} {sealing token : String} {store : KeyStore}
    (accepted : decode (draft.encode sealing) token = .ok store) : draft.body = Form.keyStore store := by
  rw [← body_of_decode accepted, Draft.encode]
  exact (Seal.body_append (Seal.length_of _ _)).symm

/-- A store that is read from a draft has its version and as many entries. Each of them is the one that
was written, up to the first whose alias is too long for its length; of that one the tag is left, and
as much of the alias as a length can tell. Without such an alias nothing else is read. -/
theorem overlong_aliases_are_cut (version : FormatVersion) (entries : List Entry) (sealing token : String)
    (store : KeyStore) (few : entries.length < BigEndian.bound 4) (fits : ∀ entry ∈ entries, entry.ContentFits)
    (accepted : decode (Draft.encode ⟨version, x509, entries.map .stored⟩ sealing) token = .ok store) :
    store.version = version ∧ store.entries.length = entries.length ∧
    (∀ (index : Nat) (entry : Entry), entries[index]? = some entry →
      (∀ before < index, ∀ earlier : Entry, entries[before]? = some earlier →
        earlier.name.utf8ByteSize < BigEndian.bound 2) →
      ∃ found, store.entries[index]? = some found ∧ entry.ReadAs found) ∧
    ((∀ entry ∈ entries, entry.name.utf8ByteSize < BigEndian.bound 2) → store = ⟨version, entries⟩) := by
  have wellFormed := ((decode_eq_ok_iff ..).1 accepted).1
  obtain ⟨rfl, counts, forms⟩ := Draft.body_eq_form few wellFormed.count (body_of_accepted accepted)
  have read (index : Nat) (entry : Entry) (located : entries[index]? = some entry) :=
    Draft.readAs_of_forms counts fits wellFormed.fits forms located
  refine ⟨rfl, counts.symm, read, ?_⟩
  intro short
  have same : store.entries = entries := by
    refine List.ext_getElem? fun index => ?_
    cases located : entries[index]? with
    | none =>
      rw [List.getElem?_eq_none_iff, ← counts]
      exact List.getElem?_eq_none_iff.1 located
    | some entry =>
      obtain ⟨found, there, readAs⟩ := read index entry located fun _ _ earlier there =>
        short earlier (List.mem_of_getElem? there)
      rw [Entry.ReadAs, if_pos (short entry (List.mem_of_getElem? located))] at readAs
      rw [there, readAs]
  rw [← same]

/-- An alias that goes on behind its length with a date and the length of what is left. -/
def spillingAlias (front : String) : String :=
  front ++ "aaaaaaaa\x00\x00\x00\x0c"

/-- What is read for it: the date of the draft and the length of the certificate make up another one. -/
def spilled (front : String) : Entry :=
  .trusted ⟨front, 0x6161616161616161, [0, 0, 0x01, 0x8b, 0xcf, 0xe5, 0x68, 0, 0, 0, 0, 0]⟩

private theorem text_of_spilling {front : String} (full : front.utf8ByteSize = BigEndian.bound 2 - 1) :
    Draft.text (spillingAlias front) =
      Form.text front ++ [0x61, 0x61, 0x61, 0x61, 0x61, 0x61, 0x61, 0x61, 0, 0, 0, 0x0c] := by
  have filled : (Utf8.encode front).length = BigEndian.bound 2 - 1 := full
  have written : Utf8.encode (spillingAlias front) =
      Utf8.encode front ++ [0x61, 0x61, 0x61, 0x61, 0x61, 0x61, 0x61, 0x61, 0, 0, 0, 0x0c] := by
    rw [spillingAlias, Utf8.encode_append]
    rfl
  have saturated : min (Utf8.encode (spillingAlias front)).length (BigEndian.bound 2 - 1) =
      (Utf8.encode front).length := by
    rw [written, List.length_append, filled]
    omega
  rw [Draft.text, Draft.measured, saturated, written, Form.text, Form.measured, List.append_assoc]

private theorem body_of_spilling {front : String} (full : front.utf8ByteSize = BigEndian.bound 2 - 1) :
    Draft.body ⟨.v1, x509, [.stored (.trusted ⟨spillingAlias front, draftMillis, []⟩)]⟩ =
      Form.keyStore ⟨.v1, [spilled front]⟩ := by
  have counted : Draft.count 1 = BigEndian.encode 4 1 := Draft.count_of_lt (by decide)
  have behind : [0x61, 0x61, 0x61, 0x61, 0x61, 0x61, 0x61, 0x61, 0, 0, 0, 0x0c] ++
        (BigEndian.encode 8 draftMillis.toNat ++ Draft.blob []) =
      BigEndian.encode 8 (0x6161616161616161 : UInt64).toNat ++
        Form.blob [0, 0, 0x01, 0x8b, 0xcf, 0xe5, 0x68, 0, 0, 0, 0, 0] := by
    decide
  simp only [Draft.body, Form.keyStore, List.length_singleton, counted, List.flatMap_singleton, Draft.entry_eq,
    Form.entry, spilled, Entry.name, Entry.tag, Entry.createdMillis, Draft.content, Form.content,
    Draft.certificate, Form.certificate, text_of_spilling full, List.append_assoc, behind]

theorem decode_of_spilling {front : String} (full : front.utf8ByteSize = BigEndian.bound 2 - 1) (token : String) :
    decode (Draft.encode ⟨.v1, x509, [.stored (.trusted ⟨spillingAlias front, draftMillis, []⟩)]⟩ token) token =
      .ok ⟨.v1, [spilled front]⟩ := by
  have small : front.utf8ByteSize < BigEndian.bound 2 := full ▸ by decide
  have few : 1 < BigEndian.bound 4 := by decide
  have short : 12 < BigEndian.bound 4 := by decide
  have wellFormed : WellFormed ⟨.v1, [spilled front]⟩ := by
    refine ⟨few, ?_, List.pairwise_singleton _ _⟩
    intro entry member
    rw [List.mem_singleton.1 member]
    exact (Entry.fits_trusted_iff _).2 ⟨small, short⟩
  rw [decode_eq_ok_iff, Draft.encode, body_of_spilling full]
  exact ⟨wellFormed, rfl⟩

private theorem utf8ByteSize_replicate (count : Nat) :
    (String.ofList (List.replicate count 'a')).utf8ByteSize = count := by
  rw [Utf8.utf8ByteSize_ofList, List.length_replicate]
  intro character member
  rw [List.eq_of_mem_replicate member]
  rfl

/-- An alias of as many bytes as a length can tell. -/
def longestAlias : String :=
  String.ofList (List.replicate (BigEndian.bound 2 - 1) 'a')

private theorem utf8ByteSize_longestAlias : longestAlias.utf8ByteSize = BigEndian.bound 2 - 1 :=
  utf8ByteSize_replicate _

/-- A certificate under an alias that is too long by twelve bytes. -/
def overlong : Entry :=
  .trusted ⟨spillingAlias longestAlias, draftMillis, []⟩

private theorem contentFits_overlong : overlong.ContentFits := by
  have small : ([] : Bytes).length < BigEndian.bound 4 := by decide
  exact ⟨fun der member => List.mem_singleton.1 member ▸ small, nofun⟩

theorem decode_of_overlong (token : String) :
    decode (Draft.encode ⟨.v1, x509, [overlong].map .stored⟩ token) token = .ok ⟨.v1, [spilled longestAlias]⟩ :=
  decode_of_spilling utf8ByteSize_longestAlias token

theorem overlong_aliases_are_cut_spilled :
    ∃ found, [spilled longestAlias][0]? = some found ∧ overlong.ReadAs found := by
  have few : 1 < BigEndian.bound 4 := by decide
  have fits : ∀ entry ∈ [overlong], entry.ContentFits := fun entry member =>
    List.mem_singleton.1 member ▸ contentFits_overlong
  obtain ⟨_, _, read, _⟩ := overlong_aliases_are_cut .v1 [overlong] "t" "t" _ few fits (decode_of_overlong "t")
  exact read 0 overlong rfl fun before impossible => absurd impossible (Nat.not_lt_zero before)

/-- A draft with an overlong alias may be written as the container of another store. -/
theorem overlong_alias_is_read_as_another :
    ¬ ∀ (version : FormatVersion) (entries : List Entry) (token : String) (store : KeyStore),
      entries.length < BigEndian.bound 4 →
      (∀ entry ∈ entries, entry.ContentFits ∧ entry.createdMillis = draftMillis) →
      decode (Draft.encode ⟨version, x509, entries.map .stored⟩ token) token = .ok store →
      store = ⟨version, entries⟩ := by
  intro undone
  have few : 1 < BigEndian.bound 4 := by decide
  have same := undone .v1 [overlong] "t" ⟨.v1, [spilled longestAlias]⟩ few
    (fun entry member => List.mem_singleton.1 member ▸ ⟨contentFits_overlong, rfl⟩) (decode_of_overlong "t")
  simp [spilled, overlong] at same

end KeyStore

end TrustRoots
