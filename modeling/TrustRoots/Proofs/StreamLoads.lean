import TrustRoots.Proofs.ContainerEnds
import TrustRoots.KeyStore.Stream

/-! A load is all or nothing. It sees of a stream only how it comes to its end and which bytes it has
delivered by then, so that neither the size of the pieces nor an interrupted read makes a difference.
After any number of loads there is the last store that one of them has yielded. -/

namespace TrustRoots

namespace ReadEvent

def bytes : ReadEvent → Bytes
  | delivered bytes => bytes
  | interrupted | failed _ => []

/-- There is more to be read after this: a piece with a byte in it, or a read to be tried again. -/
def GoesOn : ReadEvent → Prop
  | delivered bytes => bytes ≠ []
  | interrupted => True
  | failed _ => False

instance (event : ReadEvent) : Decidable event.GoesOn :=
  match event with
  | delivered bytes => inferInstanceAs (Decidable (bytes ≠ []))
  | interrupted => .isTrue trivial
  | failed _ => .isFalse id

end ReadEvent

namespace Stream
variable {reads stream : Stream} {bytes : Bytes} {reason : String}

/-- Pieces of any size, and interrupted reads among them, which together deliver the bytes. -/
structure Delivering (reads : Stream) (bytes : Bytes) : Prop where
  goesOn : ∀ event ∈ reads, event.GoesOn
  delivered : reads.flatMap ReadEvent.bytes = bytes

/-- A stream ends after its last read, or at a read that delivers nothing, behind which nothing is read. -/
inductive Ends : Stream → Bytes → Prop where
  | exhausted {reads : Stream} {bytes : Bytes} (delivering : Delivering reads bytes) : Ends reads bytes
  | emptyRead {reads : Stream} {bytes : Bytes} (delivering : Delivering reads bytes) (unread : Stream) :
      Ends (reads ++ .delivered [] :: unread) bytes

/-- A read fails once the bytes have been delivered. -/
inductive Breaks : Stream → Bytes → String → Prop where
  | failure {reads : Stream} {bytes : Bytes} (delivering : Delivering reads bytes) (reason : String)
      (unread : Stream) : Breaks (reads ++ .failed reason :: unread) bytes reason

private theorem delivering_nil : Delivering [] [] :=
  ⟨nofun, rfl⟩

theorem Delivering.cons {event : ReadEvent} (delivering : Delivering reads bytes) (goesOn : event.GoesOn) :
    Delivering (event :: reads) (event.bytes ++ bytes) := by
  obtain ⟨others, rfl⟩ := delivering
  exact ⟨List.forall_mem_cons.2 ⟨goesOn, others⟩, rfl⟩

theorem Ends.cons {event : ReadEvent} (ends : stream.Ends bytes) (goesOn : event.GoesOn) :
    Ends (event :: stream) (event.bytes ++ bytes) := by
  cases ends with
  | exhausted delivering => exact .exhausted (delivering.cons goesOn)
  | emptyRead delivering unread => exact .emptyRead (delivering.cons goesOn) unread

theorem Breaks.cons {event : ReadEvent} (breaks : stream.Breaks bytes reason) (goesOn : event.GoesOn) :
    Breaks (event :: stream) (event.bytes ++ bytes) reason := by
  cases breaks with
  | failure delivering reason unread => exact .failure (delivering.cons goesOn) reason unread

private theorem readToEnd_cons {event : ReadEvent} (goesOn : event.GoesOn) (rest : Stream) :
    readToEnd (event :: rest) = (readToEnd rest).map (event.bytes ++ ·) := by
  cases event with
  | delivered piece =>
    obtain ⟨byte, others, rfl⟩ := List.exists_cons_of_ne_nil goesOn
    exact readToEnd_delivered_cons byte others rest
  | interrupted =>
    rw [readToEnd_interrupted]
    cases readToEnd rest <;> rfl
  | failed reason => exact goesOn.elim

private theorem readToEnd_append_of_delivering (delivering : Delivering reads bytes) (rest : Stream) :
    readToEnd (reads ++ rest) = (readToEnd rest).map (bytes ++ ·) := by
  obtain ⟨goesOn, rfl⟩ := delivering
  induction reads with
  | nil => cases ended : readToEnd rest <;> simp [ended, Except.map]
  | cons event others ih =>
    obtain ⟨first, later⟩ := List.forall_mem_cons.1 goesOn
    rw [List.cons_append, readToEnd_cons first, ih later, List.flatMap_cons]
    cases readToEnd rest <;> simp [Except.map]

theorem readToEnd_of_ends (ends : stream.Ends bytes) : readToEnd stream = .ok bytes := by
  cases ends with
  | exhausted delivering =>
    have read := readToEnd_append_of_delivering delivering []
    rw [List.append_nil] at read
    rw [read]
    exact congrArg Except.ok (List.append_nil bytes)
  | emptyRead delivering unread =>
    rw [readToEnd_append_of_delivering delivering, readToEnd_delivered_nil]
    exact congrArg Except.ok (List.append_nil bytes)

theorem readToEnd_of_breaks (breaks : stream.Breaks bytes reason) : readToEnd stream = .error reason := by
  cases breaks with
  | failure delivering reason unread =>
    rw [readToEnd_append_of_delivering delivering, readToEnd_failed]
    rfl

theorem ends_or_breaks (stream : Stream) :
    (∃ bytes, stream.Ends bytes) ∨ ∃ bytes reason, stream.Breaks bytes reason := by
  induction stream with
  | nil => exact .inl ⟨[], .exhausted delivering_nil⟩
  | cons event rest ih =>
    by_cases goesOn : event.GoesOn
    · rcases ih with ⟨bytes, ends⟩ | ⟨bytes, reason, breaks⟩
      · exact .inl ⟨_, ends.cons goesOn⟩
      · exact .inr ⟨_, reason, breaks.cons goesOn⟩
    · cases event with
      | delivered piece =>
        obtain rfl : piece = [] := Decidable.not_not.1 goesOn
        exact .inl ⟨[], .emptyRead delivering_nil rest⟩
      | interrupted => exact absurd trivial goesOn
      | failed reason => exact .inr ⟨[], reason, .failure delivering_nil reason rest⟩

private theorem Ends.interrupted (ends : stream.Ends bytes) (count : Nat) :
    Ends (List.replicate count .interrupted ++ stream) bytes := by
  induction count with
  | zero => exact ends
  | succ count ih => exact ih.cons trivial

private theorem Breaks.interrupted (breaks : stream.Breaks bytes reason) (count : Nat) :
    Breaks (List.replicate count .interrupted ++ stream) bytes reason := by
  induction count with
  | zero => exact breaks
  | succ count ih => exact ih.cons trivial

private theorem delivering_delivered {pieceSize : Option Nat} (holding : pieceSize ≠ some 0) (bytes : Bytes) :
    Delivering (delivered pieceSize bytes) bytes := by
  refine ⟨?_, ?_⟩
  · intro event member
    obtain ⟨piece, cut, rfl⟩ := List.mem_map.1 member
    exact ne_nil_of_mem_pieces holding piece cut
  · rw [delivered, List.flatMap_map]
    exact List.flatMap_id.trans (flatten_pieces holding bytes)

private theorem ends_delivered (script : Script) :
    (delivered script.pieceSize script.bytes).Ends script.deliverable := by
  by_cases holding : script.pieceSize = some 0
  · rw [Script.deliverable, if_pos holding, holding]
    cases script.bytes with
    | nil => exact .exhausted delivering_nil
    | cons byte bytes => exact .emptyRead delivering_nil []
  · rw [Script.deliverable, if_neg holding]
    exact .exhausted (delivering_delivered holding script.bytes)

/-- A failure that the delivery reaches breaks the stream, however the bytes are cut. -/
theorem breaks_ofScript {script : Script} {offset : Nat} (planned : script.failure = some (offset, reason))
    (reached : offset ≤ script.deliverable.length) :
    (ofScript script).Breaks (script.bytes.take offset) reason := by
  have within : offset ≤ script.bytes.length := by
    unfold Script.deliverable at reached
    split at reached
    · exact Nat.le_trans reached (Nat.zero_le _)
    · exact reached
  have delivering : Delivering (delivered script.pieceSize (script.bytes.take offset)) (script.bytes.take offset) := by
    by_cases holding : script.pieceSize = some 0
    · rw [Script.deliverable, if_pos holding] at reached
      obtain rfl : offset = 0 := Nat.le_zero.1 reached
      exact delivering_nil
    · exact delivering_delivered holding _
  simp only [ofScript, planned, if_pos within]
  exact Breaks.interrupted (.failure delivering reason []) script.interruptions

theorem ends_ofScript {script : Script}
    (unreached : ∀ offset reason, script.failure = some (offset, reason) → script.deliverable.length < offset) :
    (ofScript script).Ends script.deliverable := by
  refine Ends.interrupted ?_ script.interruptions
  cases planned : script.failure with
  | none => exact ends_delivered script
  | some failure =>
    obtain ⟨offset, reason⟩ := failure
    have beyond := unreached offset reason planned
    by_cases within : offset ≤ script.bytes.length
    · simp only [if_pos within]
      by_cases holding : script.pieceSize = some 0
      · -- The failure lies behind a read that delivers nothing.
        rw [Script.deliverable, if_pos holding] at beyond ⊢
        have filled : script.bytes.take offset ≠ [] := by
          rw [← List.length_pos_iff, List.length_take_of_le within]
          exact beyond
        obtain ⟨byte, rest, cut⟩ := List.exists_cons_of_ne_nil filled
        rw [holding, cut]
        exact .emptyRead delivering_nil [.failed reason]
      · rw [Script.deliverable, if_neg holding] at beyond
        exact absurd within (Nat.not_le.2 beyond)
    · simp only [if_neg within]
      exact ends_delivered script

end Stream

/-- A stream to load from, with the token that its container is sealed for. -/
structure Delivery where
  stream : Stream
  token : String

/-- The whole stream has been delivered, and it is a container of this store. -/
def Delivery.Yields (delivery : Delivery) (store : KeyStore) : Prop :=
  ∃ bytes, delivery.stream.Ends bytes ∧ KeyStore.decode bytes delivery.token = .ok store

namespace KeyStore
variable {initial store : KeyStore} {stream : Stream} {bytes : Bytes} {reason : String}

def loadAll (store : KeyStore) (deliveries : List Delivery) : KeyStore :=
  deliveries.foldl (fun store delivery => (store.load delivery.stream delivery.token).value.2) store

/-- What the last delivery that yields a store has yielded. If none yields any, it is the one at first. -/
inductive Latest (initial : KeyStore) : List Delivery → KeyStore → Prop where
  | untouched {deliveries : List Delivery}
      (fruitless : ∀ delivery ∈ deliveries, ∀ store, ¬ delivery.Yields store) :
      Latest initial deliveries initial
  | yielded (front : List Delivery) {delivery : Delivery} {store : KeyStore} {back : List Delivery}
      (yields : delivery.Yields store) (fruitless : ∀ later ∈ back, ∀ other, ¬ later.Yields other) :
      Latest initial (front ++ delivery :: back) store

theorem load_of_ends (ends : stream.Ends bytes) (store : KeyStore) (token : String) :
    store.load stream token =
      match decode bytes token with
      | .ok loaded => ⟨(.ok (), loaded), [.decoded loaded.version loaded.entries.length]⟩
      | .error error => ⟨(.error error, store), []⟩ := by
  simp only [load, bind, ofStream, Stream.readToEnd_of_ends ends, accept]
  cases decode bytes token <;> rfl

theorem load_of_breaks (breaks : stream.Breaks bytes reason) (store : KeyStore) (token : String) :
    store.load stream token = ⟨(.error (.unreadable reason), store), []⟩ := by
  simp only [load, bind, ofStream, Stream.readToEnd_of_breaks breaks]
  rfl

theorem store_of_load_error {token : String} {error : KeyStoreError} {kept : KeyStore}
    (failed : (store.load stream token).value = (.error error, kept)) : kept = store := by
  rcases stream.ends_or_breaks with ⟨bytes, ends⟩ | ⟨bytes, reason, breaks⟩
  · rw [load_of_ends ends] at failed
    cases decoded : decode bytes token with
    | ok loaded =>
      rw [decoded] at failed
      cases failed
    | error cause =>
      rw [decoded] at failed
      cases failed
      rfl
  · rw [load_of_breaks breaks] at failed
    cases failed
    rfl

theorem load_of_yields {delivery : Delivery} (yields : delivery.Yields store) (before : KeyStore) :
    (before.load delivery.stream delivery.token).value.2 = store := by
  obtain ⟨bytes, ends, decoded⟩ := yields
  rw [load_of_ends ends, decoded]

theorem load_of_fruitless {delivery : Delivery} (fruitless : ∀ store, ¬ delivery.Yields store)
    (before : KeyStore) : (before.load delivery.stream delivery.token).value.2 = before := by
  rcases delivery.stream.ends_or_breaks with ⟨bytes, ends⟩ | ⟨bytes, reason, breaks⟩
  · rw [load_of_ends ends]
    cases decoded : decode bytes delivery.token with
    | ok loaded => exact absurd ⟨bytes, ends, decoded⟩ (fruitless loaded)
    | error cause => rfl
  · rw [load_of_breaks breaks]

private theorem Latest.cons_of_yields {delivery : Delivery} {rest : List Delivery} {loaded : KeyStore}
    (yields : delivery.Yields loaded) (latest : Latest loaded rest store) :
    Latest initial (delivery :: rest) store := by
  cases latest with
  | untouched fruitless => exact .yielded [] yields fruitless
  | yielded front gives fruitless => exact .yielded (delivery :: front) gives fruitless

private theorem Latest.cons_of_fruitless {delivery : Delivery} {rest : List Delivery}
    (barren : ∀ store, ¬ delivery.Yields store) (latest : Latest initial rest store) :
    Latest initial (delivery :: rest) store := by
  cases latest with
  | untouched fruitless => exact .untouched (List.forall_mem_cons.2 ⟨barren, fruitless⟩)
  | yielded front gives fruitless => exact .yielded (delivery :: front) gives fruitless

theorem latest_loadAll (initial : KeyStore) (deliveries : List Delivery) :
    Latest initial deliveries (initial.loadAll deliveries) := by
  induction deliveries generalizing initial with
  | nil => exact .untouched nofun
  | cons delivery rest ih =>
    rw [loadAll, List.foldl_cons, ← loadAll]
    by_cases fruitless : ∀ store, ¬ delivery.Yields store
    · rw [load_of_fruitless fruitless]
      exact (ih initial).cons_of_fruitless fruitless
    · obtain ⟨loaded, yields⟩ := Classical.not_forall_not.1 fruitless
      rw [load_of_yields yields]
      exact (ih loaded).cons_of_yields yields

private theorem loadAll_of_fruitless {deliveries : List Delivery}
    (fruitless : ∀ delivery ∈ deliveries, ∀ store, ¬ delivery.Yields store) (initial : KeyStore) :
    initial.loadAll deliveries = initial := by
  induction deliveries with
  | nil => rfl
  | cons delivery rest ih =>
    obtain ⟨first, later⟩ := List.forall_mem_cons.1 fruitless
    rw [loadAll, List.foldl_cons, load_of_fruitless first]
    exact ih later

theorem loadAll_eq_iff {deliveries : List Delivery} :
    initial.loadAll deliveries = store ↔ Latest initial deliveries store := by
  constructor
  · rintro rfl
    exact latest_loadAll initial deliveries
  · intro latest
    cases latest with
    | untouched fruitless => exact loadAll_of_fruitless fruitless initial
    | yielded front yields fruitless =>
      rw [loadAll, List.foldl_append, List.foldl_cons, load_of_yields yields]
      exact loadAll_of_fruitless fruitless store

/-- A load from a stream that ends does what decoding its bytes does, and one from a stream that breaks
fails with the reason, whatever has been delivered before; every stream does one or the other, and one
that follows a script does so as planned, in pieces of any size. A load that fails keeps the store, so
that loads into an empty store leave there the last store that one of them has yielded. -/
theorem loading_is_atomic :
    (∀ (store : KeyStore) stream bytes token, Stream.Ends stream bytes →
      store.load stream token =
        match decode bytes token with
        | .ok loaded => ⟨(.ok (), loaded), [.decoded loaded.version loaded.entries.length]⟩
        | .error error => ⟨(.error error, store), []⟩) ∧
    (∀ (store : KeyStore) stream delivered reason token, Stream.Breaks stream delivered reason →
      store.load stream token = ⟨(.error (.unreadable reason), store), []⟩) ∧
    (∀ stream, (∃ bytes, Stream.Ends stream bytes) ∨
      ∃ delivered reason, Stream.Breaks stream delivered reason) ∧
    (∀ script : Stream.Script,
      (∀ offset reason, script.failure = some (offset, reason) → offset ≤ script.deliverable.length →
        (Stream.ofScript script).Breaks (script.bytes.take offset) reason) ∧
      ((∀ offset reason, script.failure = some (offset, reason) → script.deliverable.length < offset) →
        (Stream.ofScript script).Ends script.deliverable)) ∧
    (∀ (store : KeyStore) stream token error kept,
      (store.load stream token).value = (.error error, kept) → kept = store) ∧
    (∀ deliveries store, empty.loadAll deliveries = store ↔ Latest ⟨.v2, []⟩ deliveries store) := by
  refine ⟨?_, ?_, Stream.ends_or_breaks, ?_, ?_, ?_⟩
  · intro store stream bytes token ends
    exact load_of_ends ends store token
  · intro store stream delivered reason token breaks
    exact load_of_breaks breaks store token
  · intro script
    exact ⟨fun _ _ planned reached => Stream.breaks_ofScript planned reached, Stream.ends_ofScript⟩
  · intro store stream token error kept failed
    exact store_of_load_error failed
  · intro deliveries store
    exact loadAll_eq_iff

def interruptedStream : Stream :=
  [.interrupted, .delivered (smallContainer.take 19), .interrupted, .interrupted,
    .delivered (smallContainer.drop 19), .delivered [], .failed "not reached"]

def brokenStream : Stream :=
  [.delivered smallContainer, .interrupted, .failed "cable pulled"]

private theorem ends_interruptedStream : interruptedStream.Ends smallContainer := by
  have delivering : Stream.Delivering (interruptedStream.take 5) smallContainer := ⟨by decide, by decide⟩
  exact .emptyRead delivering [.failed "not reached"]

private theorem breaks_brokenStream : brokenStream.Breaks smallContainer "cable pulled" := by
  have delivering : Stream.Delivering (brokenStream.take 2) smallContainer := ⟨by decide, by decide⟩
  exact .failure delivering "cable pulled" []

theorem loading_is_atomic_interrupted :
    empty.load interruptedStream "t" = ⟨(.ok (), smallStore), [.decoded .v1 1]⟩ ∧
    smallStore.load brokenStream "t" = ⟨(.error (.unreadable "cable pulled"), smallStore), []⟩ ∧
    Latest ⟨.v2, []⟩ [⟨interruptedStream, "t"⟩, ⟨brokenStream, "t"⟩] smallStore := by
  obtain ⟨ended, broken, _, _, _, sequence⟩ := loading_is_atomic
  have loaded := ended empty _ _ "t" ends_interruptedStream
  have kept := broken smallStore _ _ _ "t" breaks_brokenStream
  rw [decode_smallContainer] at loaded
  refine ⟨loaded, kept, (sequence _ _).1 ?_⟩
  rw [loadAll, List.foldl_cons, loaded, List.foldl_cons, kept]
  rfl

end KeyStore

end TrustRoots
