import TrustRoots.KeyStore.Decode
import TrustRoots.Log

/-! Key stores read from streams. A stream is what its reads will give, one after the other: it
is read to its end before a byte is decoded, so that a failed read wins over any defect. A read
that delivers nothing is the end. -/

namespace TrustRoots

inductive ReadEvent where
  | delivered (bytes : Bytes)
  | interrupted
  | failed (reason : String)

abbrev Stream := List ReadEvent

namespace Stream

/-- Reads on behind pieces already read, which are held last first. An interrupted read is
tried again. -/
def readOnto (read : List Bytes) : Stream → Except String Bytes
  | [] => .ok read.reverse.flatten
  | .delivered [] :: _ => .ok read.reverse.flatten
  | .delivered (byte :: bytes) :: rest => readOnto ((byte :: bytes) :: read) rest
  | .interrupted :: rest => readOnto read rest
  | .failed reason :: _ => .error reason

def readToEnd (stream : Stream) : Except String Bytes :=
  readOnto [] stream

private theorem readOnto_eq (read : List Bytes) (stream : Stream) :
    readOnto read stream = (readToEnd stream).map (read.reverse.flatten ++ ·) := by
  induction stream generalizing read with
  | nil => simp [readToEnd, readOnto, Except.map]
  | cons event rest ih =>
    cases event with
    | delivered bytes =>
      cases bytes with
      | nil => simp [readToEnd, readOnto, Except.map]
      | cons byte bytes =>
        have started : readToEnd (.delivered (byte :: bytes) :: rest) =
          readOnto [byte :: bytes] rest := rfl
        simp only [started, readOnto, ih ((byte :: bytes) :: read), ih [byte :: bytes]]
        cases ended : readToEnd rest <;> simp [Except.map]
    | interrupted => simpa only [readToEnd, readOnto] using ih read
    | failed reason => simp [readToEnd, readOnto, Except.map]

theorem readToEnd_delivered_nil (rest : Stream) : readToEnd (.delivered [] :: rest) = .ok [] := rfl

theorem readToEnd_delivered_cons (byte : UInt8) (bytes : Bytes) (rest : Stream) :
    readToEnd (.delivered (byte :: bytes) :: rest) =
      (readToEnd rest).map (byte :: bytes ++ ·) := by
  simp only [readToEnd, readOnto, readOnto_eq [byte :: bytes]]
  simp

theorem readToEnd_interrupted (rest : Stream) :
    readToEnd (.interrupted :: rest) = readToEnd rest := rfl

theorem readToEnd_failed (reason : String) (rest : Stream) :
    readToEnd (.failed reason :: rest) = .error reason := rfl

/-- The piece being cut and the pieces before it, all of them last first, and how many bytes
the piece still takes. -/
structure Cutting where
  room : Nat
  piece : Bytes
  earlier : List Bytes

namespace Cutting

/-- Adds a byte to the piece, or begins a piece with it in which a number of others have room. -/
def add (others : Nat) (cutting : Cutting) (byte : UInt8) : Cutting :=
  match cutting.room with
  | room + 1 => { cutting with room, piece := byte :: cutting.piece }
  | 0 => ⟨others, [byte], cutting.piece.reverse :: cutting.earlier⟩

def pieces (cutting : Cutting) : List Bytes :=
  (cutting.piece.reverse :: cutting.earlier).reverse

private theorem flatten_pieces_add (others : Nat) (cutting : Cutting) (byte : UInt8) :
    (cutting.add others byte).pieces.flatten = cutting.pieces.flatten ++ [byte] := by
  simp only [add, pieces]
  split <;> simp

private theorem ne_nil_of_mem_pieces_add {others : Nat} {cutting : Cutting} {byte : UInt8}
    (filled : ∀ piece ∈ cutting.pieces, piece ≠ []) :
    ∀ piece ∈ (cutting.add others byte).pieces, piece ≠ [] := by
  simp only [pieces, List.mem_reverse, List.mem_cons] at filled ⊢
  intro piece member
  unfold add at member
  split at member
  · rcases member with rfl | member
    · simp
    · exact filled piece (.inr member)
  · rcases member with rfl | member
    · simp
    · exact filled piece (List.mem_cons.1 member)

private theorem flatten_pieces_foldl (others : Nat) (bytes : Bytes) (cutting : Cutting) :
    (bytes.foldl (add others) cutting).pieces.flatten = cutting.pieces.flatten ++ bytes := by
  induction bytes generalizing cutting with
  | nil => simp
  | cons byte rest ih => simp [ih, flatten_pieces_add]

private theorem ne_nil_of_mem_pieces_foldl {others : Nat} (bytes : Bytes) {cutting : Cutting}
    (filled : ∀ piece ∈ cutting.pieces, piece ≠ []) :
    ∀ piece ∈ (bytes.foldl (add others) cutting).pieces, piece ≠ [] := by
  induction bytes generalizing cutting with
  | nil => exact filled
  | cons byte rest ih => exact ih (ne_nil_of_mem_pieces_add filled)

end Cutting

/-- Consecutive pieces of at most the given size, each with a byte in it at least. If none may
hold a byte, there is just the one that holds none. -/
def pieces (size : Option Nat) : Bytes → List Bytes
  | [] => []
  | first :: rest =>
    match size with
    | none => [first :: rest]
    | some 0 => [[]]
    | some (others + 1) => (rest.foldl (Cutting.add others) ⟨others, [first], []⟩).pieces

theorem flatten_pieces {size : Option Nat} (holding : size ≠ some 0) (bytes : Bytes) :
    (pieces size bytes).flatten = bytes := by
  cases bytes with
  | nil => rfl
  | cons first rest =>
    match size with
    | none => simp [pieces]
    | some 0 => exact absurd rfl holding
    | some (others + 1) =>
      have cut := Cutting.flatten_pieces_foldl others rest ⟨others, [first], []⟩
      simpa [pieces, Cutting.pieces] using cut

theorem ne_nil_of_mem_pieces {size : Option Nat} (holding : size ≠ some 0) {bytes : Bytes} :
    ∀ piece ∈ pieces size bytes, piece ≠ [] := by
  cases bytes with
  | nil => simp [pieces]
  | cons first rest =>
    match size with
    | none => simp [pieces]
    | some 0 => exact absurd rfl holding
    | some (others + 1) =>
      exact Cutting.ne_nil_of_mem_pieces_foldl rest (by simp [Cutting.pieces])

/-- A rehearsed delivery: some interrupted reads, then the bytes in pieces of at most a given
size, cut short by a failure if one is planned at an offset that the bytes reach. -/
structure Script where
  bytes : Bytes
  pieceSize : Option Nat := none
  interruptions : Nat := 0
  failure : Option (Nat × String) := none

/-- The bytes that can come out of a delivery. -/
def Script.deliverable (script : Script) : Bytes :=
  if script.pieceSize = some 0 then [] else script.bytes

def delivered (pieceSize : Option Nat) (bytes : Bytes) : Stream :=
  (pieces pieceSize bytes).map .delivered

def ofScript (script : Script) : Stream :=
  List.replicate script.interruptions .interrupted ++
    match script.failure with
    | some (offset, reason) =>
      if offset ≤ script.bytes.length then
        delivered script.pieceSize (script.bytes.take offset) ++ [.failed reason]
      else delivered script.pieceSize script.bytes
    | none => delivered script.pieceSize script.bytes

end Stream

namespace KeyStore

def accept (bytes : Bytes) (token : String) : Logged (Except KeyStoreError KeyStore) :=
  match decode bytes token with
  | .error error => ⟨.error error, []⟩
  | .ok store => ⟨.ok store, [.decoded store.version store.entries.length]⟩

def ofStream (stream : Stream) (token : String) : Logged (Except KeyStoreError KeyStore) :=
  match stream.readToEnd with
  | .error reason => ⟨.error (.unreadable reason), []⟩
  | .ok bytes => accept bytes token

/-- Replaces a store by what a stream holds. On an error the store stays as it was. -/
def load (store : KeyStore) (stream : Stream) (token : String) :
    Logged (Except KeyStoreError Unit × KeyStore) := do
  match ← ofStream stream token with
  | .error error => return (.error error, store)
  | .ok loaded => return (.ok (), loaded)

end KeyStore

end TrustRoots
