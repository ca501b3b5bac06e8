import TrustRoots.KeyStore.Cursor
import TrustRoots.KeyStore.Seal

/-! Reading on a machine, whose numbers are words. A reader is a place in a buffer, and what the
machine cannot do ends the program: a sum that is no word, a difference below zero, a cut outside the
bytes, a copy between different lengths. The answer that a reader keeps for a cut which fails although
its ends have been checked counts as such an end too, so that it shows if it is ever needed. -/

namespace TrustRoots

inductive Fault where
  | overflow
  | underflow
  | outside
  | mismatch
  | fallback (answer : KeyStoreError)
  deriving DecidableEq

theorem Fault.ok_bind (value : α) (next : α → Except Fault β) : (Except.ok value >>= next) = next value := rfl

namespace Word

/-- There are as many words as the size says. -/
def sum (size first second : Nat) : Except Fault Nat :=
  if first + second < size then .ok (first + second) else .error .overflow

def difference (first second : Nat) : Except Fault Nat :=
  if second ≤ first then .ok (first - second) else .error .underflow

/-- A number as a word, or the greatest word if the number is none. -/
def saturated (size number : Nat) : Nat :=
  if number < size then number else size - 1

end Word

/-- The bytes between two places, if the places lie in this order within the bytes. -/
def cut? (bytes : Bytes) (start stop : Nat) : Option Bytes :=
  if start ≤ stop ∧ stop ≤ bytes.length then some ((bytes.take stop).drop start) else none

def splitBytes (bytes : Bytes) (place : Nat) : Except Fault (Bytes × Bytes) :=
  if place ≤ bytes.length then .ok (bytes.take place, bytes.drop place) else .error .outside

structure Buffer where
  bytes : Bytes
  offset : Nat

/-- A step of reading that the machine may not survive. -/
def Guarded (α : Type) : Type :=
  Buffer → Except Fault (Except KeyStoreError α × Buffer)

namespace Guarded

instance : Monad Guarded where
  pure value := fun buffer => .ok (.ok value, buffer)
  bind first next := fun buffer =>
    match first buffer with
    | .ok (.ok value, moved) => next value moved
    | .ok (.error error, moved) => .ok (.error error, moved)
    | .error fault => .error fault

def refuse (error : KeyStoreError) : Guarded α :=
  fun buffer => .ok (.error error, buffer)

def stop (fault : Fault) : Guarded α :=
  fun _ => .error fault

variable (size : Nat)

/-- The length is compared with what remains, which is nothing for a place beyond the bytes. -/
def take (length : Nat) : Guarded Bytes := fun buffer => do
  let remaining := buffer.bytes.length - buffer.offset
  if remaining < length then
    let needed ← Word.difference length remaining
    return (.error (.truncated buffer.offset needed), buffer)
  else
    let offset ← Word.sum size buffer.offset length
    match cut? buffer.bytes buffer.offset offset with
    | some taken => return (.ok taken, { buffer with offset })
    | none => .error (.fallback (.truncated buffer.offset length))

/-- The bytes are copied to where there is room for as many as the width says. -/
def number (width : Nat) : Guarded Nat := do
  let taken ← take size width
  if taken.length = width then return BigEndian.decode taken
  else stop .mismatch

def text (index : Nat) : Guarded String := do
  let length ← number size 2
  let bytes ← take size length
  match Utf8.decode? bytes with
  | some text => return text
  | none => refuse (.invalidString index)

/-- A length that is no word cannot be satisfied, and neither can the greatest word. -/
def blob : Guarded Bytes := do
  let length ← number size 4
  take size (Word.saturated size length)

end Guarded

/-- What is wrong with the bytes behind a body of the given length, if anything is. -/
def Seal.guardedDefect? (token : String) (bytes : Bytes) (bodyLength : Nat) :
    Except Fault (Option KeyStoreError) := do
  let (body, trailer) ← splitBytes bytes bodyLength
  if trailer.length < length then
    let needed ← Word.difference length trailer.length
    return some (.truncated bodyLength needed)
  else if length < trailer.length then
    let surplus ← Word.difference trailer.length length
    return some (.trailingBytes surplus)
  else if agree (of token body) trailer then return none
  else return some .integrityCheckFailed

end TrustRoots
