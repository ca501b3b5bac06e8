import TrustRoots.Digest.Block

/-! The SHA-1 digest, twenty bytes for every message. -/

namespace TrustRoots.Sha1
open Digest

structure State where
  a : UInt32
  b : UInt32
  c : UInt32
  d : UInt32
  e : UInt32

def start : State :=
  ⟨0x67452301, 0xefcdab89, 0x98badcfe, 0x10325476, 0xc3d2e1f0⟩

def choose (b c d : UInt32) : UInt32 := (b &&& c) ||| (~~~b &&& d)

def parity (b c d : UInt32) : UInt32 := b ^^^ c ^^^ d

def majority (b c d : UInt32) : UInt32 := (b &&& c) ||| (b &&& d) ||| (c &&& d)

def round (mix : UInt32 → UInt32 → UInt32 → UInt32) (constant : UInt32) (state : State)
    (next : UInt32) : State where
  a := rotateLeft state.a 5 + mix state.b state.c state.d + state.e + constant + next
  b := state.a
  c := rotateLeft state.b 30
  d := state.c
  e := state.d

def nextWord (schedule : List UInt32) : UInt32 :=
  rotateLeft (schedule.getD 2 0 ^^^ schedule.getD 7 0 ^^^ schedule.getD 13 0 ^^^ schedule.getD 15 0) 1

def compress (state : State) (block : List UInt32) : State :=
  let schedule := (extend nextWord 64 block).reverse
  let first := (schedule.take 20).foldl (round choose 0x5a827999) state
  let second := ((schedule.drop 20).take 20).foldl (round parity 0x6ed9eba1) first
  let third := ((schedule.drop 40).take 20).foldl (round majority 0x8f1bbcdc) second
  let last := (schedule.drop 60).foldl (round parity 0xca62c1d6) third
  ⟨state.a + last.a, state.b + last.b, state.c + last.c, state.d + last.d, state.e + last.e⟩

def State.bytes (state : State) : Bytes :=
  bytesOf [state.a, state.b, state.c, state.d, state.e]

def digest (message : Bytes) : Bytes :=
  (run compress start message).bytes

@[simp] theorem length_digest (message : Bytes) : (digest message).length = 20 := by
  simp [digest, State.bytes, length_bytesOf]

end TrustRoots.Sha1
