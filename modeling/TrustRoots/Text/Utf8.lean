import TrustRoots.Bytes.BigEndian

/-! Text as UTF-8 bytes. Reading accepts exactly what writing produces. -/

namespace TrustRoots.Utf8

def encode (text : String) : Bytes :=
  text.toByteArray.data.toList

def decode? (bytes : Bytes) : Option String :=
  String.fromUTF8? ⟨bytes.toArray⟩

@[simp] theorem decode?_encode (text : String) : decode? (encode text) = some text := by
  simp [decode?, encode, String.fromUTF8?, String.fromUTF8, text.isValidUTF8]

theorem eq_encode_of_decode? {bytes : Bytes} {text : String} (read : decode? bytes = some text) :
    bytes = encode text := by
  simp only [decode?, String.fromUTF8?, String.fromUTF8] at read
  split at read
  · cases read
    simp [encode]
  · cases read

theorem encode_append (first last : String) : encode (first ++ last) = encode first ++ encode last := by
  simp [encode]

theorem length_encode (text : String) : (encode text).length = text.utf8ByteSize := by
  rfl

theorem utf8ByteSize_ofList {characters : List Char} (ascii : ∀ c ∈ characters, c.utf8Size = 1) :
    (String.ofList characters).utf8ByteSize = characters.length := by
  induction characters with
  | nil => rfl
  | cons character rest ih =>
    have split : String.ofList (character :: rest) = String.singleton character ++ String.ofList rest := by
      simp
    have first := ascii character List.mem_cons_self
    have others := ih fun c member => ascii c (List.mem_cons_of_mem _ member)
    rw [split, String.utf8ByteSize_append, String.utf8ByteSize_singleton, first, others,
      List.length_cons]
    omega

theorem utf8ByteSize_eq_length {text : String} (ascii : ∀ c ∈ text.toList, c.utf8Size = 1) :
    text.utf8ByteSize = text.toList.length := by
  rw [← utf8ByteSize_ofList ascii, String.ofList_toList]

end TrustRoots.Utf8
