/-! The characters with the Unicode property White_Space, and texts trimmed of them at both
ends. Characters that merely look blank, such as U+200B and U+FEFF, do not have it. -/

namespace TrustRoots.Blank

/-- Ranges of code points with the property, both ends included. -/
def ranges : List (Nat × Nat) :=
  [(0x9, 0xd), (0x20, 0x20), (0x85, 0x85), (0xa0, 0xa0), (0x1680, 0x1680), (0x2000, 0x200a),
   (0x2028, 0x2029), (0x202f, 0x202f), (0x205f, 0x205f), (0x3000, 0x3000)]

def isBlank (character : Char) : Bool :=
  ranges.any fun (first, last) => first ≤ character.toNat && character.toNat ≤ last

def trimStart (text : List Char) : List Char :=
  text.dropWhile isBlank

def trimEnd (text : List Char) : List Char :=
  (text.reverse.dropWhile isBlank).reverse

def trim (text : List Char) : List Char :=
  trimEnd (trimStart text)

/-- The text without its surrounding blanks, or nothing if no other character is left. -/
def trimmed? (text : String) : Option String :=
  let kept := trim text.toList
  if kept = [] then none else some (String.ofList kept)

end TrustRoots.Blank
