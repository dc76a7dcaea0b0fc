import MouseControl.Text.Basic

/-!
Texts of the environment. A variable holds bytes, which are read as UTF-8; a byte that belongs to no
character is read as a surrogate, U+DC00 plus the byte, and is set by it again. So a text is read
back as it was set, except that surrogates which together spell a character become that character.
-/

set_option autoImplicit false
set_option relaxedAutoImplicit false

namespace MouseControl

/-- The byte that a code point stands for in the environment. -/
def CodePoint.escapedByte? (c : CodePoint) : Option UInt8 :=
  if 0xDC80 ≤ c && c ≤ 0xDCFF then some (UInt8.ofNat (c - 0xDC00)) else none

namespace Text

/-- The bytes that the code points at the start of a text stand for. -/
def escapedBytes : Text → List UInt8
  | [] => []
  | c :: rest =>
    match c.escapedByte? with
    | some b => b :: escapedBytes rest
    | none => []

/-- The character that is the whole of some bytes in UTF-8. -/
def character? (bytes : List UInt8) : Option Char :=
  match (String.fromUTF8? ⟨bytes.toArray⟩).map String.toList with
  | some [c] => some c
  | _ => none

/-- The character that the surrogates at the start of a text spell, and how many they are. -/
def spelled? (t : Text) : Option (Char × Nat) :=
  [2, 3, 4].findSome? fun n ↦ (character? (t.escapedBytes.take n)).map fun c ↦ (c, n)

/-- A text as it is read back from the environment. -/
def readBack : Text → Text
  | [] => []
  | c :: rest =>
    match spelled? (c :: rest) with
    | some (found, n) => found.toNat :: readBack (rest.drop (n - 1))
    | none => c :: readBack rest
termination_by t => t.length
decreasing_by
  · simp only [List.length_drop, List.length_cons]
    omega
  · simp

end Text

end MouseControl
