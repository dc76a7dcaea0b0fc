import MouseControl.Text.Basic

/-!
The plain form in which a text is read as a number: every decimal digit of Unicode 14.0 becomes
its ASCII digit, every blank beyond ASCII becomes a space, ASCII stays, and any other code point
becomes `?`, which no number contains. `strip` removes the ASCII blanks around a plain text.
-/

set_option autoImplicit false
set_option relaxedAutoImplicit false

namespace MouseControl

namespace CodePoint

/-- The zeros of the decimal digit blocks; the digits one to nine follow each of them. -/
def digitZeros : List Nat := [
  0x30, 0x660, 0x6F0, 0x7C0, 0x966, 0x9E6, 0xA66, 0xAE6, 0xB66, 0xBE6, 0xC66, 0xCE6, 0xD66, 0xDE6,
  0xE50, 0xED0, 0xF20, 0x1040, 0x1090, 0x17E0, 0x1810, 0x1946, 0x19D0, 0x1A80, 0x1A90, 0x1B50,
  0x1BB0, 0x1C40, 0x1C50, 0xA620, 0xA8D0, 0xA900, 0xA9D0, 0xA9F0, 0xAA50, 0xABF0, 0xFF10, 0x104A0,
  0x10D30, 0x11066, 0x110F0, 0x11136, 0x111D0, 0x112F0, 0x11450, 0x114D0, 0x11650, 0x116C0,
  0x11730, 0x118E0, 0x11950, 0x11C50, 0x11D50, 0x11DA0, 0x16A60, 0x16AC0, 0x16B50, 0x1D7CE,
  0x1D7D8, 0x1D7E2, 0x1D7EC, 0x1D7F6, 0x1E140, 0x1E2F0, 0x1E950, 0x1FBF0]

/-- The value of a decimal digit. -/
def digitValue? (c : CodePoint) : Option Nat :=
  (digitZeros.find? fun start ↦ start ≤ c && c ≤ start + 9).map (c - ·)

/-- The blanks beyond ASCII: U+0085 and the space separators, line and paragraph separators. -/
def isWideBlank (c : CodePoint) : Bool :=
  c == 0x85 || c == 0xA0 || c == 0x1680 || (0x2000 ≤ c && c ≤ 0x200A) || c == 0x2028 ||
    c == 0x2029 || c == 0x202F || c == 0x205F || c == 0x3000

/-- The plain character that a code point is read as. -/
def plain (c : CodePoint) : Char :=
  if c < 0x80 then Char.ofNat c
  else if c.isWideBlank then ' '
  else match c.digitValue? with
    | some d => Char.ofNat ('0'.toNat + d)
    | none => '?'

end CodePoint

/-- The plain form of a text. -/
def Text.plain (t : Text) : List Char := t.map CodePoint.plain

/-- The ASCII blanks: the space, and U+0009 to U+000D. -/
def isAsciiBlank (c : Char) : Bool := c == ' ' || ('\t' ≤ c && c ≤ '\r')

/-- A plain text without the blanks around it. -/
def strip (s : List Char) : List Char :=
  ((s.dropWhile isAsciiBlank).reverse.dropWhile isAsciiBlank).reverse

end MouseControl
