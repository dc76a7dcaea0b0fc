import MouseControl.Protocol

/-!
Integers in messages: digits in base ten or sixteen, filled with zeros up to a width in which the
minus sign and the mark `0x` count. Buffers of bytes are written and read two digits a byte. In base
ten an integer may have too many digits to be written; base sixteen knows no such bound.
-/

set_option autoImplicit false
set_option relaxedAutoImplicit false

namespace MouseControl

/-- The digits of `n`, with its sign and a mark before them and zeros in between, up to the
width. -/
def zeroFilled (mark : String) (digits : Nat → List Char) (width : Nat) (n : Int) : String :=
  let sign := if n < 0 then "-" else ""
  let body := digits n.natAbs
  sign ++ mark ++
    String.ofList (List.replicate (width - (sign.length + mark.length + body.length)) '0' ++ body)

/-- Upper-case hexadecimal. -/
def upperHex (width : Nat) (n : Int) : String :=
  zeroFilled "" (fun k ↦ (Nat.toDigits 16 k).map Char.toUpper) width n

/-- Lower-case hexadecimal. -/
def lowerHex (width : Nat) (n : Int) : String := zeroFilled "" (Nat.toDigits 16) width n

/-- Lower-case hexadecimal after the mark `0x`. -/
def markedHex (width : Nat) (n : Int) : String := zeroFilled "0x" (Nat.toDigits 16) width n

/-- Whether an integer has few enough digits to be written in base ten. -/
def isWritable (n : Int) : Bool := (Nat.toDigits 10 n.natAbs).length ≤ Protocol.mostDigits

/-- Decimal. -/
def filledDecimal (width : Nat) (n : Int) : String := zeroFilled "" (Nat.toDigits 10) width n

/-- The bytes of a buffer in lower-case hexadecimal, two digits each, put together by a
separator. -/
def hexBytes (separator : String) (bytes : List UInt8) : String :=
  separator.intercalate (bytes.map fun b ↦ lowerHex 2 b.toNat)

/-- The value of a hexadecimal digit. -/
def hexValue? (c : Char) : Option Nat :=
  if c.isDigit then some (c.toNat - '0'.toNat)
  else if 'a' ≤ c && c ≤ 'f' then some (c.toNat - 'a'.toNat + 10)
  else if 'A' ≤ c && c ≤ 'F' then some (c.toNat - 'A'.toNat + 10)
  else none

/-- The bytes that pairs of hexadecimal digits spell. -/
def bytesOfHex? : List Char → Option (List UInt8)
  | [] => some []
  | [_] => none
  | a :: b :: rest => do
    return UInt8.ofNat (16 * (← hexValue? a) + (← hexValue? b)) :: (← bytesOfHex? rest)

end MouseControl
