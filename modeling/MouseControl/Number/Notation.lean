import MouseControl.Number.Shortest

/-!
The layout of a number in messages: digits and exponent come from elsewhere, `DecimalLayout` holds
every decision about how they are written, and `DecimalLayout.messages` is the one in use.
-/

set_option autoImplicit false
set_option relaxedAutoImplicit false

namespace MouseControl

/-- How a double is written. -/
structure DecimalLayout where
  /-- The least exponent of the leading digit that is written positionally. -/
  positionalFrom : Int
  /-- The least exponent of the leading digit that is no longer written positionally. -/
  positionalBelow : Int
  /-- What follows a positional number without a fraction. -/
  wholeTail : String
  /-- What stands before the exponent. -/
  exponentMark : String
  /-- The sign of an exponent that is not negative. -/
  positiveSign : String
  /-- The least number of exponent digits. -/
  exponentWidth : Nat
  infinityText : String
  nanText : String

namespace DecimalLayout

/-- Doubles in messages are positional from 0.0001 to below 10 ^ 16, keep `.0` when whole, and
have otherwise a signed exponent of two digits or more. -/
def messages : DecimalLayout where
  positionalFrom := -4
  positionalBelow := 16
  wholeTail := ".0"
  exponentMark := "e"
  positiveSign := "+"
  exponentWidth := 2
  infinityText := "inf"
  nanText := "nan"

/-- The exponent part of a number that is not written positionally. -/
def exponentText (layout : DecimalLayout) (exponent : Int) : String :=
  let digits := Nat.toDigits 10 exponent.natAbs
  layout.exponentMark ++ (if exponent < 0 then "-" else layout.positiveSign) ++
    String.ofList (List.replicate (layout.exponentWidth - digits.length) '0' ++ digits)

/-- The digits of a positional number, whose first digit has the given exponent. -/
def positional (layout : DecimalLayout) (digits : List Char) (leading : Int) : String :=
  if leading < 0 then
    "0." ++ String.ofList (List.replicate (-leading - 1).toNat '0' ++ digits)
  else
    let whole := leading.toNat + 1
    if digits.length ≤ whole then
      String.ofList (digits ++ List.replicate (whole - digits.length) '0') ++ layout.wholeTail
    else
      String.ofList (digits.take whole) ++ "." ++ String.ofList (digits.drop whole)

/-- A decimal that is not zero. -/
def decimal (layout : DecimalLayout) (d : Decimal) : String :=
  let all := Nat.toDigits 10 d.digits
  let leading := d.exponent + all.length - 1
  let digits := (all.reverse.dropWhile (· == '0')).reverse
  if layout.positionalFrom ≤ leading ∧ leading < layout.positionalBelow then
    layout.positional digits leading
  else
    let fraction := digits.drop 1
    String.ofList (digits.take 1) ++
      (if fraction.isEmpty then "" else "." ++ String.ofList fraction) ++
      layout.exponentText leading

/-- A double by its reading. -/
def binary (layout : DecimalLayout) (x : Binary) : String :=
  match x with
  | .nan => layout.nanText
  | .infinite negative => (if negative then "-" else "") ++ layout.infinityText
  | .finite negative significand exponent =>
    (if negative then "-" else "") ++
      (if significand = 0 then layout.positional ['0'] 0
      else layout.decimal (shortestDecimal significand exponent))

end DecimalLayout

/-- A double as messages show it. -/
def floatText (x : Float) : String := DecimalLayout.messages.binary (Binary.ofFloat x)

end MouseControl
