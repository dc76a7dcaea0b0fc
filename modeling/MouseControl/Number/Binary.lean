/-!
A double as a sign and a magnitude `significand * 2 ^ exponent`, read off its bits. Comparison with
an integer and truncation are exact on this form.
-/

set_option autoImplicit false
set_option relaxedAutoImplicit false

namespace MouseControl

/-- What a double stands for. -/
inductive Binary where
  /-- The number `significand * 2 ^ exponent`, negated or not. -/
  | finite (negative : Bool) (significand : Nat) (exponent : Int)
  | infinite (negative : Bool)
  | nan
  deriving DecidableEq, Repr

namespace Binary

/-- The reading of the 64 bits: one of sign, eleven of exponent, and the rest of significand,
whose leading one is left out unless the exponent bits are all zero. -/
def ofBits (bits : Nat) : Binary :=
  let negative := bits / Nat.pow 2 63 % 2 == 1
  let scale := bits / Nat.pow 2 52 % Nat.pow 2 11
  let low := bits % Nat.pow 2 52
  if scale = Nat.pow 2 11 - 1 then
    if low = 0 then infinite negative else nan
  else if scale = 0 then finite negative low (-1074)
  else finite negative (Nat.pow 2 52 + low) ((scale : Int) - 1075)

/-- The reading of a double. -/
def ofFloat (x : Float) : Binary := ofBits x.toBits.toNat

/-- Whether the number is this integer. -/
def equalsInt (x : Binary) (n : Int) : Bool :=
  match x with
  | finite negative significand exponent =>
    let sign : Int := if negative then -1 else 1
    sign * significand * Nat.pow 2 exponent.toNat == n * Nat.pow 2 (-exponent).toNat
  | _ => false

/-- The integer part, without the fraction; none of an infinity or a NaN. -/
def truncate? (x : Binary) : Option Int :=
  match x with
  | finite negative significand exponent =>
    let whole := significand * Nat.pow 2 exponent.toNat / Nat.pow 2 (-exponent).toNat
    some (if negative then -(whole : Int) else whole)
  | _ => none

end Binary

/-- The double nearest to an integer, a tie going to the even one; none when that is an
infinity. -/
def nearestFloat? (n : Int) : Option Float :=
  let x := Float.ofInt n
  match Binary.ofFloat x with
  | .finite .. => some x
  | _ => none

/-- The double nearest to `digits * 10 ^ exponent`. Exponents so large or so small that the
result is an infinity or zero are cut short, since the power would only cost time. -/
def nearestDecimal (digits : Nat) (exponent : Int) : Float :=
  let size : Int := (Nat.toDigits 10 digits).length
  if digits = 0 then 0.0
  else if size + exponent > 400 then 1.0 / 0.0
  else if size + exponent < -400 then 0.0
  else Float.ofScientific digits (exponent < 0) exponent.natAbs

end MouseControl
