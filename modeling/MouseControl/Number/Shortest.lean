import MouseControl.Number.Binary

/-!
The shortest decimal that reads back to a double. The reals that round to the double form an
interval, closed exactly when the significand is even. Grids of one, two, up to seventeen decimal
digits are tried in turn; on each the two neighbours of the value are tested against the interval,
and the first grid with a hit gives the digits, the nearer neighbour if both hit.
-/

set_option autoImplicit false
set_option relaxedAutoImplicit false

namespace MouseControl

/-- The number `digits * 10 ^ exponent`. -/
structure Decimal where
  digits : Nat
  exponent : Int
  deriving DecidableEq, Repr

namespace Shortest

/-- How many decimal digits a number has; none for zero. -/
def digitCount (n : Nat) : Nat := if n = 0 then 0 else (Nat.toDigits 10 n).length

/-- The rounding interval of a double, all of it over one denominator. -/
structure Interval where
  low : Nat
  value : Nat
  high : Nat
  denominator : Nat
  closed : Bool

/-- The reals that round to `significand * 2 ^ exponent`: halfway to the neighbour on both sides,
where the neighbour below a power of two is only half as far. -/
def interval (significand : Nat) (exponent : Int) : Interval :=
  let unit := Nat.pow 2 (exponent - 2).toNat
  let below := if significand = Nat.pow 2 52 ∧ -1074 < exponent then 1 else 2
  { low := (4 * significand - below) * unit
    value := 4 * significand * unit
    high := (4 * significand + 2) * unit
    denominator := Nat.pow 2 (2 - exponent).toNat
    closed := significand % 2 == 0 }

/-- Whether `digits * 10 ^ exponent` lies in the interval. -/
def Interval.contains (i : Interval) (d : Decimal) : Bool :=
  let point := d.digits * Nat.pow 10 d.exponent.toNat * i.denominator
  let scale := Nat.pow 10 (-d.exponent).toNat
  if i.closed then i.low * scale ≤ point && point ≤ i.high * scale
  else i.low * scale < point && point < i.high * scale

/-- The decimal exponent of the leading digit of the value. -/
def Interval.leading (i : Interval) : Int :=
  if i.denominator ≤ i.value then (digitCount (i.value / i.denominator) : Int) - 1
  else -(digitCount ((i.denominator - 1) / i.value) : Int)

/-- The points of the grid of a step `10 ^ exponent` on both sides of the value, the nearer one
first; of two equally near the one with the even digit. -/
def Interval.neighbours (i : Interval) (exponent : Int) : List Decimal :=
  let numerator := i.value * Nat.pow 10 (-exponent).toNat
  let step := i.denominator * Nat.pow 10 exponent.toNat
  let down := numerator / step
  let rest := 2 * (numerator % step)
  let lower : Decimal := ⟨down, exponent⟩
  let upper : Decimal := ⟨down + 1, exponent⟩
  if rest < step ∨ rest = step ∧ down % 2 = 0 then [lower, upper] else [upper, lower]

/-- The shortest decimal in the interval. Seventeen digits always suffice. -/
def Interval.shortest (i : Interval) : Decimal :=
  let grids := (List.range 17).map fun (places : Nat) ↦ i.neighbours (i.leading - places)
  (grids.findSome? (·.find? i.contains)).getD ⟨i.value / i.denominator, 0⟩

end Shortest

/-- The shortest decimal that reads back to `significand * 2 ^ exponent`. -/
def shortestDecimal (significand : Nat) (exponent : Int) : Decimal :=
  (Shortest.interval significand exponent).shortest

end MouseControl
