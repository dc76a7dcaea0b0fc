import MouseControl.Number.Notation

/-!
Numbers as they are given to the library: truth values count as zero and one, integers have any
size, and doubles include the infinities and NaN. Comparison is exact across the three.
-/

set_option autoImplicit false
set_option relaxedAutoImplicit false

namespace MouseControl

/-- A number of one of the three kinds. -/
inductive Number where
  | bool (b : Bool)
  | int (n : Int)
  | float (x : Float)
  deriving Inhabited

namespace Number

/-- The integer that a truth value or an integer is. -/
def toInt? : Number → Option Int
  | bool b => some (if b then 1 else 0)
  | int n => some n
  | float _ => none

/-- Whether the number lies below an integer that a double holds exactly. A NaN lies below
nothing. -/
def below (x : Number) (bound : Int) : Bool :=
  match x with
  | bool b => (if b then 1 else 0 : Int) < bound
  | int n => n < bound
  | float y => y < Float.ofInt bound

/-- Whether the number equals an integer. -/
def equalsInt (x : Number) (n : Int) : Bool :=
  match x with
  | bool b => (if b then 1 else 0) == n
  | int m => m == n
  | float y => (Binary.ofFloat y).equalsInt n

/-- The number as a double; none when an integer is too large for one. -/
def toFloat? : Number → Option Float
  | bool b => some (if b then 1.0 else 0.0)
  | int n => nearestFloat? n
  | float x => some x

/-- The number as messages show it. -/
def text : Number → String
  | bool true => "True"
  | bool false => "False"
  | int n => toString n
  | float x => floatText x

/-- The number as a count in messages: truth values as digits. -/
def countText (x : Number) : String :=
  match x.toInt? with
  | some n => toString n
  | none => x.text

end Number

end MouseControl
