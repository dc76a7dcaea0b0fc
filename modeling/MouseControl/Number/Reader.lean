import MouseControl.Number.Basic
import MouseControl.Protocol
import MouseControl.Text.Plain

/-!
Numbers spelled in texts. A text is made plain and stripped of blanks first. An integer is an
optional sign and digits; a decimal is an optional sign and either `inf`, `infinity` or `nan` in
any case, or digits with an optional fraction and exponent, where one side of the point may be
empty. A single underscore may stand between two digits. An integer with more than
`Protocol.mostDigits` digits is not read; a decimal may have any number of them.
-/

set_option autoImplicit false
set_option relaxedAutoImplicit false

namespace MouseControl.Reader

/-- The digits of a run in which a single underscore may stand between two digits, and what
follows the run; none when the text does not begin with a digit. -/
def digitRun : List Char → Option (List Char × List Char)
  | c :: '_' :: d :: rest =>
    if c.isDigit && d.isDigit then
      (digitRun (d :: rest)).map fun r ↦ (c :: r.1, r.2)
    else if c.isDigit then some ([c], '_' :: d :: rest)
    else none
  | c :: rest =>
    if c.isDigit then
      match digitRun rest with
      | some r => some (c :: r.1, r.2)
      | none => some ([c], rest)
    else none
  | [] => none

/-- The number that decimal digits spell. -/
def digitsValue (digits : List Char) : Nat :=
  digits.foldl (fun n c ↦ 10 * n + (c.toNat - '0'.toNat)) 0

/-- An optional sign, true when it is a minus. -/
def sign : List Char → Bool × List Char
  | '-' :: rest => (true, rest)
  | '+' :: rest => (false, rest)
  | s => (false, s)

/-- The integer that a sign and digits spell. -/
def signed (negative : Bool) (digits : List Char) : Int :=
  if negative then -(digitsValue digits : Int) else digitsValue digits

/-- The integer that a plain stripped text spells. -/
def plainInt? (s : List Char) : Option Int :=
  let (negative, rest) := sign s
  match digitRun rest with
  | some (digits, []) =>
    if digits.length ≤ Protocol.mostDigits then some (signed negative digits) else none
  | _ => none

/-- The integer that a text spells. -/
def int? (t : Text) : Option Int := plainInt? (strip t.plain)

/-- An optional exponent part, which must be the last thing in the text. -/
def exponent? : List Char → Option Int
  | [] => some 0
  | c :: rest =>
    if c == 'e' || c == 'E' then
      let (negative, digits) := sign rest
      match digitRun digits with
      | some (run, []) => some (signed negative run)
      | _ => none
    else none

/-- A decimal without its sign. -/
def magnitude? (s : List Char) : Option Float :=
  let (whole, afterWhole) := (digitRun s).getD ([], s)
  let (fraction, afterFraction) :=
    match afterWhole with
    | '.' :: rest => (digitRun rest).getD ([], rest)
    | _ => ([], afterWhole)
  if whole.isEmpty && fraction.isEmpty then none
  else
    (exponent? afterFraction).map fun e ↦
      nearestDecimal (digitsValue (whole ++ fraction)) (e - fraction.length)

/-- The double that a plain stripped text spells. -/
def plainFloat? (s : List Char) : Option Float :=
  let (negative, rest) := sign s
  let word := String.ofList (rest.map Char.toLower)
  let magnitude :=
    if word == "inf" || word == "infinity" then some (1.0 / 0.0)
    else if word == "nan" then some (0.0 / 0.0)
    else magnitude? rest
  magnitude.map fun x ↦ if negative then -x else x

/-- The double that a text spells. -/
def float? (t : Text) : Option Float := plainFloat? (strip t.plain)

end MouseControl.Reader
