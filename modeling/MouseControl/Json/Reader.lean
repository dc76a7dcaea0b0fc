import MouseControl.Number.Reader
import MouseControl.Text.Radix
import MouseControl.Value.Basic

/-!
JSON documents read as values. The grammar is that of the standard with three words more: `NaN`,
`Infinity` and `-Infinity` are numbers. A number with a fraction or an exponent is a double, any
other an integer, which must not have more than `Protocol.mostDigits` digits. Of members with one
name the last gives the value and the first the place. A text may spell an unpaired surrogate. A
byte order mark is not blank space. Reading goes from left to right up to the first problem.
-/

set_option autoImplicit false
set_option relaxedAutoImplicit false

namespace MouseControl.Json

/-- Why a text is not read as a document. -/
inductive Problem where
  | malformed
  /-- An integer with more digits than are read. -/
  | longInteger (digits : Nat)
  deriving DecidableEq, Repr

/-- A reading whose only problem can be the form of the text. -/
def formed {α : Type} (reading : Option α) : Except Problem α :=
  match reading with
  | some a => .ok a
  | none => .error .malformed

def isBlank (c : Char) : Bool := c == ' ' || c == '\t' || c == '\n' || c == '\r'

def skipBlanks (s : List Char) : List Char := s.dropWhile isBlank

/-- The rest of the text after a word that it begins with. -/
def afterWord : List Char → List Char → Option (List Char)
  | [], s => some s
  | c :: word, d :: s => if c == d then afterWord word s else none
  | _ :: _, [] => none

/-- The code unit that hexadecimal digits spell. -/
def codeUnit (digits : List Char) : Option CodePoint :=
  digits.foldlM (fun n digit ↦ (hexValue? digit).map (16 * n + ·)) 0

/-- The character that a letter stands for after a backslash. -/
def shortEscape? : Char → Option Char
  | '"' => some '"'
  | '\\' => some '\\'
  | '/' => some '/'
  | 'b' => some '\x08'
  | 'f' => some '\x0c'
  | 'n' => some '\n'
  | 'r' => some '\r'
  | 't' => some '\t'
  | _ => none

/-- Puts the halves of surrogate pairs together. -/
def joinPairs : Text → Text
  | high :: low :: rest =>
    if high.isHighSurrogate && low.isLowSurrogate then .ofPair high low :: joinPairs rest
    else high :: joinPairs (low :: rest)
  | t => t

/-- The code units of a text after its opening quote, and what follows the closing one. -/
def textContent : List Char → Option (Text × List Char)
  | '"' :: rest => some ([], rest)
  | '\\' :: 'u' :: a :: b :: c :: d :: rest => do
    let unit ← codeUnit [a, b, c, d]
    let (more, after) ← textContent rest
    return (unit :: more, after)
  | '\\' :: c :: rest => do
    let escaped ← shortEscape? c
    let (more, after) ← textContent rest
    return (escaped.toNat :: more, after)
  | c :: rest =>
    if c < ' ' || c == '\\' then none
    else do
      let (more, after) ← textContent rest
      return (c.toNat :: more, after)
  | [] => none

/-- A text after its opening quote. -/
def text (s : List Char) : Option (Text × List Char) :=
  (textContent s).map fun r ↦ (joinPairs r.1, r.2)

/-- The digits that a text begins with, and what follows. -/
def digits (s : List Char) : List Char × List Char :=
  (s.takeWhile Char.isDigit, s.dropWhile Char.isDigit)

/-- The whole part of a number: a zero, or digits that do not begin with one. -/
def wholePart (s : List Char) : Option (List Char × List Char) :=
  match s with
  | '0' :: rest => some (['0'], rest)
  | c :: _ => if c.isDigit then some (digits s) else none
  | [] => none

/-- A fraction, if there is one: a point and digits. -/
def fractionPart (s : List Char) : Option (List Char × List Char) :=
  match s with
  | '.' :: rest => if (digits rest).1.isEmpty then none else some (digits rest)
  | _ => none

/-- An exponent, if there is one. -/
def exponentPart (s : List Char) : Option (Int × List Char) :=
  match s with
  | c :: rest =>
    let (negative, unsigned) := Reader.sign rest
    let (run, after) := digits unsigned
    if (c == 'e' || c == 'E') && !run.isEmpty then some (Reader.signed negative run, after)
    else none
  | [] => none

/-- A number without its sign. -/
def unsignedNumber (negative : Bool) (s : List Char) : Except Problem (Value × List Char) := do
  let (whole, rest) ← formed (wholePart s)
  let fraction := fractionPart rest
  let rest := (fraction.map Prod.snd).getD rest
  let exponent := exponentPart rest
  let rest := (exponent.map Prod.snd).getD rest
  if fraction.isNone && exponent.isNone then
    if Protocol.mostDigits < whole.length then
      throw (.longInteger whole.length)
    return (.int (Reader.signed negative whole), rest)
  else
    let places := (fraction.map Prod.fst).getD []
    let x := nearestDecimal (Reader.digitsValue (whole ++ places))
      ((exponent.map Prod.fst).getD 0 - places.length)
    return (.float (if negative then -x else x), rest)

/-- A value that has no parts. -/
def atom (s : List Char) : Except Problem (Value × List Char) :=
  let word (spelled : String) (v : Value) : Except Problem (Value × List Char) :=
    formed ((afterWord spelled.toList s).map fun rest ↦ (v, rest))
  match s with
  | '"' :: rest => formed ((text rest).map fun r ↦ (.text r.1, r.2))
  | 'n' :: _ => word "null" .null
  | 't' :: _ => word "true" (.bool true)
  | 'f' :: _ => word "false" (.bool false)
  | 'N' :: _ => word "NaN" (.float (0.0 / 0.0))
  | 'I' :: _ => word "Infinity" (.float (1.0 / 0.0))
  | '-' :: 'I' :: _ => word "-Infinity" (.float (-1.0 / 0.0))
  | '-' :: rest => unsignedNumber true rest
  | _ => unsignedNumber false s

mutual

/-- A value, which begins at once. Each nested value takes a character at least, so as much fuel
as characters suffices. -/
def value : Nat → List Char → Except Problem (Value × List Char)
  | 0, _ => .error .malformed
  | fuel + 1, s =>
    match s with
    | '\x7b' :: rest =>
      match skipBlanks rest with
      | '\x7d' :: rest => .ok (.object [], rest)
      | rest => (members fuel [] rest).map fun r ↦ (.object r.1, r.2)
    | '[' :: rest =>
      match skipBlanks rest with
      | ']' :: rest => .ok (.list [], rest)
      | rest => (items fuel rest).map fun r ↦ (.list r.1, r.2)
    | _ => atom s

/-- The items of a list up to its end, one at least. -/
def items : Nat → List Char → Except Problem (List Value × List Char)
  | 0, _ => .error .malformed
  | fuel + 1, s => do
    let (v, rest) ← value fuel s
    match skipBlanks rest with
    | ']' :: rest => return ([v], rest)
    | ',' :: rest =>
      let (more, rest) ← items fuel (skipBlanks rest)
      return (v :: more, rest)
    | _ => throw .malformed

/-- The members of an object up to its end, one at least, added to those read so far. -/
def members : Nat → List (Text × Value) → List Char →
    Except Problem (List (Text × Value) × List Char)
  | 0, _, _ => .error .malformed
  | fuel + 1, before, s =>
    match s with
    | '"' :: rest => do
      let (key, rest) ← formed (text rest)
      match skipBlanks rest with
      | ':' :: rest =>
        let (v, rest) ← value fuel (skipBlanks rest)
        let now := Value.put key v before
        match skipBlanks rest with
        | '\x7d' :: rest => return (now, rest)
        | ',' :: rest => members fuel now (skipBlanks rest)
        | _ => throw .malformed
      | _ => throw .malformed
    | _ => .error .malformed

end

/-- The value that a whole text spells, blank space around it left out. -/
def document (s : String) : Except Problem Value := do
  let chars := s.toList
  let (v, rest) ← value (2 * chars.length + 2) (skipBlanks chars)
  if (skipBlanks rest).isEmpty then return v else throw .malformed

end MouseControl.Json
