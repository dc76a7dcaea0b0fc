import MouseControl.Json.Reader

/-!
The grammar of documents, apart from how they are read. A value is an atom, a list or an object; an
atom is a word, a text or a number. `Spells` derives a value from the text that begins with it and
leaves what follows. An integer with more than `Protocol.mostDigits` digits is no value; a text
breaks at one if all in front of it is as in a document (`Breaks`).
-/

set_option autoImplicit false
set_option relaxedAutoImplicit false

namespace MouseControl.Json

/-! ### Atoms -/

/-- Blank space, and what follows it. -/
def Blanks (s rest : List Char) : Prop :=
  ∃ blank, s = blank ++ rest ∧ ∀ c ∈ blank, isBlank c = true

/-- Digits, one at least. -/
structure Digits (run : List Char) : Prop where
  ne_nil : run ≠ []
  isDigit : ∀ c ∈ run, c.isDigit = true

/-- Digits of which the first is a zero only if it is the only one. -/
structure Whole (run : List Char) : Prop extends Digits run where
  eq_of_zero : run.head? = some '0' → run = ['0']

/-- A fraction with its places, or none. -/
inductive Fraction : List Char → List Char → Prop
  | absent : Fraction [] []
  | point {places : List Char} : Digits places → Fraction ('.' :: places) places

/-- A sign that may be left out. -/
inductive Sign : List Char → Bool → Prop
  | absent : Sign [] false
  | plus : Sign ['+'] false
  | minus : Sign ['-'] true

/-- A power of ten, or none. -/
inductive Exponent : List Char → Int → Prop
  | absent : Exponent [] 0
  | power {e : Char} {sign run : List Char} {negative : Bool} : e = 'e' ∨ e = 'E' →
      Sign sign negative → Digits run → Exponent (e :: (sign ++ run)) (Reader.signed negative run)

/-- The minus in front of a number. -/
def minus (negative : Bool) : List Char := if negative then ['-'] else []

/-- The double that the parts of a number make. -/
def real (negative : Bool) (run places : List Char) (exponent : Int) : Float :=
  let x := nearestDecimal (Reader.digitsValue (run ++ places)) (exponent - places.length)
  if negative then -x else x

/-- The inside of a text, and the code units that it spells. -/
inductive Content : List Char → Text → Prop
  | nil : Content [] []
  | plain {c : Char} {s : List Char} {units : Text} : ¬c < ' ' → c ≠ '"' → c ≠ '\\' →
      Content s units → Content (c :: s) (c.toNat :: units)
  | escape {c escaped : Char} {s : List Char} {units : Text} : shortEscape? c = some escaped →
      Content s units → Content ('\\' :: c :: s) (escaped.toNat :: units)
  | unit {a b c d : Char} {unit : CodePoint} {s : List Char} {units : Text} :
      codeUnit [a, b, c, d] = some unit → Content s units →
      Content ('\\' :: 'u' :: a :: b :: c :: d :: s) (unit :: units)

/-- A text in its quotes. -/
inductive Quotation : List Char → Text → Prop
  | mk {content : List Char} {units : Text} : Content content units →
      Quotation ('"' :: (content ++ ['"'])) (joinPairs units)

/-- A value that has no parts, and how it is spelled. -/
inductive Atom : List Char → Value → Prop
  | null : Atom "null".toList .null
  | true : Atom "true".toList (.bool true)
  | false : Atom "false".toList (.bool false)
  | nan : Atom "NaN".toList (.float (0.0 / 0.0))
  | infinity : Atom "Infinity".toList (.float (1.0 / 0.0))
  | minusInfinity : Atom "-Infinity".toList (.float (-1.0 / 0.0))
  | text {s : List Char} {t : Text} : Quotation s t → Atom s (.text t)
  | integer {run : List Char} (negative : Bool) : Whole run → run.length ≤ Protocol.mostDigits →
      Atom (minus negative ++ run) (.int (Reader.signed negative run))
  | real {run fraction places exponent : List Char} {n : Int} (negative : Bool) : Whole run →
      Fraction fraction places → Exponent exponent n → fraction ++ exponent ≠ [] →
      Atom (minus negative ++ (run ++ (fraction ++ exponent))) (.float (real negative run places n))

/-- What comes after the digits of a number that has neither a fraction nor an exponent. -/
structure Bare (rest : List Char) : Prop where
  digit : ∀ c, rest.head? = some c → c.isDigit = false
  fraction : ∀ fraction places after, Fraction fraction places → rest = fraction ++ after →
    fraction = []
  exponent : ∀ exponent n after, Exponent exponent n → rest = exponent ++ after → exponent = []

/-- A text that begins with an integer of too many digits. -/
inductive LongInteger (digits : Nat) : List Char → Prop
  | mk {run rest : List Char} (negative : Bool) : Whole run → run.length = digits →
      Protocol.mostDigits < digits → Bare rest →
      LongInteger digits (minus negative ++ (run ++ rest))

/-! ### Values -/

/-- Members one after another, of which the last with a name gives the value and the first the
place. -/
def gathered (before members : List (Text × Value)) : List (Text × Value) :=
  members.foldl (fun now m ↦ Value.put m.1 m.2 now) before

mutual

/-- A text that begins with a value, the value, and what follows. -/
inductive Spells : List Char → Value → List Char → Prop
  | atom {s rest : List Char} {v : Value} : Atom s v → Spells (s ++ rest) v rest
  | emptyList {s rest : List Char} : Blanks s (']' :: rest) → Spells ('[' :: s) (.list []) rest
  | list {s t rest : List Char} {items : List Value} : Blanks s t → SpellsItems t items rest →
      Spells ('[' :: s) (.list items) rest
  | emptyObject {s rest : List Char} : Blanks s ('\x7d' :: rest) →
      Spells ('\x7b' :: s) (.object []) rest
  | object {s t rest : List Char} {members : List (Text × Value)} : Blanks s t →
      SpellsMembers t members rest → Spells ('\x7b' :: s) (.object (gathered [] members)) rest

/-- The items of a list up to its end, one at least. -/
inductive SpellsItems : List Char → List Value → List Char → Prop
  | last {s t rest : List Char} {v : Value} : Spells s v t → Blanks t (']' :: rest) →
      SpellsItems s [v] rest
  | cons {s t u w rest : List Char} {v : Value} {items : List Value} : Spells s v t →
      Blanks t (',' :: u) → Blanks u w → SpellsItems w items rest → SpellsItems s (v :: items) rest

/-- The members of an object up to its end, one at least. -/
inductive SpellsMembers : List Char → List (Text × Value) → List Char → Prop
  | last {s t u w x rest : List Char} {key : Text} {v : Value} : Quotation s key →
      Blanks t (':' :: u) → Blanks u w → Spells w v x → Blanks x ('\x7d' :: rest) →
      SpellsMembers (s ++ t) [(key, v)] rest
  | cons {s t u w x y z rest : List Char} {key : Text} {v : Value}
      {members : List (Text × Value)} : Quotation s key → Blanks t (':' :: u) → Blanks u w →
      Spells w v x → Blanks x (',' :: y) → Blanks y z → SpellsMembers z members rest →
      SpellsMembers (s ++ t) ((key, v) :: members) rest

end

mutual

/-- A text that is as in a document up to an integer of too many digits. -/
inductive Breaks (digits : Nat) : List Char → Prop
  | integer {s : List Char} : LongInteger digits s → Breaks digits s
  | list {s t : List Char} : Blanks s t → BreaksItems digits t → Breaks digits ('[' :: s)
  | object {s t : List Char} : Blanks s t → BreaksMembers digits t → Breaks digits ('\x7b' :: s)

/-- The same of the items of a list. -/
inductive BreaksItems (digits : Nat) : List Char → Prop
  | here {s : List Char} : Breaks digits s → BreaksItems digits s
  | later {s t u w : List Char} {v : Value} : Spells s v t → Blanks t (',' :: u) → Blanks u w →
      BreaksItems digits w → BreaksItems digits s

/-- The same of the members of an object. -/
inductive BreaksMembers (digits : Nat) : List Char → Prop
  | here {s t u w : List Char} {key : Text} : Quotation s key → Blanks t (':' :: u) →
      Blanks u w → Breaks digits w → BreaksMembers digits (s ++ t)
  | later {s t u w x y z : List Char} {key : Text} {v : Value} : Quotation s key →
      Blanks t (':' :: u) → Blanks u w → Spells w v x → Blanks x (',' :: y) → Blanks y z →
      BreaksMembers digits z → BreaksMembers digits (s ++ t)

end

/-- A text that spells a value, blank space around it left out. -/
def SpellsDocument (s : List Char) (v : Value) : Prop :=
  ∃ t rest, Blanks s t ∧ Spells t v rest ∧ Blanks rest []

/-- A text that is as a document up to an integer of too many digits. -/
def BreaksDocument (digits : Nat) (s : List Char) : Prop := ∃ t, Blanks s t ∧ Breaks digits t

end MouseControl.Json
