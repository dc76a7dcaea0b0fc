import MouseControl.Device.Basic
import MouseControl.Number.Basic
import MouseControl.Text.Quoted

/-!
Values of any kind. Configuration documents hold them, and the setters of a session accept them
and decide for themselves which ones are acceptable. Numbers compare across their kinds: an
integer equals the truth value and the double of the same magnitude.
-/

set_option autoImplicit false
set_option relaxedAutoImplicit false

namespace MouseControl

/-- A value of any kind. -/
inductive Value where
  | null
  | number (n : Number)
  | text (t : Text)
  | list (items : List Value)
  /-- An object, its members in the order in which they were first given. -/
  | object (members : List (Text × Value))
  | ledState (s : LedState)
  | frequency (f : Frequency)
  | mapping (m : ResolutionMapping)
  | axis (id : Value) (name : Text) (independent : Bool)
  | led (id : Value) (name : Text) (selector : Bytes) (state : Int)

instance : Inhabited Value := ⟨.null⟩

namespace Value

def int (n : Int) : Value := number (.int n)

def bool (b : Bool) : Value := number (.bool b)

def float (x : Float) : Value := number (.float x)

/-- A text given as a string. -/
def string (s : String) : Value := text (Text.ofString s)

/-- The number that a value is; LED states and frequencies are integers. -/
def toNumber? : Value → Option Number
  | number n => some n
  | ledState s => some (.int s.code)
  | frequency f => some (.int f.hertz)
  | _ => none

/-- The integer that a value is; truth values are integers and doubles are not. -/
def toInt? (v : Value) : Option Int := v.toNumber?.bind Number.toInt?

/-- Whether a value equals an integer. -/
def equalsInt (v : Value) (n : Int) : Bool := v.toNumber?.any (·.equalsInt n)

/-- Whether a value is a text equal to a string. -/
def isString (v : Value) (s : String) : Bool :=
  match v with
  | text t => t == Text.ofString s
  | _ => false

/-- Whether a value counts as true where a verdict is asked for: nothing, zero and whatever is
empty do not. -/
def truthy : Value → Bool
  | null => false
  | number n => !n.equalsInt 0
  | text t => !t.isEmpty
  | list items => !items.isEmpty
  | object members => !members.isEmpty
  | ledState s => s.code != 0
  | frequency f => f.hertz != 0
  | mapping _ | axis .. | led .. => true

/-- The value of a member. -/
def lookup (key : String) (members : List (Text × Value)) : Option Value :=
  (members.find? fun m ↦ m.1 == Text.ofString key).map Prod.snd

/-- Sets a member: in its place if there is one of that name, at the end otherwise. -/
def put (key : Text) (v : Value) : List (Text × Value) → List (Text × Value)
  | [] => [(key, v)]
  | m :: rest => if m.1 == key then (key, v) :: rest else m :: put key v rest

end Value

end MouseControl
