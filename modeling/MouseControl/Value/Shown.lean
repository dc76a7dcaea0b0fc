import MouseControl.Text.Radix
import MouseControl.Value.Basic

/-!
Values as messages show them: `shown` quotes texts and names the enumerated ones, and `spoken`
gives a text bare and an enumerated value as its number. Either way the integers in a value are
written in base ten, if they have few enough digits for it (`Value.isWritable`).
-/

set_option autoImplicit false
set_option relaxedAutoImplicit false

namespace MouseControl

def LedState.shown : LedState → Text
  | unsupported => "<LedState.UNSUPPORTED: -1>"
  | off => "<LedState.OFF: 0>"
  | on => "<LedState.ON: 1>"

def Frequency.shown : Frequency → Text
  | unknown => "<Frequency.UNKNOWN: 0>"
  | hz125 => "<Frequency.HZ_125: 125>"
  | hz500 => "<Frequency.HZ_500: 500>"
  | hz1000 => "<Frequency.HZ_1000: 1000>"

def ResolutionMapping.shown (m : ResolutionMapping) : Text :=
  "ResolutionMapping(nr=" ++ toString m.nr ++ ", resolution=" ++ toString m.resolution ++ ")"

/-- Whether a number can be written. A double always can. -/
def Number.isWritable (n : Number) : Bool := n.toInt?.all MouseControl.isWritable

namespace Value

/-- The number of an LED state, by its name where it has one. -/
def shownState (n : Int) : Text :=
  match LedState.ofCode? n with
  | some s => s.shown
  | none => toString n

mutual

/-- A value with its texts quoted. -/
def shown : Value → Text
  | null => "None"
  | number n => n.text
  | text t => t.quoted
  | list items => "[" ++ Text.join ", " (shownItems items) ++ "]"
  | object members => "\x7b" ++ Text.join ", " (shownMembers members) ++ "\x7d"
  | ledState s => s.shown
  | frequency f => f.shown
  | mapping m => m.shown
  | axis id name independent =>
    "Axis(id=" ++ id.shown ++ ", name=" ++ name.quoted ++ ", independent_dpimapping=" ++
      (Number.bool independent).text ++ ")"
  | led id name selector state =>
    "Led(id=" ++ id.shown ++ ", name=" ++ name.quoted ++ ", selector=" ++
      quotedBytes selector ++ ", state=" ++ shownState state ++ ")"

def shownItems : List Value → List Text
  | [] => []
  | v :: rest => v.shown :: shownItems rest

def shownMembers : List (Text × Value) → List Text
  | [] => []
  | (key, v) :: rest => (key.quoted ++ ": " ++ v.shown) :: shownMembers rest

end

/-- A value as it stands in a sentence. -/
def spoken : Value → Text
  | text t => t
  | ledState s => toString s.code
  | frequency f => toString f.hertz
  | v => v.shown

mutual

/-- Whether every integer in a value can be written. -/
def isWritable : Value → Bool
  | null | text _ | ledState _ | frequency _ => true
  | number n => n.isWritable
  | list items => areWritable items
  | object members => membersAreWritable members
  | mapping m => MouseControl.isWritable m.nr && MouseControl.isWritable m.resolution
  | axis id _ _ => id.isWritable
  | led id _ _ state => id.isWritable && MouseControl.isWritable state

def areWritable : List Value → Bool
  | [] => true
  | v :: rest => v.isWritable && areWritable rest

def membersAreWritable : List (Text × Value) → Bool
  | [] => true
  | (_, v) :: rest => v.isWritable && membersAreWritable rest

end

end Value

end MouseControl
