import MouseControl.Protocol
import MouseControl.Text.Basic

/-!
The nouns of a mouse's configuration: sensor generations and resolution mappings, LED states,
scan frequencies and axes.
-/

set_option autoImplicit false
set_option relaxedAutoImplicit false

namespace MouseControl

/-- The two sensor generations, which encode a resolution differently. -/
inductive Generation where
  | legacy
  | extended
  deriving DecidableEq, Repr

/-- One entry of a resolution table: its index and its dots per inch. -/
structure ResolutionMapping where
  nr : Int
  resolution : Int
  deriving DecidableEq, Repr

/-- The states an LED can be in; a model that lacks an LED has it as unsupported. -/
inductive LedState where
  | unsupported
  | off
  | on
  deriving DecidableEq, Repr

/-- The number of an LED state. -/
def LedState.code : LedState → Int
  | unsupported => -1
  | off => 0
  | on => 1

/-- The LED states in the order of their numbers. -/
def LedState.all : List LedState := [unsupported, off, on]

/-- The LED state with a number. -/
def LedState.ofCode? (n : Int) : Option LedState := all.find? fun s ↦ s.code == n

/-- The scan frequencies that have a name. -/
inductive Frequency where
  | unknown
  | hz125
  | hz500
  | hz1000
  deriving DecidableEq, Repr

namespace Frequency

/-- A frequency in hertz; the unknown one counts as zero. -/
def hertz : Frequency → Int
  | unknown => 0
  | hz125 => 125
  | hz500 => 500
  | hz1000 => 1000

def all : List Frequency := [unknown, hz125, hz500, hz1000]

/-- The frequencies a user may choose. -/
def supported : List Frequency := [hz125, hz500, hz1000]

/-- The frequency of so many hertz. -/
def ofHertz? (n : Int) : Option Frequency := all.find? fun f ↦ f.hertz == n

/-- The byte that stands for a frequency in a command; the unknown one is sent as 1000 Hz. -/
def code : Frequency → UInt8
  | unknown => 1
  | hz125 => 8
  | hz500 => 2
  | hz1000 => 1

end Frequency

/-- A movement axis, and whether it has a resolution of its own. -/
structure Axis where
  id : Int
  name : Text
  independent : Bool
  deriving DecidableEq, Repr

namespace Axis

/-- The id of the X axis. -/
def idX : Int := 0

/-- The id of the Y axis. -/
def idY : Int := 1

def all : List Axis := [⟨idX, "X", true⟩, ⟨idY, "Y", true⟩, ⟨2, "Scroll", false⟩]

end Axis

/-- One LED: its place in the LED table, its name, the two bytes that select it in a command, and
the number of its state. -/
structure Led where
  id : Int
  name : Text
  selector : Bytes
  state : Int
  deriving DecidableEq, Repr

namespace Led

/-- The names and selectors of the LEDs, in the order of their ids. -/
def table : List (Text × Bytes) :=
  [("Scrollwheel", [1, 1]), ("GlowingLogo", [1, 4]), ("ThumbGrid", [1, 5])]

/-- The id of the thumb grid, which only some models have. -/
def thumbGrid : Int := 2

/-- Whether the model has this LED. -/
def supported (led : Led) : Bool := led.state != LedState.unsupported.code

/-- Every LED on, but the thumb grid unsupported where there is none. -/
def defaults (hasThumbGrid : Bool) : List Led :=
  table.mapIdx fun i entry ↦
    { id := i
      name := entry.1
      selector := entry.2
      state :=
        if (i : Int) = thumbGrid ∧ !hasThumbGrid then LedState.unsupported.code
        else LedState.on.code }

end Led

end MouseControl
