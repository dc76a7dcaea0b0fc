import MouseControl.Device.Model

/-!
The configuration that the next commit will send: resolutions, LEDs and scan frequency, and
whether the mouse still lacks a part of it.
-/

set_option autoImplicit false
set_option relaxedAutoImplicit false

namespace MouseControl

/-- A pending configuration. The frequency is kept as it was given. -/
structure Configuration where
  generation : Generation
  x : ResolutionMapping
  y : ResolutionMapping
  leds : List Led
  frequency : Value
  dirty : Bool

/-- What a commit would send, in numbers. -/
structure Snapshot where
  frequency : Int
  ledStates : List Int
  resolutionX : Int
  resolutionY : Int
  dirty : Bool
  deriving DecidableEq, Repr

/-- The wire code of a scan frequency. A value finds the named frequency it is equal to. -/
def frequencyCode (frequency : Value) : Except Fault UInt8 :=
  match Frequency.all.find? fun f ↦ frequency.equalsInt f.hertz with
  | some f => .ok f.code
  | none => .error (Fault.unsupportedFrequency frequency).worded

/-- The frame that sets a scan frequency. -/
def frequencyFrame (frequency : Value) : Except Fault Bytes := do
  Frame.encode .frequency [← frequencyCode frequency]

/-- The frame that switches an LED: the LED's selector, and one for on. -/
def Led.frame (led : Led) : Except Fault Bytes :=
  Frame.encode .led (led.selector ++ [if led.state = LedState.on.code then 1 else 0])

namespace Configuration

/-- The configuration a model starts with: 1000 Hz, its LEDs on, 1000 dots per inch. -/
def defaults (model : Model) : Configuration :=
  let start := (model.generation.table.find? fun m ↦ m.resolution == defaultResolution).getD
    ⟨0, defaultResolution⟩
  { generation := model.generation
    x := start
    y := start
    leds := Led.defaults model.hasThumbGrid
    frequency := .frequency .hz1000
    dirty := true }

/-- The LEDs that the model has. -/
def supportedLeds (c : Configuration) : List Led := c.leds.filter Led.supported

/-- The table entry whose resolution a value equals. -/
def mappingFor (c : Configuration) (resolution : Value) : Option ResolutionMapping :=
  c.generation.table.find? fun m ↦ resolution.equalsInt m.resolution

/-- A configuration in which the LED at an index has a state. -/
def setLed (c : Configuration) (index : Nat) (state : Int) : Configuration :=
  { c with leds := c.leds.modify index fun led ↦ { led with state := state } }

def snapshot (c : Configuration) : Snapshot where
  frequency := c.frequency.toInt?.getD 0
  ledStates := c.leds.map Led.state
  resolutionX := c.x.resolution
  resolutionY := c.y.resolution
  dirty := c.dirty

end Configuration

end MouseControl
