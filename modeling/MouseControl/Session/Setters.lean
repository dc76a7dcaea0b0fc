import MouseControl.Session.Basic

/-!
Reading and changing the pending configuration. Every argument is a value of any kind; a setter
accepts it or fails before anything changes. Setting an LED or a resolution judges its argument
first and asks for a claim afterwards; setting a frequency or a mapping asks for a claim first.
-/

set_option autoImplicit false
set_option relaxedAutoImplicit false

namespace MouseControl

/-- The id that a value names: that of an axis or an LED, or else the value itself. -/
def Value.idOf : Value → Value
  | .axis id _ _ => id
  | .led id _ _ _ => id
  | v => v

/-- The id of an LED, given as the LED or directly. -/
def Value.ledId : Value → Value
  | .led id _ _ _ => id
  | v => v

namespace Session

variable {σ τ : Type}

/-- The LED that a value names. An id is an integer and a truth value is one. -/
def findLed (config : Configuration) (given : Value) : Except Fault (Nat × Led) :=
  let id := given.ledId
  match id.toInt? with
  | some n =>
    if n < 0 then .error (Fault.unknownLed id).worded
    else match config.leds[n.toNat]? with
      | some led => .ok (n.toNat, led)
      | none => .error (Fault.unknownLed id).worded
  | none => .error (Fault.unknownLed id).worded

/-- The LED state that a value equals, which has to be on or off. -/
def switchState (given : Value) : Except Fault LedState :=
  if given.equalsInt LedState.off.code then .ok .off
  else if given.equalsInt LedState.on.code then .ok .on
  else .error (Fault.badLedState given).worded

/-- Switches an LED on or off. -/
def setLed (mouse : Mouse σ τ) (led state : Value) : Action (Session σ τ) Unit := do
  let (index, target) ← Action.ofExcept (findLed (← get).config led)
  let next ← Action.ofExcept (switchState state)
  if !target.supported then
    throw (.absentLed target.name mouse.model.name)
  requireClaim
  amend fun c ↦ c.setLed index next.code

/-- A frequency as the configuration keeps it: by name if it has one. -/
def namedFrequency (given : Value) (n : Int) : Value :=
  match Frequency.ofHertz? n with
  | some f => .frequency f
  | none => given

/-- The integer that a value is, where a truth value does not count as one. -/
def properInt? : Value → Option Int
  | .number (.bool _) => none
  | v => v.toInt?

/-- Sets the scan frequency to an integer. One that no code stands for is found out by the next
commit. -/
def setFrequency (given : Value) : Action (Session σ τ) Unit := do
  requireClaim
  match properInt? given with
  | some n => amend fun c ↦ { c with frequency := namedFrequency given n }
  | none => throw (Fault.frequencyNotInteger given).worded

/-- The mapping in use on an axis, X when none is named; none of an axis without one. -/
def mappingOn (config : Configuration) (axis : Value) : Option ResolutionMapping :=
  match axis with
  | .null => some config.x
  | _ =>
    if axis.idOf.equalsInt Axis.idX then some config.x
    else if axis.idOf.equalsInt Axis.idY then some config.y
    else none

/-- A configuration with a mapping on one axis, or on both when none is named. -/
def withMapping (m : ResolutionMapping) (axis : Value) :
    Except Fault (Configuration → Configuration) :=
  match axis with
  | .null => .ok fun c ↦ { c with x := m, y := m }
  | _ =>
    if axis.idOf.equalsInt Axis.idX then .ok fun c ↦ { c with x := m }
    else if axis.idOf.equalsInt Axis.idY then .ok fun c ↦ { c with y := m }
    else .error (Fault.axisWithoutMapping axis.idOf).worded

/-- The entry of the session's table that a value is. -/
def ownMapping (mouse : Mouse σ τ) (config : Configuration) (given : Value) :
    Except Fault ResolutionMapping :=
  match given with
  | .mapping m =>
    if m ∈ config.generation.table then .ok m
    else .error (Fault.foreignMapping given mouse.model.name).worded
  | _ => .error (Fault.foreignMapping given mouse.model.name).worded

/-- Selects a mapping for an axis, or for both X and Y when none is named. -/
def setMapping (mouse : Mouse σ τ) (given axis : Value) : Action (Session σ τ) Unit := do
  requireClaim
  let m ← Action.ofExcept (ownMapping mouse (← get).config given)
  let change ← Action.ofExcept (withMapping m axis)
  amend change

/-- Selects the table entry of a resolution. -/
def setResolution (mouse : Mouse σ τ) (resolution axis : Value) : Action (Session σ τ) Unit := do
  match (← get).config.mappingFor resolution with
  | some m => setMapping mouse (.mapping m) axis
  | none => throw (Fault.unsupportedResolution mouse.model.name resolution).worded

/-- A session as messages show it. -/
def shown (model : Model) (s : Session σ τ) : Text :=
  "NagaDevice(model=" ++ model.name.quoted ++ ", pid=0x" ++ lowerHex 4 model.pid ++
    ", fw=0x" ++ lowerHex 4 s.firmware ++ ", claimed=" ++ toString s.claims ++ ")"

end Session

end MouseControl
