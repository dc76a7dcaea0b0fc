import MouseControl.Wire.Frame

/-!
Resolution tables and how the two sensor generations put a resolution on the wire. Both tables go
in steps of 100 dots per inch. The legacy generation sends one byte per axis, four times the table
index; the extended one sends the resolution itself, in two bytes per axis after a zero byte.
-/

set_option autoImplicit false
set_option relaxedAutoImplicit false

namespace MouseControl

/-- The step of the resolution tables. -/
def resolutionStep : Int := 100

/-- The resolution that a configuration starts with. -/
def defaultResolution : Int := 1000

/-- The entry of a resolution table with an index. -/
def ResolutionMapping.ofIndex (i : Nat) : ResolutionMapping := ⟨i, (i + 1) * resolutionStep⟩

namespace Generation

def name : Generation → String
  | legacy => "legacy"
  | extended => "extended"

/-- The generation that a value names. -/
def ofValue (v : Value) : Except Fault Generation :=
  match [legacy, extended].find? fun g ↦ v.isString g.name with
  | some g => .ok g
  | none => .error (Fault.unknownGeneration v).worded

/-- How many resolutions a sensor has. -/
def size : Generation → Nat
  | legacy => 56
  | extended => 82

/-- The highest resolution of a sensor. -/
def highest (g : Generation) : Int := g.size * resolutionStep

/-- The resolutions of a sensor, lowest first. -/
def table (g : Generation) : List ResolutionMapping :=
  (List.range g.size).map ResolutionMapping.ofIndex

/-- The opcode that sets a resolution. -/
def opcode : Generation → Opcode
  | legacy => .legacyResolution
  | extended => .extendedResolution

/-- The byte by which the legacy generation names a resolution. -/
def legacyByte (resolution : Int) : UInt8 :=
  UInt8.ofNat ((resolution / resolutionStep - 1) * 4 % 0x100).toNat

/-- Whether a resolution fits in 16 bits. -/
def fits16 (resolution : Int) : Bool := 0 ≤ resolution && resolution < 0x10000

/-- The values of the command that sets the resolutions of both axes. -/
def encodeValues (g : Generation) (x y : ResolutionMapping) : Except Fault Bytes :=
  match g with
  | legacy => .ok [legacyByte x.resolution, legacyByte y.resolution]
  | extended =>
    if fits16 x.resolution && fits16 y.resolution then
      .ok (0 :: bigEndian16 x.resolution ++ bigEndian16 y.resolution)
    else .error .wideResolution

/-- The frame that sets the resolutions of both axes. -/
def encode (g : Generation) (x y : ResolutionMapping) : Except Fault Bytes := do
  Frame.encode g.opcode (← g.encodeValues x y)

end Generation

end MouseControl
