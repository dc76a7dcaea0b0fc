import MouseControl.Device.Resolution

/-!
Mouse models by product id, and firmware versions as two packed bytes.
-/

set_option autoImplicit false
set_option relaxedAutoImplicit false

namespace MouseControl

namespace Firmware

/-- A version from its major and minor number, of which the low bytes count. -/
def pack (major minor : Int) : Int := major % 0x100 * 0x100 + minor % 0x100

/-- The major number of a packed version. -/
def major (version : Int) : Int := version / 0x100 % 0x100

/-- The minor number of a packed version. -/
def minor (version : Int) : Int := version % 0x100

/-- A version as messages show it, the minor number with two digits. -/
def shown (version : Int) : String :=
  toString (major version) ++ "." ++ filledDecimal 2 (minor version)

end Firmware

/-- What is known about a model. -/
structure Model where
  pid : Int
  name : Text
  generation : Generation := .legacy
  hasThumbGrid : Bool := false
  /-- The oldest firmware without known faults; zero when none is known. -/
  goodFirmware : Int := 0
  deriving DecidableEq, Repr

namespace Model

/-- The models that differ or have a name of their own. The first firmware of the Epic drops
settings. -/
def known : List Model :=
  [ { pid := Protocol.classicPid, name := "Naga" }
  , { pid := Protocol.epicPid, name := "Naga Epic", goodFirmware := Firmware.pack 1 4 }
  , { pid := Protocol.secondEditionPid, name := "Naga 2012" }
  , { pid := Protocol.hexPid, name := "Naga Hex" }
  , { pid := Protocol.hexV2Pid, name := "Naga Hex v2" }
  , { pid := Protocol.thirdEditionPid, name := "Naga 2014", generation := .extended,
      hasThumbGrid := true } ]

/-- The model with a product id, among those registered; any other id is driven like the first
model. -/
def forPid (registered : List Model) (pid : Int) : Model :=
  (registered.find? fun m ↦ m.pid == pid).getD { pid := pid, name := "Naga" }

/-- Whether a firmware of this model has known faults. -/
def hasOldFirmware (m : Model) (version : Int) : Bool :=
  m.goodFirmware != 0 && version < m.goodFirmware

end Model

end MouseControl
