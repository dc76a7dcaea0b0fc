import MouseControl.Device.Model

/-!
What the library reports while it works. A notice is the event itself; its level, the part of the
library that speaks and the words follow from it.
-/

set_option autoImplicit false
set_option relaxedAutoImplicit false

namespace MouseControl

/-- How urgent a notice is. -/
inductive Level where
  | debug
  | info
  | warning
  | error
  deriving DecidableEq, Repr

namespace Level

/-- The place of a level in their order. -/
def rank : Level → Nat
  | debug => 0
  | info => 1
  | warning => 2
  | error => 3

def name : Level → String
  | debug => "DEBUG"
  | info => "INFO"
  | warning => "WARNING"
  | error => "ERROR"

def all : List Level := [debug, info, warning, error]

end Level

/-- Something worth reporting. -/
inductive Notice where
  | attemptFailed (what : Text) (attempt : Nat) (attempts : Number) (cause : Fault)
  | attemptRejected (what : Text) (attempt : Nat) (attempts : Number)
  | answered (command request status : Int)
  | badChecksum (command request checksum computed : Int)
  | anomaly (anomaly : Anomaly)
  | firmwareUnread (cause : Fault)
  | shortWrite (request value transferred : Int) (length : Nat)
  | readFailed (cause : Fault)
  | backendChosen (backend : Backend) (vid pid : Int)
  | transportOpened (backend : Backend) (vid pid : Int)
  | driverNotReattached (cause : Fault)
  | interfaceNotReleased (cause : Fault)
  | initialCommitFailed (cause : Fault)
  | initialized (model : Text) (firmware : Int) (generation : Generation)
  | oldFirmware (model : Text) (firmware good : Int)
  | invalidSetting (key : String) (given : Value)
  | invalidTimeout (given : Text)
  | unknownBackend (given : Value)

namespace Notice

def level : Notice → Level
  | attemptFailed .. | attemptRejected .. | answered .. | backendChosen .. | transportOpened ..
  | interfaceNotReleased _ => .debug
  | initialized .. => .info
  | badChecksum .. | anomaly _ | driverNotReattached _ | oldFirmware .. | invalidSetting ..
  | invalidTimeout _ | unknownBackend _ => .warning
  | firmwareUnread _ | shortWrite .. | readFailed _ | initialCommitFailed _ => .error

/-- The name of the logger that a notice goes to. -/
def logger : Notice → String
  | attemptFailed .. | attemptRejected .. => "naga.retry"
  | answered .. | badChecksum .. | anomaly _ | firmwareUnread _ => "naga.sequencer"
  | shortWrite .. | readFailed _ | backendChosen .. | transportOpened .. | driverNotReattached _
  | interfaceNotReleased _ => "naga.transport"
  | initialCommitFailed _ | initialized .. | oldFirmware .. => "naga.device"
  | invalidSetting .. | invalidTimeout _ | unknownBackend _ => "naga.conf"

/-- A command and a request id, as notices name them. -/
def commandText (command request : Int) : Text :=
  "Command " ++ upperHex 4 command ++ "/" ++ upperHex 4 request

/-- A vendor and a product id, as notices name them. -/
def deviceText (vid pid : Int) : Text := lowerHex 4 vid ++ ":" ++ lowerHex 4 pid

/-- Which attempt of how many. -/
def attemptText (what : Text) (attempt : Nat) (attempts : Number) : Text :=
  what ++ " attempt " ++ toString attempt ++ "/" ++ attempts.countText

/-- The words of a notice. -/
def message : Notice → Text
  | attemptFailed what attempt attempts cause =>
    attemptText what attempt attempts ++ " failed: " ++ cause.message
  | attemptRejected what attempt attempts =>
    attemptText what attempt attempts ++ ": result rejected"
  | answered command request status =>
    commandText command request ++ " -> status " ++ upperHex 2 status
  | badChecksum command request checksum computed =>
    commandText command request ++ ": response checksum " ++ upperHex 2 checksum ++
      ", expected " ++ upperHex 2 computed
  | anomaly a => a.message
  | firmwareUnread cause => "Failed to read firmware version: " ++ cause.message
  | shortWrite request value transferred length =>
    "USB write " ++ Fault.requestText request value ++ " failed: " ++ toString transferred ++
      " of " ++ toString length ++ " bytes"
  | readFailed cause => cause.message
  | backendChosen backend vid pid =>
    "Using " ++ backend.name ++ " backend for " ++ deviceText vid pid
  | transportOpened backend vid pid =>
    backend.name ++ " transport open: " ++ deviceText vid pid
  | driverNotReattached cause =>
    "Could not reattach kernel driver to interface " ++ toString Protocol.interfaceNumber ++
      ": " ++ cause.message
  | interfaceNotReleased cause =>
    "Release of interface " ++ toString Protocol.interfaceNumber ++ " failed: " ++ cause.message
  | initialCommitFailed cause => "Failed to commit initial settings: " ++ cause.message
  | initialized model firmware generation =>
    model ++ " initialized: firmware " ++ Firmware.shown firmware ++ ", " ++ generation.name ++
      " sensor"
  | oldFirmware model firmware good =>
    "The firmware version " ++ Firmware.shown firmware ++ " of this " ++ model ++
      " has known bugs. Please upgrade to version " ++ Firmware.shown good ++ " or later."
  | invalidSetting key given =>
    "Ignoring invalid config value usb." ++ key ++ "=" ++ given.shown
  | invalidTimeout given =>
    "Ignoring invalid NAGA_USB_TIMEOUT_MS=" ++ given.quoted
  | unknownBackend given => "Unknown USB backend " ++ given.shown ++ ", using auto"

/-- A notice as one line. -/
def line (n : Notice) : Text := n.level.name ++ " " ++ n.logger ++ " " ++ n.message

end Notice

end MouseControl
