import MouseControl.Fault.Kind
import MouseControl.Text.Radix
import MouseControl.Value.Shown

/-!
Faults by their causes. `Fault.kind` places a cause among the kinds and `Fault.message` words it. A
fault whose words would hold an integer with too many digits cannot be raised; the attempt raises
another one, which `Fault.worded` gives. Faults that an outside party reports (a transport, a USB
library, an observer) keep the kind and the words they came with.
-/

set_option autoImplicit false
set_option relaxedAutoImplicit false

namespace MouseControl

/-- A response whose status is not an accepted one: the ids of the command and the status. -/
structure Anomaly where
  command : Int
  request : Int
  status : Int
  deriving DecidableEq, Repr

def Anomaly.message (a : Anomaly) : Text :=
  "Command " ++ upperHex 4 a.command ++ "/" ++ upperHex 4 a.request ++ " failed with " ++
    upperHex 2 a.status

/-- The two ways to reach a mouse: control transfers to its interface, which need the kernel's
driver out of the way, or feature reports, which that driver carries. -/
inductive Backend where
  | controlTransfer
  | featureReport
  deriving DecidableEq, Repr

/-- The name of a backend in settings. -/
def Backend.name : Backend → String
  | controlTransfer => "pyusb"
  | featureReport => "hidapi"

/-- The two directions of a transfer. -/
inductive Direction where
  | write
  | read
  deriving DecidableEq, Repr

def Direction.word : Direction → String
  | write => "write"
  | read => "read"

/-- Why something failed. -/
inductive Fault where
  /-- A buffer without a checksum byte. -/
  | noChecksumByte
  | frameSize (got : Nat)
  | tooManyValues (got : Nat)
  /-- Two bytes that do not lie inside the values of a frame. -/
  | valueOffset
  /-- A resolution that does not fit in 16 bits. -/
  | wideResolution
  | unknownGeneration (given : Value)
  | unsupportedFrequency (given : Value)
  | notClaimed
  | releasedUnclaimed
  | unknownLed (id : Value)
  | badLedState (given : Value)
  | absentLed (led model : Text)
  | frequencyNotInteger (given : Value)
  | foreignMapping (given : Value) (model : Text)
  | axisWithoutMapping (id : Value)
  | unsupportedResolution (model : Text) (given : Value)
  | shortWrite (request value transferred : Int) (length : Nat)
  | shortRead (request value : Int) (got : Nat) (length : Int)
  | notResponding (attempts : Number)
  | attemptsTooFew (attempts : Number)
  | negativeDelay (delay : Number)
  /-- A value that is not of the kind an operation works on. -/
  | wrongType
  /-- A text or a double in which no number can be read. -/
  | unreadableNumber
  /-- A number too large for a double, an infinity where an integer is needed, or a wait that is out
  of range. -/
  | tooLarge
  /-- An integer in a document with more digits than are read. -/
  | longInteger (digits : Nat)
  /-- An integer with more digits than are written. -/
  | unwritable
  /-- A wait that is no number. -/
  | waitOfNaN
  | negativeWait
  /-- Every attempt gave a result that was not acceptable. -/
  | nothingAcceptable (what : Text) (attempts : Number)
  | notOpen
  | usbDeviceNotFound (vid pid : Int)
  | hidDeviceNotFound (vid pid : Int)
  | interfaceNotClaimed (cause : Fault)
  | controlTransferFailed (direction : Direction) (request : Int) (cause : Fault)
  | reportTransferFailed (direction : Direction) (cause : Fault)
  | libraryMissing (backend : Backend)
  | unknownBackend (given : Value)
  /-- A configuration that is not an object. -/
  | notAnObject
  /-- A configuration file that is not UTF-8. -/
  | undecodable
  /-- A fault of an outside party. -/
  | reported (kind : FaultKind) (text : Text)
  /-- A fault of a USB library, with its error number. -/
  | reportedUsb (number : Option Int) (text : Text)
  /-- An outside party's retries ran out. -/
  | reportedExhausted (text : Text) (attempts : Number)
  /-- An anomaly that an outside party treats as a fault. -/
  | reportedAnomaly (anomaly : Anomaly)

namespace Fault

/-- The kind of a fault. -/
def kind : Fault → FaultKind
  | noChecksumByte => .index
  | frameSize _ | tooManyValues _ | unknownGeneration _ | attemptsTooFew _ | negativeDelay _
  | unknownBackend _ | unreadableNumber | longInteger _ | unwritable | waitOfNaN
  | negativeWait => .value
  | valueOffset | wideResolution => .packing
  | unsupportedFrequency _ | unknownLed _ | badLedState _ | absentLed .. | frequencyNotInteger _
  | foreignMapping .. | axisWithoutMapping _ | unsupportedResolution .. => .invalidArgument
  | notClaimed | releasedUnclaimed => .busy
  | shortWrite .. | shortRead .. | notOpen | usbDeviceNotFound .. | hidDeviceNotFound ..
  | interfaceNotClaimed _ | controlTransferFailed .. | reportTransferFailed .. => .transfer
  | notResponding _ => .notResponding
  | wrongType => .type
  | tooLarge => .overflow
  | nothingAcceptable .. | reportedExhausted .. => .exhausted
  | libraryMissing _ => .missingModule
  | notAnObject => .shape
  | undecodable => .textDecoding
  | reported kind _ => kind
  | reportedUsb .. => .usb
  | reportedAnomaly _ => .anomaly

/-- Whether a fault is of a kind or of one below it. -/
def isA (fault : Fault) (above : FaultKind) : Bool := fault.kind.isA above

/-- What to install for a backend whose library is missing. -/
def installationHint : Backend → Text
  | .controlTransfer =>
    "pyusb is not installed. Install with: pip install pyusb\n" ++
      "Also need libusb: apt install libusb-1.0-0 (Debian/Ubuntu) " ++
      "or dnf install libusb1 (Fedora)"
  | .featureReport =>
    "hidapi is not installed. Install with: pip install hidapi\n" ++
      "Also need libhidapi: apt install libhidapi-dev (Debian/Ubuntu) " ++
      "or dnf install hidapi-devel (Fedora)"

/-- A request code and its value, as messages name them. -/
def requestText (request value : Int) : Text :=
  "0x" ++ upperHex 2 request ++ " 0x" ++ upperHex 4 value

/-- A vendor and a product id, as messages name them. -/
def idText (vid pid : Int) : Text := "VID=" ++ markedHex 6 vid ++ " PID=" ++ markedHex 6 pid

/-- What is said of integers with too many digits. -/
def digitLimit : Text :=
  "Exceeds the limit (" ++ toString Protocol.mostDigits ++
    " digits) for integer string conversion"

/-- What to do about integers with too many digits. -/
def digitAdvice : Text := "use sys.set_int_max_str_digits() to increase the limit"

/-- The words of a fault. Those that only tell the kind have none. -/
def message : Fault → Text
  | noChecksumByte | valueOffset | wideResolution | wrongType | unreadableNumber | tooLarge
  | notAnObject | undecodable => ""
  | frameSize got =>
    "Frame must be " ++ toString Protocol.frameSize ++ " bytes, got " ++ toString got
  | tooManyValues got =>
    "Frame carries at most " ++ toString Protocol.frameValuesSize ++ " value bytes, got " ++
      toString got
  | unknownGeneration given => given.shown ++ " is not a valid SensorGeneration"
  | unsupportedFrequency given => "Unsupported scan frequency: " ++ given.shown
  | notClaimed => "Device is not claimed"
  | releasedUnclaimed => "Device released without being claimed"
  | unknownLed id => "Unknown LED id: " ++ id.shown
  | badLedState given => "LED state must be ON or OFF, got " ++ given.shown
  | absentLed led model => led ++ " LED is not present on " ++ model
  | frequencyNotInteger given => "Scan frequency must be an integer, got " ++ given.shown
  | foreignMapping given model => given.shown ++ " is not supported by " ++ model
  | axisWithoutMapping id => "Axis " ++ id.shown ++ " has no resolution mapping"
  | unsupportedResolution model given => model ++ " does not support " ++ given.spoken ++ " DPI"
  | shortWrite request value transferred length =>
    "USB write " ++ requestText request value ++ ": " ++ toString transferred ++ " of " ++
      toString length ++ " bytes transferred"
  | shortRead request value got length =>
    "USB read " ++ requestText request value ++ ": got " ++ toString got ++ " of " ++
      toString length ++ " bytes"
  | notResponding attempts => "No firmware version after " ++ attempts.text ++ " attempts"
  | attemptsTooFew attempts => "attempts must be >= 1, got " ++ attempts.text
  | negativeDelay delay => "delay must be >= 0, got " ++ delay.text
  | nothingAcceptable what attempts =>
    what ++ " gave no acceptable result after " ++ attempts.text ++ " attempts"
  | notOpen => "Transport not open"
  | usbDeviceNotFound vid pid => "USB device not found: " ++ idText vid pid
  | hidDeviceNotFound vid pid => "HID device not found: " ++ idText vid pid
  | interfaceNotClaimed cause =>
    "Failed to claim interface " ++ toString Protocol.interfaceNumber ++ ": " ++ cause.message
  | controlTransferFailed direction request cause =>
    "USB " ++ direction.word ++ " 0x" ++ upperHex 2 request ++ " failed: " ++ cause.message
  | reportTransferFailed direction cause =>
    "HID feature " ++ direction.word ++ " failed: " ++ cause.message
  | libraryMissing backend => installationHint backend
  | unknownBackend given => "Unknown USB backend: " ++ given.shown
  | longInteger digits =>
    digitLimit ++ ": value has " ++ toString digits ++ " digits; " ++ digitAdvice
  | unwritable => digitLimit ++ "; " ++ digitAdvice
  | waitOfNaN => "Invalid value NaN (not a number)"
  | negativeWait => "sleep length must be non-negative"
  | reported _ text => text
  | reportedUsb number text =>
    "[Errno " ++ (match number with | some n => toString n | none => "None") ++ "] " ++ text
  | reportedExhausted text _ => text
  | reportedAnomaly anomaly => anomaly.message

/-- Whether the words of a fault can be written. The lengths of buffers always can, and so can the
words of a cause, which were written when it was raised. -/
def isWritable : Fault → Bool
  | unknownGeneration given | unsupportedFrequency given | unknownLed given | badLedState given
  | frequencyNotInteger given | foreignMapping given _ | axisWithoutMapping given
  | unsupportedResolution _ given | unknownBackend given => given.isWritable
  | shortWrite _ _ transferred _ => MouseControl.isWritable transferred
  | shortRead _ _ _ length => MouseControl.isWritable length
  | notResponding attempts | attemptsTooFew attempts | nothingAcceptable _ attempts =>
    attempts.isWritable
  | negativeDelay delay => delay.isWritable
  | _ => true

/-- The fault that raising a fault gives: the words come first, and they can fail. -/
def worded (fault : Fault) : Fault := if fault.isWritable then fault else unwritable

theorem worded_of_isWritable {fault : Fault} (h : fault.isWritable = true) :
    fault.worded = fault := if_pos h

theorem worded_of_not_isWritable {fault : Fault} (h : ¬fault.isWritable = true) :
    fault.worded = unwritable := if_neg h

/-- How many attempts were made by the retries that ran out. -/
def attempts? : Fault → Option Number
  | nothingAcceptable _ attempts | reportedExhausted _ attempts => some attempts
  | _ => none

end Fault

end MouseControl
