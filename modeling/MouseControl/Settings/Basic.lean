import MouseControl.Line.Action
import MouseControl.Line.Notice
import MouseControl.Settings.File

/-!
The tuning of the library. A setting comes from the `usb` section of the configuration, or else is
a default; two of them can be overridden by the environment. A setting that cannot be read as a
number is left out with a warning. A number too large to be read is a fault.
-/

set_option autoImplicit false
set_option relaxedAutoImplicit false

namespace MouseControl

/-- What the environment overrides. -/
structure Overrides where
  backend : Option Text := none
  timeout : Option Text := none

/-- The settings: the `usb` section and the overrides. -/
structure Settings where
  usb : List (Text × Value)
  overrides : Overrides

/-- A choice of backend: one of them, or the first whose library is there. -/
inductive BackendChoice where
  | auto
  | only (backend : Backend)
  deriving DecidableEq, Repr

namespace BackendChoice

def name : BackendChoice → String
  | auto => "auto"
  | only backend => backend.name

def all : List BackendChoice := [auto, only .controlTransfer, only .featureReport]

/-- The choice that a value names. -/
def ofValue? (v : Value) : Option BackendChoice := all.find? fun c ↦ v.isString c.name

end BackendChoice

namespace Value

/-- A value read as an integer: a double loses its fraction and a text is read. -/
def wholeNumber (v : Value) : Except Fault Int :=
  match v with
  | text t =>
    match Reader.int? t with
    | some n => .ok n
    | none => .error .unreadableNumber
  | _ =>
    match v.toNumber? with
    | some (.float x) =>
      match Binary.ofFloat x with
      | .nan => .error .unreadableNumber
      | b =>
        match b.truncate? with
        | some n => .ok n
        | none => .error .tooLarge
    | some n =>
      match n.toInt? with
      | some k => .ok k
      | none => .error .wrongType
    | none => .error .wrongType

/-- A value read as a double: an integer is rounded and a text is read. -/
def realNumber (v : Value) : Except Fault Float :=
  match v with
  | text t =>
    match Reader.float? t with
    | some x => .ok x
    | none => .error .unreadableNumber
  | _ =>
    match v.toNumber? with
    | some n =>
      match n.toFloat? with
      | some x => .ok x
      | none => .error .tooLarge
    | none => .error .wrongType

end Value

namespace Settings

/-- Reading a setting may leave notices. -/
abbrev Reading := Action (List Notice)

/-- Adds a notice. -/
def warn (n : Notice) : Reading Unit := modify (· ++ [n])

/-- The section of a configuration that tunes the line; whatever is no object is an empty one. -/
def usbSection (members : List (Text × Value)) : List (Text × Value) :=
  match Value.lookup "usb" members with
  | some (.object tuning) => tuning
  | _ => []

/-- The settings of a configuration that is given as the members of an object. -/
def ofMembers (members : List (Text × Value)) (overrides : Overrides) : Settings :=
  ⟨usbSection members, overrides⟩

/-- The settings of a configuration that is given as a value; only an object has any. -/
def ofValue (config : Value) (overrides : Overrides) : Except Fault Settings :=
  match config with
  | .object members => .ok (ofMembers members overrides)
  | _ => .error .notAnObject

/-- Reads a setting. A value of the wrong type and one that spells no number are left out, any
other fault stands. -/
def number {α : Type} (s : Settings) (key : String) (read : Value → Except Fault α) (default : α) :
    Reading α :=
  match Value.lookup key s.usb with
  | none => pure default
  | some v =>
    match read v with
    | .ok a => pure a
    | .error fault => do
      if fault.isA .type || fault.isA .value then
        warn (.invalidSetting key v)
        return default
      else
        throw fault

/-- An override that is set and not empty. -/
def given (override : Option Text) : Option Text := override.filter (!·.isEmpty)

/-- The backend to use. -/
def backend (s : Settings) : Reading BackendChoice := do
  let name := match given s.overrides.backend with
    | some name => Value.text name
    | none => (Value.lookup "backend" s.usb).getD (.string BackendChoice.auto.name)
  match BackendChoice.ofValue? name with
  | some choice => return choice
  | none =>
    warn (.unknownBackend name)
    return .auto

/-- The timeout of a transfer, in milliseconds. -/
def timeout (s : Settings) : Reading Int := do
  match given s.overrides.timeout with
  | some spelled =>
    match Reader.int? spelled with
    | some n => return n
    | none => warn (.invalidTimeout spelled)
  | none => pure ()
  s.number "usb_timeout_ms" Value.wholeNumber Protocol.defaultTimeout

/-- The least gap between two transfers, in milliseconds. -/
def packetSpacing (s : Settings) : Reading Int :=
  s.number "packet_spacing_ms" Value.wholeNumber Protocol.packetSpacing

def probeAttempts (s : Settings) : Reading Int :=
  s.number "probe_attempts" Value.wholeNumber Protocol.probeAttempts

/-- The pause between two firmware probes, in seconds. -/
def probeDelay (s : Settings) : Reading Float :=
  s.number "probe_delay_s" Value.realNumber Protocol.probeDelay

def readAttempts (s : Settings) : Reading Int :=
  s.number "read_attempts" Value.wholeNumber Protocol.readAttempts

end Settings

end MouseControl
