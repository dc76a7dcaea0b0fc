import MouseControl.Backend.ControlTransfer
import MouseControl.Backend.FeatureReport
import MouseControl.Line.Time
import MouseControl.Settings.Basic

/-!
The choice between the two backends, and both as transports of one type.
-/

set_option autoImplicit false
set_option relaxedAutoImplicit false

namespace MouseControl

/-- Which of the two libraries are there. -/
structure Availability where
  usb : Bool
  hid : Bool
  deriving DecidableEq, Repr

namespace Availability

/-- Whether the library of a backend is there. -/
def has (a : Availability) : Backend → Bool
  | .controlTransfer => a.usb
  | .featureReport => a.hid

/-- The backend that a choice leads to: control transfers come first when either will do. -/
def backendFor (a : Availability) : BackendChoice → Backend
  | .only backend => backend
  | .auto => if a.usb then .controlTransfer else .featureReport

end Availability

namespace Backend

/-- Sets up a backend, whose library has to be there. -/
def choose (a : Availability) (vid pid : Int) (choice : BackendChoice) :
    Settings.Reading Backend := do
  let backend := a.backendFor choice
  Settings.warn (.backendChosen backend vid pid)
  if !a.has backend then
    throw (.libraryMissing backend)
  return backend

/-- Sets up the backend that a value names. -/
def chooseNamed (a : Availability) (vid pid : Int) (name : Value) : Settings.Reading Backend :=
  match BackendChoice.ofValue? name with
  | some choice => choose a vid pid choice
  | none => throw (Fault.unknownBackend name).worded

end Backend

/-- A step of an action as a transport's reply; the action itself takes no time. -/
def Action.reply {S τ α : Type} [TimeScale τ] (x : Action S α) (s : S) : Reply S τ α :=
  ⟨(x.run s).1, (x.run s).2, Zero.zero⟩

/-- Control transfers as a transport. -/
def ControlTransfer.transport {ω δ τ : Type} [TimeScale τ] (usb : UsbLibrary ω δ)
    (target : Target) : Transport (State ω δ) τ where
  isOpen := Attachment.isOpen
  openDevice := (ControlTransfer.openDevice usb target).reply
  closeDevice := (ControlTransfer.closeDevice usb).reply
  write call := (ControlTransfer.write usb call).reply
  read call := (ControlTransfer.read usb call).reply

/-- Feature reports as a transport. -/
def FeatureReport.transport {ω δ τ : Type} [TimeScale τ] (hid : HidLibrary ω δ)
    (target : Target) : Transport (State ω δ) τ where
  isOpen := Attachment.isOpen
  openDevice := (FeatureReport.openDevice hid target).reply
  closeDevice := (FeatureReport.closeDevice hid).reply
  write call := (FeatureReport.write hid call).reply
  read call := (FeatureReport.read hid call).reply

end MouseControl
