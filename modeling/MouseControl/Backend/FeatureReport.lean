import MouseControl.Backend.Attachment
import MouseControl.Line.Transport

/-!
The transport by feature reports, which the operating system's driver carries without being
detached. A report begins with its id, the low byte of the transfer's value field; the id is put
before the data of a write, is not counted as a byte written, and is taken off the data of a read.
Faults of the operating system and values that the library refuses become faults of the transport,
faults of other kinds pass through as they are.
-/

set_option autoImplicit false
set_option relaxedAutoImplicit false

namespace MouseControl.FeatureReport

open Attachment

/-- A feature report library over worlds `ω`, which names devices by handles `δ`. A handle is made
before it is opened. -/
structure HidLibrary (ω δ : Type) where
  newDevice : Action ω δ
  openDevice : δ → (vid pid : Int) → (serial : Option Text) → Action ω Unit
  closeDevice : δ → Action ω Unit
  sendReport : δ → Bytes → Action ω Int
  getReport : δ → (id length : Int) → Action ω (Option Bytes)

/-- A call of the library with its outcome. -/
inductive Call (δ : Type) where
  | openDevice (device : δ) (vid pid : Int) (serial : Option Text) (outcome : Except Fault Unit)
  | closeDevice (device : δ) (outcome : Except Fault Unit)
  | sendReport (device : δ) (report : Bytes) (outcome : Except Fault Int)
  | getReport (device : δ) (id length : Int) (outcome : Except Fault (Option Bytes))

/-- The state of the transport. -/
abbrev State (ω δ : Type) := Attachment ω δ (Call δ)

/-- The id of the report that a transfer's value field names. -/
def reportId (value : Int) : Int := value % 0x100

/-- The report that carries some data. -/
def reportOf (value : Int) (data : Bytes) : Bytes := UInt8.ofNat (reportId value).toNat :: data

/-- The bytes written of a report, without its id. -/
def dataWritten (count : Int) : Int := max 0 (count - 1)

/-- The data of a report, without its id. -/
def reportData (report : Option Bytes) : Bytes := (report.getD []).drop 1

variable {ω δ : Type} (hid : HidLibrary ω δ)

/-- Opens the device. -/
def openDevice (target : Target) : Action (State ω δ) Unit := do
  let device ← quietly hid.newDevice
  onFault [.system]
    (ask (.openDevice device target.vid target.pid target.serial)
      (hid.openDevice device target.vid target.pid target.serial))
    fun _ ↦ throw (.hidDeviceNotFound target.vid target.pid)
  modify fun s ↦ { s with device := some device, isOpen := true }
  note (.transportOpened .featureReport target.vid target.pid)

/-- Closes the device. -/
def closeDevice : Action (State ω δ) Unit := do
  if let some device := (← get).device then
    ask (.closeDevice device) (hid.closeDevice device)
    modify fun s ↦ { s with device := none }
  modify fun s ↦ { s with isOpen := false }

/-- Sends data as a feature report. -/
def write (call : WriteCall) : Action (State ω δ) Int := do
  let device ← openedDevice
  let report := reportOf call.value call.data
  let count ← onFault [.system, .value]
    (ask (.sendReport device report) (hid.sendReport device report))
    fun fault ↦ throw (.reportTransferFailed .write fault)
  return dataWritten count

/-- Reads data as a feature report. -/
def read (call : ReadCall) : Action (State ω δ) Bytes := do
  let device ← openedDevice
  let report ← onFault [.system, .value]
    (ask (.getReport device (reportId call.value) (call.length + 1))
      (hid.getReport device (reportId call.value) (call.length + 1)))
    fun fault ↦ throw (.reportTransferFailed .read fault)
  return reportData report

end MouseControl.FeatureReport
