import MouseControl.Backend.Attachment
import MouseControl.Line.Transport

/-!
The transport by control transfers. Opening finds the device, detaches the kernel's driver from
the interface if one is bound to it, and claims the interface; closing releases it and hands the
mouse back to the kernel. Faults of the USB library become faults of the transport, faults of
other kinds pass through as they are.
-/

set_option autoImplicit false
set_option relaxedAutoImplicit false

namespace MouseControl.ControlTransfer

open Attachment

/-- A USB library over worlds `ω`, which names devices by handles `δ`. -/
structure UsbLibrary (ω δ : Type) where
  find : (vid pid : Int) → (serial : Option Text) → Action ω (Option δ)
  kernelDriverActive : δ → (interface : Int) → Action ω Bool
  detachKernelDriver : δ → (interface : Int) → Action ω Unit
  attachKernelDriver : δ → (interface : Int) → Action ω Unit
  claimInterface : δ → (interface : Int) → Action ω Unit
  releaseInterface : δ → (interface : Int) → Action ω Unit
  dispose : δ → Action ω Unit
  controlOut : δ → (requestType : Int) → WriteCall → Action ω Int
  controlIn : δ → (requestType : Int) → ReadCall → Action ω Bytes

/-- A call of the USB library with its outcome. -/
inductive Call (δ : Type) where
  | find (vid pid : Int) (serial : Option Text) (outcome : Except Fault (Option δ))
  | kernelDriverActive (device : δ) (interface : Int) (outcome : Except Fault Bool)
  | detach (device : δ) (interface : Int) (outcome : Except Fault Unit)
  | attach (device : δ) (interface : Int) (outcome : Except Fault Unit)
  | claim (device : δ) (interface : Int) (outcome : Except Fault Unit)
  | release (device : δ) (interface : Int) (outcome : Except Fault Unit)
  | dispose (device : δ) (outcome : Except Fault Unit)
  | controlOut (device : δ) (requestType : Int) (call : WriteCall) (outcome : Except Fault Int)
  | controlIn (device : δ) (requestType : Int) (call : ReadCall) (outcome : Except Fault Bytes)

/-- The state of the transport. -/
abbrev State (ω δ : Type) := Attachment ω δ (Call δ)

variable {ω δ : Type} (usb : UsbLibrary ω δ)

/-- Attaches the kernel's driver again if it was detached. That it does not come back is only
noted. -/
def restoreKernelDriver (device : δ) : Action (State ω δ) Unit := do
  if (← get).reattach then
    onFault [.usb]
      (ask (.attach device Protocol.interfaceNumber)
        (usb.attachKernelDriver device Protocol.interfaceNumber))
      fun fault ↦ note (.driverNotReattached fault)
    modify fun s ↦ { s with reattach := false }

/-- Ends the use of a device that was found. -/
def dropDevice (device : δ) : Action (State ω δ) Unit := do
  restoreKernelDriver usb device
  ask (.dispose device) (usb.dispose device)
  modify fun s ↦ { s with device := none }

/-- Detaches the kernel's driver if it is bound to the interface. -/
def detachIfActive (device : δ) : Action (State ω δ) Unit := do
  if ← ask (.kernelDriverActive device Protocol.interfaceNumber)
      (usb.kernelDriverActive device Protocol.interfaceNumber) then
    ask (.detach device Protocol.interfaceNumber)
      (usb.detachKernelDriver device Protocol.interfaceNumber)
    modify fun s ↦ { s with reattach := true }

/-- Takes the interface of a device from the kernel. When the library refuses, the kernel gets
back what was taken. -/
def takeInterface (device : δ) : Action (State ω δ) Unit :=
  onFault [.usb]
    (do
      detachIfActive usb device
      ask (.claim device Protocol.interfaceNumber)
        (usb.claimInterface device Protocol.interfaceNumber))
    fun fault ↦ do
      dropDevice usb device
      throw (.interfaceNotClaimed fault)

/-- Opens the device. An empty serial number counts as none. -/
def openDevice (target : Target) : Action (State ω δ) Unit := do
  let serial := target.serial.filter (!·.isEmpty)
  let found ← ask (.find target.vid target.pid serial) (usb.find target.vid target.pid serial)
  modify fun s ↦ { s with device := found }
  match found with
  | none => throw (.usbDeviceNotFound target.vid target.pid)
  | some device =>
    takeInterface usb device
    modify fun s ↦ { s with isOpen := true }
    note (.transportOpened .controlTransfer target.vid target.pid)

/-- Closes the device. That the interface is not released is only noted. -/
def closeDevice : Action (State ω δ) Unit := do
  if let some device := (← get).device then
    onFault [.usb]
      (ask (.release device Protocol.interfaceNumber)
        (usb.releaseInterface device Protocol.interfaceNumber))
      fun fault ↦ note (.interfaceNotReleased fault)
    dropDevice usb device
  modify fun s ↦ { s with isOpen := false }

/-- An outgoing class transfer. -/
def write (call : WriteCall) : Action (State ω δ) Int := do
  let device ← openedDevice
  onFault [.usb]
    (ask (.controlOut device Protocol.outRequestType call)
      (usb.controlOut device Protocol.outRequestType call))
    fun fault ↦ throw (.controlTransferFailed .write call.request fault)

/-- An incoming class transfer. -/
def read (call : ReadCall) : Action (State ω δ) Bytes := do
  let device ← openedDevice
  onFault [.usb]
    (ask (.controlIn device Protocol.inRequestType call)
      (usb.controlIn device Protocol.inRequestType call))
    fun fault ↦ throw (.controlTransferFailed .read call.request fault)

end MouseControl.ControlTransfer
