import MouseControl.Line.Action
import MouseControl.Line.Notice

/-!
What the two backends have in common: a library over a world of its own, the handle of the device
in use, and the record of every call of the library with its outcome.
-/

set_option autoImplicit false
set_option relaxedAutoImplicit false

namespace MouseControl

/-- Which device a backend is for. -/
structure Target where
  vid : Int
  pid : Int
  serial : Option Text

/-- A backend's hold on a device: worlds `ω` of the library, handles `δ`, kept calls `κ`. -/
structure Attachment (ω δ κ : Type) where
  world : ω
  device : Option δ := none
  isOpen : Bool := false
  /-- Whether the kernel's driver was detached and is to be attached again. -/
  reattach : Bool := false
  calls : List κ := []
  log : List Notice := []

namespace Attachment

variable {ω δ κ α : Type}

/-- Uses the library without keeping the call. -/
def quietly (x : Action ω α) : Action (Attachment ω δ κ) α :=
  x.onPart Attachment.world fun s world ↦ { s with world := world }

/-- Calls the library and keeps the call. -/
def ask (kept : Except Fault α → κ) (x : Action ω α) : Action (Attachment ω δ κ) α :=
  .of fun s ↦
    let r := x.run s.world
    (r.1, { s with world := r.2, calls := s.calls ++ [kept r.1] })

/-- Adds a notice. -/
def note (n : Notice) : Action (Attachment ω δ κ) Unit :=
  .of fun s ↦ (.ok (), { s with log := s.log ++ [n] })

/-- The device that transfers go to. -/
def openedDevice : Action (Attachment ω δ κ) δ := do
  let s ← get
  match s.isOpen, s.device with
  | true, some device => return device
  | _, _ => throw .notOpen

/-- Hands the faults of some kinds to a handler and lets every other one pass. -/
def onFault (kinds : List FaultKind) (x : Action (Attachment ω δ κ) α)
    (handle : Fault → Action (Attachment ω δ κ) α) : Action (Attachment ω δ κ) α :=
  tryCatch x fun fault ↦ if kinds.any fault.isA then handle fault else throw fault

end Attachment

end MouseControl
