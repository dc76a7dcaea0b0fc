import MouseControl.Backend.ControlTransfer
import MouseControl.Backend.FeatureReport

/-!
What the steps on an attachment do to it: one equation per step. A call of the library is kept with
its outcome, faults of some kinds go to their handler (`run_onFault_ask`), and a device is given out
only by an attachment that is open (`run_openedDevice_of_open`, `run_openedDevice_of_closed`). From
these follow the transfers of both backends: an open one makes a single call and puts its faults in
its own words, a closed one makes none.
-/

set_option autoImplicit false
set_option relaxedAutoImplicit false

namespace MouseControl

namespace Action

/-- An action that fails does so with a fault of some kind. -/
def FailsWith {S α : Type} (kind : FaultKind) (x : Action S α) : Prop :=
  ∀ s fault, (x.run s).1 = .error fault → fault.isA kind = true

end Action

namespace Attachment

open MouseControl.Action

variable {ω δ κ α : Type}

@[simp] theorem run_ask (kept : Except Fault α → κ) (x : Action ω α) (s : Attachment ω δ κ) :
    (ask kept x).run s =
      ((x.run s.world).1,
        { s with world := (x.run s.world).2, calls := s.calls ++ [kept (x.run s.world).1] }) :=
  rfl

theorem run_ask_of {x : Action ω α} {s : Attachment ω δ κ} {outcome : Except Fault α}
    (h : (x.run s.world).1 = outcome) (kept : Except Fault α → κ) :
    (ask kept x).run s = (outcome, ((ask kept x).run s).2) :=
  Prod.ext h rfl

@[simp] theorem run_note (n : Notice) (s : Attachment ω δ κ) :
    (note n).run s = (.ok (), { s with log := s.log ++ [n] }) :=
  rfl

theorem run_onFault_ok {kinds : List FaultKind} {x : Action (Attachment ω δ κ) α}
    {handle : Fault → Action (Attachment ω δ κ) α} {s t : Attachment ω δ κ} {a : α}
    (h : x.run s = (.ok a, t)) : (onFault kinds x handle).run s = (.ok a, t) := by
  rw [onFault, run_tryCatch, h]

/-- A fault of one of the kinds goes to the handler, in the state it left. -/
theorem run_onFault_error {kinds : List FaultKind} {x : Action (Attachment ω δ κ) α}
    {handle : Fault → Action (Attachment ω δ κ) α} {s t : Attachment ω δ κ} {fault : Fault}
    (h : x.run s = (.error fault, t)) (hkind : kinds.any fault.isA = true) :
    (onFault kinds x handle).run s = (handle fault).run t := by
  rw [onFault, run_tryCatch, h]
  show (if _ then _ else _ : Action _ _).run t = _
  rw [if_pos hkind]

/-- A fault of no such kind passes. -/
theorem run_onFault_other {kinds : List FaultKind} {x : Action (Attachment ω δ κ) α}
    {handle : Fault → Action (Attachment ω δ κ) α} {s t : Attachment ω δ κ} {fault : Fault}
    (h : x.run s = (.error fault, t)) (hkind : ¬kinds.any fault.isA = true) :
    (onFault kinds x handle).run s = (.error fault, t) := by
  rw [onFault, run_tryCatch, h]
  show (if _ then _ else _ : Action _ _).run t = _
  rw [if_neg hkind, run_throw]

/-- A call that fails with faults of one kind only goes on in the handler. -/
theorem run_onFault_ask {kind : FaultKind} {x : Action ω α} (hx : FailsWith kind x)
    (kept : Except Fault α → κ) (handle : Fault → Action (Attachment ω δ κ) α)
    (s : Attachment ω δ κ) :
    (onFault [kind] (ask kept x) handle).run s =
      match (x.run s.world).1 with
      | .ok a => (.ok a, ((ask kept x).run s).2)
      | .error fault => (handle fault).run ((ask kept x).run s).2 := by
  rcases houtcome : (x.run s.world).1 with fault | a
  · exact run_onFault_error (run_ask_of houtcome kept) (by simpa using hx s.world fault houtcome)
  · exact run_onFault_ok (run_ask_of houtcome kept)

/-- An attachment with another log. -/
def withLog (s : Attachment ω δ κ) (log : List Notice) : Attachment ω δ κ := { s with log := log }

/-- A call whose faults are only noted. -/
theorem run_onFault_ask_note {kind : FaultKind} {x : Action ω Unit} (hx : FailsWith kind x)
    (kept : Except Fault Unit → κ) (notice : Fault → Notice) (s : Attachment ω δ κ) :
    ∃ log, (onFault [kind] (ask kept x) fun fault ↦ note (notice fault)).run s =
      (.ok (), ((ask kept x).run s).2.withLog log) := by
  rw [run_onFault_ask hx]
  rcases (x.run s.world).1 with fault | _
  · exact ⟨_, rfl⟩
  · exact ⟨s.log, rfl⟩

/-- A call whose faults, as far as they are of some kinds, are put in other words. -/
theorem run_onFault_ask_throw (kinds : List FaultKind) (kept : Except Fault α → κ)
    (x : Action ω α) (reworded : Fault → Fault) (s : Attachment ω δ κ) :
    (onFault kinds (ask kept x) fun fault ↦ throw (reworded fault)).run s =
      ((x.run s.world).1.mapError fun fault ↦
          if kinds.any fault.isA then reworded fault else fault,
        ((ask kept x).run s).2) := by
  rcases houtcome : (x.run s.world).1 with fault | a
  · rw [onFault, run_tryCatch, run_ask_of houtcome]
    show (if _ then _ else _ : Action _ _).run _ = (.error (if _ then _ else _), _)
    split <;> rfl
  · exact run_onFault_ok (run_ask_of houtcome kept)

theorem run_openedDevice_of_open {s : Attachment ω δ κ} {device : δ} (hopen : s.isOpen = true)
    (hdevice : s.device = some device) :
    (openedDevice : Action (Attachment ω δ κ) δ).run s = (.ok device, s) := by
  rw [openedDevice, run_bind_ok (run_get s), hopen, hdevice]
  rfl

theorem run_openedDevice_of_closed {s : Attachment ω δ κ} (hclosed : s.isOpen = false) :
    (openedDevice : Action (Attachment ω δ κ) δ).run s = (.error .notOpen, s) := by
  rw [openedDevice, run_bind_ok (run_get s), hclosed]
  rfl

end Attachment

open MouseControl.Action Attachment

variable {ω δ : Type} {device : δ}

namespace ControlTransfer

variable (usb : UsbLibrary ω δ) {s : State ω δ}

theorem run_write_of_open (hopen : s.isOpen = true) (hdevice : s.device = some device)
    (call : WriteCall) :
    (write usb call).run s =
      (((usb.controlOut device Protocol.outRequestType call).run s.world).1.mapError fun fault ↦
          if [.usb].any fault.isA then .controlTransferFailed .write call.request fault else fault,
        ((ask (.controlOut device Protocol.outRequestType call)
          (usb.controlOut device Protocol.outRequestType call)).run s).2) := by
  rw [write, run_bind_ok (run_openedDevice_of_open hopen hdevice)]
  exact run_onFault_ask_throw ..

theorem run_read_of_open (hopen : s.isOpen = true) (hdevice : s.device = some device)
    (call : ReadCall) :
    (read usb call).run s =
      (((usb.controlIn device Protocol.inRequestType call).run s.world).1.mapError fun fault ↦
          if [.usb].any fault.isA then .controlTransferFailed .read call.request fault else fault,
        ((ask (.controlIn device Protocol.inRequestType call)
          (usb.controlIn device Protocol.inRequestType call)).run s).2) := by
  rw [read, run_bind_ok (run_openedDevice_of_open hopen hdevice)]
  exact run_onFault_ask_throw ..

theorem run_write_of_closed (hclosed : s.isOpen = false) (call : WriteCall) :
    (write usb call).run s = (.error .notOpen, s) :=
  run_bind_error (run_openedDevice_of_closed hclosed)

theorem run_read_of_closed (hclosed : s.isOpen = false) (call : ReadCall) :
    (read usb call).run s = (.error .notOpen, s) :=
  run_bind_error (run_openedDevice_of_closed hclosed)

end ControlTransfer

namespace FeatureReport

variable (hid : HidLibrary ω δ) {s : State ω δ}

theorem run_write_of_open (hopen : s.isOpen = true) (hdevice : s.device = some device)
    (call : WriteCall) :
    (write hid call).run s =
      ((((hid.sendReport device (reportOf call.value call.data)).run s.world).1.mapError fun fault ↦
          if [.system, .value].any fault.isA then .reportTransferFailed .write fault
          else fault).map dataWritten,
        ((ask (.sendReport device (reportOf call.value call.data))
          (hid.sendReport device (reportOf call.value call.data))).run s).2) := by
  rw [write, run_bind_ok (run_openedDevice_of_open hopen hdevice), run_bind, run_onFault_ask_throw]
  rcases ((hid.sendReport device (reportOf call.value call.data)).run s.world).1 with fault | count
  · rfl
  · rfl

theorem run_read_of_open (hopen : s.isOpen = true) (hdevice : s.device = some device)
    (call : ReadCall) :
    (read hid call).run s =
      ((((hid.getReport device (reportId call.value) (call.length + 1)).run
          s.world).1.mapError fun fault ↦
          if [.system, .value].any fault.isA then .reportTransferFailed .read fault
          else fault).map reportData,
        ((ask (.getReport device (reportId call.value) (call.length + 1))
          (hid.getReport device (reportId call.value) (call.length + 1))).run s).2) := by
  rw [read, run_bind_ok (run_openedDevice_of_open hopen hdevice), run_bind, run_onFault_ask_throw]
  rcases ((hid.getReport device (reportId call.value) (call.length + 1)).run s.world).1 with
    fault | report
  · rfl
  · rfl

end FeatureReport

end MouseControl
