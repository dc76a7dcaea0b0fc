import Mathlib.Data.List.Induction
import MouseControl.Proofs.Backend.Custody
import MouseControl.Proofs.Line.Keeps

/-!
Whether a transport is as open as it says. A transfer makes one call of the library if the
transport is open and holds a device, and is refused otherwise, so every transfer goes as the
transport says exactly if it holds a device whenever it says that it is open (`usable_iff`). Every
operation by feature reports keeps this. A transport by control transfers may be opened while it is
open, and an opening that fails to transfer then leaves it open without a device (`Loses`). No other
operation does (`held_perform`).
-/

set_option autoImplicit false
set_option relaxedAutoImplicit false

namespace MouseControl

/-! ### Failing and holding -/

/-- A fault of the operating system is no failure to transfer. -/
theorem FaultKind.not_isA_transfer (kind : FaultKind) (h : kind.isA .system = true) :
    ¬kind.isA .transfer = true := by
  revert h
  cases kind <;> decide

namespace Action

variable {S α β : Type} {kind : FaultKind}

theorem failsWith_of_ok {x : Action S α} (h : ∀ s, ∃ a, (x.run s).1 = .ok a) :
    FailsWith kind x := by
  intro s fault hfault
  obtain ⟨a, hok⟩ := h s
  simp [hok] at hfault

theorem failsWith_bind {x : Action S α} {next : α → Action S β} (hx : FailsWith kind x)
    (hnext : ∀ a, FailsWith kind (next a)) : FailsWith kind (x >>= next) := by
  intro s fault hfault
  rw [run_bind] at hfault
  rcases hrun : x.run s with ⟨own | a, t⟩
  · obtain rfl : own = fault := by simpa [hrun] using hfault
    exact hx s own (congrArg Prod.fst hrun)
  · rw [hrun] at hfault
    exact hnext a t fault hfault

theorem failsWith_ite {c : Prop} [Decidable c] {x y : Action S α} (hx : FailsWith kind x)
    (hy : FailsWith kind y) : FailsWith kind (if c then x else y) := by
  by_cases h : c
  · simpa [h] using hx
  · simpa [h] using hy

end Action

open MouseControl.Action

namespace Attachment

variable {ω δ κ α : Type} {kind : FaultKind}

theorem failsWith_ask {x : Action ω α} (hx : FailsWith kind x) (kept : Except Fault α → κ) :
    FailsWith kind (ask kept x : Action (Attachment ω δ κ) α) :=
  fun s ↦ hx s.world

theorem failsWith_throw {fault : Fault} (h : fault.isA kind = true) :
    FailsWith kind (throw fault : Action (Attachment ω δ κ) α) := by
  rintro s own ⟨⟩
  exact h

theorem failsWith_note (n : Notice) :
    FailsWith kind (note n : Action (Attachment ω δ κ) Unit) :=
  failsWith_of_ok fun _ ↦ ⟨_, rfl⟩

theorem failsWith_modify (f : Attachment ω δ κ → Attachment ω δ κ) :
    FailsWith kind (modify f : Action (Attachment ω δ κ) PUnit) :=
  failsWith_of_ok fun _ ↦ ⟨_, rfl⟩

theorem failsWith_onFault {kinds : List FaultKind} {x : Action (Attachment ω δ κ) α}
    {handle : Fault → Action (Attachment ω δ κ) α} (hx : FailsWith kind x)
    (hhandle : ∀ fault, FailsWith kind (handle fault)) :
    FailsWith kind (onFault kinds x handle) := by
  intro s fault hfault
  rw [onFault, run_tryCatch] at hfault
  rcases hrun : x.run s with ⟨own | a, t⟩
  · rw [hrun] at hfault
    dsimp only at hfault
    split at hfault
    · exact hhandle own t fault hfault
    · obtain rfl : own = fault := Except.error.inj hfault
      exact hx s own (congrArg Prod.fst hrun)
  · simp [hrun] at hfault

/-- What a transport holds and what it says are unchanged. -/
def SameHold (s t : Attachment ω δ κ) : Prop := t.isOpen = s.isOpen ∧ t.device = s.device

instance : IsPreorder (Attachment ω δ κ) SameHold where
  refl _ := ⟨rfl, rfl⟩
  trans _ _ _ h h' := ⟨h'.1.trans h.1, h'.2.trans h.2⟩

theorem sameHold_ask (kept : Except Fault α → κ) (x : Action ω α) :
    Keeps SameHold (ask kept x : Action (Attachment ω δ κ) α) := by
  intro s
  simp [SameHold]

theorem sameHold_note (n : Notice) :
    Keeps SameHold (note n : Action (Attachment ω δ κ) Unit) := by
  intro s
  simp [SameHold]

theorem sameHold_openedDevice :
    Keeps SameHold (openedDevice : Action (Attachment ω δ κ) δ) := by
  refine keeps_get_bind fun s ↦ ?_
  split <;> exact refl_of SameHold s

theorem keeps_onFault {rel : Attachment ω δ κ → Attachment ω δ κ → Prop}
    [IsPreorder (Attachment ω δ κ) rel] {kinds : List FaultKind}
    {x : Action (Attachment ω δ κ) α} {handle : Fault → Action (Attachment ω δ κ) α}
    (hx : Keeps rel x) (hhandle : ∀ fault, Keeps rel (handle fault)) :
    Keeps rel (onFault kinds x handle) :=
  keeps_tryCatch hx fun fault ↦ keeps_ite (fun _ ↦ hhandle fault) fun _ ↦ keeps_throw fault

/-- An action comes to its end with `done`, or fails and holds what was held before. -/
def EndsIn (done : Attachment ω δ κ → Attachment ω δ κ → Prop) (x : Action (Attachment ω δ κ) α) :
    Prop :=
  ∀ s, (∃ a, (x.run s).1 = .ok a ∧ done s (x.run s).2) ∨
    ∃ fault, (x.run s).1 = .error fault ∧ SameHold s (x.run s).2

/-- What comes before the end only has to hold what was held. -/
theorem EndsIn.bind {β : Type} {done : Attachment ω δ κ → Attachment ω δ κ → Prop}
    {x : Action (Attachment ω δ κ) α} {next : α → Action (Attachment ω δ κ) β}
    (hdone : ∀ s s' t, SameHold s s' → done s' t → done s t) (hx : Keeps SameHold x)
    (hnext : ∀ a, EndsIn done (next a)) : EndsIn done (x >>= next) := by
  intro s
  have hs := hx s
  rw [run_bind]
  rcases hrun : x.run s with ⟨fault | a, t⟩
  · rw [hrun] at hs
    exact .inr ⟨fault, rfl, hs⟩
  rw [hrun] at hs
  obtain ⟨b, hok, hend⟩ | ⟨fault, herror, hsame⟩ := hnext a t
  · exact .inl ⟨b, hok, hdone _ _ _ hs hend⟩
  · exact .inr ⟨fault, herror, trans_of SameHold hs hsame⟩

theorem EndsIn.modify {done : Attachment ω δ κ → Attachment ω δ κ → Prop}
    {f : Attachment ω δ κ → Attachment ω δ κ} (h : ∀ s, done s (f s)) :
    EndsIn done (modify f : Action (Attachment ω δ κ) PUnit) :=
  fun s ↦ .inl ⟨⟨⟩, rfl, h s⟩

/-! ### Transfers that reach the library -/

/-- An action makes one call of the library. -/
def CallsOnce (x : Action (Attachment ω δ κ) α) (s : Attachment ω δ κ) : Prop :=
  ∃ call, (x.run s).2.calls = s.calls ++ [call]

/-- An action fails for want of an open device, and does nothing. -/
def Refused (x : Action (Attachment ω δ κ) α) (s : Attachment ω δ κ) : Prop :=
  x.run s = (.error .notOpen, s)

/-- A transfer goes as the transport says: to the library if it is open, and nowhere if not. -/
structure GoesAsSaid (x : Action (Attachment ω δ κ) α) (s : Attachment ω δ κ) : Prop where
  callsOnce_iff : s.isOpen = true ↔ CallsOnce x s
  refused_iff : s.isOpen = false ↔ Refused x s

/-- Every transfer of a transport goes as it says. -/
structure Usable (write : WriteCall → Action (Attachment ω δ κ) Int)
    (read : ReadCall → Action (Attachment ω δ κ) Bytes) (s : Attachment ω δ κ) : Prop where
  write : ∀ call, GoesAsSaid (write call) s
  read : ∀ call, GoesAsSaid (read call) s

/-- A transport holds a device if it says that it is open. -/
def Held (s : Attachment ω δ κ) : Prop := s.isOpen = true → s.device.isSome = true

theorem held_of_closed {s : Attachment ω δ κ} (hclosed : s.isOpen = false) : Held s := by
  intro hopen
  simp [hclosed] at hopen

theorem SameHold.held {s t : Attachment ω δ κ} (h : SameHold s t) (hheld : Held s) : Held t := by
  rw [Held, h.1, h.2]
  exact hheld

theorem CallsOnce.not_refused {x : Action (Attachment ω δ κ) α} {s : Attachment ω δ κ}
    (h : CallsOnce x s) : ¬Refused x s := by
  intro hrefused
  obtain ⟨call, hcalls⟩ := h
  rw [hrefused] at hcalls
  simp at hcalls

theorem refused_of_not_held {next : δ → Action (Attachment ω δ κ) α} {s : Attachment ω δ κ}
    (h : ¬(s.isOpen = true ∧ s.device.isSome = true)) : Refused (openedDevice >>= next) s := by
  by_cases hopen : s.isOpen = true
  · have hnone : s.device = none := by simpa [hopen] using h
    refine run_bind_error ?_
    rw [openedDevice, run_bind_ok (run_get s), hopen, hnone]
    rfl
  · exact run_bind_error (run_openedDevice_of_closed (by simpa using hopen))

/-- A transfer that makes one call to the device it is given goes as the transport says exactly if
the transport holds a device when it says that it is open. -/
theorem goesAsSaid_iff {next : δ → Action (Attachment ω δ κ) α} {s : Attachment ω δ κ}
    (hnext : ∀ device, CallsOnce (next device) s) :
    GoesAsSaid (openedDevice >>= next) s ↔ Held s := by
  constructor
  · intro h hopen
    by_contra hnone
    have hclosed := h.refused_iff.mpr (refused_of_not_held fun hboth ↦ hnone hboth.2)
    simp [hopen] at hclosed
  · intro hheld
    by_cases hopen : s.isOpen = true
    · obtain ⟨device, hdevice⟩ := Option.isSome_iff_exists.mp (hheld hopen)
      have hcalls : CallsOnce (openedDevice >>= next) s := by
        rw [CallsOnce, run_bind_ok (run_openedDevice_of_open hopen hdevice)]
        exact hnext device
      exact ⟨iff_of_true hopen hcalls, iff_of_false (by simp [hopen]) hcalls.not_refused⟩
    · have hrefused : Refused (openedDevice >>= next) s :=
        refused_of_not_held fun hboth ↦ hopen hboth.1
      exact ⟨iff_of_false hopen fun hcalls ↦ hcalls.not_refused hrefused,
        iff_of_true (by simpa using hopen) hrefused⟩

theorem callsOnce_onFault_ask_throw (kinds : List FaultKind) (kept : Except Fault α → κ)
    (x : Action ω α) (reworded : Fault → Fault) (s : Attachment ω δ κ) :
    CallsOnce (onFault kinds (ask kept x) fun fault ↦ throw (reworded fault)) s :=
  ⟨_, by rw [run_onFault_ask_throw, run_ask]⟩

theorem CallsOnce.map {β : Type} {x : Action (Attachment ω δ κ) α} {s : Attachment ω δ κ}
    (h : CallsOnce x s) (f : α → β) : CallsOnce (x >>= fun a ↦ pure (f a)) s := by
  obtain ⟨call, hcalls⟩ := h
  refine ⟨call, ?_⟩
  rw [← hcalls, run_bind]
  rcases x.run s with ⟨fault | a, t⟩ <;> rfl

end Attachment

open Attachment

variable {ω δ : Type}

/-! ### Feature reports -/

namespace FeatureReport

variable {hid : HidLibrary ω δ}

theorem usable_iff {s : State ω δ} : Usable (write hid) (read hid) s ↔ Held s := by
  have hwrite (call : WriteCall) : GoesAsSaid (write hid call) s ↔ Held s :=
    goesAsSaid_iff fun _ ↦ (callsOnce_onFault_ask_throw _ _ _ _ s).map _
  have hread (call : ReadCall) : GoesAsSaid (read hid call) s ↔ Held s :=
    goesAsSaid_iff fun _ ↦ (callsOnce_onFault_ask_throw _ _ _ _ s).map _
  constructor
  · intro h
    exact (hread ⟨0, 0, 0, 0, 0⟩).mp (h.read _)
  · intro h
    exact ⟨fun call ↦ (hwrite call).mpr h, fun call ↦ (hread call).mpr h⟩

/-- Opening takes a device in hand, or changes nothing about what is held. -/
theorem openDevice_endsIn (hid : HidLibrary ω δ) (target : Target) :
    EndsIn (fun _ t ↦ t.isOpen = true ∧ t.device.isSome = true) (openDevice hid target) := by
  have hnew : Keeps SameHold (quietly hid.newDevice : Action (State ω δ) δ) := by
    intro s
    simp [SameHold, quietly]
  refine EndsIn.bind (fun _ _ _ _ h ↦ h) hnew fun device ↦ ?_
  refine EndsIn.bind (fun _ _ _ _ h ↦ h)
    (keeps_onFault (sameHold_ask _ _) fun _ ↦ keeps_throw _) fun _ s ↦ ?_
  exact .inl ⟨(), rfl, rfl, rfl⟩

/-- Closing succeeds, or changes nothing about what is held. -/
theorem closeDevice_endsIn (hid : HidLibrary ω δ) :
    EndsIn (fun _ t ↦ t.isOpen = false) (closeDevice hid) := by
  intro s
  rw [closeDevice, run_bind_ok (run_get s)]
  rcases s.device with _ | device
  · exact .inl ⟨(), rfl, rfl⟩
  · suffices hend : EndsIn (fun _ t ↦ t.isOpen = false) (do
        ask (.closeDevice device) (hid.closeDevice device)
        modify fun s ↦ { s with device := none }
        modify fun s ↦ { s with isOpen := false } : Action (State ω δ) Unit) from hend s
    exact EndsIn.bind (fun _ _ _ _ h ↦ h) (sameHold_ask _ _) fun _ t ↦ .inl ⟨⟨⟩, rfl, rfl⟩

theorem sameHold_write (hid : HidLibrary ω δ) (call : WriteCall) :
    Keeps SameHold (write hid call) := by
  refine keeps_bind sameHold_openedDevice fun device ↦ ?_
  refine keeps_bind (keeps_onFault (sameHold_ask _ _) fun _ ↦ keeps_throw _) fun _ ↦ ?_
  exact keeps_pure _

theorem sameHold_read (hid : HidLibrary ω δ) (call : ReadCall) :
    Keeps SameHold (read hid call) := by
  refine keeps_bind sameHold_openedDevice fun device ↦ ?_
  refine keeps_bind (keeps_onFault (sameHold_ask _ _) fun _ ↦ keeps_throw _) fun _ ↦ ?_
  exact keeps_pure _

/-- The state that an operation leaves, whatever its outcome. -/
def perform (hid : HidLibrary ω δ) (target : Target) (s : State ω δ) :
    ControlTransfer.Operation → State ω δ
  | .openDevice => ((openDevice hid target).run s).2
  | .closeDevice => ((closeDevice hid).run s).2
  | .write call => ((write hid call).run s).2
  | .read call => ((read hid call).run s).2

/-- The state after some operations. -/
def after (hid : HidLibrary ω δ) (target : Target) (s : State ω δ)
    (operations : List ControlTransfer.Operation) : State ω δ :=
  operations.foldl (perform hid target) s

/-- Every operation keeps a device in hand while the transport is open. -/
theorem held_perform (hid : HidLibrary ω δ) (target : Target) {s : State ω δ} (h : Held s)
    (operation : ControlTransfer.Operation) : Held (perform hid target s operation) := by
  cases operation with
  | openDevice =>
    obtain ⟨-, -, -, hdevice⟩ | ⟨-, -, hsame⟩ := openDevice_endsIn hid target s
    · exact fun _ ↦ hdevice
    · exact hsame.held h
  | closeDevice =>
    obtain ⟨-, -, hclosed⟩ | ⟨-, -, hsame⟩ := closeDevice_endsIn hid s
    · exact held_of_closed hclosed
    · exact hsame.held h
  | write call => exact (sameHold_write hid call s).held h
  | read call => exact (sameHold_read hid call s).held h

theorem held_after (hid : HidLibrary ω δ) (target : Target) {s : State ω δ} (h : Held s)
    (operations : List ControlTransfer.Operation) : Held (after hid target s operations) := by
  induction operations generalizing s with
  | nil => exact h
  | cons operation rest ih => exact ih (held_perform hid target h operation)

end FeatureReport

/-! ### Control transfers -/

namespace ControlTransfer

variable {usb : UsbLibrary ω δ}

theorem usable_iff {s : State ω δ} : Usable (write usb) (read usb) s ↔ Held s := by
  have hwrite (call : WriteCall) : GoesAsSaid (write usb call) s ↔ Held s :=
    goesAsSaid_iff fun _ ↦ callsOnce_onFault_ask_throw _ _ _ _ s
  have hread (call : ReadCall) : GoesAsSaid (read usb call) s ↔ Held s :=
    goesAsSaid_iff fun _ ↦ callsOnce_onFault_ask_throw _ _ _ _ s
  constructor
  · intro h
    exact (hread ⟨0, 0, 0, 0, 0⟩).mp (h.read _)
  · intro h
    exact ⟨fun call ↦ (hwrite call).mpr h, fun call ↦ (hread call).mpr h⟩

theorem sameHold_restoreKernelDriver (device : δ) :
    Keeps SameHold (restoreKernelDriver usb device) := by
  refine keeps_bind keeps_get fun s ↦ keeps_ite (fun _ ↦ ?_) fun _ ↦ keeps_pure _
  refine keeps_bind (keeps_onFault (sameHold_ask _ _) fun _ ↦ sameHold_note _) fun _ ↦ ?_
  exact keeps_modify fun _ ↦ ⟨rfl, rfl⟩

/-- Letting a device go ends without one, or changes nothing about what is held. -/
theorem dropDevice_endsIn (usb : UsbLibrary ω δ) (device : δ) :
    EndsIn (fun s t ↦ t.isOpen = s.isOpen ∧ t.device = none) (dropDevice usb device) := by
  have hdone (s s' t : State ω δ) (hs : SameHold s s')
      (h : t.isOpen = s'.isOpen ∧ t.device = none) : t.isOpen = s.isOpen ∧ t.device = none :=
    ⟨h.1.trans hs.1, h.2⟩
  refine EndsIn.bind hdone (sameHold_restoreKernelDriver device) fun _ ↦ ?_
  refine EndsIn.bind hdone (sameHold_ask _ _) fun _ ↦ ?_
  exact EndsIn.modify fun s ↦ ⟨rfl, rfl⟩

theorem sameHold_detachIfActive (device : δ) : Keeps SameHold (detachIfActive usb device) := by
  refine keeps_bind (sameHold_ask _ _) fun active ↦ keeps_ite (fun _ ↦ ?_) fun _ ↦ keeps_pure _
  refine keeps_bind (sameHold_ask _ _) fun _ ↦ ?_
  exact keeps_modify fun _ ↦ ⟨rfl, rfl⟩

/-- Closing succeeds, or changes nothing about what is held. -/
theorem closeDevice_endsIn (usb : UsbLibrary ω δ) :
    EndsIn (fun _ t ↦ t.isOpen = false) (closeDevice usb) := by
  intro s
  rw [closeDevice, run_bind_ok (run_get s)]
  rcases s.device with _ | device
  · exact .inl ⟨(), rfl, rfl⟩
  · suffices hend : EndsIn (fun _ t ↦ t.isOpen = false) (do
        onFault [.usb]
          (ask (.release device Protocol.interfaceNumber)
            (usb.releaseInterface device Protocol.interfaceNumber))
          fun fault ↦ note (.interfaceNotReleased fault)
        dropDevice usb device
        modify fun s ↦ { s with isOpen := false }) from hend s
    refine EndsIn.bind (fun _ _ _ _ h ↦ h)
      (keeps_onFault (sameHold_ask _ _) fun _ ↦ sameHold_note _) fun _ t ↦ ?_
    rcases hdrop : (dropDevice usb device).run t with ⟨fault | _, dropped⟩
    · rw [run_bind_error hdrop]
      obtain ⟨_, hok, -⟩ | ⟨_, -, hsame⟩ := dropDevice_endsIn usb device t
      · simp [hdrop] at hok
      · rw [hdrop] at hsame
        exact .inr ⟨fault, rfl, hsame⟩
    · rw [run_bind_ok hdrop]
      exact .inl ⟨⟨⟩, rfl, rfl⟩

theorem sameHold_write (call : WriteCall) : Keeps SameHold (write usb call) :=
  keeps_bind sameHold_openedDevice fun _ ↦
    keeps_onFault (sameHold_ask _ _) fun _ ↦ keeps_throw _

theorem sameHold_read (call : ReadCall) : Keeps SameHold (read usb call) :=
  keeps_bind sameHold_openedDevice fun _ ↦
    keeps_onFault (sameHold_ask _ _) fun _ ↦ keeps_throw _

/-- A library whose calls at an opening fail with faults of the operating system only, to which
those of the library belong. -/
structure UsbLibrary.SystemFaultsOnly (usb : UsbLibrary ω δ) : Prop where
  find : ∀ vid pid serial, FailsWith .system (usb.find vid pid serial)
  kernelDriverActive : ∀ device interface,
    FailsWith .system (usb.kernelDriverActive device interface)
  detach : ∀ device interface, FailsWith .system (usb.detachKernelDriver device interface)
  attach : ∀ device interface, FailsWith .system (usb.attachKernelDriver device interface)
  claim : ∀ device interface, FailsWith .system (usb.claimInterface device interface)
  dispose : ∀ device, FailsWith .system (usb.dispose device)

/-- Detaching the driver fails as the library does. -/
theorem failsWith_detachIfActive {kind : FaultKind}
    (hactive : ∀ device interface, FailsWith kind (usb.kernelDriverActive device interface))
    (hdetach : ∀ device interface, FailsWith kind (usb.detachKernelDriver device interface))
    (device : δ) : FailsWith kind (detachIfActive usb device) := by
  refine failsWith_bind (failsWith_ask (hactive _ _) _) fun active ↦ failsWith_ite ?_ ?_
  · exact failsWith_bind (failsWith_ask (hdetach _ _) _) fun _ ↦ failsWith_modify _
  · exact failsWith_of_ok fun s ↦ ⟨_, rfl⟩

namespace UsbLibrary.SystemFaultsOnly

variable (husb : usb.SystemFaultsOnly) (device : δ)

include husb

theorem dropDevice : FailsWith .system (dropDevice usb device) := by
  have hrestore : FailsWith .system (restoreKernelDriver usb device) := by
    refine failsWith_bind (failsWith_of_ok fun s ↦ ⟨s, rfl⟩) fun s ↦ failsWith_ite ?_ ?_
    · exact failsWith_bind (failsWith_onFault (failsWith_ask (husb.attach _ _) _)
        fun _ ↦ failsWith_note _) fun _ ↦ failsWith_modify _
    · exact failsWith_of_ok fun s ↦ ⟨_, rfl⟩
  exact failsWith_bind hrestore fun _ ↦
    failsWith_bind (failsWith_ask (husb.dispose _) _) fun _ ↦ failsWith_modify _

theorem detachIfActive : FailsWith .system (detachIfActive usb device) :=
  failsWith_detachIfActive husb.kernelDriverActive husb.detach device

end UsbLibrary.SystemFaultsOnly

/-- How an attempt to take hold of something ends: with it in hand, with nothing in hand and a
failure to transfer, or as it began and with a fault of the operating system. -/
inductive Taking (s : State ω δ) (r : Except Fault Unit × State ω δ) : Prop where
  | taken (hok : r.1 = .ok ()) (hsame : SameHold s r.2)
  | lost {fault : Fault} (herror : r.1 = .error fault) (hkind : fault.isA .transfer = true)
    (hopen : r.2.isOpen = s.isOpen) (hnone : r.2.device = none)
  | interrupted {fault : Fault} (herror : r.1 = .error fault) (hkind : fault.isA .system = true)
    (hsame : SameHold s r.2)

theorem taking_takeInterface (husb : usb.SystemFaultsOnly) (device : δ) (s : State ω δ) :
    Taking s ((takeInterface usb device).run s) := by
  let approach : Action (State ω δ) Unit := do
    detachIfActive usb device
    ask (.claim device Protocol.interfaceNumber)
      (usb.claimInterface device Protocol.interfaceNumber)
  have hfails : FailsWith .system approach :=
    failsWith_bind (husb.detachIfActive device) fun _ ↦ failsWith_ask (husb.claim _ _) _
  have hsame : SameHold s (approach.run s).2 :=
    keeps_bind (sameHold_detachIfActive device) (fun _ ↦ sameHold_ask _ _) s
  rw [takeInterface]
  rcases happroach : approach.run s with ⟨fault | _, t⟩
  · rw [happroach] at hsame
    by_cases hours : [FaultKind.usb].any fault.isA = true
    · rw [run_onFault_error happroach hours]
      rcases hdrop : (dropDevice usb device).run t with ⟨own | _, dropped⟩
      · rw [run_bind_error hdrop]
        have hkind := husb.dropDevice device t own (congrArg Prod.fst hdrop)
        obtain ⟨_, hok, -⟩ | ⟨_, -, hdropped⟩ := dropDevice_endsIn usb device t
        · simp [hdrop] at hok
        · rw [hdrop] at hdropped
          exact .interrupted rfl hkind (trans_of SameHold hsame hdropped)
      · rw [run_bind_ok hdrop]
        obtain ⟨_, -, hopen, hnone⟩ | ⟨_, herror, -⟩ := dropDevice_endsIn usb device t
        · rw [hdrop] at hopen hnone
          exact .lost rfl rfl (hopen.trans hsame.1) hnone
        · simp [hdrop] at herror
    · rw [run_onFault_other happroach hours]
      exact .interrupted rfl (hfails s fault (congrArg Prod.fst happroach)) hsame
  · rw [run_onFault_ok happroach]
    rw [happroach] at hsame
    exact .taken rfl hsame

/-- How an opening ends: with a device in hand, with none and a failure to transfer, or with a fault
of the operating system, which takes nothing from a transport that says that it is open. -/
inductive Opening (s : State ω δ) (r : Except Fault Unit × State ω δ) : Prop where
  | opened (hok : r.1 = .ok ()) (hopen : r.2.isOpen = true) (hdevice : r.2.device.isSome = true)
  | lost {fault : Fault} (herror : r.1 = .error fault) (hkind : fault.isA .transfer = true)
    (hopen : r.2.isOpen = s.isOpen) (hnone : r.2.device = none)
  | interrupted {fault : Fault} (herror : r.1 = .error fault) (hkind : fault.isA .system = true)
    (hopen : r.2.isOpen = s.isOpen) (hheld : Held s → Held r.2)

theorem opening_openDevice (husb : usb.SystemFaultsOnly) (target : Target) (s : State ω δ) :
    Opening s ((openDevice usb target).run s) := by
  let serial := target.serial.filter (!·.isEmpty)
  let asked := ((ask (Call.find target.vid target.pid serial)
    (usb.find target.vid target.pid serial)).run s).2
  have hasked : SameHold s asked := sameHold_ask _ _ s
  rcases hfind : ((usb.find target.vid target.pid serial).run s.world).1 with fault | _ | device
  all_goals have hask := run_ask_of hfind (Call.find target.vid target.pid serial)
  · rw [openDevice, run_bind_error hask]
    exact .interrupted rfl (husb.find _ _ _ _ _ hfind) rfl hasked.held
  · rw [openDevice, run_bind_ok hask, run_bind_ok (run_modify _ _)]
    exact .lost rfl rfl rfl rfl
  rw [openDevice, run_bind_ok hask, run_bind_ok (run_modify _ _)]
  have htaking := taking_takeInterface husb device { asked with device := some device }
  rcases htake : (takeInterface usb device).run { asked with device := some device } with
    ⟨fault | _, t⟩
  all_goals rw [htake] at htaking
  · rw [run_bind_error htake]
    cases htaking with
    | taken hok => cases hok
    | lost herror hkind hopen hnone => exact .lost herror hkind hopen hnone
    | interrupted herror hkind hsame =>
      exact .interrupted herror hkind hsame.1 fun _ ↦ hsame.held fun _ ↦ rfl
  · rw [run_bind_ok htake]
    cases htaking with
    | taken _ hsame => exact .opened rfl rfl (congrArg Option.isSome hsame.2)
    | lost herror => cases herror
    | interrupted herror => cases herror

/-- An opening that fails to transfer, of a transport that is open. -/
def Loses (usb : UsbLibrary ω δ) (target : Target) (s : State ω δ) : Prop :=
  s.isOpen = true ∧ ∃ fault, ((openDevice usb target).run s).1 = .error fault ∧
    fault.isA .transfer = true

/-- A transport that says that it is open, holds nothing, and refuses every transfer. -/
structure Stuck (usb : UsbLibrary ω δ) (s : State ω δ) : Prop where
  isOpen_eq : s.isOpen = true
  device_eq : s.device = none
  write : ∀ call, Refused (write usb call) s
  read : ∀ call, Refused (read usb call) s

theorem Loses.stuck (husb : usb.SystemFaultsOnly) {target : Target} {s : State ω δ}
    (h : Loses usb target s) : Stuck usb ((openDevice usb target).run s).2 := by
  obtain ⟨hopen, fault, herror, hkind⟩ := h
  cases opening_openDevice husb target s with
  | opened hok => simp [herror] at hok
  | lost _ _ hstill hnone =>
    have hrefused {α : Type} (next : δ → Action (State ω δ) α) :
        Refused (openedDevice >>= next) ((openDevice usb target).run s).2 :=
      refused_of_not_held (by simp [hnone])
    exact ⟨hstill.trans hopen, hnone, fun _ ↦ hrefused _, fun _ ↦ hrefused _⟩
  | interrupted herror' hkind' =>
    obtain rfl := Except.error.inj (herror.symm.trans herror')
    exact absurd hkind (FaultKind.not_isA_transfer _ hkind')

/-- Only an opening that loses the device ends with a transport that is open and holds none. -/
theorem held_perform (husb : usb.SystemFaultsOnly) (target : Target) {s : State ω δ}
    (h : Held s) {operation : Operation}
    (hkeeps : operation = .openDevice → ¬Loses usb target s) :
    Held (operation.perform usb target s) := by
  cases operation with
  | openDevice =>
    cases opening_openDevice husb target s with
    | opened _ _ hdevice => exact fun _ ↦ hdevice
    | lost herror hkind hopen _ =>
      intro hopened
      exact absurd ⟨hopen.symm.trans hopened, _, herror, hkind⟩ (hkeeps rfl)
    | interrupted _ _ _ hheld => exact hheld h
  | closeDevice =>
    obtain ⟨-, -, hclosed⟩ | ⟨-, -, hsame⟩ := closeDevice_endsIn usb s
    · exact held_of_closed hclosed
    · exact hsame.held h
  | write call => exact (sameHold_write call s).held h
  | read call => exact (sameHold_read call s).held h

/-- A run of operations in which no opening loses the device. -/
def NeverLoses (usb : UsbLibrary ω δ) (target : Target) (s : State ω δ)
    (operations : List Operation) : Prop :=
  ∀ done, done ++ [.openDevice] <+: operations → ¬Loses usb target (after usb target s done)

theorem after_concat (target : Target) (s : State ω δ) (done : List Operation)
    (operation : Operation) : after usb target s (done ++ [operation]) =
      operation.perform usb target (after usb target s done) :=
  List.foldl_append ..

theorem held_after (husb : usb.SystemFaultsOnly) (target : Target) {s : State ω δ} (h : Held s)
    {operations : List Operation} (hkeeps : NeverLoses usb target s operations) :
    ∀ done, done <+: operations → Held (after usb target s done) := by
  intro done
  induction done using List.reverseRecOn with
  | nil => exact fun _ ↦ h
  | append_singleton done operation ih =>
    intro hdone
    rw [after_concat]
    refine held_perform husb target (ih ((List.prefix_append _ _).trans hdone)) ?_
    rintro rfl
    exact hkeeps done hdone

end ControlTransfer

/-- After every run of operations by feature reports, every transfer goes as the transport says. By
control transfers this holds throughout a run exactly if no opening of an open transport fails to
transfer; one that does leaves the transport stuck.
Assumes: an opening meets faults of the operating system only. -/
theorem usable_after {ω' δ' : Type} (hid : FeatureReport.HidLibrary ω' δ')
    {usb : ControlTransfer.UsbLibrary ω δ} (husb : usb.SystemFaultsOnly) (target : Target)
    (world : ω) (world' : ω') (operations : List ControlTransfer.Operation) :
    Usable (FeatureReport.write hid) (FeatureReport.read hid)
        (FeatureReport.after hid target { world := world' } operations) ∧
      ((∀ done, done <+: operations →
          Usable (ControlTransfer.write usb) (ControlTransfer.read usb)
            (ControlTransfer.after usb target { world := world } done)) ↔
        ControlTransfer.NeverLoses usb target { world := world } operations) ∧
      ∀ done, ControlTransfer.Loses usb target
          (ControlTransfer.after usb target { world := world } done) →
        ControlTransfer.Stuck usb
          (ControlTransfer.after usb target { world := world } (done ++ [.openDevice])) := by
  have hstuck (done : List ControlTransfer.Operation)
      (hloses : ControlTransfer.Loses usb target
        (ControlTransfer.after usb target { world := world } done)) :
      ControlTransfer.Stuck usb
        (ControlTransfer.after usb target { world := world } (done ++ [.openDevice])) := by
    rw [ControlTransfer.after_concat]
    exact hloses.stuck husb
  refine ⟨?_, ⟨fun husable done hdone hloses ↦ ?_, fun hkeeps done hdone ↦ ?_⟩, hstuck⟩
  · exact FeatureReport.usable_iff.mpr
      (FeatureReport.held_after hid target (held_of_closed rfl) operations)
  · have h := hstuck done hloses
    have hheld := ControlTransfer.usable_iff.mp (husable _ hdone) h.isOpen_eq
    simp [h.device_eq] at hheld
  · exact ControlTransfer.usable_iff.mpr
      (ControlTransfer.held_after husb target (held_of_closed rfl) hkeeps done hdone)

/-! ### A mouse that is unplugged -/

/-- A USB library that finds a mouse as long as it is plugged in, and never fails otherwise. -/
def plugged : ControlTransfer.UsbLibrary (List Bool) Unit where
  find _ _ _ := .of fun script ↦
    (.ok (if script.headD false then some () else none), script.tail)
  kernelDriverActive _ _ := pure true
  detachKernelDriver _ _ := pure ()
  attachKernelDriver _ _ := pure ()
  claimInterface _ _ := pure ()
  releaseInterface _ _ := pure ()
  dispose _ := pure ()
  controlOut _ _ call := pure call.data.length
  controlIn _ _ call := pure (List.replicate call.length.toNat 0)

theorem plugged_systemFaultsOnly : plugged.SystemFaultsOnly :=
  ⟨fun _ _ _ ↦ failsWith_of_ok fun _ ↦ ⟨_, rfl⟩, fun _ _ ↦ failsWith_of_ok fun _ ↦ ⟨_, rfl⟩,
    fun _ _ ↦ failsWith_of_ok fun _ ↦ ⟨_, rfl⟩, fun _ _ ↦ failsWith_of_ok fun _ ↦ ⟨_, rfl⟩,
    fun _ _ ↦ failsWith_of_ok fun _ ↦ ⟨_, rfl⟩, fun _ ↦ failsWith_of_ok fun _ ↦ ⟨_, rfl⟩⟩

/-- A feature report library whose mouse is never unplugged. -/
def attached : FeatureReport.HidLibrary Unit Unit where
  newDevice := pure ()
  openDevice _ _ _ _ := pure ()
  closeDevice _ := pure ()
  sendReport _ report := pure report.length
  getReport _ id length := pure (some (UInt8.ofNat id.toNat :: List.replicate (length.toNat - 1) 0))

/-- The mouse is unplugged between a close and the next opening, which does no harm. -/
theorem usable_after_unplugging :
    let target : Target := ⟨0x1532, 0x0015, none⟩
    let operations : List ControlTransfer.Operation := [.openDevice, .closeDevice, .openDevice]
    (plugged.SystemFaultsOnly ∧
        ControlTransfer.NeverLoses plugged target { world := [true, false] } operations) ∧
      Usable (FeatureReport.write attached) (FeatureReport.read attached)
        (FeatureReport.after attached target { world := () } operations) ∧
      ∀ done, done <+: operations →
        Usable (ControlTransfer.write plugged) (ControlTransfer.read plugged)
          (ControlTransfer.after plugged target { world := [true, false] } done) := by
  intro target operations
  have hkeeps :
      ControlTransfer.NeverLoses plugged target { world := [true, false] } operations := by
    rintro done ⟨rest, hrest⟩ ⟨hopen, -⟩
    rcases done with _ | ⟨first, _ | ⟨second, _ | ⟨third, more⟩⟩⟩
    · cases hopen
    · simp [operations] at hrest
    · simp only [operations, List.cons_append, List.cons.injEq] at hrest
      obtain ⟨rfl, rfl, -⟩ := hrest
      cases hopen
    · simp [operations] at hrest
  refine ⟨⟨plugged_systemFaultsOnly, hkeeps⟩, ?_⟩
  obtain ⟨hreports, htransfers, -⟩ :=
    usable_after attached plugged_systemFaultsOnly target [true, false] () operations
  exact ⟨hreports, htransfers.mpr hkeeps⟩

/-- The mouse is unplugged while the transport is open, and the transport is opened once more. -/
theorem refused_after_unplugging :
    let target : Target := ⟨0x1532, 0x0015, none⟩
    let s := ControlTransfer.after plugged target { world := [true, false] }
      [.openDevice, .openDevice]
    plugged.SystemFaultsOnly ∧ s.isOpen = true ∧
      ∀ call, Refused (ControlTransfer.write plugged call) s :=
  ⟨plugged_systemFaultsOnly, rfl, fun _ ↦ rfl⟩

end MouseControl
