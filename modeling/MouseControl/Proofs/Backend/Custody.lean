import MouseControl.Proofs.Backend.Attachment
import MouseControl.Proofs.Backend.Tenure

/-!
Whose the mouse is. The calls of a transport by control transfers fall into tenures. One that is
not open holds nothing, and everything its tenures took was given back; one that is open is in the
middle of a tenure (`InCustody`). Every operation keeps this (`inCustody_perform`), so it holds
after every run that opens only what is closed, whatever the library refuses (`custody_after`).
-/

set_option autoImplicit false
set_option relaxedAutoImplicit false

namespace MouseControl.ControlTransfer

open MouseControl.Action Attachment

variable {ω δ : Type}

/-- The calls after some earlier ones make a tenure. -/
def During (past : List (Call δ)) (held : List (Belonging δ)) (stage : Nat) (s : State ω δ) :
    Prop :=
  ∃ calls, s.calls = past ++ calls ∧ Tenure held calls stage

theorem During.next {past : List (Call δ)} {held held' : List (Belonging δ)} {stage stage' : Nat}
    {s t : State ω δ} (h : During past held stage s) {call : Call δ}
    (hcalls : t.calls = s.calls ++ [call])
    (hnext : ∀ calls, Tenure held calls stage → Tenure held' (calls ++ [call]) stage') :
    During past held' stage' t := by
  obtain ⟨calls, hs, htenure⟩ := h
  exact ⟨calls ++ [call], by rw [hcalls, hs, List.append_assoc], hnext calls htenure⟩

theorem During.mono {past : List (Call δ)} {held : List (Belonging δ)} {stage later : Nat}
    {s : State ω δ} (h : During past held stage s) (hle : stage ≤ later) :
    During past held later s := by
  obtain ⟨calls, hs, htenure⟩ := h
  exact ⟨calls, hs, htenure.mono hle⟩

/-- A device in hand, with the kernel's driver if it was detached. -/
def inHand (device : δ) (detached : Bool) : List (Belonging δ) :=
  .device device :: if detached then [.driver device Protocol.interfaceNumber] else []

theorem During.inHand {past : List (Call δ)} {device : δ} {stage later : Nat} {s : State ω δ}
    (h : During past [.device device] stage s) (hreattach : s.reattach = false)
    (hle : stage ≤ later) : During past (inHand device s.reattach) later s := by
  rw [hreattach]
  exact h.mono hle

/-! ### Operations -/

/-- A library that fails with faults of its own only, and lets every device go. -/
structure UsbLibrary.Regular (usb : UsbLibrary ω δ) : Prop where
  kernelDriverActive : ∀ device interface, FailsWith .usb (usb.kernelDriverActive device interface)
  detach : ∀ device interface, FailsWith .usb (usb.detachKernelDriver device interface)
  attach : ∀ device interface, FailsWith .usb (usb.attachKernelDriver device interface)
  claim : ∀ device interface, FailsWith .usb (usb.claimInterface device interface)
  release : ∀ device interface, FailsWith .usb (usb.releaseInterface device interface)
  dispose : ∀ device world, ((usb.dispose device).run world).1 = .ok ()

variable {usb : UsbLibrary ω δ} (husb : usb.Regular) {past : List (Call δ)} {device : δ}
  {s : State ω δ}

include husb

/-- The driver that was detached is attached again, or at least this was tried. -/
theorem during_restoreKernelDriver {stage : Nat} (hstage : stage < 6)
    (h : During past (inHand device s.reattach) stage s) :
    ∃ t, (restoreKernelDriver usb device).run s = (.ok (), t) ∧ During past [.device device] 6 t ∧
      t.device = s.device ∧ t.isOpen = s.isOpen ∧ t.reattach = false := by
  rw [restoreKernelDriver, run_bind_ok (run_get s)]
  by_cases hdetached : s.reattach = true
  · obtain ⟨log, hattach⟩ := run_onFault_ask_note
      (husb.attach device Protocol.interfaceNumber) (Call.attach device Protocol.interfaceNumber)
      Notice.driverNotReattached s
    rw [hdetached] at h
    rw [if_pos hdetached, run_bind_ok hattach, run_modify]
    refine ⟨_, rfl, h.next rfl fun calls htenure ↦ ?_, rfl, rfl, rfl⟩
    exact htenure.give (.inl hstage) rfl rfl
  · have hkept : s.reattach = false := by simpa using hdetached
    rw [hkept] at h
    rw [if_neg hdetached]
    exact ⟨s, rfl, h.mono (by omega), rfl, rfl, hkept⟩

/-- A device is let go after everything else was given back. -/
theorem during_dropDevice {stage : Nat} (hstage : stage < 6)
    (h : During past (inHand device s.reattach) stage s) :
    ∃ t, (dropDevice usb device).run s = (.ok (), t) ∧ During past [] lastStage t ∧
      t.device = none ∧ t.isOpen = s.isOpen ∧ t.reattach = false := by
  obtain ⟨restored, hrestore, hduring, -, hopen, hreattach⟩ :=
    during_restoreKernelDriver husb hstage h
  have hdispose := run_ask_of (husb.dispose device restored.world) (Call.dispose device)
  rw [dropDevice, run_bind_ok hrestore, run_bind_ok hdispose, run_modify]
  refine ⟨_, rfl, hduring.next rfl fun calls htenure ↦ ?_, rfl, hopen, hreattach⟩
  exact htenure.give (.inl (Nat.lt_succ_self 6)) rfl rfl

/-- The kernel's driver is out of the way, or the library failed. -/
theorem during_detachIfActive (hreattach : s.reattach = false)
    (h : During past [.device device] 0 s) :
    let r := (detachIfActive usb device).run s
    During past (inHand device r.2.reattach) 2 r.2 ∧ r.2.device = s.device ∧
      r.2.isOpen = s.isOpen ∧ ∀ fault, r.1 = .error fault → fault.isA .usb = true := by
  intro r
  let asked := ((ask (Call.kernelDriverActive device Protocol.interfaceNumber)
    (usb.kernelDriverActive device Protocol.interfaceNumber)).run s).2
  let detached := ((ask (Call.detach device Protocol.interfaceNumber)
    (usb.detachKernelDriver device Protocol.interfaceNumber)).run asked).2
  have hasked : During past [.device device] 1 asked :=
    h.next rfl fun calls htenure ↦ htenure.idle (.inl Nat.one_pos) rfl rfl
  rcases hactive : ((usb.kernelDriverActive device Protocol.interfaceNumber).run s.world).1 with
    fault | _ | _
  all_goals
    have hask := run_ask_of hactive (Call.kernelDriverActive device Protocol.interfaceNumber)
  · have hr : r = (.error fault, asked) := run_bind_error hask
    rw [hr]
    refine ⟨hasked.inHand hreattach (by decide), rfl, rfl, ?_⟩
    rintro own ⟨⟩
    exact husb.kernelDriverActive _ _ _ _ hactive
  · have hr : r = (.ok (), asked) := run_bind_ok hask
    rw [hr]
    exact ⟨hasked.inHand hreattach (by decide), rfl, rfl, nofun⟩
  rcases hdetach : ((usb.detachKernelDriver device Protocol.interfaceNumber).run asked.world).1
    with fault | _
  all_goals have hask' := run_ask_of hdetach (Call.detach device Protocol.interfaceNumber)
  · have hr : r = (.error fault, detached) := (run_bind_ok hask).trans (run_bind_error hask')
    have hrefused : During past [.device device] 2 detached :=
      hasked.next rfl fun calls htenure ↦
        htenure.idle (.inl Nat.one_lt_two) (by rw [hdetach]; rfl) rfl
    rw [hr]
    refine ⟨hrefused.inHand hreattach (Nat.le_refl 2), rfl, rfl, ?_⟩
    rintro own ⟨⟩
    exact husb.detach _ _ _ _ hdetach
  · have hr : r = (.ok (), { detached with reattach := true }) :=
      (run_bind_ok hask).trans (run_bind_ok hask')
    rw [hr]
    refine ⟨hasked.next rfl fun calls htenure ↦ ?_, rfl, rfl, nofun⟩
    rw [hdetach]
    show Tenure ([.device device] ++ [.driver device Protocol.interfaceNumber]) _ 2
    exact htenure.take (by decide) (.inl Nat.one_lt_two) rfl rfl

/-- The interface of a device is taken, or what was taken is given back. -/
theorem during_takeInterface (hreattach : s.reattach = false)
    (h : During past [.device device] 0 s) :
    let r := (takeInterface usb device).run s
    r.2.isOpen = s.isOpen ∧
      ((r.1 = .ok () ∧ r.2.device = s.device ∧
        During past (inHand device r.2.reattach ++ [.interface device Protocol.interfaceNumber])
          3 r.2)
      ∨ (∃ fault, r.1 = .error fault) ∧ r.2.device = none ∧ r.2.reattach = false ∧
        During past [] lastStage r.2) := by
  intro r
  let approach : Action (State ω δ) Unit := do
    detachIfActive usb device
    ask (.claim device Protocol.interfaceNumber)
      (usb.claimInterface device Protocol.interfaceNumber)
  -- whatever the library refuses, what was taken until then is given back
  have hrefused (fault : Fault) (t : State ω δ) (hrun : approach.run s = (.error fault, t))
      (hfault : fault.isA .usb = true) (hopen : t.isOpen = s.isOpen) {stage : Nat}
      (hstage : stage < 6) (hduring : During past (inHand device t.reattach) stage t) :
      r.2.isOpen = s.isOpen ∧ (∃ fault, r.1 = .error fault) ∧ r.2.device = none ∧
        r.2.reattach = false ∧ During past [] lastStage r.2 := by
    obtain ⟨dropped, hdrop, hend, hdevice, hstill, hnone⟩ := during_dropDevice husb hstage hduring
    have hr : r = (.error (.interfaceNotClaimed fault), dropped) := by
      refine (run_onFault_error hrun (by simpa using hfault)).trans ?_
      exact run_bind_ok hdrop
    rw [hr]
    exact ⟨hstill.trans hopen, ⟨_, rfl⟩, hdevice, hnone, hend⟩
  obtain ⟨hduring, hdevice, hopen, hfault⟩ := during_detachIfActive husb hreattach h
  rcases hdetach : (detachIfActive usb device).run s with ⟨fault | _, detached⟩
  all_goals rw [hdetach] at hduring hdevice hopen hfault
  · obtain ⟨hstill, hgiven⟩ := hrefused fault detached (run_bind_error hdetach) (hfault fault rfl)
      hopen (by omega) hduring
    exact ⟨hstill, .inr hgiven⟩
  let claimed := ((ask (Call.claim device Protocol.interfaceNumber)
    (usb.claimInterface device Protocol.interfaceNumber)).run detached).2
  rcases hclaim : ((usb.claimInterface device Protocol.interfaceNumber).run detached.world).1
    with fault | _
  all_goals
    have hask := run_ask_of hclaim (Call.claim device Protocol.interfaceNumber)
    have happroach : approach.run s = (_, claimed) := (run_bind_ok hdetach).trans hask
  · have hidle : During past (inHand device claimed.reattach) 3 claimed := by
      refine hduring.next rfl fun calls htenure ↦ ?_
      rw [hclaim]
      exact htenure.idle (.inl (Nat.lt_succ_self 2)) rfl rfl
    obtain ⟨hstill, hgiven⟩ := hrefused fault claimed happroach (husb.claim _ _ _ _ hclaim) hopen
      (by omega) hidle
    exact ⟨hstill, .inr hgiven⟩
  · have hr : r = (.ok (), claimed) := run_onFault_ok happroach
    rw [hr]
    refine ⟨hopen, .inl ⟨rfl, hdevice, hduring.next rfl fun calls htenure ↦ ?_⟩⟩
    rw [hclaim]
    exact htenure.take (by decide) (.inl (Nat.lt_succ_self 2)) rfl rfl

/-- A transport that is not open, after some calls. -/
structure AtRest (past : List (Call δ)) (s : State ω δ) : Prop where
  isOpen_eq : s.isOpen = false
  device_eq : s.device = none
  reattach_eq : s.reattach = false
  calls_eq : s.calls = past

/-- A transport that is open and holds a device, its interface, and the kernel's driver if that is
to be attached again. -/
structure InUse (past : List (Call δ)) (s : State ω δ) : Prop where
  isOpen_eq : s.isOpen = true
  holds : ∃ device, s.device = some device ∧ During past
    (inHand device s.reattach ++ [.interface device Protocol.interfaceNumber]) transferStage s

/-- Where a transport is between two operations: what its tenures took was given back, but for what
the one it is in holds. -/
def InCustody (s : State ω δ) : Prop :=
  ∃ tenures : List (List (Call δ)), (∀ calls ∈ tenures, Tenure [] calls lastStage) ∧
    (AtRest tenures.flatten s ∨ InUse tenures.flatten s)

omit husb in
theorem AtRest.inCustody {calls : List (Call δ)} {tenures : List (List (Call δ))}
    (htenures : ∀ calls ∈ tenures, Tenure [] calls lastStage) (hcalls : Tenure [] calls lastStage)
    (h : AtRest (tenures.flatten ++ calls) s) : InCustody s := by
  refine ⟨tenures ++ [calls], ?_, .inl ?_⟩
  · simpa [or_imp, forall_and] using ⟨htenures, hcalls⟩
  · simpa using h

/-- Opening succeeds, or a tenure has begun and ended. -/
theorem openDevice_of_atRest (target : Target) (h : AtRest past s) :
    let r := (openDevice usb target).run s
    r.1 = .ok () ∧ InUse past r.2 ∨
      r.1 ≠ .ok () ∧ ∃ calls, Tenure [] calls lastStage ∧ AtRest (past ++ calls) r.2 := by
  intro r
  let serial := target.serial.filter (!·.isEmpty)
  let asked := ((ask (Call.find target.vid target.pid serial)
    (usb.find target.vid target.pid serial)).run s).2
  have hcalls : asked.calls = past ++ [.find target.vid target.pid serial
      ((usb.find target.vid target.pid serial).run s.world).1] := by
    show s.calls ++ _ = _
    rw [h.calls_eq]
  have htenure := Tenure.of_find target.vid target.pid serial
    ((usb.find target.vid target.pid serial).run s.world).1
  rcases hfind : ((usb.find target.vid target.pid serial).run s.world).1 with fault | _ | device
  all_goals
    have hask := run_ask_of hfind (Call.find target.vid target.pid serial)
    rw [hfind] at hcalls htenure
  · have hr : r = (.error fault, asked) := run_bind_error hask
    rw [hr]
    exact .inr ⟨nofun, _, htenure.mono (by decide), h.isOpen_eq, h.device_eq, h.reattach_eq, hcalls⟩
  · have hr : r =
        (.error (.usbDeviceNotFound target.vid target.pid), { asked with device := none }) :=
      run_bind_ok hask
    rw [hr]
    exact .inr ⟨nofun, _, htenure.mono (by decide), h.isOpen_eq, rfl, h.reattach_eq, hcalls⟩
  let found : State ω δ := { asked with device := some device }
  have hfound : During past [.device device] 0 found := ⟨_, hcalls, htenure⟩
  have hkept : found.reattach = false := h.reattach_eq
  obtain ⟨hopen, htaken⟩ := during_takeInterface husb hkept hfound
  have hr : r = (takeInterface usb device >>= fun _ ↦ do
      modify fun s ↦ { s with isOpen := true }
      note (.transportOpened .controlTransfer target.vid target.pid)).run found := by
    show (openDevice usb target).run s = _
    rw [openDevice, run_bind_ok hask, run_bind_ok (run_modify _ _)]
  rcases htake : (takeInterface usb device).run found with ⟨fault | _, t⟩
  all_goals rw [htake] at hopen htaken
  · rw [hr, run_bind_error htake]
    obtain ⟨hok, -⟩ | ⟨-, hdevice, hreattach, calls, hgiven, hended⟩ := htaken
    · cases hok
    · exact .inr ⟨nofun, calls, hended, hopen.trans h.isOpen_eq, hdevice, hreattach, hgiven⟩
  · rw [hr, run_bind_ok htake]
    obtain ⟨-, hdevice, hduring⟩ | ⟨⟨fault, herror⟩, -⟩ := htaken
    · exact .inl ⟨rfl, rfl, device, hdevice, hduring.mono (by decide)⟩
    · cases herror

/-- Closing ends the tenure. -/
theorem closeDevice_of_inUse (h : InUse past s) :
    ∃ calls t, (closeDevice usb).run s = (.ok (), t) ∧ Tenure [] calls lastStage ∧
      AtRest (past ++ calls) t := by
  obtain ⟨device, hdevice, hduring⟩ := h.holds
  obtain ⟨log, hrelease⟩ := run_onFault_ask_note (husb.release device Protocol.interfaceNumber)
    (Call.release device Protocol.interfaceNumber) Notice.interfaceNotReleased s
  let released := ((ask (Call.release device Protocol.interfaceNumber)
    (usb.releaseInterface device Protocol.interfaceNumber)).run s).2
  have hreleased : During past (inHand device released.reattach) 5 (released.withLog log) :=
    hduring.next rfl fun calls htenure ↦ htenure.give (.inl (Nat.lt_succ_self 4)) rfl rfl
  obtain ⟨t, hdrop, ⟨calls, hcalls, hended⟩, hnone, -, hreattach⟩ :=
    during_dropDevice husb (by omega) hreleased
  have hclose : (closeDevice usb).run s = (.ok (), { t with isOpen := false }) := by
    rw [closeDevice, run_bind_ok (run_get s), hdevice]
    dsimp only
    rw [run_bind_ok hrelease, run_bind_ok hdrop, run_modify]
  exact ⟨calls, _, hclose, hended, rfl, hnone, hreattach, hcalls⟩

omit husb in
theorem closeDevice_of_atRest (h : AtRest past s) : (closeDevice usb).run s = (.ok (), s) := by
  have hclosed : { s with isOpen := false } = s := by rw [← h.isOpen_eq]
  rw [closeDevice, run_bind_ok (run_get s), h.device_eq]
  exact congrArg (Prod.mk _) hclosed

section Transfers

omit husb

/-- A transport that is not open is open after an opening that succeeds and after no other, and
closing a transport always succeeds. -/
structure Switches (usb : UsbLibrary ω δ) (target : Target) (s : State ω δ) : Prop where
  opening : s.isOpen = false → (((openDevice usb target).run s).2.isOpen = true ↔
    ((openDevice usb target).run s).1 = .ok ())
  closing : ∃ t, (closeDevice usb).run s = (.ok (), t) ∧ t.isOpen = false

/-- Transfers reach the device that a transport holds if it is open, and nothing if it is not. -/
structure Reaches (usb : UsbLibrary ω δ) (s : State ω δ) : Prop where
  write_of_open : s.isOpen = true → ∀ call, ∃ device outcome, s.device = some device ∧
    ((write usb call).run s).2.calls =
      s.calls ++ [.controlOut device Protocol.outRequestType call outcome]
  read_of_open : s.isOpen = true → ∀ call, ∃ device outcome, s.device = some device ∧
    ((read usb call).run s).2.calls =
      s.calls ++ [.controlIn device Protocol.inRequestType call outcome]
  write_of_closed : s.isOpen = false → ∀ call, (write usb call).run s = (.error .notOpen, s)
  read_of_closed : s.isOpen = false → ∀ call, (read usb call).run s = (.error .notOpen, s)

theorem InCustody.switches (husb : usb.Regular) (target : Target) (h : InCustody s) :
    Switches usb target s := by
  obtain ⟨_, -, hrest | huse⟩ := h
  · refine ⟨fun _ ↦ ?_, _, closeDevice_of_atRest hrest, hrest.isOpen_eq⟩
    obtain ⟨hok, huse⟩ | ⟨herror, _, -, hrest⟩ := openDevice_of_atRest husb target hrest
    · exact iff_of_true huse.isOpen_eq hok
    · exact iff_of_false (by simp [hrest.isOpen_eq]) herror
  · obtain ⟨_, t, hclose, -, hrest⟩ := closeDevice_of_inUse husb huse
    refine ⟨fun hclosed ↦ ?_, t, hclose, hrest.isOpen_eq⟩
    exact absurd huse.isOpen_eq (by simp [hclosed])

theorem InCustody.device_isSome (h : InCustody s) : s.device.isSome = s.isOpen := by
  obtain ⟨_, -, hrest | huse⟩ := h
  · rw [hrest.device_eq, hrest.isOpen_eq]
    rfl
  · obtain ⟨device, hdevice, -⟩ := huse.holds
    rw [hdevice, huse.isOpen_eq]
    rfl

theorem InCustody.reaches (h : InCustody s) : Reaches usb s := by
  have hsome := h.device_isSome
  refine ⟨fun hopen call ↦ ?_, fun hopen call ↦ ?_, run_write_of_closed usb, run_read_of_closed usb⟩
  · obtain ⟨device, hdevice⟩ := Option.isSome_iff_exists.mp (hsome.trans hopen)
    have hrun := run_write_of_open usb hopen hdevice call
    exact ⟨device, _, hdevice, congrArg (Attachment.calls ∘ Prod.snd) hrun⟩
  · obtain ⟨device, hdevice⟩ := Option.isSome_iff_exists.mp (hsome.trans hopen)
    have hrun := run_read_of_open usb hopen hdevice call
    exact ⟨device, _, hdevice, congrArg (Attachment.calls ∘ Prod.snd) hrun⟩

/-- A transfer stays within the tenure. -/
theorem InUse.transfer {t : State ω δ} (h : InUse past s) {call : Call δ}
    (hstage : call.stage = transferStage) (hcalls : t.calls = s.calls ++ [call])
    (hopen : t.isOpen = s.isOpen) (hdevice : t.device = s.device)
    (hreattach : t.reattach = s.reattach) : InUse past t := by
  obtain ⟨device, hheld, hduring⟩ := h.holds
  have hnone : call.taken? = none ∧ call.given? = none := by
    cases call <;> simp [Call.stage, transferStage] at hstage <;> exact ⟨rfl, rfl⟩
  refine ⟨hopen.trans h.isOpen_eq, device, hdevice.trans hheld, ?_⟩
  rw [hreattach]
  refine hduring.next hcalls fun calls htenure ↦ ?_
  exact hstage ▸ htenure.idle (.inr ⟨rfl, hstage⟩) hnone.1 hnone.2

end Transfers

/-! ### Runs -/

omit husb

/-- The operations of a transport. -/
inductive Operation where
  | openDevice
  | closeDevice
  | write (call : WriteCall)
  | read (call : ReadCall)

/-- The state that an operation leaves, whatever its outcome. -/
def Operation.perform (usb : UsbLibrary ω δ) (target : Target) (s : State ω δ) :
    Operation → State ω δ
  | openDevice => ((ControlTransfer.openDevice usb target).run s).2
  | closeDevice => ((ControlTransfer.closeDevice usb).run s).2
  | write call => ((ControlTransfer.write usb call).run s).2
  | read call => ((ControlTransfer.read usb call).run s).2

/-- The state after some operations. -/
def after (usb : UsbLibrary ω δ) (target : Target) (s : State ω δ)
    (operations : List Operation) : State ω δ :=
  operations.foldl (Operation.perform usb target) s

/-- Only a transport that is not open is opened. -/
def OpensOnlyClosed (usb : UsbLibrary ω δ) (target : Target) : State ω δ → List Operation → Prop
  | _, [] => True
  | s, operation :: rest => (operation = .openDevice → s.isOpen = false) ∧
    OpensOnlyClosed usb target (operation.perform usb target s) rest

/-- Every operation keeps a transport in custody. -/
theorem inCustody_perform (husb : usb.Regular) (target : Target) {operation : Operation}
    (hopening : operation = .openDevice → s.isOpen = false) (h : InCustody s) :
    InCustody (operation.perform usb target s) := by
  obtain ⟨tenures, htenures, hrest | huse⟩ := h
  · cases operation with
    | openDevice =>
      obtain ⟨-, huse⟩ | ⟨-, calls, hended, hrest⟩ := openDevice_of_atRest husb target hrest
      · exact ⟨tenures, htenures, .inr huse⟩
      · exact hrest.inCustody htenures hended
    | closeDevice =>
      rw [Operation.perform, closeDevice_of_atRest hrest]
      exact ⟨tenures, htenures, .inl hrest⟩
    | write call =>
      rw [Operation.perform, run_write_of_closed usb hrest.isOpen_eq]
      exact ⟨tenures, htenures, .inl hrest⟩
    | read call =>
      rw [Operation.perform, run_read_of_closed usb hrest.isOpen_eq]
      exact ⟨tenures, htenures, .inl hrest⟩
  · obtain ⟨device, hdevice, -⟩ := huse.holds
    cases operation with
    | openDevice => exact absurd (hopening rfl) (by simp [huse.isOpen_eq])
    | closeDevice =>
      obtain ⟨calls, t, hclose, hended, hrest⟩ := closeDevice_of_inUse husb huse
      rw [Operation.perform, hclose]
      exact hrest.inCustody htenures hended
    | write call =>
      rw [Operation.perform, run_write_of_open usb huse.isOpen_eq hdevice]
      exact ⟨tenures, htenures, .inr (huse.transfer rfl rfl rfl rfl rfl)⟩
    | read call =>
      rw [Operation.perform, run_read_of_open usb huse.isOpen_eq hdevice]
      exact ⟨tenures, htenures, .inr (huse.transfer rfl rfl rfl rfl rfl)⟩

theorem inCustody_after (husb : usb.Regular) (target : Target) {operations : List Operation} :
    ∀ {s : State ω δ}, InCustody s → OpensOnlyClosed usb target s operations →
      InCustody (after usb target s operations) := by
  induction operations with
  | nil => exact fun h _ ↦ h
  | cons operation rest ih =>
    intro s h ⟨hopening, hrest⟩
    exact ih (inCustody_perform husb target hopening h) hrest

/-- Whatever the library refuses, a transport that is not open holds nothing and has given back,
last thing first and once, what it ever took; one that is open holds the device that its transfers
reach.
Assumes: the library fails with faults of its own only and lets every device go; only a transport
that is not open is opened. -/
theorem custody_after (husb : usb.Regular) (target : Target) (world : ω)
    {operations : List Operation}
    (hoperations : OpensOnlyClosed usb target { world := world } operations) :
    let s := after usb target { world := world } operations
    InCustody s ∧ Switches usb target s ∧ Reaches usb s := by
  intro s
  have hfresh : InCustody ({ world := world } : State ω δ) :=
    ⟨[], List.forall_mem_nil _, .inl ⟨rfl, rfl, rfl, rfl⟩⟩
  have h : InCustody s := inCustody_after husb target hfresh hoperations
  exact ⟨h, h.switches husb target, h.reaches⟩

/-- A call that fails if the script says so. -/
def next {α : Type} (a : α) : Action (List Bool) α :=
  .of fun script ↦
    (if script.headD false then .error (.reportedUsb (some 5) "") else .ok a, script.tail)

/-- A library with one mouse, bound to the kernel's driver, whose calls fail by a script. -/
def scripted : UsbLibrary (List Bool) Unit where
  find _ _ _ := next (some ())
  kernelDriverActive _ _ := next true
  detachKernelDriver _ _ := next ()
  attachKernelDriver _ _ := next ()
  claimInterface _ _ := next ()
  releaseInterface _ _ := next ()
  dispose _ := pure ()
  controlOut _ _ call := next call.data.length
  controlIn _ _ call := next (List.replicate call.length.toNat 0)

theorem failsWith_next {α : Type} (a : α) : FailsWith .usb (next a) := by
  intro script fault h
  rw [next, run_of] at h
  split_ifs at h
  cases h
  rfl

theorem regular_scripted : scripted.Regular :=
  ⟨fun _ _ ↦ failsWith_next _, fun _ _ ↦ failsWith_next _, fun _ _ ↦ failsWith_next _,
    fun _ _ ↦ failsWith_next _, fun _ _ ↦ failsWith_next _, fun _ _ ↦ rfl⟩

/-- The interface is refused, then the driver, and at the second opening a transfer and the release
fail. -/
theorem custody_after_refusals :
    let target : Target := ⟨0x1532, 0x0015, none⟩
    let script := [false, false, false, true, true, false, false, false, false, true, true]
    let operations : List Operation :=
      [.openDevice, .openDevice, .read ⟨1, 0x300, 0, 90, 3000⟩, .closeDevice]
    (scripted.Regular ∧ OpensOnlyClosed scripted target { world := script } operations) ∧
      let s := after scripted target { world := script } operations
      s.calls.map Call.stage = [0, 1, 2, 3, 6, 7, 0, 1, 2, 3, 4, 5, 6, 7] ∧
        InCustody s ∧ Switches scripted target s ∧ Reaches scripted s := by
  intro target script operations
  have hoperations : OpensOnlyClosed scripted target { world := script } operations :=
    ⟨fun _ ↦ rfl, fun _ ↦ rfl, nofun, nofun, trivial⟩
  refine ⟨⟨regular_scripted, hoperations⟩, by decide +kernel, ?_⟩
  exact custody_after regular_scripted target script hoperations

end MouseControl.ControlTransfer
