import MouseControl.Proofs.Backend.Usability

/-!
In whose words a transport fails. Every call of a library stands in a handler that puts its faults
in the words of the transport, so every fault of an operation by feature reports is a failure to
transfer (`FeatureReport.translated_perform`). By control transfers all calls but one do: the search
for the device stands outside, and its fault leaves an opening as it is
(`ControlTransfer.translated_perform`).
-/

set_option autoImplicit false
set_option relaxedAutoImplicit false

namespace MouseControl

open MouseControl.Action Attachment

namespace Attachment

variable {ω δ κ α : Type} {kind inner : FaultKind}

/-- When all faults of an action are handled, those of the handler are left. -/
theorem failsWith_onFault_of_handled {kinds : List FaultKind}
    {x : Action (Attachment ω δ κ) α} {handle : Fault → Action (Attachment ω δ κ) α}
    (hx : FailsWith inner x) (hinner : inner ∈ kinds)
    (hhandle : ∀ fault, FailsWith kind (handle fault)) :
    FailsWith kind (onFault kinds x handle) := by
  intro s fault hfault
  rcases hrun : x.run s with ⟨own | a, t⟩
  · have hkinds : kinds.any own.isA = true :=
      List.any_eq_true.mpr ⟨inner, hinner, hx s own (congrArg Prod.fst hrun)⟩
    rw [run_onFault_error hrun hkinds] at hfault
    exact hhandle own t fault hfault
  · rw [run_onFault_ok hrun] at hfault
    cases hfault

theorem failsWith_openedDevice :
    FailsWith .transfer (openedDevice : Action (Attachment ω δ κ) δ) := by
  refine failsWith_bind (failsWith_of_ok fun s ↦ ⟨s, rfl⟩) fun s ↦ ?_
  split
  · exact failsWith_of_ok fun _ ↦ ⟨_, rfl⟩
  · exact failsWith_throw rfl

end Attachment

variable {ω δ : Type}

/-! ### Feature reports -/

namespace FeatureReport

/-- A library that fails with faults of the operating system only, and makes and closes every
handle. -/
structure HidLibrary.SystemFaultsOnly (hid : HidLibrary ω δ) : Prop where
  newDevice : ∀ world, ∃ device, (hid.newDevice.run world).1 = .ok device
  openDevice : ∀ device vid pid serial, FailsWith .system (hid.openDevice device vid pid serial)
  closeDevice : ∀ device world, ((hid.closeDevice device).run world).1 = .ok ()
  sendReport : ∀ device report, FailsWith .system (hid.sendReport device report)
  getReport : ∀ device id length, FailsWith .system (hid.getReport device id length)

/-- An operation ends in a fault. -/
def Raises (hid : HidLibrary ω δ) (target : Target) (s : State ω δ) (fault : Fault) :
    ControlTransfer.Operation → Prop
  | .openDevice => ((openDevice hid target).run s).1 = .error fault
  | .closeDevice => ((closeDevice hid).run s).1 = .error fault
  | .write call => ((write hid call).run s).1 = .error fault
  | .read call => ((read hid call).run s).1 = .error fault

variable {hid : HidLibrary ω δ} (hhid : hid.SystemFaultsOnly)

include hhid

theorem failsWith_openDevice (target : Target) : FailsWith .transfer (openDevice hid target) := by
  refine failsWith_bind (failsWith_of_ok fun s ↦ hhid.newDevice s.world) fun device ↦ ?_
  refine failsWith_bind (failsWith_onFault_of_handled
    (failsWith_ask (hhid.openDevice _ _ _ _) _) (List.mem_singleton_self _)
    fun _ ↦ failsWith_throw rfl) fun _ ↦ ?_
  exact failsWith_bind (failsWith_modify _) fun _ ↦ failsWith_note _

theorem failsWith_closeDevice : FailsWith .transfer (closeDevice hid) := by
  refine failsWith_bind (failsWith_of_ok fun s ↦ ⟨s, rfl⟩) fun s ↦ ?_
  rcases s.device with _ | device
  · exact failsWith_modify _
  · refine failsWith_bind (failsWith_ask (failsWith_of_ok fun world ↦ ?_) _) fun _ ↦ ?_
    · exact ⟨(), hhid.closeDevice device world⟩
    · exact failsWith_bind (failsWith_modify _) fun _ ↦ failsWith_modify _

theorem failsWith_write (call : WriteCall) : FailsWith .transfer (write hid call) := by
  refine failsWith_bind failsWith_openedDevice fun device ↦ ?_
  refine failsWith_bind (failsWith_onFault_of_handled (failsWith_ask (hhid.sendReport _ _) _)
    List.mem_cons_self fun _ ↦ failsWith_throw rfl) fun _ ↦ ?_
  exact failsWith_of_ok fun _ ↦ ⟨_, rfl⟩

theorem failsWith_read (call : ReadCall) : FailsWith .transfer (read hid call) := by
  refine failsWith_bind failsWith_openedDevice fun device ↦ ?_
  refine failsWith_bind (failsWith_onFault_of_handled (failsWith_ask (hhid.getReport _ _ _) _)
    List.mem_cons_self fun _ ↦ failsWith_throw rfl) fun _ ↦ ?_
  exact failsWith_of_ok fun _ ↦ ⟨_, rfl⟩

/-- Every fault of an operation is a failure to transfer. -/
theorem translated_perform (target : Target) (s : State ω δ) {operation : ControlTransfer.Operation}
    {fault : Fault} (h : Raises hid target s fault operation) : fault.isA .transfer = true := by
  cases operation with
  | openDevice => exact failsWith_openDevice hhid target s fault h
  | closeDevice => exact failsWith_closeDevice hhid s fault h
  | write call => exact failsWith_write hhid call s fault h
  | read call => exact failsWith_read hhid call s fault h

end FeatureReport

/-! ### Control transfers -/

namespace ControlTransfer

/-- A library that fails with faults of its own only, the search and the transfers included, and
lets every device go. -/
structure UsbLibrary.OwnFaultsOnly (usb : UsbLibrary ω δ) : Prop extends usb.Regular where
  find : ∀ vid pid serial, FailsWith .usb (usb.find vid pid serial)
  controlOut : ∀ device requestType call, FailsWith .usb (usb.controlOut device requestType call)
  controlIn : ∀ device requestType call, FailsWith .usb (usb.controlIn device requestType call)

/-- An operation ends in a fault. -/
def Operation.Raises (usb : UsbLibrary ω δ) (target : Target) (s : State ω δ) (fault : Fault) :
    Operation → Prop
  | openDevice => ((ControlTransfer.openDevice usb target).run s).1 = .error fault
  | closeDevice => ((ControlTransfer.closeDevice usb).run s).1 = .error fault
  | write call => ((ControlTransfer.write usb call).run s).1 = .error fault
  | read call => ((ControlTransfer.read usb call).run s).1 = .error fault

/-- The search for the device, with which an opening begins, ends in a fault. -/
def SearchRaises (usb : UsbLibrary ω δ) (target : Target) (s : State ω δ) (fault : Fault) : Prop :=
  ((usb.find target.vid target.pid (target.serial.filter (!·.isEmpty))).run s.world).1 =
    .error fault

variable {usb : UsbLibrary ω δ} (husb : usb.OwnFaultsOnly)

include husb

theorem failsWith_dropDevice (device : δ) : FailsWith .transfer (dropDevice usb device) := by
  have hrestore : FailsWith .transfer (restoreKernelDriver usb device) := by
    refine failsWith_bind (failsWith_of_ok fun s ↦ ⟨s, rfl⟩) fun s ↦ failsWith_ite ?_ ?_
    · refine failsWith_bind (failsWith_onFault_of_handled
        (failsWith_ask (husb.attach _ _) _) (List.mem_singleton_self _)
        fun _ ↦ failsWith_note _) fun _ ↦ failsWith_modify _
    · exact failsWith_of_ok fun _ ↦ ⟨_, rfl⟩
  refine failsWith_bind hrestore fun _ ↦
    failsWith_bind (failsWith_ask (failsWith_of_ok fun world ↦ ?_) _) fun _ ↦ failsWith_modify _
  exact ⟨(), husb.dispose device world⟩

theorem failsWith_takeInterface (device : δ) : FailsWith .transfer (takeInterface usb device) := by
  have hdetach : FailsWith .usb (detachIfActive usb device) :=
    failsWith_detachIfActive husb.kernelDriverActive husb.detach device
  refine failsWith_onFault_of_handled (failsWith_bind hdetach fun _ ↦
    failsWith_ask (husb.claim _ _) _) (List.mem_singleton_self _) fun fault ↦ ?_
  exact failsWith_bind (failsWith_dropDevice husb device) fun _ ↦ failsWith_throw rfl

theorem failsWith_closeDevice : FailsWith .transfer (closeDevice usb) := by
  refine failsWith_bind (failsWith_of_ok fun s ↦ ⟨s, rfl⟩) fun s ↦ ?_
  rcases s.device with _ | device
  · exact failsWith_modify _
  · refine failsWith_bind (failsWith_onFault_of_handled (failsWith_ask (husb.release _ _) _)
      (List.mem_singleton_self _) fun _ ↦ failsWith_note _) fun _ ↦ ?_
    exact failsWith_bind (failsWith_dropDevice husb device) fun _ ↦ failsWith_modify _

theorem failsWith_write (call : WriteCall) : FailsWith .transfer (write usb call) :=
  failsWith_bind failsWith_openedDevice fun _ ↦
    failsWith_onFault_of_handled (failsWith_ask (husb.controlOut _ _ _) _)
      (List.mem_singleton_self _) fun _ ↦ failsWith_throw rfl

theorem failsWith_read (call : ReadCall) : FailsWith .transfer (read usb call) :=
  failsWith_bind failsWith_openedDevice fun _ ↦
    failsWith_onFault_of_handled (failsWith_ask (husb.controlIn _ _ _) _)
      (List.mem_singleton_self _) fun _ ↦ failsWith_throw rfl

/-- An opening fails as its search does, or with a failure to transfer. -/
theorem openDevice_eq_error (target : Target) {s : State ω δ} {fault : Fault}
    (h : ((openDevice usb target).run s).1 = .error fault) :
    SearchRaises usb target s fault ∨ fault.isA .transfer = true := by
  let serial := target.serial.filter (!·.isEmpty)
  rcases hfind : ((usb.find target.vid target.pid serial).run s.world).1 with own | found
  all_goals have hask := run_ask_of hfind (Call.find target.vid target.pid serial)
  · rw [openDevice, run_bind_error hask] at h
    obtain rfl := Except.error.inj h
    exact .inl hfind
  · rw [openDevice, run_bind_ok hask] at h
    refine .inr (failsWith_bind (failsWith_modify _) (fun _ ↦ ?_) _ fault h)
    rcases found with _ | device
    · exact failsWith_throw rfl
    · exact failsWith_bind (failsWith_takeInterface husb device) fun _ ↦
        failsWith_bind (failsWith_modify _) fun _ ↦ failsWith_note _

omit husb in
theorem openDevice_of_searchRaises {target : Target} {s : State ω δ} {fault : Fault}
    (h : SearchRaises usb target s fault) : ((openDevice usb target).run s).1 = .error fault :=
  congrArg Prod.fst (run_bind_error (run_ask_of h _))

/-- A fault that is no failure to transfer leaves an operation exactly if the operation is an
opening and the search for the device ended in that fault. -/
theorem translated_perform (target : Target) (s : State ω δ) (operation : Operation)
    (fault : Fault) :
    operation.Raises usb target s fault ∧ ¬fault.isA .transfer = true ↔
      operation = .openDevice ∧ SearchRaises usb target s fault := by
  constructor
  · rintro ⟨hraises, hkind⟩
    cases operation with
    | openDevice =>
      exact ⟨rfl, (openDevice_eq_error husb target hraises).resolve_right hkind⟩
    | closeDevice => exact absurd (failsWith_closeDevice husb s fault hraises) hkind
    | write call => exact absurd (failsWith_write husb call s fault hraises) hkind
    | read call => exact absurd (failsWith_read husb call s fault hraises) hkind
  · rintro ⟨rfl, hsearch⟩
    have hsystem : fault.isA .system = true :=
      FaultKind.isA_trans (husb.find _ _ _ _ _ hsearch) rfl
    exact ⟨openDevice_of_searchRaises hsearch, FaultKind.not_isA_transfer _ hsystem⟩

end ControlTransfer

/-- Throughout every run of operations by feature reports, every fault that leaves the transport is
a failure to transfer. By control transfers the only other ones are those of the search for the
device, which leave an opening as they are.
Assumes: the libraries fail with their own faults, or those of the operating system, only. -/
theorem translated_after {ω' δ' : Type} {hid : FeatureReport.HidLibrary ω' δ'}
    (hhid : hid.SystemFaultsOnly) {usb : ControlTransfer.UsbLibrary ω δ} (husb : usb.OwnFaultsOnly)
    (target : Target) (world : ω) (world' : ω') (operations : List ControlTransfer.Operation)
    (operation : ControlTransfer.Operation) (fault : Fault) :
    let s := ControlTransfer.after usb target { world := world } operations
    let s' := FeatureReport.after hid target { world := world' } operations
    (FeatureReport.Raises hid target s' fault operation → fault.isA .transfer = true) ∧
      (operation.Raises usb target s fault ∧ ¬fault.isA .transfer = true ↔
        operation = .openDevice ∧ ControlTransfer.SearchRaises usb target s fault) :=
  ⟨FeatureReport.translated_perform hhid target _,
    ControlTransfer.translated_perform husb target _ operation fault⟩

namespace ControlTransfer

theorem ownFaultsOnly_scripted : scripted.OwnFaultsOnly :=
  ⟨regular_scripted, fun _ _ _ ↦ failsWith_next _, fun _ _ _ ↦ failsWith_next _,
    fun _ _ _ ↦ failsWith_next _⟩

end ControlTransfer

/-- A feature report library whose calls fail by a script. -/
def scriptedReports : FeatureReport.HidLibrary (List Bool) Unit where
  newDevice := pure ()
  openDevice _ _ _ _ := ControlTransfer.next ()
  closeDevice _ := pure ()
  sendReport _ report := ControlTransfer.next report.length
  getReport _ id length := ControlTransfer.next
    (some (UInt8.ofNat id.toNat :: List.replicate (length.toNat - 1) 0))

theorem systemFaultsOnly_scriptedReports : scriptedReports.SystemFaultsOnly := by
  have hnext {α : Type} (a : α) : FailsWith .system (ControlTransfer.next a) :=
    fun script fault h ↦ FaultKind.isA_trans (ControlTransfer.failsWith_next a script fault h) rfl
  exact ⟨fun _ ↦ ⟨(), rfl⟩, fun _ _ _ _ ↦ hnext _, fun _ _ ↦ rfl, fun _ _ ↦ hnext _,
    fun _ _ _ ↦ hnext _⟩

/-- A report is refused, and of another mouse the interface, after the driver was detached. -/
theorem translated_after_refusals :
    let target : Target := ⟨0x1532, 0x0015, none⟩
    let call : WriteCall := ⟨9, 0x300, 0, [1, 2, 3], 3000⟩
    let refusal : Fault := .reportedUsb (some 5) ""
    let s' := FeatureReport.after scriptedReports target { world := [false, true] } [.openDevice]
    let s := ControlTransfer.after ControlTransfer.scripted target
      { world := [false, false, false, true] } []
    (scriptedReports.SystemFaultsOnly ∧ ControlTransfer.scripted.OwnFaultsOnly) ∧
      (FeatureReport.Raises scriptedReports target s' (.reportTransferFailed .write refusal)
          (.write call) ∧
        (Fault.reportTransferFailed .write refusal).isA .transfer = true) ∧
      ControlTransfer.Operation.openDevice.Raises ControlTransfer.scripted target s
          (.interfaceNotClaimed refusal) ∧
        (Fault.interfaceNotClaimed refusal).isA .transfer = true := by
  intro target call refusal s' s
  have htranslated := translated_after systemFaultsOnly_scriptedReports
    ControlTransfer.ownFaultsOnly_scripted target [false, false, false, true] [false, true]
  have hreport : FeatureReport.Raises scriptedReports target s'
      (.reportTransferFailed .write refusal) (.write call) := rfl
  have hinterface : ControlTransfer.Operation.openDevice.Raises ControlTransfer.scripted target s
      (.interfaceNotClaimed refusal) := rfl
  refine ⟨⟨systemFaultsOnly_scriptedReports, ControlTransfer.ownFaultsOnly_scripted⟩,
    ⟨hreport, (htranslated [.openDevice] _ _).1 hreport⟩, hinterface, ?_⟩
  by_contra hkind
  obtain ⟨-, hsearch⟩ := (htranslated [] _ _).2.mp ⟨hinterface, hkind⟩
  cases hsearch

/-- The search for the device is refused, and the library's own fault leaves the transport. -/
theorem untranslated_of_failing_search :
    let target : Target := ⟨0x1532, 0x0015, none⟩
    let refusal : Fault := .reportedUsb (some 5) ""
    ControlTransfer.scripted.OwnFaultsOnly ∧
      ControlTransfer.Operation.openDevice.Raises ControlTransfer.scripted target
        (ControlTransfer.after ControlTransfer.scripted target { world := [true] } []) refusal ∧
      ¬refusal.isA .transfer = true :=
  ⟨ControlTransfer.ownFaultsOnly_scripted, rfl, by decide⟩

end MouseControl
