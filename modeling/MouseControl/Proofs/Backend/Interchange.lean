import MouseControl.Backend.Choice
import MouseControl.Proofs.Backend.Attachment
import MouseControl.Proofs.Line.Attempts

/-!
The two backends, side by side. A feature report library mirrors a USB library on a pair of open
devices if it gives the same results, each with the id of its report, and fails where that one does
(`Mirrors`). Then the two transports are twins: every call of the one library is matched by a call
of the other that carries the same data (`Carries`), and channels on them cannot be told apart
(`interchangeable_of_mirrors`).
-/

set_option autoImplicit false
set_option relaxedAutoImplicit false

namespace MouseControl

open MouseControl.Action Attachment

variable {ω ω' δ δ' α α' : Type}

/-- A result of a USB library and its image, or faults of either kind. -/
inductive Reported (image : α → α' → Prop) : Except Fault α → Except Fault α' → Prop where
  | ok {a : α} {a' : α'} (h : image a a') : Reported image (.ok a) (.ok a')
  | error {fault fault' : Fault} (h : fault.isA .usb = true) (h' : fault'.isA .system = true) :
      Reported image (.error fault) (.error fault')

/-- On related worlds, transfers to a device and reports of another one give the same: a report has
one byte more, its id, which is written and read along. -/
structure Mirrors (usb : ControlTransfer.UsbLibrary ω δ) (hid : FeatureReport.HidLibrary ω' δ')
    (worlds : ω → ω' → Prop) (device : δ) (device' : δ') : Prop where
  write : ∀ (call : WriteCall) world world', worlds world world' →
    let r := (usb.controlOut device Protocol.outRequestType call).run world
    let r' := (hid.sendReport device' (FeatureReport.reportOf call.value call.data)).run world'
    Reported (fun count count' ↦ 0 ≤ count ∧ count' = count + 1) r.1 r'.1 ∧ worlds r.2 r'.2
  read : ∀ (call : ReadCall) world world', worlds world world' →
    let r := (usb.controlIn device Protocol.inRequestType call).run world
    let r' :=
      (hid.getReport device' (FeatureReport.reportId call.value) (call.length + 1)).run world'
    Reported (fun data report ↦ report = some (FeatureReport.reportOf call.value data)) r.1 r'.1 ∧
      worlds r.2 r'.2

/-- A report carries the data of a transfer: it is sent as its id and this data, or asked for by its
id, with one byte more. -/
inductive Carries (device : δ) (device' : δ') :
    ControlTransfer.Call δ → FeatureReport.Call δ' → Prop
  | write (call : WriteCall) (outcome outcome' : Except Fault Int) :
      Carries device device' (.controlOut device Protocol.outRequestType call outcome)
        (.sendReport device' (FeatureReport.reportOf call.value call.data) outcome')
  | read (call : ReadCall) (outcome : Except Fault Bytes) (outcome' : Except Fault (Option Bytes)) :
      Carries device device' (.controlIn device Protocol.inRequestType call outcome)
        (.getReport device' (FeatureReport.reportId call.value) (call.length + 1) outcome')

/-- Both transports are open on related worlds, and since some calls each call of the one was
carried by a call of the other. -/
structure Together (worlds : ω → ω' → Prop) (device : δ) (device' : δ')
    (past : List (ControlTransfer.Call δ)) (past' : List (FeatureReport.Call δ'))
    (s : ControlTransfer.State ω δ) (s' : FeatureReport.State ω' δ') : Prop where
  worlds : worlds s.world s'.world
  isOpen_eq : s.isOpen = true
  isOpen_eq' : s'.isOpen = true
  device_eq : s.device = some device
  device_eq' : s'.device = some device'
  calls : ∃ new new', s.calls = past ++ new ∧ s'.calls = past' ++ new' ∧
    List.Forall₂ (Carries device device') new new'

section Transfers

variable {usb : ControlTransfer.UsbLibrary ω δ} {hid : FeatureReport.HidLibrary ω' δ'}
  {worlds : ω → ω' → Prop} {device : δ} {device' : δ'} {past : List (ControlTransfer.Call δ)}
  {past' : List (FeatureReport.Call δ')}

/-- One call more on both sides. -/
theorem Together.concat {s : ControlTransfer.State ω δ} {s' : FeatureReport.State ω' δ'}
    (h : Together worlds device device' past past' s s') {world : ω} {world' : ω'}
    (hworlds : worlds world world') {call : ControlTransfer.Call δ} {call' : FeatureReport.Call δ'}
    (hcarries : Carries device device' call call') :
    Together worlds device device' past past'
      { s with world := world, calls := s.calls ++ [call] }
      { s' with world := world', calls := s'.calls ++ [call'] } := by
  obtain ⟨new, new', hnew, hnew', hall⟩ := h.calls
  refine { h with worlds := hworlds, calls := ⟨new ++ [call], new' ++ [call'], ?_, ?_, ?_⟩ }
  · rw [hnew, List.append_assoc]
  · rw [hnew', List.append_assoc]
  · exact List.rel_append hall (.cons hcarries .nil)

/-- The outcomes of a transfer and of the report that carries it, each in the words of its
transport, if the report's result is turned back. -/
theorem Reported.equivalent {image : α → α' → Prop} {outcome : Except Fault α}
    {outcome' : Except Fault α'} (h : Reported image outcome outcome') {back : α' → α}
    (hback : ∀ a a', image a a' → back a' = a) {reworded reworded' : Fault → Fault}
    (hkind : ∀ fault, (reworded fault).kind = .transfer)
    (hkind' : ∀ fault, (reworded' fault).kind = .transfer) :
    Equivalent (fun _ ↦ False)
      (outcome.mapError fun fault ↦ if [.usb].any fault.isA then reworded fault else fault)
      ((outcome'.mapError fun fault ↦
        if [.system, .value].any fault.isA then reworded' fault else fault).map back) := by
  cases h with
  | @ok a a' himage =>
    show Equivalent (fun _ ↦ False) (.ok a) (.ok (back a'))
    rw [hback a a' himage]
    exact .ok a
  | @error fault fault' husb hsystem =>
    show Equivalent (fun _ ↦ False) (.error (if _ then _ else _)) (.error (if _ then _ else _))
    rw [if_pos (by simpa using husb), if_pos (by simp [hsystem])]
    exact .failed (hkind fault) (hkind' fault')

variable (hmirrors : Mirrors usb hid worlds device device') {s : ControlTransfer.State ω δ}
  {s' : FeatureReport.State ω' δ'} (h : Together worlds device device' past past' s s')

include hmirrors h

/-- A write of the one transport and the same write of the other. -/
theorem Together.write (call : WriteCall) (timeout : Int) :
    let r := (ControlTransfer.write usb call).run s
    let r' := (FeatureReport.write hid { call with timeout := timeout }).run s'
    Equivalent (fun _ ↦ False) r.1 r'.1 ∧ Together worlds device device' past past' r.2 r'.2 := by
  obtain ⟨hreported, hworlds⟩ := hmirrors.write call s.world s'.world h.worlds
  rw [ControlTransfer.run_write_of_open usb h.isOpen_eq h.device_eq,
    FeatureReport.run_write_of_open hid h.isOpen_eq' h.device_eq']
  refine ⟨hreported.equivalent ?_ (fun _ ↦ rfl) fun _ ↦ rfl, h.concat hworlds (.write call _ _)⟩
  rintro count _ ⟨hcount, rfl⟩
  rw [FeatureReport.dataWritten]
  omega

/-- A read of the one transport and the same read of the other. -/
theorem Together.read (call : ReadCall) (timeout : Int) :
    let r := (ControlTransfer.read usb call).run s
    let r' := (FeatureReport.read hid { call with timeout := timeout }).run s'
    Equivalent (fun _ ↦ False) r.1 r'.1 ∧ Together worlds device device' past past' r.2 r'.2 := by
  obtain ⟨hreported, hworlds⟩ := hmirrors.read call s.world s'.world h.worlds
  rw [ControlTransfer.run_read_of_open usb h.isOpen_eq h.device_eq,
    FeatureReport.run_read_of_open hid h.isOpen_eq' h.device_eq']
  refine ⟨hreported.equivalent ?_ (fun _ ↦ rfl) fun _ ↦ rfl, h.concat hworlds (.read call _ _)⟩
  rintro data _ rfl
  rfl

end Transfers

/-! ### Channels -/

section Channels

variable {τ : Type} [TimeScale τ] {usb : ControlTransfer.UsbLibrary ω δ}
  {hid : FeatureReport.HidLibrary ω' δ'} {worlds : ω → ω' → Prop} {device : δ} {device' : δ'}

/-- The transports over mirrored libraries are twins. -/
theorem Mirrors.twin (hmirrors : Mirrors usb hid worlds device device') (target target' : Target)
    (past : List (ControlTransfer.Call δ)) (past' : List (FeatureReport.Call δ')) :
    Transport.Twin (Together worlds device device' past past')
      (ControlTransfer.transport usb target : Transport _ τ)
      (FeatureReport.transport hid target') where
  write call timeout s s' h := by
    obtain ⟨hequivalent, hnext⟩ := h.write hmirrors call timeout
    exact ⟨hequivalent, hnext, rfl⟩
  read call timeout s s' h := by
    obtain ⟨hequivalent, hnext⟩ := h.read hmirrors call timeout
    exact ⟨hequivalent, hnext, rfl⟩

theorem FeatureReport.dataWritten_eq_iff {count n : Int} (hn : 0 < n) :
    dataWritten count = n ↔ count = n + 1 := by
  rw [dataWritten]
  omega

/-- A write by feature reports succeeds exactly if its report was taken as a whole. -/
theorem FeatureReport.write_eq_ok_iff (target : Target) (policy : RetryPolicy) (timeout : Int)
    {bus : Bus (State ω' δ') τ} (hopen : bus.device.isOpen = true)
    (hdevice : bus.device.device = some device') (request value : Int) {data : Bytes}
    (hdata : data ≠ []) :
    (((⟨transport hid target, policy, timeout⟩ : Channel _ τ).write request value data).run bus).1 =
        .ok () ↔
      ((hid.sendReport device' (reportOf value data)).run bus.device.world).1 =
        .ok (data.length + 1 : Int) := by
  have hlength : 0 < (data.length : Int) := by
    have hpos := List.length_pos_iff.mpr hdata
    omega
  rw [Channel.write_eq_ok_iff, Channel.rawWrite, Bus.run_spaced]
  show ((write hid _).run bus.entered.device).1 = _ ↔ _
  rw [bus.entered_kept.1, run_write_of_open hid hopen hdevice]
  dsimp only [Channel.writeCall]
  rcases ((hid.sendReport device' (reportOf value data)).run bus.device.world).1 with fault | count
  · refine iff_of_false (fun hok ↦ ?_) fun hok ↦ ?_
    · cases hok
    · cases hok
  · show Except.ok (dataWritten count) = .ok _ ↔ _
    rw [Except.ok.injEq, Except.ok.injEq]
    exact dataWritten_eq_iff hlength

/-- Whatever is asked of two channels, one on each backend, they give the same bytes or both fail to
transfer, after the same pauses and as many calls of their libraries, and each report carries the
data of the transfer in its place; what else can end a transaction is one and the same fault on both
(`Transaction.Excepted`). And by feature reports, a write of some data succeeds exactly if the
library took one byte more.
Assumes: the libraries mirror each other on the two devices; both transports are open on these, on
lines that keep the same time and gap. -/
theorem interchangeable_of_mirrors (hmirrors : Mirrors usb hid worlds device device')
    (target target' : Target) (policy : RetryPolicy) (timeout timeout' : Int)
    {bus : Bus (ControlTransfer.State ω δ) τ} {bus' : Bus (FeatureReport.State ω' δ') τ}
    (h : bus.Twin (Together worlds device device' bus.device.calls bus'.device.calls) bus')
    (transactions : List Transaction) :
    let c : Channel _ τ := ⟨ControlTransfer.transport usb target, policy, timeout⟩
    let c' : Channel _ τ := ⟨FeatureReport.transport hid target', policy, timeout'⟩
    List.Forall₂
        (fun t r' ↦ Equivalent (t.1.Excepted policy t.2.2) t.2.1 r'.1 ∧
          t.2.2.Twin (Together worlds device device' bus.device.calls bus'.device.calls) r'.2)
        (transactions.zip (c.trail bus transactions)) (c'.trail bus' transactions) ∧
      ∀ (line : Bus (FeatureReport.State ω' δ') τ) held, line.device.isOpen = true →
        line.device.device = some held → ∀ request value data, data ≠ [] →
          (((c'.write request value data).run line).1 = .ok () ↔
            ((hid.sendReport held (FeatureReport.reportOf value data)).run line.device.world).1 =
              .ok (data.length + 1 : Int)) := by
  intro c c'
  have htransport : c.transport.Twin _ c'.transport :=
    hmirrors.twin target target' bus.device.calls bus'.device.calls
  refine ⟨c.twin_trail c' htransport rfl transactions h, ?_⟩
  intro line held hopen hdevice request value data hdata
  exact FeatureReport.write_eq_ok_iff target' policy timeout' hopen hdevice request value hdata

end Channels

/-! ### Scripted libraries -/

/-- A transfer that moves as many bytes as the script says, or fails if it says nothing. -/
def moved {α : Type} (kind : FaultKind) (result : Nat → α) : Action (List (Option Nat)) α :=
  .of fun script ↦
    (match script.head?.join with
      | some count => .ok (result count)
      | none => .error (.reported kind ""), script.tail)

/-- A USB library that moves bytes by a script. -/
def scriptedUsb : ControlTransfer.UsbLibrary (List (Option Nat)) Unit where
  find _ _ _ := pure (some ())
  kernelDriverActive _ _ := pure false
  detachKernelDriver _ _ := pure ()
  attachKernelDriver _ _ := pure ()
  claimInterface _ _ := pure ()
  releaseInterface _ _ := pure ()
  dispose _ := pure ()
  controlOut _ _ _ := moved .usb fun count ↦ count
  controlIn _ _ _ := moved .usb fun count ↦ List.replicate count 0

/-- A feature report library that moves bytes by a script, after the id of the report. -/
def scriptedHid : FeatureReport.HidLibrary (List (Option Nat)) Unit where
  newDevice := pure ()
  openDevice _ _ _ _ := pure ()
  closeDevice _ := pure ()
  sendReport _ _ := moved .system fun count ↦ count + 1
  getReport _ id _ := moved .system fun count ↦
    some (UInt8.ofNat id.toNat :: List.replicate count 0)

theorem mirrors_scripted : Mirrors scriptedUsb scriptedHid Eq () () := by
  constructor
  · rintro call script _ rfl
    refine ⟨?_, rfl⟩
    show Reported _ (match script.head?.join with | some _ => _ | none => _)
      (match script.head?.join with | some _ => _ | none => _)
    rcases script.head?.join with _ | count
    · exact .error rfl rfl
    · exact .ok ⟨Int.natCast_nonneg count, rfl⟩
  · rintro call script _ rfl
    refine ⟨?_, rfl⟩
    show Reported _ (match script.head?.join with | some _ => _ | none => _)
      (match script.head?.join with | some _ => _ | none => _)
    rcases script.head?.join with _ | count
    · exact .error rfl rfl
    · exact .ok rfl

/-- A write that is short, and a read that takes three attempts. -/
theorem interchangeable_on_script :
    let target : Target := ⟨0x1532, 0x0015, none⟩
    let policy : RetryPolicy := ⟨.int 3, .int 0, RetryPolicy.ownFaults⟩
    let script := [some 2, none, some 1, some 2]
    let bus : Bus (ControlTransfer.State (List (Option Nat)) Unit) Rat :=
      { device := { world := script, device := some (), isOpen := true }, clock := 0,
        spacing := ⟨1, none⟩ }
    let bus' : Bus (FeatureReport.State (List (Option Nat)) Unit) Rat :=
      { device := { world := script, device := some (), isOpen := true }, clock := 0,
        spacing := ⟨1, none⟩ }
    let together := Together Eq () () bus.device.calls bus'.device.calls
    let c : Channel _ Rat := ⟨ControlTransfer.transport scriptedUsb target, policy, 1000⟩
    let c' : Channel _ Rat := ⟨FeatureReport.transport scriptedHid target, policy, 3000⟩
    let transactions : List Transaction := [.write 9 0x300 [1, 2, 3], .read 1 0x300 2]
    (Mirrors scriptedUsb scriptedHid Eq () () ∧ bus.Twin together bus') ∧
      (c.trail bus transactions).map (fun r ↦ r.1.toOption) = [none, some [0, 0]] ∧
        List.Forall₂
          (fun t r' ↦ Equivalent (t.1.Excepted policy t.2.2) t.2.1 r'.1 ∧ t.2.2.Twin together r'.2)
          (transactions.zip (c.trail bus transactions)) (c'.trail bus' transactions) ∧
        ∀ (line : Bus (FeatureReport.State (List (Option Nat)) Unit) Rat) held,
          line.device.isOpen = true → line.device.device = some held →
            ∀ request value data, data ≠ [] →
              (((c'.write request value data).run line).1 = .ok () ↔
                ((scriptedHid.sendReport held (FeatureReport.reportOf value data)).run
                  line.device.world).1 = .ok (data.length + 1 : Int)) := by
  intro target policy script bus bus' together c c' transactions
  have htwin : bus.Twin together bus' :=
    ⟨⟨rfl, rfl, rfl, rfl, rfl, [], [], rfl, rfl, .nil⟩, rfl, rfl, rfl⟩
  refine ⟨⟨mirrors_scripted, htwin⟩, by decide +kernel, ?_⟩
  exact interchangeable_of_mirrors mirrors_scripted target target policy 1000 3000 htwin
    transactions

/-- The first attempt to read fails on both backends, and no wait can be made of the delay before
the second, so that neither gives bytes or fails to transfer; nor does either where a length is
asked for that cannot be written. -/
theorem untransferred_for_overlong_delay :
    let target : Target := ⟨0x1532, 0x0015, none⟩
    let script := [none, some 1]
    let bus : Bus (ControlTransfer.State (List (Option Nat)) Unit) Float :=
      { device := { world := script, device := some (), isOpen := true }, clock := Zero.zero,
        spacing := ⟨Zero.zero, none⟩ }
    let bus' : Bus (FeatureReport.State (List (Option Nat)) Unit) Float :=
      { device := { world := script, device := some (), isOpen := true }, clock := Zero.zero,
        spacing := ⟨Zero.zero, none⟩ }
    let c : Channel _ Float :=
      ⟨ControlTransfer.transport scriptedUsb target, Rehearsal.overlong, 1000⟩
    let c' : Channel _ Float :=
      ⟨FeatureReport.transport scriptedHid target, Rehearsal.overlong, 1000⟩
    let r := (c.read 1 0x300 1).run bus
    let r' := (c'.read 1 0x300 1).run bus'
    let long := (c.read 1 0x300 (Nat.pow 10 4300)).run
      { bus with device := { bus.device with world := [some 1] } }
    let long' := (c'.read 1 0x300 (Nat.pow 10 4300)).run
      { bus' with device := { bus'.device with world := [some 1] } }
    Mirrors scriptedUsb scriptedHid Eq () () ∧
      bus.Twin (Together Eq () () bus.device.calls bus'.device.calls) bus' ∧
      r.1.mapError Fault.kind = .error .overflow ∧ r'.1.mapError Fault.kind = .error .overflow ∧
      long.1.mapError Fault.kind = .error .value ∧ long'.1.mapError Fault.kind = .error .value ∧
      ¬Equivalent (fun _ ↦ False) r.1 r'.1 := by
  intro target script bus bus' c c' r r' long long'
  have htwin : bus.Twin (Together Eq () () bus.device.calls bus'.device.calls) bus' :=
    ⟨⟨rfl, rfl, rfl, rfl, rfl, [], [], rfl, rfl, .nil⟩, rfl, rfl, rfl⟩
  have hr : r.1.mapError Fault.kind = .error .overflow := by decide +kernel
  have hr' : r'.1.mapError Fault.kind = .error .overflow := by decide +kernel
  have hlong : long.1.mapError Fault.kind = .error .value := by decide +kernel
  have hlong' : long'.1.mapError Fault.kind = .error .value := by decide +kernel
  refine ⟨mirrors_scripted, htwin, hr, hr', hlong, hlong', fun h ↦ ?_⟩
  rcases houtcome : r.1 with fault | data
  · rw [houtcome] at h hr
    have hoverflow : fault.kind = .overflow := Except.error.inj hr
    cases hoverflow.symm.trans h.kind_of_error
  · rw [houtcome] at hr
    cases hr

end MouseControl
