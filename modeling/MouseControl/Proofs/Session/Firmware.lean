import MouseControl.Proofs.Command.Probe
import MouseControl.Proofs.Device.Firmware
import MouseControl.Proofs.Session.Findings

/-!
The firmware that a session knows. Every version that a probe gives has two bytes
(`Channel.twoBytes_of_probe`), so the version of a session has as well, in every state of a run
(`Through.twoBytes_firmware`), and the check of a set-up compares it number by number with the
model's minimum (`versions_compared`).
-/

set_option autoImplicit false
set_option relaxedAutoImplicit false

namespace MouseControl

open Firmware

variable {σ τ : Type}

theorem Exchange.Names.twoBytes {e : Exchange σ τ} {version : Int} (h : e.Names version) :
    TwoBytes version := by
  obtain ⟨-, data, -, hhigh, rfl⟩ := h
  obtain ⟨hlower, hupper⟩ := le_join16 hhigh
  exact ⟨by omega, hupper⟩

variable [TimeScale τ]

/-- Whatever a probe gives has two bytes. -/
theorem Channel.twoBytes_of_probe {c : Channel σ τ} {policy : RetryPolicy} {bus : Bus σ τ}
    {version : Int} (h : ((c.probe policy).run bus).1 = .ok version) : TwoBytes version := by
  obtain ⟨e, hnames⟩ := c.exists_names_of_probe h
  exact hnames.twoBytes

namespace Session

open MouseControl.Action

variable {mouse : Mouse σ τ} {s t : Session σ τ} {version : Int}

theorem twoBytes_of_versionRead (h : versionRead mouse s = some version) : TwoBytes version := by
  rcases hreading : ((reading mouse).run s).1 with fault | other
  · rw [versionRead, hreading] at h
    cases h
  rw [versionRead, hreading] at h
  cases h
  rcases hclaim : (claim mouse).run s with ⟨fault | _, t⟩
  · rw [reading, run_bind_error hclaim] at hreading
    cases hreading
  · rw [reading, run_bind_ok hclaim] at hreading
    exact Channel.twoBytes_of_probe hreading

/-- The version of a session keeps to two bytes. -/
theorem Through.twoBytes_firmware {calls : List (Session σ τ)} (h : Through mouse s calls t)
    (hs : TwoBytes s.firmware) : TwoBytes t.firmware := by
  induction h with
  | idle h => rwa [h.firmware_eq]
  | @call s call _ _ h _ ih =>
    refine ih ?_
    rw [(reads_setUp mouse call).firmware_eq, h.firmware_eq]
    cases hversion : versionRead mouse call with
    | none => exact hs
    | some version => exact twoBytes_of_versionRead hversion

/-- Whether a version is older than the model's minimum, told number by number. -/
def Older (mouse : Mouse σ τ) (version : Int) : Prop :=
  mouse.model.goodFirmware ≠ 0 ∧ numbers version < numbers mouse.model.goodFirmware

/-- The versions whose numbers are too low are those that make a session suggest an upgrade. -/
theorem Through.suggestUpgrade_iff {calls : List (Session σ τ)}
    (hgood : TwoBytes mouse.model.goodFirmware) (h : Through mouse s calls t) :
    t.suggestUpgrade = true ↔ s.suggestUpgrade = true ∨
      ∃ call ∈ calls, ∃ version, versionRead mouse call = some version ∧ Older mouse version := by
  rw [h.suggestUpgrade_eq, Bool.or_eq_true, List.any_eq_true]
  refine or_congr_right (exists_congr fun call ↦ and_congr_right fun _ ↦ ?_)
  rw [Option.any_eq_true]
  refine exists_congr fun version ↦ and_congr_right fun hversion ↦ ?_
  exact Model.hasOldFirmware_iff hgood (twoBytes_of_versionRead hversion)

/-- Packing and taking apart are masks and shifts of the bits of any integers, and undo each other
up to what the two bytes leave out. Versions of two bytes are in the order of their numbers. A probe
gives no others, nor does a session know others in any state of a run, and every model's minimum is
one; so the check of a firmware and the suggestions that it leaves are what comparing the numbers
says. -/
theorem versions_compared (mouse : Mouse σ τ) (bus : Bus σ τ) (steps : List (Step τ)) :
    let fresh := start mouse.model bus
    let last := after mouse fresh steps
    (∀ a b, pack a b = ((a.land 0xFF) <<< (8 : Nat)).lor (b.land 0xFF) ∧ TwoBytes (pack a b) ∧
      major (pack a b) = a % 0x100 ∧ minor (pack a b) = b % 0x100) ∧
    (∀ v, major v = (v >>> (8 : Nat)).land 0xFF ∧ minor v = v.land 0xFF ∧
      pack (major v) (minor v) = v % 0x10000) ∧
    (∀ v w, TwoBytes v → TwoBytes w → (v < w ↔ numbers v < numbers w)) ∧
    (∀ policy bus v, ((mouse.channel.probe policy).run bus).1 = .ok v → TwoBytes v) ∧
    TwoBytes last.firmware ∧
    (∀ pid, TwoBytes (Model.forPid Model.known pid).goodFirmware) ∧
    (TwoBytes mouse.model.goodFirmware →
      (∀ v, TwoBytes v → (mouse.model.hasOldFirmware v = true ↔ Older mouse v)) ∧
      (last.suggestUpgrade = true ↔ ∃ call ∈ setUps mouse fresh steps,
        ∃ v, versionRead mouse call = some v ∧ Older mouse v)) := by
  intro fresh last
  have hthrough : Through mouse fresh (setUps mouse fresh steps) last := through_after steps fresh
  have hzero : TwoBytes 0 := by decide
  have hfresh : TwoBytes fresh.firmware := hzero
  refine ⟨fun a b ↦ ⟨pack_eq_lor a b, twoBytes_pack a b, major_pack a b, minor_pack a b⟩,
    fun v ↦ ⟨major_eq_land v, minor_eq_land v, pack_numbers v⟩,
    fun _ _ hv hw ↦ lt_iff_numbers_lt hv hw, fun _ _ _ h ↦ Channel.twoBytes_of_probe h,
    hthrough.twoBytes_firmware hfresh, Model.twoBytes_goodFirmware, fun hgood ↦ ⟨?_, ?_⟩⟩
  · exact fun v hv ↦ Model.hasOldFirmware_iff hgood hv
  · rw [hthrough.suggestUpgrade_iff hgood]
    exact or_iff_right Bool.false_ne_true

/-- An Epic of version 1.03 lacks one minor number to its minimum. -/
theorem older_by_minor_number :
    let mouse := replayed (Model.forPid Model.known Protocol.epicPid)
    let response : Bytes := ((List.replicate 90 0).set 8 1).set 9 3
    let bus := recorded { reads := [.ok response] }
    let fresh := start mouse.model bus
    TwoBytes 0x0103 ∧ TwoBytes mouse.model.goodFirmware ∧
      numbers 0x0103 < numbers mouse.model.goodFirmware ∧ versionRead mouse fresh = some 0x0103 ∧
      Older mouse 0x0103 ∧ (after mouse fresh [.setUp]).suggestUpgrade = true := by
  intro mouse response bus fresh
  obtain ⟨-, -, hordered, -, -, htwo, hchecked⟩ := versions_compared mouse bus [.setUp]
  have hversion : TwoBytes 0x0103 := by decide
  have hgood : TwoBytes mouse.model.goodFirmware := htwo Protocol.epicPid
  have hread : versionRead mouse fresh = some 0x0103 := by decide +kernel
  obtain ⟨hcheck, hsuggested⟩ := hchecked hgood
  have holder : Older mouse 0x0103 := (hcheck 0x0103 hversion).mp rfl
  refine ⟨hversion, hgood, (hordered _ _ hversion hgood).mp (by decide), hread, holder, ?_⟩
  exact hsuggested.mpr ⟨fresh, List.mem_singleton_self fresh, 0x0103, hread, holder⟩

end Session

end MouseControl
