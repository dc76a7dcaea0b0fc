import MouseControl.Proofs.Command.Failure
import MouseControl.Proofs.Session.Commit
import MouseControl.Proofs.Session.Tuning

/-!
What a commit can fail with. Every configuration of a session can be encoded but for its frequency,
so a commit fails in a transfer, at the end for want of a frequency's code, or with the fault of an
observer, and in no other way but for want of the words for any of this (`commit_of_tuned`).
-/

set_option autoImplicit false
set_option relaxedAutoImplicit false

namespace MouseControl

open MouseControl.Action

/-- Settings do not let reads wait, nor go without an attempt. -/
theorem Settings.immediate_of_tuning {τ : Type} [TimeScale τ] {settings : Settings}
    {notices : List Notice} {tuning : Tuning τ}
    (h : (settings.tuning.run notices).1 = .ok tuning) : tuning.readPolicy.Immediate := by
  obtain ⟨attempts, hpos, hpolicy⟩ := readPolicy_of_tuning h
  have hdelay : (Number.float Protocol.readDelay).equalsInt 0 = true := by decide +kernel
  rw [hpolicy]
  exact ⟨⟨attempts, rfl, hpos⟩, hdelay⟩

namespace Session

variable {σ τ : Type}

/-- One of the observers in place fails with a fault: on hearing that nothing is pending any more,
or of an anomaly. -/
def ObserverFails (s : Session σ τ) (fault : Fault) : Prop :=
  s.observer.verdict (.dirty false) = .error fault ∨
    ∃ a, s.bus.anomalyObserver.verdict (.anomaly a) = .error fault

/-- A commit sends the configuration, and has come to its frequency, which has no code. -/
structure Stranded (s : Session σ τ) (force : Bool) (exchanges : List (Exchange σ τ)) : Prop where
  runs : s.config.dirty = true ∨ force = true
  frequency : ∃ n, s.config.frequency.toInt? = some n ∧ n ∉ [0, 125, 500, 1000]
  length_eq : exchanges.length = s.config.frames.length
  succeeded : ∀ e ∈ exchanges, e.Succeeded

/-- The news of a failure would hold an integer with too many digits: the count that a write
reported, or the frequency. -/
def Unwordable (s : Session σ τ) (force : Bool) (exchanges : List (Exchange σ τ)) : Prop :=
  (∃ e ∈ exchanges, e.Overcounted) ∨
    s.Stranded force exchanges ∧ s.config.frequency.isWritable = false

variable [TimeScale τ]

/-- Under a claim a commit fails as its push does, or with the observer of a configuration that is
clean at last. -/
theorem commit_eq_error {mouse : Mouse σ τ} {force : Bool} {s : Session σ τ} {fault : Fault}
    (hclaims : 0 < s.claims) (h : ((commit mouse force).run s).1 = .error fault) :
    (s.config.dirty = true ∨ force = true) ∧
      (((mouse.channel.push s.config).run s.bus).1 = .error fault ∨
        s.observer.verdict (.dirty false) = .error fault) := by
  rw [run_commit, if_neg (Nat.ne_of_gt hclaims)] at h
  split at h
  next hruns =>
    refine ⟨Bool.or_eq_true_iff.mp hruns, ?_⟩
    rcases hpush : (mouse.channel.push s.config).run s.bus with ⟨own | _, bus⟩
    · rw [hpush] at h
      exact .inl h
    · rw [hpush] at h
      exact .inr (setDirty_eq_error h).2
  next => cases h

/-- How a commit of a session can fail: in a transfer, because it is stranded, with an observer, or
for want of the words for the count of a write. -/
theorem fault_of_commit {mouse : Mouse σ τ} {force : Bool} {s : Session σ τ}
    (htransport : mouse.channel.transport.OnlyFailsToTransfer)
    (hpolicy : mouse.channel.readPolicy.Immediate) (hfits : s.config.Fits mouse.model)
    (hclaims : 0 < s.claims) {exchanges : List (Exchange σ τ)}
    (haccount : mouse.channel.PushAccount s.config s.bus
      ((mouse.channel.push s.config).run s.bus) exchanges) {fault : Fault}
    (h : ((commit mouse force).run s).1 = .error fault) :
    fault.kind = .transfer ∨
      fault.Refuses s.config.frequency ∧ s.Stranded force exchanges ∨
        s.ObserverFails fault ∨ fault = .unwritable ∧ ∃ e ∈ exchanges, e.Overcounted := by
  obtain ⟨hruns, hpush | hobserver⟩ := commit_eq_error hclaims h
  · rcases (haccount.error_iff fault).mp hpush with
      ⟨e, hlast, -, houtcome⟩ | ⟨⟨hlength, hall⟩, hcode⟩
    · have hsealed : ∀ e ∈ exchanges, Frame.Sealed e.frame := fun e he ↦
        Configuration.sealed_of_mem_frames (haccount.in_order.subset (List.mem_map_of_mem he))
      rcases Channel.fault_of_chained htransport hpolicy haccount.chained hsealed e
        (List.mem_of_getLast? hlast) fault houtcome with hkind | ⟨data, hobjects⟩ | ⟨hfault, hover⟩
      · exact .inl hkind
      · obtain ⟨_, _, -, -, -, hverdict⟩ := hobjects
        exact .inr (.inr (.inl (.inr ⟨_, hverdict⟩)))
      · exact .inr (.inr (.inr ⟨hfault, e, List.mem_of_getLast? hlast, hover⟩))
    · obtain ⟨n, hn⟩ := hfits.frequency
      have hrefuses : fault.Refuses s.config.frequency := refuses_of_frequencyCode hcode
      obtain rfl := eq_of_frequencyCode_eq_error hcode
      have hnone : n ∉ [0, 125, 500, 1000] := (frequencyCode_eq_error_iff hn).mp hcode
      exact .inr (.inl ⟨hrefuses, hruns, ⟨n, hn, hnone⟩, hlength, hall⟩)
  · exact .inr (.inr (.inl (.inl hobserver)))

/-- A stranded commit fails for want of a code. -/
theorem Stranded.commit_eq_error {mouse : Mouse σ τ} {force : Bool} {s : Session σ τ}
    {exchanges : List (Exchange σ τ)} (h : s.Stranded force exchanges) (hclaims : 0 < s.claims)
    (haccount : mouse.channel.PushAccount s.config s.bus
      ((mouse.channel.push s.config).run s.bus) exchanges) :
    ((commit mouse force).run s).1 =
      .error (Fault.unsupportedFrequency s.config.frequency).worded := by
  obtain ⟨n, hn, hnone⟩ := h.frequency
  have hpush := (haccount.error_iff _).mpr
    (.inr ⟨⟨h.length_eq, h.succeeded⟩, (frequencyCode_eq_error_iff hn).mpr hnone⟩)
  rw [run_commit_of_failed hclaims h.runs hpush]

/-- Whatever was done with a session that was set up from settings, its configuration fits the
model. So a commit under a claim, over a transport that only ever fails to transfer, fails in a
transfer, with an invalid argument, with the fault of an observer, or for want of words; and with an
invalid argument of its own exactly when it is stranded with a frequency that can be written. -/
theorem commit_of_tuned {settings : Settings} {notices : List Notice} {tuning : Tuning τ}
    (htuning : (settings.tuning.run notices).1 = .ok tuning) (model : Model)
    (transport : Transport σ τ) (bus : Bus σ τ) (steps : List (Step τ)) :
    let mouse := mouseOf model transport tuning
    let s := after mouse (start model bus) steps
    s.config.Fits model ∧
      (transport.OnlyFailsToTransfer → 0 < s.claims → ∀ force,
        let r := (commit mouse force).run s
        ∃ exchanges, mouse.channel.PushAccount s.config s.bus
            ((mouse.channel.push s.config).run s.bus) exchanges ∧
          (∀ fault, r.1 = .error fault →
            fault.kind = .transfer ∨ fault.kind = .invalidArgument ∨ s.ObserverFails fault ∨
              fault = .unwritable ∧ s.Unwordable force exchanges) ∧
          (s.Stranded force exchanges →
            ∃ fault, r.1 = .error fault ∧ fault.Refuses s.config.frequency) ∧
          ∀ fault, r.1 = .error fault → fault.kind = .invalidArgument →
            s.Stranded force exchanges ∧ s.config.frequency.isWritable = true ∨
              s.ObserverFails fault) := by
  intro mouse s
  have hfits : s.config.Fits model := fits_after mouse bus steps
  refine ⟨hfits, fun htransport hclaims force ↦ ?_⟩
  obtain ⟨exchanges, haccount⟩ := mouse.channel.exists_pushAccount hfits s.bus
  have hpolicy : mouse.channel.readPolicy.Immediate := Settings.immediate_of_tuning htuning
  have hfault (fault : Fault) (h : ((commit mouse force).run s).1 = .error fault) :=
    fault_of_commit htransport hpolicy hfits hclaims haccount h
  refine ⟨exchanges, haccount, fun fault h ↦ ?_, fun hstranded ↦ ?_, fun fault h hkind ↦ ?_⟩
  · rcases hfault fault h with hkind | ⟨hrefuses, hstranded⟩ | hobserver | ⟨hunwritable, hover⟩
    · exact .inl hkind
    · rcases hwritable : s.config.frequency.isWritable
      · exact .inr (.inr (.inr ⟨hrefuses.unwritable hwritable, .inr ⟨hstranded, hwritable⟩⟩))
      · exact .inr (.inl (hrefuses.invalid hwritable))
    · exact .inr (.inr (.inl hobserver))
    · exact .inr (.inr (.inr ⟨hunwritable, .inl hover⟩))
  · exact ⟨_, hstranded.commit_eq_error hclaims haccount, Fault.refuses_worded rfl rfl⟩
  · rcases hfault fault h with hother | ⟨hrefuses, hstranded⟩ | hobserver | ⟨rfl, -⟩
    · rw [hkind] at hother
      cases hother
    · rcases hwritable : s.config.frequency.isWritable
      · rw [hrefuses.unwritable hwritable] at hkind
        cases hkind
      · exact .inl ⟨hstranded, rfl⟩
    · exact .inr hobserver
    · cases hkind

/-- No read is answered, and the frequency that was set has no code. -/
theorem commit_of_tuned_unanswered :
    let settings := Settings.ofMembers [] {}
    let tuning : Tuning Rat :=
      { spacing := ⟨(25 : Int) / 1000, none⟩
        readPolicy := ⟨.int 3, .float Protocol.readDelay, RetryPolicy.ownFaults⟩
        timeout := 3000
        probePolicy := ⟨.int 5, .float Protocol.probeDelay, RetryPolicy.ownFaults⟩ }
    let model := Model.forPid Model.known Protocol.thirdEditionPid
    let transport : Transport Unit Rat :=
      { isOpen := fun _ ↦ true
        openDevice := fun device ↦ ⟨.ok (), device, 0⟩
        closeDevice := fun device ↦ ⟨.ok (), device, 0⟩
        write := fun call device ↦ ⟨.ok call.data.length, device, 0⟩
        read := fun _ device ↦ ⟨.error .notOpen, device, 0⟩ }
    let bus : Bus Unit Rat := { device := (), clock := 0, spacing := tuning.spacing }
    let steps : List (Step Rat) := [.claim, .setFrequency (.int 333)]
    (settings.tuning.run []).1 = .ok tuning ∧ transport.OnlyFailsToTransfer ∧
      let mouse := mouseOf model transport tuning
      let s := after mouse (start model bus) steps
      s.config.Fits model ∧ 0 < s.claims ∧
        ∀ fault, ((commit mouse false).run s).1 = .error fault →
          fault.kind = .transfer ∨ fault.kind = .invalidArgument ∨ s.ObserverFails fault ∨
            fault = .unwritable ∧ ∃ exchanges, s.Unwordable false exchanges := by
  intro settings tuning model transport bus steps
  have htuning : (settings.tuning.run []).1 = .ok tuning := rfl
  have htransport : transport.OnlyFailsToTransfer :=
    ⟨fun _ _ _ h ↦ (nomatch h), fun _ _ _ h ↦ Except.error.inj h ▸ rfl⟩
  obtain ⟨hfits, hcommit⟩ := commit_of_tuned htuning model transport bus steps
  have hclaims : 0 < (after (mouseOf model transport tuning) (start model bus) steps).claims := by
    decide +kernel
  obtain ⟨exchanges, -, hkind, -⟩ := hcommit htransport hclaims false
  refine ⟨htuning, htransport, hfits, hclaims, fun fault h ↦ ?_⟩
  rcases hkind fault h with htransfer | hinvalid | hobserver | ⟨hunwritable, hunwordable⟩
  · exact .inl htransfer
  · exact .inr (.inl hinvalid)
  · exact .inr (.inr (.inl hobserver))
  · exact .inr (.inr (.inr ⟨hunwritable, exchanges, hunwordable⟩))

/-- An observer who fails on hearing that the configuration is clean lets a commit fail that has
sent it all. A frequency can have too many digits to be refused as an invalid argument. -/
theorem lookup_fault_of_commit :
    let mouse := replayed (Model.forPid Model.known Protocol.classicPid)
    let observer := Observer.failing (.reported .lookup "observer")
    let s := after mouse (start mouse.model (recorded {})) [.claim, .observe observer]
    let s' := after mouse s [.setFrequency (.int (Nat.pow 10 4300))]
    0 < s.claims ∧ ((commit mouse false).run s).1.mapError Fault.kind = .error .lookup ∧
      0 < s'.claims ∧ ((commit mouse false).run s').1.mapError Fault.kind = .error .value := by
  decide +kernel

end Session

end MouseControl
