import Mathlib.Tactic.Ring
import MouseControl.Line.Replay
import MouseControl.Proofs.Line.Effort
import MouseControl.Proofs.Session.Encodable
import MouseControl.Proofs.Session.History
import MouseControl.Proofs.Session.OnLine

/-!
How much a commit and a set-up put a line to, whatever the device makes of it. An exchange is one
write and at most as many reads as a read has attempts (`Channel.spends_exchange`); a push is one
exchange for each LED that the model has and two more, and a probe at most one for each of its
attempts, with a rest between each two. A set-up is a claim, a probe and a push, and its release
(`spends_setUp`). The LEDs that the model has are the same throughout a session, so both budgets are
known beforehand (`effort_of_tuned`).
-/

set_option autoImplicit false
set_option relaxedAutoImplicit false

namespace MouseControl

open MouseControl.Action

variable {σ τ : Type}

/-- The LEDs that the model has are those of the table, but for a thumb grid where there is none. -/
theorem Configuration.Fits.ids_supportedLeds {model : Model} {c : Configuration}
    (h : c.Fits model) : c.supportedLeds.map Led.id =
      [0, 1, 2].filter fun id ↦ !(decide (id = Led.thumbGrid) && !model.hasThumbGrid) := by
  have hsupported : ∀ led ∈ c.leds, led.supported =
      !(decide (led.id = Led.thumbGrid) && !model.hasThumbGrid) := by
    intro led hled
    have hstate := h.state led hled
    split at hstate
    next habsent => simp [Led.supported, hstate, habsent.1, habsent.2]
    next hpresent =>
      have hon : led.supported = true := by
        rcases hstate with hstate | hstate
        all_goals
          rw [Led.supported, hstate]
          rfl
      rw [hon]
      simpa [imp_iff_not_or] using hpresent
  rw [supportedLeds, List.filter_congr hsupported, ← h.ids_eq, List.filter_map]
  rfl

/-! ### Commands -/

namespace Channel

variable [TimeScale τ] (c : Channel σ τ)

/-- The most that an exchange puts a line to. -/
def exchangeBudget (attempts : ℕ) : Chore → ℕ := Pi.single .write 1 + attempts • Pi.single .read 1

variable {c} {attempts : ℕ} (hattempts : c.readPolicy.attempts.toInt? = some (attempts : ℤ))
  (hdelay : c.readPolicy.delay.equalsInt 0 = true)

include hattempts hdelay

theorem spends_exchange (frame : Bytes) :
    Keeps (Spends Bus.trace (exchangeBudget attempts)) (c.exchange frame) := by
  refine keeps_settled_bind fun sealed _ ↦ keeps_settled_bind fun sent _ ↦
    keeps_add_bind (c.spends_write _ _ _) fun _ ↦
      keeps_bind_free (c.spends_read hattempts hdelay _ _ _) fun data ↦ ?_
  refine keeps_settled_bind fun answer _ ↦ ?_
  exact keeps_bind (Bus.free_telling.assess sent answer) fun _ ↦ keeps_pure _

theorem spends_push (config : Configuration) :
    Keeps (Spends Bus.trace ((config.supportedLeds.length + 2) • exchangeBudget attempts))
      (c.push config) := by
  have hlength : (framesOf config).length = config.supportedLeds.length + 2 := by simp [framesOf]
  rw [← hlength]
  refine keeps_nsmul_forM fun built _ ↦ keeps_settled_bind fun frame _ ↦ ?_
  exact keeps_bind_free (spends_exchange hattempts hdelay frame) fun _ ↦ keeps_pure _

theorem spends_probe {policy : RetryPolicy} {probes : ℕ}
    (hprobes : policy.attempts.toInt? = some (probes : ℤ)) :
    Keeps (Spends Bus.trace
        (probes • exchangeBudget attempts + (probes - 1) • Pi.single .rest 1))
      (c.probe policy) := by
  have hask : Keeps (Spends Bus.trace (exchangeBudget attempts)) c.askFirmware := by
    refine keeps_settled_bind fun query _ ↦ ?_
    exact keeps_bind_free (spends_exchange hattempts hdelay query) fun _ ↦ keeps_ofExcept _
  refine keeps_tryCatch_free (RetryPolicy.spends_retried hprobes _ hask (fun _ ↦ keeps_pure _)
    policy.spends_wait) fun fault ↦ ?_
  exact keeps_ite (fun _ ↦ keeps_bind (Bus.free_note _) fun _ ↦ keeps_throw _) fun _ ↦ keeps_throw _

end Channel

/-! ### Sessions -/

namespace Session

/-- The trace of a session's line. -/
abbrev trace (s : Session σ τ) : List (Entry τ) := s.bus.trace

theorem free_narrating : Bus.Narrating (Spends Bus.trace 0 : Bus σ τ → Bus σ τ → Prop) where
  note n _ := Bus.free_note n
  mark _ := Bus.free_record rfl rfl
  dirty _ := Bus.free_record rfl rfl

section Effort

variable [TimeScale τ] {mouse : Mouse σ τ}

theorem spends_claim :
    Keeps (Spends Session.trace (Pi.single .opening 1)) (claim mouse) := by
  intro s
  have hmark (bus : Bus σ τ) : Spends Bus.trace 0 bus ((Bus.mark .claimed).run bus).2 :=
    free_narrating.mark .claimed bus
  have hopening : Spends Bus.trace (Pi.single .opening 1) s.bus ((opening mouse).run s.bus).2 :=
    .of_single rfl rfl
  rw [run_claim]
  split
  · rcases hrun : (opening mouse).run s.bus with ⟨fault | _, bus⟩
    all_goals rw [hrun] at hopening
    · exact hopening
    · have htaken := hopening.add (hmark bus)
      rwa [add_zero] at htaken
  · exact .mono (Pi.le_def.mpr fun _ ↦ Nat.zero_le _) (hmark s.bus)

theorem spends_release :
    Keeps (Spends Session.trace (Pi.single .closing 1)) (release mouse) := by
  intro s
  have hdropped : Spends Bus.trace 0 s.bus s.dropped.bus := free_narrating.mark .released s.bus
  have hclosing : Spends Bus.trace (Pi.single .closing 1) s.dropped.bus
      ((closing mouse).run s.dropped.bus).2 := .of_single rfl rfl
  rw [run_release]
  split
  · exact .of_trace_eq rfl
  split
  · have hreleased := hdropped.add hclosing
    rw [zero_add] at hreleased
    rcases hrun : (closing mouse).run s.dropped.bus with ⟨fault | _, bus⟩
    all_goals
      rw [hrun] at hreleased
      exact hreleased
  · exact .mono (Pi.le_def.mpr fun _ ↦ Nat.zero_le _) hdropped

variable {attempts probes : ℕ}
  (hattempts : mouse.channel.readPolicy.attempts.toInt? = some (attempts : ℤ))
  (hdelay : mouse.channel.readPolicy.delay.equalsInt 0 = true)

include hattempts hdelay

/-- A commit costs a push at most. -/
theorem spends_commit (force : Bool) (s : Session σ τ) :
    Spends Session.trace
      ((s.config.supportedLeds.length + 2) • Channel.exchangeBudget attempts)
      s ((commit mouse force).run s).2 := by
  have hpush := Channel.spends_push hattempts hdelay s.config s.bus
  rw [run_commit]
  split
  · exact .of_trace_eq rfl
  split
  · rcases hrun : (mouse.channel.push s.config).run s.bus with ⟨fault | _, bus⟩
    all_goals rw [hrun] at hpush
    · exact hpush
    · have hmarked := hpush.add (free_narrating.mark .pushed bus)
      have hcleaned := hmarked.add (keeps_onLine_setDirty free_narrating false
        { s with bus := ((Bus.mark .pushed).run bus).2 })
      rwa [add_zero, add_zero] at hcleaned
  · exact .of_trace_eq rfl

/-- So does the first one. -/
theorem spends_initialCommit (s : Session σ τ) :
    Spends Session.trace
      ((s.config.supportedLeds.length + 2) • Channel.exchangeBudget attempts)
      s ((initialCommit mouse).run s).2 := by
  have hnoted (fault : Fault) : Keeps (Spends Session.trace 0) (do
      if fault.isA .library then
        onBus (Bus.note (.initialCommitFailed fault))
      throw fault : Action (Session σ τ) Unit) := by
    refine keeps_ite (fun _ ↦ keeps_bind (fun _ ↦ .of_trace_eq rfl) fun _ ↦ keeps_throw _)
      fun _ ↦ keeps_throw _
  have h := (spends_commit hattempts hdelay true s).add (leads_tryCatch _ hnoted s)
  rwa [add_zero] at h

/-- Under its claim a set-up costs a probe, and a push of the defaults of the model. -/
theorem spends_probeAndCommit
    (hprobes : mouse.probePolicy.attempts.toInt? = some (probes : ℤ)) :
    Keeps (Spends Session.trace
        (probes • Channel.exchangeBudget attempts + (probes - 1) • Pi.single .rest 1 +
          ((Configuration.defaults mouse.model).supportedLeds.length + 2) •
            Channel.exchangeBudget attempts))
      (probeAndCommit mouse) := by
  intro s
  have hprobe := Channel.spends_probe hattempts hdelay hprobes s.bus
  rw [run_probeAndCommit]
  rcases hrun : (mouse.channel.probe mouse.probePolicy).run s.bus with ⟨fault | version, bus⟩
  all_goals rw [hrun] at hprobe
  · exact hprobe.add (.of_trace_eq rfl)
  · let fresh := refreshed mouse version { s with bus := bus }
    have hfresh : Spends Bus.trace 0 bus fresh.bus := by
      have hmark := free_narrating.mark (.firmwareRead version) bus
      have hchecked : fresh.bus.trace = ((Bus.mark (.firmwareRead version)).run bus).2.trace := by
        change (refreshed mouse version { s with bus := bus }).bus.trace = _
        rw [refreshed, checked]
        split <;> rfl
      exact trans_of (Spends Bus.trace 0) hmark (.of_trace_eq hchecked)
    have hprobed := hprobe.add hfresh
    rw [add_zero] at hprobed
    exact hprobed.add (spends_initialCommit hattempts hdelay fresh)

theorem spends_setUp (hprobes : mouse.probePolicy.attempts.toInt? = some (probes : ℤ)) :
    Keeps (Spends Session.trace
        (Pi.single .opening 1 +
          (probes • Channel.exchangeBudget attempts + (probes - 1) • Pi.single .rest 1 +
            ((Configuration.defaults mouse.model).supportedLeds.length + 2) •
              Channel.exchangeBudget attempts +
            Pi.single .closing 1)))
      (setUp mouse) := by
  have hannounce : Keeps (Spends Session.trace 0) (announce mouse) := by
    refine keeps_bind (keeps_modify fun _ ↦ .of_trace_eq rfl) fun _ ↦ keeps_get_bind fun s ↦ ?_
    exact keeps_bind (fun _ ↦ .of_trace_eq rfl)
      (fun _ ↦ keeps_onLine_notify (Bus.free_record rfl rfl)) s
  rw [setUp_eq]
  refine keeps_bind_free (keeps_add_bind spends_claim fun _ ↦ ?_) fun _ ↦ hannounce
  exact keeps_add_ensuring (spends_probeAndCommit hattempts hdelay hprobes) spends_release

end Effort

/-- In a session that was set up from settings with `P` attempts at a probe and `R` at a read, whose
model has `L` LEDs, a commit makes at most `L + 2` writes and `R * (L + 2)` reads and no rest, and
neither opens nor closes the transport. A set-up makes at most `P + L + 2` writes,
`R * (P + L + 2)` reads and `P - 1` rests, and opens and closes the transport at most once. Neither
keeps more gaps than it makes transfers. -/
theorem effort_of_tuned [TimeScale τ] {settings : Settings} {notices : List Notice}
    {tuning : Tuning τ} (htuning : (settings.tuning.run notices).1 = .ok tuning) (model : Model)
    (transport : Transport σ τ) (bus : Bus σ τ) (steps : List (Step τ)) :
    let mouse := mouseOf model transport tuning
    let s := after mouse (start model bus) steps
    let leds := s.config.supportedLeds.length
    ∃ probes attempts : ℕ, tuning.probePolicy.attempts = .int probes ∧ 1 ≤ probes ∧
      tuning.readPolicy.attempts = .int attempts ∧ 1 ≤ attempts ∧
      (∀ force, Spends Bus.trace
        (Budget.limit { writes := leds + 2, reads := attempts * (leds + 2) })
        s.bus ((commit mouse force).run s).2.bus) ∧
      Spends Bus.trace
        (Budget.limit
          { writes := probes + leds + 2
            reads := attempts * (probes + leds + 2)
            rests := probes - 1
            openings := 1
            closings := 1 })
        s.bus ((setUp mouse).run s).2.bus := by
  intro mouse s leds
  obtain ⟨n, hpos, hread⟩ := Settings.readPolicy_of_tuning htuning
  obtain ⟨m, hprobePos, hprobe⟩ := Settings.attempts_of_tuning htuning
  obtain ⟨attempts, rfl⟩ := Int.eq_ofNat_of_zero_le (by omega : 0 ≤ n)
  obtain ⟨probes, rfl⟩ := Int.eq_ofNat_of_zero_le (by omega : 0 ≤ m)
  have hattempts : mouse.channel.readPolicy.attempts.toInt? = some (attempts : ℤ) :=
    congrArg (fun policy ↦ policy.attempts.toInt?) hread
  have hdelay : mouse.channel.readPolicy.delay.equalsInt 0 = true :=
    (Settings.immediate_of_tuning htuning).delay
  have hprobes : mouse.probePolicy.attempts.toInt? = some (probes : ℤ) :=
    congrArg Number.toInt? hprobe
  have hleds : (Configuration.defaults mouse.model).supportedLeds.length = leds := by
    have hids := (Configuration.fits_defaults model).ids_supportedLeds.trans
      (fits_after mouse bus steps).ids_supportedLeds.symm
    have hlength := congrArg List.length hids
    rwa [List.length_map, List.length_map] at hlength
  refine ⟨probes, attempts, hprobe, by exact_mod_cast hprobePos, by rw [hread],
    by exact_mod_cast hpos, fun force ↦ ?_, ?_⟩
  · refine .mono (fun chore ↦ ?_) (spends_commit hattempts hdelay force s)
    cases chore <;> simp [Channel.exchangeBudget, Budget.limit, leds, Nat.mul_comm]
  · refine .mono (fun chore ↦ ?_) (spends_setUp hattempts hdelay hprobes s)
    rw [hleds]
    cases chore <;> simp [Channel.exchangeBudget, Budget.limit]
    · omega
    · exact le_of_eq (by ring)

/-- Of two attempts allowed at a read and three at a probe, every one is made and comes to nothing
when no read is answered. -/
theorem effort_of_tuned_unanswered :
    let settings := Settings.ofMembers
      [("usb", .object [("read_attempts", .int 2), ("probe_attempts", .int 3)])] {}
    let tuning : Tuning Rat :=
      { spacing := ⟨(25 : Int) / 1000, none⟩
        readPolicy := ⟨.int 2, .float Protocol.readDelay, RetryPolicy.ownFaults⟩
        timeout := 3000
        probePolicy := ⟨.int 3, .float Protocol.probeDelay, RetryPolicy.ownFaults⟩ }
    let model := Model.forPid Model.known Protocol.thirdEditionPid
    let silent : Except Fault Bytes := .error (.reported .transfer "")
    let bus := recorded { reads := List.replicate 6 silent }
    (settings.tuning.run []).1 = .ok tuning ∧
      let s := after (mouseOf model Replay.transport tuning) (start model bus) [.claim]
      let r := (setUp (mouseOf model Replay.transport tuning)).run s
      tally .read r.2.bus.trace = 6 ∧ tally .rest r.2.bus.trace = 2 ∧
        ∃ probes attempts : ℕ, tuning.probePolicy.attempts = .int probes ∧
          tuning.readPolicy.attempts = .int attempts ∧
          Spends Bus.trace
            (Budget.limit
              { writes := probes + s.config.supportedLeds.length + 2
                reads := attempts * (probes + s.config.supportedLeds.length + 2)
                rests := probes - 1
                openings := 1
                closings := 1 })
            s.bus r.2.bus := by
  intro settings tuning model silent bus
  have htuning : (settings.tuning.run []).1 = .ok tuning := rfl
  refine ⟨htuning, by decide +kernel, by decide +kernel, ?_⟩
  obtain ⟨probes, attempts, hprobes, -, hattempts, -, -, hsetUp⟩ :=
    effort_of_tuned htuning model Replay.transport bus [.claim]
  exact ⟨probes, attempts, hprobes, hattempts, hsetUp⟩

end Session

end MouseControl
