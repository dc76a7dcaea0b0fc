import MouseControl.Proofs.Session.Dirtiness

/-!
What becomes of a commit that failed. It leaves everything but the line as it was, the dirty flag
included. So a dirty configuration is sent anew by the next commit, from its first frame on and up
to its last if nothing fails (`Session.SendsAnew`), however often that takes and whatever is done in
between (`Session.sentAnew_of_failed`). A clean one, whose commit was forced, stays clean and is not
sent again unless that is forced as well.
-/

set_option autoImplicit false
set_option relaxedAutoImplicit false

namespace MouseControl.Session

open MouseControl.Action

variable {σ τ : Type} [TimeScale τ]

/-! ### Runs -/

theorem after_append (mouse : Mouse σ τ) (first second : List (Step τ)) :
    ∀ s, after mouse s (first ++ second) = after mouse (after mouse s first) second := by
  induction first with
  | nil => exact fun _ ↦ rfl
  | cons step first ih => exact fun s ↦ ih ((step.perform mouse).run s).2

/-- A step that has nothing to answer leads where its operation does. -/
theorem after_andDone {mouse : Mouse σ τ} {step : Step τ} {x : Action (Session σ τ) Unit}
    (h : step.perform mouse = andDone x) (s : Session σ τ) :
    after mouse s [step] = (x.run s).2 := by
  rw [after, after, h, andDone, run_bind]
  rcases x.run s with ⟨fault | _, s'⟩
  · rfl
  · rfl

/-! ### Sending anew -/

/-- A commit sends the whole configuration: its exchanges are those of a push, they begin with the
frame of the resolutions, and if all of them succeed and the frequency has a code, they go on with
the frames of the LEDs that the model has, lowest id first, up to that of the frequency. -/
structure SendsAnew (mouse : Mouse σ τ) (s : Session σ τ) (r : Except Fault Unit × Session σ τ)
    (resolution : Bytes) (leds : List Bytes) (exchanges : List (Exchange σ τ)) : Prop where
  resolution_eq : s.config.generation.encode s.config.x s.config.y = .ok resolution
  leds_eq : s.config.ledsById.map Led.frame = leds.map .ok
  account : mouse.channel.PushAccount s.config s.bus ((mouse.channel.push s.config).run s.bus)
    exchanges
  transfers_eq : transfers r.2.bus.trace =
    transfers ((mouse.channel.push s.config).run s.bus).2.trace
  written_eq : written r.2.bus.trace = written s.bus.trace ++ exchanges.map Exchange.frame
  starts : ∃ rest, exchanges.map Exchange.frame = resolution :: rest
  completes : (∀ e ∈ exchanges, e.Succeeded) →
    ∀ code, frequencyCode s.config.frequency = .ok code →
      ∃ frame, frequencyFrame s.config.frequency = .ok frame ∧
        exchanges.map Exchange.frame = resolution :: leds ++ [frame] ∧ r.2.config.dirty = false

variable {mouse : Mouse σ τ} {force : Bool} {s : Session σ τ}

/-- A commit that runs does so, whatever the line was left in. -/
theorem exists_sendsAnew (hfits : s.config.Fits mouse.model) (hclaims : 0 < s.claims)
    (hruns : s.config.dirty = true ∨ force = true) :
    ∃ resolution leds exchanges,
      SendsAnew mouse s ((commit mouse force).run s) resolution leds exchanges := by
  obtain ⟨resolution, leds, hresolution, hleds, -, hframes⟩ := hfits.frames_eq
  obtain ⟨exchanges, haccount⟩ := mouse.channel.exists_pushAccount hfits s.bus
  have htransfers : transfers ((commit mouse force).run s).2.bus.trace =
      transfers ((mouse.channel.push s.config).run s.bus).2.trace := transfers_commit hclaims hruns
  refine ⟨resolution, leds, exchanges, hresolution, hleds, haccount, htransfers, ?_, ?_, ?_⟩
  · rw [written_eq, htransfers, ← written_eq, haccount.written_eq]
  · exact haccount.starts hframes
  · intro hall code hcode
    have hsent := haccount.completes hall
    obtain ⟨-, frame, -, hframe⟩ | ⟨hnone, -⟩ := frequencyFrame_cases s.config.frequency
    · have hlength : exchanges.length = s.config.frames.length := by rw [← hsent, List.length_map]
      have hpushed := haccount.ok_iff.mpr ⟨⟨hlength, hall⟩, code, hcode⟩
      refine ⟨frame, hframe, by rw [hsent, hframes, hframe]; rfl, ?_⟩
      rcases history_commit mouse force s with ⟨-, -, hclean⟩ | ⟨hnot, -, -⟩
      · exact hclean
      · exact absurd ⟨hclaims, hruns, hpushed⟩ hnot
    · rw [hcode] at hnone
      cases hnone

/-- Nothing that was done since was a whole push. -/
def NothingPushed (s t : Session σ τ) : Prop :=
  ∃ since, history t.bus.trace = history s.bus.trace ++ since ∧ .pushed ∉ since

omit [TimeScale τ] in
/-- A configuration that is dirty stays so until it is pushed as a whole. -/
theorem NothingPushed.dirty {s t : Session σ τ} (h : NothingPushed s t) (hs : s.Settled)
    (ht : t.Settled) (hdirty : s.config.dirty = true) : t.config.dirty = true := by
  obtain ⟨since, hhistory, hnone⟩ := h
  by_contra hclean
  have hpushed := ht.mp (Bool.eq_false_iff.mpr hclean)
  rw [hhistory] at hpushed
  rcases List.eq_nil_or_concat' since with rfl | ⟨before, latest, rfl⟩
  · rw [List.append_nil] at hpushed
    rw [hs.mpr hpushed] at hdirty
    cases hdirty
  · rw [← List.append_assoc, List.getLast?_concat] at hpushed
    cases hpushed
    exact hnone (by simp)

/-- A commit that has begun to send and fails, fails as its push did and leaves the session as it
was but for the line. What was dirty stays dirty whatever is done, until a push comes through, and
every commit until then sends the configuration anew. What was clean stays clean, and the next
commit does nothing unless it is forced. -/
theorem sentAnew_of_failed (mouse : Mouse σ τ) (bus : Bus σ τ) (steps : List (Step τ))
    (force : Bool) (fault : Fault) :
    let s := after mouse (start mouse.model { bus with trace := [] }) steps
    0 < s.claims → (s.config.dirty = true ∨ force = true) →
      ((mouse.channel.push s.config).run s.bus).1 = .error fault →
    let r := (commit mouse force).run s
    r.1 = .error fault ∧ r.2 = { s with bus := r.2.bus } ∧
      (s.config.dirty = true → ∀ later : List (Step τ),
        let t := after mouse r.2 later
        NothingPushed r.2 t → t.config.dirty = true ∧
          (0 < t.claims → ∀ force', ∃ resolution leds exchanges,
            SendsAnew mouse t ((commit mouse force').run t) resolution leds exchanges)) ∧
      (s.config.dirty = false → r.2.config.dirty = false ∧
        (commit mouse false).run r.2 = (.ok (), r.2)) := by
  intro s hclaims hruns hfailed r
  have hr : r = _ := run_commit_of_failed hclaims hruns hfailed
  refine ⟨by rw [hr], by rw [hr], fun hdirty later ↦ ?_, fun hclean ↦ ?_⟩
  · intro t hnothing
    have hreached : r.2 = after mouse (start mouse.model { bus with trace := [] })
        (steps ++ [.commit force]) := by
      rw [after_append, after_andDone rfl]
    have hreached' : t = after mouse (start mouse.model { bus with trace := [] })
        (steps ++ [.commit force] ++ later) := by
      rw [after_append, ← hreached]
    have hsettled : r.2.Settled := hreached ▸ settled_after mouse bus _
    have hsettled' : t.Settled := hreached' ▸ settled_after mouse bus _
    have hfits : t.config.Fits mouse.model := hreached' ▸ fits_after mouse _ _
    have hdirty' : t.config.dirty = true := by
      refine hnothing.dirty hsettled hsettled' ?_
      rw [hr]
      exact hdirty
    exact ⟨hdirty', fun hclaims force' ↦ exists_sendsAnew hfits hclaims (.inl hdirty')⟩
  · have hconfig : r.2.config.dirty = false := by
      rw [hr]
      exact hclean
    have hclaims' : 0 < r.2.claims := by
      rw [hr]
      exact hclaims
    exact ⟨hconfig, run_commit_of_clean hclaims' hconfig⟩

/-- The second frame of a commit is lost, an LED is switched off, and the next commit sends all. -/
theorem sentAnew_of_lost_frame :
    let mouse := replayed (Model.forPid Model.known Protocol.classicPid)
    let bus := recorded { writes := [.ok 90, .error (.reported .transfer "lost")] }
    let s := after mouse (start mouse.model { bus with trace := [] }) [.claim]
    let r := (commit mouse false).run s
    let later : List (Step Rat) := [.setLed (.int 0) (.int 0)]
    r.1.mapError Fault.kind = .error .transfer ∧ 0 < (after mouse r.2 later).claims ∧
      ∃ resolution leds exchanges, SendsAnew mouse (after mouse r.2 later)
        ((commit mouse false).run (after mouse r.2 later)) resolution leds exchanges := by
  intro mouse bus s r later
  have hclaims : 0 < s.claims := by decide +kernel
  have hdirty : s.config.dirty = true := by decide +kernel
  have hnone : ((mouse.channel.push s.config).run s.bus).1.toOption = none := by decide +kernel
  obtain ⟨fault, hfault⟩ : ∃ fault,
      ((mouse.channel.push s.config).run s.bus).1 = .error fault := by
    rcases hpush : ((mouse.channel.push s.config).run s.bus).1 with fault | _
    · exact ⟨fault, rfl⟩
    · rw [hpush] at hnone
      cases hnone
  obtain ⟨-, -, hlater, -⟩ :=
    sentAnew_of_failed mouse bus [.claim] false fault hclaims (.inl hdirty) hfault
  have hnothing : NothingPushed r.2 (after mouse r.2 later) :=
    ⟨[.amended], by decide +kernel, by decide⟩
  have hclaims' : 0 < (after mouse r.2 later).claims := by decide +kernel
  exact ⟨by decide +kernel, hclaims', (hlater hdirty later hnothing).2 hclaims' false⟩

/-- A commit is forced of what has been committed already, and fails: the configuration stays clean,
and the next commit hands nothing to the device. -/
theorem unsent_after_failed_forced_commit :
    let mouse := replayed (Model.forPid Model.known Protocol.classicPid)
    let lost : Except Fault Int := .error (.reported .transfer "lost")
    let device : Replay := { writes := List.replicate 4 (.ok 90) ++ [lost] }
    let s := after mouse (start mouse.model (recorded device)) [.claim, .commit false]
    let r := (commit mouse true).run s
    let next := (commit mouse false).run r.2
    0 < s.claims ∧ r.1.mapError Fault.kind = .error .transfer ∧ r.2.config.dirty = false ∧
      next.1.toOption = some () ∧ written next.2.bus.trace = written r.2.bus.trace := by
  decide +kernel

end MouseControl.Session
