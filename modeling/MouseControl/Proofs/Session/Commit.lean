import MouseControl.Proofs.Command.Push
import MouseControl.Proofs.Device.Resolution
import MouseControl.Proofs.Session.Revision

/-!
What a commit sends. A commit pushes the pending configuration, unless that is clean and the commit
is not forced, and cleans it only after the whole push (`run_commit`). Every configuration that a
session can have is pushed in one order, one exchange for each frame up to the first that fails, and
remains as it is (`push_of_reachable`). A completed exchange fails if the observer of anomalies
fails over its answer (`halted_by_failing_observer`).
-/

set_option autoImplicit false
set_option relaxedAutoImplicit false

namespace MouseControl

theorem Configuration.Fits.pairwise_ledsById {model : Model} {c : Configuration}
    (h : c.Fits model) : (c.ledsById.map Led.id).Pairwise (· < ·) := by
  have hids : (c.leds.map Led.id).Pairwise (· < ·) := by
    rw [h.ids_eq]
    decide
  rw [h.ledsById_eq]
  exact hids.sublist (List.Sublist.map _ List.filter_sublist)

theorem refuses_of_frequencyCode {frequency : Value} {fault : Fault}
    (h : frequencyCode frequency = .error fault) : fault.Refuses frequency := by
  rw [eq_of_frequencyCode_eq_error h]
  exact Fault.refuses_worded rfl rfl

namespace Session

open MouseControl.Action

variable {σ τ σ' τ' : Type} [TimeScale τ] [TimeScale τ']

theorem run_commit (mouse : Mouse σ τ) (force : Bool) (s : Session σ τ) :
    (commit mouse force).run s =
      if s.claims = 0 then (.error .notClaimed, s)
      else if (s.config.dirty || force) = true then
        match (mouse.channel.push s.config).run s.bus with
        | (.ok (), bus) =>
          (setDirty false).run { s with bus := ((Bus.mark .pushed).run bus).2 }
        | (.error fault, bus) => (.error fault, { s with bus := bus })
      else (.ok (), s) := by
  rw [commit, run_bind, run_requireClaim]
  by_cases hclaims : s.claims = 0
  · rw [if_pos hclaims, if_pos hclaims]
  · rw [if_neg hclaims, if_neg hclaims]
    dsimp only
    rw [run_bind_ok (run_get s)]
    split
    · rw [run_bind, onBus, run_onPart]
      rcases (mouse.channel.push s.config).run s.bus with ⟨_ | _, _⟩ <;> rfl
    · rfl

/-- A commit whose push fails, fails as that did, and changes nothing but the line. -/
theorem run_commit_of_failed {mouse : Mouse σ τ} {force : Bool} {s : Session σ τ} {fault : Fault}
    (hclaims : 0 < s.claims) (hruns : s.config.dirty = true ∨ force = true)
    (h : ((mouse.channel.push s.config).run s.bus).1 = .error fault) :
    (commit mouse force).run s =
      (.error fault, { s with bus := ((mouse.channel.push s.config).run s.bus).2 }) := by
  rw [run_commit, if_neg (Nat.ne_of_gt hclaims), if_pos (Bool.or_eq_true_iff.mpr hruns)]
  rcases hpush : (mouse.channel.push s.config).run s.bus with ⟨own | _, bus⟩
  · rw [hpush] at h
    cases h
    rfl
  · rw [hpush] at h
    cases h

/-- A commit of a clean configuration does nothing unless it is forced. -/
theorem run_commit_of_clean {mouse : Mouse σ τ} {s : Session σ τ} (hclaims : 0 < s.claims)
    (hclean : s.config.dirty = false) : (commit mouse false).run s = (.ok (), s) := by
  rw [run_commit, if_neg (Nat.ne_of_gt hclaims), if_neg (by simp [hclean])]

/-- However a session came to its configuration, and whatever line that is pushed over: the frames
are those of the resolutions, of the LEDs that the model has, lowest id first, and of the frequency
if it has a code, which is refused if it has none; the push has its account; and of the session
nothing changes but the line. -/
theorem push_of_reachable (mouse : Mouse σ τ) (bus : Bus σ τ) (steps : List (Step τ))
    (c : Channel σ' τ') (t : Session σ' τ') :
    let config := (after mouse (start mouse.model bus) steps).config
    let s : Session σ' τ' := { t with config := config }
    let r := (onBus (c.push s.config)).run s
    (∃ resolution leds, mouse.model.generation.Sets resolution config.x.resolution
        config.y.resolution ∧
      List.Forall₂ Led.SentAs config.ledsById leds ∧
      config.ledsById = config.leds.filter Led.supported ∧
      (config.ledsById.map Led.id).Pairwise (· < ·) ∧
      config.frames = resolution :: leds ++ (frequencyFrame config.frequency).toOption.toList) ∧
    (∃ n, config.frequency.toInt? = some n ∧
      (∀ code, frequencyCode config.frequency = .ok code →
        (n, code) ∈ [(0, 1), (125, 8), (500, 2), (1000, 1)] ∧
          ∃ frame, frequencyFrame config.frequency = .ok frame ∧
            Frame.Conveys [0x00, 0x01, 0x00, 0x05] [code, 0, 0, 0, 0] frame) ∧
      ∀ fault, frequencyCode config.frequency = .error fault →
        n ∉ [0, 125, 500, 1000] ∧ fault.Refuses (.int n) ∧
          frequencyFrame config.frequency = .error fault) ∧
    (∃ exchanges, c.PushAccount config s.bus (r.1, r.2.bus) exchanges) ∧
    r.2 = { s with bus := r.2.bus } := by
  intro config s r
  have hfits : config.Fits mouse.model := fits_after mouse bus steps
  obtain ⟨resolution, leds, hresolution, -, hleds, hframes⟩ := hfits.frames_eq
  obtain ⟨n, hn⟩ := hfits.frequency
  rw [hfits.generation_eq] at hresolution
  have hsets := Generation.sets_of_encode hfits.x_mem hfits.y_mem hresolution
  refine ⟨⟨resolution, leds, hsets, hleds, hfits.ledsById_eq, hfits.pairwise_ledsById, hframes⟩,
    ⟨n, hn, fun code hcode ↦ ?_, fun fault hfault ↦ ?_⟩, c.exists_pushAccount hfits s.bus, rfl⟩
  · rcases frequencyFrame_cases config.frequency with ⟨_, frame, -, hframe⟩ | ⟨hnone, -⟩
    · exact ⟨mem_of_frequencyCode hn hcode, frame, hframe, conveys_of_frequencyFrame hcode hframe⟩
    · cases hcode.symm.trans hnone
  · have hrefuses : fault.Refuses config.frequency := refuses_of_frequencyCode hfault
    refine ⟨?_, ?_, ?_⟩
    · rw [← frequencyCode_eq_error_iff hn, hfault, eq_of_frequencyCode_eq_error hfault]
    · exact hrefuses.congr (Value.isWritable_of_toInt hn)
    · rw [frequencyFrame, hfault]
      rfl

/-- An observer who fails over the answer to a frame ends the push with it: that frame is the only
one of four, though the device took it whole and gave a whole answer, whose status is not an
accepted one. -/
theorem halted_by_failing_observer :
    let mouse := replayed (Model.forPid Model.known Protocol.classicPid)
    let c := mouse.channel
    let answer : Bytes := 9 :: List.replicate 89 0
    let heard : Bus Replay Rat := recorded { reads := [.ok answer] }
    let bus := { heard with anomalyObserver := .failing (.reported .lookup "observer") }
    let config := (after mouse (start mouse.model bus) []).config
    let r := (c.push config).run bus
    let frame := (written r.2.trace).headD []
    let sent := (c.write Protocol.writeRequest Protocol.commandValue frame).run bus
    let answered :=
      (c.read Protocol.readRequest Protocol.commandValue Protocol.frameSize).run sent.2
    ((c.push config).run heard).1.toOption = some () ∧
      (written ((c.push config).run heard).2.trace).length = 4 ∧
      r.1.mapError Fault.kind = .error .lookup ∧ written r.2.trace = [frame] ∧
      sent.1.toOption = some () ∧ answered.1.toOption = some answer := by
  decide +kernel

end Session

end MouseControl
