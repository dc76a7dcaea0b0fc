import MouseControl.Proofs.Command.Remark
import MouseControl.Proofs.Session.OnLine

/-!
What a session says about answers. Apart from its exchanges it says nothing of them, so after every
run the anomalies reported, the one remembered and the notices in the log are those of the answers
that the run got (`remarks_after`).
-/

set_option autoImplicit false
set_option relaxedAutoImplicit false

namespace MouseControl

open MouseControl.Action

variable {σ τ : Type} [TimeScale τ]

/-- An anomaly is remembered. -/
abbrev Bus.Recalls (bus : Bus σ τ) : Prop := bus.lastAnomaly ≠ none

/-- Another anomaly may take its place, but nothing makes a line forget. -/
theorem Channel.movesAlong_recalls (c : Channel σ τ) :
    c.MovesAlong (fun _ ↦ True) (Retains Bus.Recalls) where
  note _ _ := id
  pause _ _ _ := id
  leave _ := id
  remember _ _ _ := Option.some_ne_none _
  record _ _ := id
  write _ _ _ := id
  read _ _ := id

namespace Session

variable (mouse : Mouse σ τ)

theorem frames_recalls : Frames mouse (Retains Bus.Recalls) where
  note _ _ _ := id
  mark _ _ := id
  dirty _ _ := id
  initialized _ := id
  opened _ := id
  closed _ := id
  elapse _ _ := id

/-- An anomaly that was remembered once is never cleared. -/
theorem recalls_after (s : Session σ τ) (steps : List (Step τ)) (h : s.bus.Recalls) :
    (after mouse s steps).bus.Recalls := by
  have hmoves := mouse.channel.movesAlong_recalls
  exact (frames_recalls mouse).after hmoves.pushes (hmoves.probes mouse.probePolicy) s steps h

/-- Outside of its pushes and probes a session makes no transfer and says nothing about answers. -/
theorem frames_candid (observer : Observer) : Frames mouse (Retains (Bus.Candid observer)) := by
  have hframes := Frames.of_silent mouse fun bus bus' (h : bus.Silent bus') ↦ h
  exact
    { note := fun n hn bus ↦ (Bus.reticent_note hn bus).candid (hframes.note n hn bus)
      mark := fun milestone bus ↦
        (Bus.reticent_record rfl bus).candid (hframes.mark milestone bus)
      dirty := fun dirty bus ↦ (Bus.reticent_record rfl bus).candid (hframes.dirty dirty bus)
      initialized := fun bus ↦ (Bus.reticent_record rfl bus).candid (hframes.initialized bus)
      opened := fun bus ↦ Bus.Reticent.candid
        ⟨rfl, Bus.omits_of_concat rfl rfl, rfl, rfl⟩ (hframes.opened bus)
      closed := fun bus ↦ Bus.Reticent.candid
        ⟨rfl, Bus.omits_of_concat rfl rfl, rfl, rfl⟩ (hframes.closed bus)
      elapse := fun span bus ↦ Bus.Reticent.candid ⟨rfl, rfl, rfl, rfl⟩ (hframes.elapse span bus) }

/-- Whatever is done with a session and whatever its transport makes of it, the anomalies reported
are those of its responses, in order and with the ids of the frames sent; the last of them is
remembered and never cleared; and the log says of each response that its checksum is wrong, where it
is, and then that its status is an anomaly, where it is, and nothing else about answers. -/
theorem remarks_after (bus : Bus σ τ) (steps : List (Step τ)) :
    let fresh := { bus with trace := [], log := [], lastAnomaly := none }
    let s := after mouse (start mouse.model fresh) steps
    let responses := (dialogue s.bus.trace).responses
    let anomalies := responses.filterMap Response.anomaly?
    extract Event.anomaly? s.bus.trace = bus.anomalyObserver.hears anomalies ∧
      s.bus.lastAnomaly = anomalies.getLast? ∧
      s.bus.log.filter Notice.isRemark = responses.flatMap Response.remarks ∧
      ∀ more, s.bus.lastAnomaly ≠ none → (after mouse s more).bus.lastAnomaly ≠ none := by
  intro fresh s responses anomalies
  have hfresh : fresh.Candid bus.anomalyObserver := ⟨rfl, (Observer.hears_nil _).symm, rfl, rfl⟩
  have hcandid : s.bus.Candid bus.anomalyObserver :=
    (frames_candid mouse bus.anomalyObserver).after mouse.channel.candid_push
      (mouse.channel.candid_probe mouse.probePolicy) (start mouse.model fresh) steps hfresh
  exact ⟨hcandid.reports_eq, hcandid.lastAnomaly_eq, hcandid.remarks_eq,
    fun more ↦ recalls_after mouse s more⟩

end Session

end MouseControl
