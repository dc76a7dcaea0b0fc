import MouseControl.Proofs.Session.Revision

/-!
What a run does to its line. Under a claim a session pushes, probes, and says something of itself
(`Bus.Narrating`); besides that it opens and closes its transport and lets time pass (`Frames`). So
a relation on lines that all of these keep holds between the ends of every run (`Frames.after`).
Only pushes and probes make transfers, so for a relation that silence implies the rest comes for
free (`onLine_after`).
-/

set_option autoImplicit false
set_option relaxedAutoImplicit false

namespace MouseControl

open MouseControl.Action

variable {σ τ α : Type}

/-- What a session says of itself under a claim moves its line along `rel`. -/
structure Bus.Narrating (rel : Bus σ τ → Bus σ τ → Prop) : Prop where
  note : ∀ n, n.isRemark = false → Keeps rel (Bus.note n)
  mark : ∀ milestone, Keeps rel (Bus.mark milestone)
  dirty : ∀ dirty, Keeps rel (Bus.record (.dirtyReported dirty))

namespace Session

/-- The line of a session moves along `rel`. -/
def OnLine (rel : Bus σ τ → Bus σ τ → Prop) (s s' : Session σ τ) : Prop := rel s.bus s'.bus

instance (rel : Bus σ τ → Bus σ τ → Prop) [IsPreorder (Bus σ τ) rel] :
    IsPreorder (Session σ τ) (OnLine rel) where
  refl s := refl_of rel s.bus
  trans _ _ _ h h' := trans_of rel h h'

variable {rel : Bus σ τ → Bus σ τ → Prop}

theorem keeps_onLine {x : Action (Bus σ τ) α} (hx : Keeps rel x) :
    Keeps (OnLine rel) (onBus x) :=
  keeps_onPart hx fun _ _ h ↦ h

variable [IsPreorder (Bus σ τ) rel]

/-- What is recorded of a report is its event, if anything is. -/
theorem keeps_onLine_notify {r : Report} (h : Keeps rel (Bus.record r.event)) :
    Keeps (OnLine rel) (notify r : Action (Session σ τ) Unit) := by
  refine keeps_get_bind fun s ↦ ?_
  rcases s.observer with _ | verdict
  · exact refl_of rel s.bus
  · exact keeps_onLine (keeps_bind h fun _ ↦ keeps_ofExcept (verdict r)) s

theorem keeps_onLine_setDirty (h : Bus.Narrating rel) (dirty : Bool) :
    Keeps (OnLine rel) (setDirty dirty : Action (Session σ τ) Unit) := by
  intro s
  rw [run_setDirty]
  by_cases hsame : s.config.dirty = dirty
  · rw [if_pos hsame]
    exact refl_of rel s.bus
  · rw [if_neg hsame]
    exact keeps_onLine_notify (r := .dirty dirty) (h.dirty dirty)
      { s with config := { s.config with dirty := dirty } }

theorem keeps_onLine_sets (h : Bus.Narrating rel) {model : Model}
    {x : Action (Session σ τ) Unit} (hx : Sets model x) : Keeps (OnLine rel) x := by
  intro s
  rcases hx s with ⟨fault, hrun⟩ | ⟨-, change, -, hrun⟩
  · rw [hrun]
    exact refl_of rel s.bus
  · rw [hrun, run_amend]
    have hmark : rel s.bus (s.changed change).bus := h.mark .amended s.bus
    exact trans_of rel hmark (keeps_onLine_setDirty h true (s.changed change))

variable [TimeScale τ] {mouse : Mouse σ τ}

theorem keeps_onLine_commit (h : Bus.Narrating rel)
    (hpush : ∀ config, Keeps rel (mouse.channel.push config)) (force : Bool) :
    Keeps (OnLine rel) (commit mouse force) := by
  refine keeps_bind (keeps_of_run_eq fun s ↦ by rw [run_requireClaim]) fun _ ↦
    keeps_get_bind fun s ↦ ?_
  split
  · refine keeps_bind (keeps_onLine (hpush s.config)) (fun _ ↦ ?_) s
    exact keeps_bind (keeps_onLine (h.mark _)) fun _ ↦ keeps_onLine_setDirty h false
  · exact refl_of rel s.bus

/-- Under its claim a set-up probes, starts over and commits. -/
theorem keeps_onLine_probeAndCommit (h : Bus.Narrating rel)
    (hpush : ∀ config, Keeps rel (mouse.channel.push config))
    (hprobe : Keeps rel (mouse.channel.probe mouse.probePolicy)) :
    Keeps (OnLine rel) (probeAndCommit mouse) := by
  have hcheck : Keeps (OnLine rel) (checkFirmware mouse) := by
    refine keeps_get_bind fun s ↦ ?_
    split
    · exact keeps_bind (keeps_onLine (h.note _ rfl))
        (fun _ ↦ keeps_modify fun t ↦ refl_of rel t.bus) s
    · exact refl_of rel s.bus
  have hinitial : Keeps (OnLine rel) (initialCommit mouse) := by
    refine keeps_tryCatch (keeps_onLine_commit h hpush true) fun fault ↦ ?_
    refine keeps_ite (fun _ ↦ ?_) fun _ ↦ keeps_throw _
    exact keeps_bind (keeps_onLine (h.note _ rfl)) fun _ ↦ keeps_throw _
  refine keeps_bind (keeps_onLine hprobe) fun version ↦ ?_
  refine keeps_bind (keeps_modify fun s ↦ refl_of rel s.bus) fun _ ↦ ?_
  refine keeps_bind (keeps_onLine (h.mark _)) fun _ ↦ keeps_bind hcheck fun _ ↦ ?_
  exact keeps_bind (keeps_modify fun s ↦ refl_of rel s.bus) fun _ ↦ hinitial

/-- What a session does on its line besides pushes and probes moves the line along `rel`. -/
structure Frames (mouse : Mouse σ τ) (rel : Bus σ τ → Bus σ τ → Prop) : Prop
    extends Bus.Narrating rel where
  initialized : Keeps rel (Bus.record .initializedReported)
  opened : Keeps rel (opening mouse)
  closed : Keeps rel (closing mouse)
  elapse : ∀ (span : τ) (bus : Bus σ τ), rel bus { bus with clock := bus.clock + span }

namespace Frames

theorem claim (h : Frames mouse rel) : Keeps (OnLine rel) (Session.claim mouse) := by
  intro s
  rw [run_claim]
  split
  · have hopened := h.opened s.bus
    rcases hrun : (opening mouse).run s.bus with ⟨fault | _, bus⟩
    all_goals rw [hrun] at hopened
    · exact hopened
    · exact trans_of rel hopened (h.mark .claimed bus)
  · exact h.mark .claimed s.bus

theorem release (h : Frames mouse rel) : Keeps (OnLine rel) (Session.release mouse) := by
  intro s
  have hdropped : rel s.bus s.dropped.bus := h.mark .released s.bus
  rw [run_release]
  split
  · exact refl_of rel s.bus
  split
  · have hclosed := trans_of rel hdropped (h.closed s.dropped.bus)
    rcases hrun : (closing mouse).run s.dropped.bus with ⟨fault | _, bus⟩
    all_goals rw [hrun] at hclosed
    · exact hclosed
    · exact hclosed
  · exact hdropped

/-- What pushes and probes keep as well, the owner of a session keeps. -/
theorem movesAlong (h : Frames mouse rel)
    (hpush : ∀ config, Keeps rel (mouse.channel.push config))
    (hprobe : Keeps rel (mouse.channel.probe mouse.probePolicy)) :
    MovesAlong mouse (OnLine rel) := by
  have hannounce : Keeps (OnLine rel) (announce mouse) := by
    refine keeps_bind (keeps_modify fun s ↦ refl_of rel s.bus) fun _ ↦ keeps_get_bind fun s ↦ ?_
    exact keeps_bind (keeps_onLine (h.note _ rfl))
      (fun _ ↦ keeps_onLine_notify (r := .initialized) h.initialized) s
  have hbody := keeps_onLine_probeAndCommit h.toNarrating hpush hprobe
  exact
    { claim := h.claim
      release := h.release
      setUp := keeps_bind (keeps_bind h.claim fun _ ↦ keeps_ensuring hbody h.release)
        fun _ ↦ hannounce
      commit := keeps_onLine_commit h.toNarrating hpush
      setLed := fun led state ↦
        keeps_onLine_sets h.toNarrating (sets_call mouse (.led led state))
      setFrequency := fun frequency ↦
        keeps_onLine_sets h.toNarrating (sets_call mouse (.frequency frequency))
      setMapping := fun mapping axis ↦
        keeps_onLine_sets h.toNarrating (sets_call mouse (.mapping mapping axis))
      observe := fun _ s ↦ refl_of rel s.bus
      elapse := fun span s ↦ h.elapse span s.bus }

/-- A run moves its line along what the session does on it. -/
theorem after (h : Frames mouse rel)
    (hpush : ∀ config, Keeps rel (mouse.channel.push config))
    (hprobe : Keeps rel (mouse.channel.probe mouse.probePolicy)) (s : Session σ τ)
    (steps : List (Step τ)) : rel s.bus (Session.after mouse s steps).bus :=
  (h.movesAlong hpush hprobe).after steps s fun _ ↦ ⟨keeps_onLine h.opened, keeps_onLine h.closed⟩

omit [IsPreorder (Bus σ τ) rel] in
/-- Apart from pushes and probes a session is silent. -/
theorem of_silent (mouse : Mouse σ τ) (hsilent : ∀ bus bus', bus.Silent bus' → rel bus bus') :
    Frames mouse rel where
  note n _ := (Bus.silent_bookkeeping.note n).mono hsilent
  mark _ := (Bus.silent_record rfl).mono hsilent
  dirty _ := (Bus.silent_record rfl).mono hsilent
  initialized := (Bus.silent_record rfl).mono hsilent
  opened bus := hsilent _ _ ⟨transfers_snoc_of_not bus.trace rfl, rfl⟩
  closed bus := hsilent _ _ ⟨transfers_snoc_of_not bus.trace rfl, rfl⟩
  elapse _ _ := hsilent _ _ ⟨rfl, rfl⟩

end Frames

/-- A run moves its line along what pushes and probes keep, and silence implies. -/
theorem onLine_after (hsilent : ∀ bus bus', bus.Silent bus' → rel bus bus') (mouse : Mouse σ τ)
    (hpush : ∀ config, Keeps rel (mouse.channel.push config))
    (hprobe : Keeps rel (mouse.channel.probe mouse.probePolicy)) (s : Session σ τ)
    (steps : List (Step τ)) : rel s.bus (after mouse s steps).bus :=
  (Frames.of_silent mouse hsilent).after hpush hprobe s steps

end Session

end MouseControl
