import MouseControl.Proofs.Device.Configuration
import MouseControl.Proofs.Line.Traffic
import MouseControl.Proofs.Session.Run
import MouseControl.Proofs.Session.Setter

/-!
How the pending configuration changes. A setter fails without a trace or amends the configuration
(`Sets`), and an amended configuration is dirty. `Revises` is what every operation but a commit and
a probe keeps: nothing is handed to the device, and the configuration stays what it was or becomes
dirty. So a relation that revisions imply holds of every run once commits and probes keep it
(`MovesAlong.of_revises`), as the fitting of the configuration does (`fits_after`).
-/

set_option autoImplicit false
set_option relaxedAutoImplicit false

namespace MouseControl

open MouseControl.Action

variable {σ τ α : Type}

namespace Session

/-! ### Amending -/

/-- Only the line of a session changes, and there it is only told of something. -/
def Quietly (s s' : Session σ τ) : Prop := ∃ bus, s' = { s with bus := bus } ∧ s.bus.Records bus

instance : IsPreorder (Session σ τ) Quietly where
  refl s := ⟨s.bus, rfl, refl_of Bus.Records s.bus⟩
  trans s _ _ := by
    rintro ⟨bus, rfl, h⟩ ⟨bus', rfl, h'⟩
    exact ⟨bus', rfl, trans_of Bus.Records h h'⟩

theorem quietly_onBus {x : Action (Bus σ τ) α} (hx : Keeps Bus.Records x) :
    Keeps Quietly (onBus x) :=
  keeps_onPart hx fun _ bus h ↦ ⟨bus, rfl, h⟩

theorem quietly_notify (r : Report) :
    Keeps (Quietly : Session σ τ → Session σ τ → Prop) (notify r) :=
  keeps_get_bind fun s ↦ quietly_onBus (Bus.records_report s.observer r) s

/-- What becomes of a report is what the observer makes of it. -/
theorem outcome_notify (r : Report) (s : Session σ τ) :
    ((notify r).run s).1 = s.observer.verdict r :=
  Bus.outcome_of_report s.observer r s.bus

/-- The observer hears of the dirty flag only when it changes. -/
theorem run_setDirty (dirty : Bool) (s : Session σ τ) :
    (setDirty dirty).run s =
      if s.config.dirty = dirty then (.ok (), s)
      else (notify (.dirty dirty)).run
        { s with config := { s.config with dirty := dirty } } := by
  rw [setDirty, run_bind_ok (run_get s)]
  by_cases h : s.config.dirty = dirty
  · rw [if_pos h, if_neg (by simp [h])]
    rfl
  · rw [if_neg h, if_pos (by simpa using h), run_bind_ok (run_set s _)]

/-- Apart from the line, setting the dirty flag sets the dirty flag. -/
theorem quietly_setDirty (dirty : Bool) (s : Session σ τ) :
    Quietly { s with config := { s.config with dirty := dirty } } ((setDirty dirty).run s).2 := by
  rw [run_setDirty]
  split
  next h =>
    subst h
    exact refl_of Quietly s
  next => exact quietly_notify _ _

/-- Only the observer can fail when the dirty flag is set, and only when it changes. -/
theorem setDirty_eq_error {dirty : Bool} {s : Session σ τ} {fault : Fault}
    (h : ((setDirty dirty).run s).1 = .error fault) :
    s.config.dirty ≠ dirty ∧ s.observer.verdict (.dirty dirty) = .error fault := by
  rw [run_setDirty] at h
  split at h
  next => cases h
  next hchanged =>
    rw [outcome_notify] at h
    exact ⟨hchanged, h⟩

/-- A session whose configuration was changed and is yet to be marked dirty. -/
def changed (change : Configuration → Configuration) (s : Session σ τ) : Session σ τ :=
  { s with
    config := change s.config
    bus := ((Bus.mark .amended).run s.bus).2 }

theorem run_amend (change : Configuration → Configuration) (s : Session σ τ) :
    (amend change).run s = (setDirty true).run (s.changed change) := rfl

/-- An amended configuration is dirty. -/
theorem quietly_amend (change : Configuration → Configuration) (s : Session σ τ) :
    Quietly { s with config := { change s.config with dirty := true } }
      ((amend change).run s).2 := by
  have hmark : s.bus.Records (s.changed change).bus := Bus.records_record rfl s.bus
  obtain ⟨bus, hset, hdirty⟩ := quietly_setDirty true (s.changed change)
  exact ⟨bus, hset, trans_of Bus.Records hmark hdirty⟩

/-- What a setter of sessions with a model does: it fails and changes nothing, or it amends the
configuration under a claim, to one that still fits the model. -/
def Sets (model : Model) (x : Action (Session σ τ) Unit) : Prop :=
  ∀ s, (∃ fault, x.run s = (.error fault, s)) ∨
    0 < s.claims ∧ ∃ change : Configuration → Configuration,
      (s.config.Fits model → (change s.config).Fits model) ∧ x.run s = (amend change).run s

/-- Every setter does. -/
theorem sets_call (mouse : Mouse σ τ) (setter : Setter) :
    Sets mouse.model (setter.call mouse) := by
  intro s
  have hverdict := setter.verdict mouse s
  generalize (setter.call mouse).run s = r at hverdict
  cases hverdict with
  | refused => exact .inl ⟨_, rfl⟩
  | unclaimed => exact .inl ⟨_, rfl⟩
  | amended hclaims _ change _ hfits => exact .inr ⟨hclaims, change, hfits, rfl⟩

/-! ### Revisions -/

/-- Nothing is handed to the device, and the configuration stays the same or becomes dirty. -/
structure Revises (model : Model) (s s' : Session σ τ) : Prop where
  written_eq : written s'.bus.trace = written s.bus.trace
  config_eq_or : s'.config = s.config ∨ s'.config.dirty = true
  fits : s.config.Fits model → s'.config.Fits model

namespace Revises

variable {model : Model}

instance : IsPreorder (Session σ τ) (Revises model) where
  refl _ := ⟨rfl, .inl rfl, id⟩
  trans _ _ _ h h' := by
    refine ⟨h'.written_eq.trans h.written_eq, ?_, h'.fits ∘ h.fits⟩
    rcases h'.config_eq_or with heq | hdirty
    · rw [heq]
      exact h.config_eq_or
    · exact .inr hdirty

/-- Whatever else of a session changes. -/
theorem of_silent {s s' : Session σ τ} (hsilent : s.bus.Silent s'.bus)
    (hconfig : s'.config = s.config) : Revises model s s' where
  written_eq := hsilent.written_eq
  config_eq_or := .inl hconfig
  fits h := hconfig ▸ h

theorem of_quietly {s s' : Session σ τ} (h : Quietly s s') : Revises model s s' := by
  obtain ⟨bus, rfl, hrecords⟩ := h
  exact of_silent hrecords.silent rfl

theorem amend {change : Configuration → Configuration} {s : Session σ τ}
    (hchange : s.config.Fits model → (change s.config).Fits model) :
    Revises model s ((Session.amend change).run s).2 := by
  have hfirst : Revises model s { s with config := { change s.config with dirty := true } } :=
    ⟨rfl, .inr rfl, fun hfits ↦ (hchange hfits).withDirty true⟩
  exact trans_of (Revises model) hfirst (of_quietly (quietly_amend change s))

theorem sets {x : Action (Session σ τ) Unit} (hx : Sets model x) : Keeps (Revises model) x := by
  intro s
  rcases hx s with ⟨fault, h⟩ | ⟨-, change, hchange, h⟩
  · rw [h]
    exact refl_of (Revises model) s
  · rw [h]
    exact amend hchange

theorem of_reclaims {s s' : Session σ τ} (h : Reclaims s s') : Revises model s s' :=
  of_silent h.silent h.config_eq

end Revises

/-! ### Setting up -/

/-- What a set-up changes in a session besides the line. -/
def Adjusts (model : Model) (s s' : Session σ τ) : Prop :=
  ∃ firmware suggestUpgrade initialized, ∃ config ∈ [s.config, .defaults model],
    s' = { s with
      config := config
      firmware := firmware
      suggestUpgrade := suggestUpgrade
      initialized := initialized }

theorem Revises.of_adjusts {model : Model} {s s' : Session σ τ} (h : Adjusts model s s') :
    Revises model s s' := by
  obtain ⟨firmware, suggestUpgrade, initialized, config, hconfig, rfl⟩ := h
  rcases List.mem_pair.mp hconfig with rfl | rfl
  · exact ⟨rfl, .inl rfl, id⟩
  · exact ⟨rfl, .inr rfl, fun _ ↦ Configuration.fits_defaults model⟩

section SetUp

variable [TimeScale τ] (mouse : Mouse σ τ)

/-- What a set-up does under its claim. -/
def probeAndCommit : Action (Session σ τ) Unit := do
  let version ← onBus (mouse.channel.probe mouse.probePolicy)
  modify fun s ↦ { s with firmware := version }
  onBus (Bus.mark (.firmwareRead version))
  checkFirmware mouse
  modify fun s ↦ { s with config := .defaults mouse.model }
  initialCommit mouse

/-- What a set-up does after its claim. -/
def announce : Action (Session σ τ) Unit := do
  modify fun s ↦ { s with initialized := true }
  onBus (Bus.note
    (.initialized mouse.model.name (← get).firmware mouse.model.generation))
  notify .initialized

theorem setUp_eq :
    setUp mouse = (claimed mouse (probeAndCommit mouse) >>= fun _ ↦ announce mouse) := rfl

variable {mouse} {rel : Session σ τ → Session σ τ → Prop} [IsPreorder (Session σ τ) rel]

theorem keeps_probeAndCommit (hquietly : ∀ s s', Quietly s s' → rel s s')
    (hadjusts : ∀ s s', Adjusts mouse.model s s' → rel s s')
    (hprobe : Keeps rel (onBus (mouse.channel.probe mouse.probePolicy)))
    (hcommit : Keeps rel (commit mouse true)) : Keeps rel (probeAndCommit mouse) := by
  have hnote (n : Notice) : Keeps rel (onBus (Bus.note n) : Action (Session σ τ) Unit) :=
    (quietly_onBus (Bus.records_note n)).mono hquietly
  have hread (version : Int) : Keeps rel (modify fun s ↦ { s with firmware := version } :
      Action (Session σ τ) PUnit) :=
    keeps_modify fun s ↦ hadjusts s _ ⟨_, _, _, _, List.mem_cons_self, rfl⟩
  have hmark (version : Int) : Keeps rel (onBus (Bus.mark (.firmwareRead version)) :
      Action (Session σ τ) Unit) :=
    (quietly_onBus (Bus.records_record rfl)).mono hquietly
  have hsuggest : Keeps rel (modify fun s ↦ { s with suggestUpgrade := true } :
      Action (Session σ τ) PUnit) :=
    keeps_modify fun s ↦ hadjusts s _ ⟨_, _, _, _, List.mem_cons_self, rfl⟩
  have hcheck : Keeps rel (checkFirmware mouse) := by
    refine keeps_get_bind fun s ↦ ?_
    split
    · exact keeps_bind (hnote _) (fun _ ↦ hsuggest) s
    · exact refl_of rel s
  have hreset : Keeps rel (modify fun s ↦ { s with config := .defaults mouse.model } :
      Action (Session σ τ) PUnit) :=
    keeps_modify fun s ↦ hadjusts s _ ⟨_, _, _, _, List.mem_cons_of_mem _ List.mem_cons_self, rfl⟩
  have hinitial : Keeps rel (initialCommit mouse) := by
    refine keeps_tryCatch hcommit fun fault ↦ ?_
    exact keeps_ite (fun _ ↦ keeps_bind (hnote _) fun _ ↦ keeps_throw _) fun _ ↦ keeps_throw _
  refine keeps_bind hprobe fun version ↦ keeps_bind (hread version) fun _ ↦ ?_
  refine keeps_bind (hmark version) fun _ ↦ keeps_bind hcheck fun _ ↦ ?_
  exact keeps_bind hreset fun _ ↦ hinitial

omit [TimeScale τ] in
theorem keeps_announce (hquietly : ∀ s s', Quietly s s' → rel s s')
    (hadjusts : ∀ s s', Adjusts mouse.model s s' → rel s s') : Keeps rel (announce mouse) := by
  have hdone : Keeps rel (modify fun s ↦ { s with initialized := true } :
      Action (Session σ τ) PUnit) :=
    keeps_modify fun s ↦ hadjusts s _ ⟨_, _, _, _, List.mem_cons_self, rfl⟩
  refine keeps_bind hdone fun _ ↦ keeps_get_bind fun s ↦ ?_
  exact keeps_bind ((quietly_onBus (Bus.records_note _)).mono hquietly)
    (fun _ ↦ (quietly_notify _).mono hquietly) s

/-- A set-up keeps what its parts keep and what claims have no part in. -/
theorem keeps_setUp (hreclaims : ∀ s s', Reclaims s s' → rel s s')
    (hbody : Keeps rel (probeAndCommit mouse)) (hannounce : Keeps rel (announce mouse)) :
    Keeps rel (setUp mouse) := by
  refine keeps_bind (keeps_bind ((Reclaims.claim mouse).mono hreclaims) fun _ ↦ ?_) fun _ ↦
    hannounce
  exact keeps_ensuring hbody ((Reclaims.release mouse).mono hreclaims)

end SetUp

section Runs

variable [TimeScale τ] {mouse : Mouse σ τ} {rel : Session σ τ → Session σ τ → Prop}
  [IsPreorder (Session σ τ) rel]

/-- What revisions imply, the owner of a session keeps if commits and probes keep it. -/
theorem MovesAlong.of_revises (h : ∀ s s', Revises mouse.model s s' → rel s s')
    (hcommit : ∀ force, Keeps rel (Session.commit mouse force))
    (hprobe : Keeps rel (onBus (mouse.channel.probe mouse.probePolicy))) :
    MovesAlong mouse rel where
  claim := (Reclaims.claim mouse).mono fun s s' hs ↦ h s s' (.of_reclaims hs)
  release := (Reclaims.release mouse).mono fun s s' hs ↦ h s s' (.of_reclaims hs)
  setUp := by
    have hquietly : ∀ s s' : Session σ τ, Quietly s s' → rel s s' :=
      fun s s' hs ↦ h s s' (.of_quietly hs)
    have hadjusts : ∀ s s' : Session σ τ, Adjusts mouse.model s s' → rel s s' :=
      fun s s' hs ↦ h s s' (.of_adjusts hs)
    have hbody := keeps_probeAndCommit hquietly hadjusts hprobe (hcommit true)
    exact keeps_setUp (fun s s' hs ↦ h s s' (.of_reclaims hs)) hbody
      (keeps_announce hquietly hadjusts)
  commit := hcommit
  setLed led state := (Revises.sets (sets_call mouse (.led led state))).mono h
  setFrequency frequency := (Revises.sets (sets_call mouse (.frequency frequency))).mono h
  setMapping mapping axis := (Revises.sets (sets_call mouse (.mapping mapping axis))).mono h
  observe observer s := h s _ (.of_reclaims (.observe observer s))
  elapse span := (Reclaims.elapse span).mono fun s s' hs ↦ h s s' (.of_reclaims hs)

omit [IsPreorder (Session σ τ) rel] in
theorem bypassed_of_revises (h : ∀ s s', Revises mouse.model s s' → rel s s') :
    MovesAlong.Bypassed mouse rel :=
  ⟨(Reclaims.opened mouse).mono fun s s' hs ↦ h s s' (.of_reclaims hs),
    (Reclaims.closed mouse).mono fun s s' hs ↦ h s s' (.of_reclaims hs)⟩

/-- What a commit does to the configuration is to clean it. -/
theorem fits_commit (mouse : Mouse σ τ) (force : Bool) :
    Keeps (Retains fun s : Session σ τ ↦ s.config.Fits mouse.model) (commit mouse force) := by
  have hbus {β : Type} (x : Action (Bus σ τ) β) :
      Keeps (Retains fun s : Session σ τ ↦ s.config.Fits mouse.model) (onBus x) :=
    fun _ h ↦ h
  have hclean : Keeps (Retains fun s : Session σ τ ↦ s.config.Fits mouse.model)
      (setDirty false) := by
    intro s hfits
    obtain ⟨bus, hset, -⟩ := quietly_setDirty false s
    rw [hset]
    exact hfits.withDirty false
  refine keeps_bind (keeps_of_run_eq fun s ↦ by rw [run_requireClaim]) fun _ ↦
    keeps_get_bind fun s ↦ ?_
  split
  · exact keeps_bind (hbus _) (fun _ ↦ keeps_bind (hbus _) fun _ ↦ hclean) s
  · exact fun h ↦ h

/-- In every state of a run the configuration fits the model. -/
theorem fits_after (mouse : Mouse σ τ) (bus : Bus σ τ) (steps : List (Step τ)) :
    (after mouse (start mouse.model bus) steps).config.Fits mouse.model := by
  have hrevises : ∀ s s' : Session σ τ, Revises mouse.model s s' →
      Retains (fun s ↦ s.config.Fits mouse.model) s s' := fun s s' h ↦ h.fits
  have hmoves : MovesAlong mouse (Retains fun s : Session σ τ ↦ s.config.Fits mouse.model) :=
    MovesAlong.of_revises hrevises (fits_commit mouse) fun _ h ↦ h
  exact hmoves.after steps (start mouse.model bus) (fun _ ↦ bypassed_of_revises hrevises)
    (Configuration.fits_defaults mouse.model)

end Runs

end Session

end MouseControl
