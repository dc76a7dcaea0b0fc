import MouseControl.Proofs.Line.Extract
import MouseControl.Proofs.Session.Commit
import MouseControl.Proofs.Session.Refusal

/-!
How the dirty flag follows from the past. The history of a configuration is made of whole pushes, of
amendments, and of firmware versions, after which a set-up starts over from the defaults
(`history`). Each operation adds to it what it came to (`Chronicled`), and the configuration is
clean exactly when the latest entry is a push (`settled_after`).
-/

set_option autoImplicit false
set_option relaxedAutoImplicit false

namespace MouseControl

open MouseControl.Action

variable {σ τ α : Type}

/-! ### Histories -/

/-- The milestone that an event is, if it bears on what the device lacks of the configuration. -/
def Event.turning? : Event τ → Option Milestone
  | .reached .pushed => some .pushed
  | .reached .amended => some .amended
  | .reached (.firmwareRead version) => some (.firmwareRead version)
  | _ => none

/-- What became of a configuration, in order. -/
def history (trace : List (Entry τ)) : List Milestone :=
  trace.filterMap fun entry ↦ entry.event.turning?

theorem Event.passesOver_turning : PassesOver (Event.turning? : Event τ → Option Milestone) where
  paused _ _ := rfl
  wrote _ _ := rfl
  read _ _ := rfl
  anomalyReported _ := rfl

theorem Event.turning_of_not_passive {event : Event τ} (h : event.isPassive = false) :
    event.turning? = none := by
  cases event with
  | reached milestone => cases milestone <;> first | rfl | cases h
  | _ => rfl

/-- Nothing is added to the history. -/
def Bus.Uneventful (bus bus' : Bus σ τ) : Prop := history bus'.trace = history bus.trace

instance : IsPreorder (Bus σ τ) Bus.Uneventful where
  refl _ := rfl
  trans _ _ _ h h' := Eq.trans h' h

theorem Bus.history_record (event : Event τ) (bus : Bus σ τ) :
    history ((record event).run bus).2.trace = history bus.trace ++ event.turning?.toList :=
  extract_record event bus

section Lines

variable [TimeScale τ] (c : Channel σ τ)

theorem Channel.movesAlong_uneventful :
    c.MovesAlong (fun _ ↦ True) (Bus.Uneventful : Bus σ τ → Bus σ τ → Prop) :=
  c.movesAlong_omits Event.passesOver_turning

theorem Channel.uneventful_push (config : Configuration) :
    Keeps Bus.Uneventful (c.push config) :=
  c.movesAlong_uneventful.pushes config

theorem Channel.uneventful_probe (policy : RetryPolicy) :
    Keeps Bus.Uneventful (c.probe policy) :=
  c.movesAlong_uneventful.probes policy

end Lines

namespace Session

/-! ### What operations add -/

/-- Nothing is added to the history, and the configuration stays the same. -/
structure Uneventful (s s' : Session σ τ) : Prop where
  config_eq : s'.config = s.config
  history_eq : history s'.bus.trace = history s.bus.trace

instance : IsPreorder (Session σ τ) Uneventful where
  refl _ := ⟨rfl, rfl⟩
  trans _ _ _ h h' := ⟨h'.config_eq.trans h.config_eq, h'.history_eq.trans h.history_eq⟩

theorem uneventful_onBus {x : Action (Bus σ τ) α} (hx : Keeps Bus.Uneventful x) :
    Keeps Uneventful (onBus x) :=
  keeps_onPart hx fun _ _ h ↦ ⟨rfl, h⟩

theorem Reclaims.uneventful {s s' : Session σ τ} (h : Reclaims s s') :
    Uneventful s s' := by
  obtain ⟨new, htrace, hactive⟩ := h.grows
  exact ⟨h.config_eq, Bus.omits_of_append htrace fun entry hentry ↦
    Event.turning_of_not_passive (hactive entry hentry)⟩

theorem uneventful_note (n : Notice) :
    Keeps Uneventful (onBus (Bus.note n) : Action (Session σ τ) Unit) :=
  uneventful_onBus fun _ ↦ rfl

theorem uneventful_notify (r : Report) :
    Keeps (Uneventful : Session σ τ → Session σ τ → Prop) (notify r) := by
  have hreport : (r.event : Event τ).turning? = none := by
    cases r with
    | anomaly | dirty | initialized => rfl
  exact keeps_get_bind fun s ↦ uneventful_onBus (Bus.omits_report s.observer hreport) s

theorem uneventful_setDirty (dirty : Bool) (s : Session σ τ) :
    s.bus.Uneventful ((setDirty dirty).run s).2.bus := by
  rw [run_setDirty]
  split
  · exact refl_of Bus.Uneventful s.bus
  · exact (uneventful_notify _ _).history_eq

theorem history_amend (change : Configuration → Configuration) (s : Session σ τ) :
    history ((amend change).run s).2.bus.trace = history s.bus.trace ++ [.amended] := by
  have hset := uneventful_setDirty true (s.changed change)
  rw [run_amend, hset]
  exact Bus.history_record _ s.bus

variable [TimeScale τ] (mouse : Mouse σ τ)

/-- A commit that makes a whole push adds it to the history and cleans the configuration. -/
theorem history_commit (force : Bool) (s : Session σ τ) :
    let r := (commit mouse force).run s
    let pushed := 0 < s.claims ∧ (s.config.dirty = true ∨ force = true) ∧
      ((mouse.channel.push s.config).run s.bus).1 = .ok ()
    pushed ∧ history r.2.bus.trace = history s.bus.trace ++ [.pushed] ∧ r.2.config.dirty = false ∨
      ¬ pushed ∧ history r.2.bus.trace = history s.bus.trace ∧ r.2.config = s.config := by
  intro r pushed
  have hr : r = _ := run_commit mouse force s
  by_cases hclaims : s.claims = 0
  · rw [if_pos hclaims] at hr
    rw [hr]
    exact .inr ⟨fun h ↦ absurd hclaims (Nat.ne_of_gt h.1), rfl, rfl⟩
  rw [if_neg hclaims] at hr
  by_cases hruns : (s.config.dirty || force) = true
  · rw [if_pos hruns] at hr
    have hkept : s.bus.Uneventful ((mouse.channel.push s.config).run s.bus).2 :=
      mouse.channel.uneventful_push s.config s.bus
    rcases hpush : (mouse.channel.push s.config).run s.bus with ⟨fault | _, bus⟩
    · rw [hpush] at hr hkept
      rw [hr]
      refine .inr ⟨fun h ↦ ?_, hkept, rfl⟩
      have hok := h.2.2
      rw [hpush] at hok
      cases hok
    · rw [hpush] at hr hkept
      let marked : Session σ τ := { s with bus := ((Bus.mark .pushed).run bus).2 }
      have hr : r = (setDirty false).run marked := hr
      have hset : marked.bus.Uneventful ((setDirty false).run marked).2.bus :=
        uneventful_setDirty false marked
      have hmark : history marked.bus.trace = history bus.trace ++ [.pushed] :=
        Bus.history_record _ bus
      obtain ⟨last, hclean, -⟩ := quietly_setDirty false marked
      refine .inl ⟨⟨Nat.pos_of_ne_zero hclaims, Bool.or_eq_true_iff.mp hruns, ?_⟩, ?_, ?_⟩
      · rw [hpush]
      · rw [hr, hset, hmark, hkept]
      · rw [hr, hclean]
  · rw [if_neg hruns] at hr
    rw [hr]
    exact .inr ⟨fun h ↦ hruns (Bool.or_eq_true_iff.mpr h.2.1), rfl, rfl⟩

/-! ### Setting up -/

/-- A session whose firmware was looked at. -/
def checked (s : Session σ τ) : Session σ τ :=
  if mouse.model.hasOldFirmware s.firmware then
    { s with
      suggestUpgrade := true
      bus := ((Bus.note
        (.oldFirmware mouse.model.name s.firmware mouse.model.goodFirmware)).run s.bus).2 }
  else s

/-- A session in which a firmware version was read: it starts over from the defaults. -/
def refreshed (version : Int) (s : Session σ τ) : Session σ τ :=
  { checked mouse { s with
      firmware := version
      bus := ((Bus.mark (.firmwareRead version)).run s.bus).2 } with
    config := .defaults mouse.model }

omit [TimeScale τ] in
theorem run_checkFirmware (s : Session σ τ) :
    (checkFirmware mouse).run s = (.ok (), checked mouse s) := by
  rw [checkFirmware, run_bind_ok (run_get s), checked]
  split <;> rfl

/-- A set-up under its claim fails with its probe, or it starts over and commits. -/
theorem run_probeAndCommit (s : Session σ τ) :
    (probeAndCommit mouse).run s =
      match (mouse.channel.probe mouse.probePolicy).run s.bus with
      | (.ok version, bus) =>
        (initialCommit mouse).run (refreshed mouse version { s with bus := bus })
      | (.error fault, bus) => (.error fault, { s with bus := bus }) := by
  rw [probeAndCommit, run_bind, onBus, run_onPart]
  rcases (mouse.channel.probe mouse.probePolicy).run s.bus with ⟨fault | version, bus⟩
  · rfl
  · let marked : Session σ τ :=
      { s with firmware := version, bus := ((Bus.mark (.firmwareRead version)).run bus).2 }
    change (checkFirmware mouse >>= fun _ ↦
      (modify fun s ↦ { s with config := .defaults mouse.model }) >>= fun _ ↦
        initialCommit mouse).run marked = _
    rw [run_bind_ok (run_checkFirmware mouse marked)]
    rfl

omit [TimeScale τ] in
theorem history_refreshed (version : Int) (s : Session σ τ) :
    history (refreshed mouse version s).bus.trace =
      history s.bus.trace ++ [.firmwareRead version] := by
  have hmark := Bus.history_record (.reached (.firmwareRead version)) s.bus
  rw [refreshed, checked]
  split <;> exact hmark

omit [TimeScale τ] in
theorem firmware_refreshed (version : Int) (s : Session σ τ) :
    (refreshed mouse version s).firmware = version := by
  rw [refreshed, checked]
  split <;> rfl

omit [TimeScale τ] in
theorem suggestUpgrade_refreshed (version : Int) (s : Session σ τ) :
    (refreshed mouse version s).suggestUpgrade =
      (s.suggestUpgrade || mouse.model.hasOldFirmware version) := by
  rw [refreshed, checked]
  split
  next hold => exact ((congrArg _ hold).trans (Bool.or_true _)).symm
  next hgood => exact ((congrArg _ (Bool.eq_false_iff.mpr hgood)).trans (Bool.or_false _)).symm

/-- Of the first commit it is only noted that it failed. -/
theorem uneventful_initialCommit (s : Session σ τ) :
    Uneventful ((commit mouse true).run s).2 ((initialCommit mouse).run s).2 := by
  refine leads_tryCatch (commit mouse true) (fun fault ↦ ?_) s
  exact keeps_ite (fun _ ↦ keeps_bind (uneventful_note _) fun _ ↦ keeps_throw _) fun _ ↦
    keeps_throw _

theorem uneventful_claim : Keeps Uneventful (claim mouse) :=
  (Reclaims.claim mouse).mono fun _ _ h ↦ h.uneventful

theorem uneventful_release : Keeps Uneventful (release mouse) :=
  (Reclaims.release mouse).mono fun _ _ h ↦ h.uneventful

section SetUp

variable {mouse} {s t : Session σ τ} {bus : Bus σ τ} {fault : Fault} {version : Int}

theorem uneventful_setUp_of_unclaimed (hclaim : (claim mouse).run s = (.error fault, t)) :
    Uneventful s ((setUp mouse).run s).2 := by
  have hkept := uneventful_claim mouse s
  have hclaimed : (claimed mouse (probeAndCommit mouse)).run s = (.error fault, t) :=
    run_bind_error hclaim
  rw [hclaim] at hkept
  rw [setUp_eq, run_bind_error hclaimed]
  exact hkept

/-- What a set-up does after its probe and its commit is not told in the history. -/
theorem uneventful_setUp_of_claimed (hclaim : (claim mouse).run s = (.ok (), t)) :
    Uneventful ((probeAndCommit mouse).run t).2 ((setUp mouse).run s).2 := by
  have hannounce : Keeps Uneventful (announce mouse : Action (Session σ τ) Unit) := by
    refine keeps_bind (keeps_modify fun _ ↦ ⟨rfl, rfl⟩) fun _ ↦ keeps_get_bind fun s ↦ ?_
    exact keeps_bind (uneventful_note _) (fun _ ↦ uneventful_notify _) s
  have hclaimed : (claimed mouse (probeAndCommit mouse)).run s =
      ((probeAndCommit mouse).ensuring (release mouse)).run t := run_bind_ok hclaim
  have hreleased : Uneventful ((probeAndCommit mouse).run t).2
      ((claimed mouse (probeAndCommit mouse)).run s).2 := by
    rw [hclaimed]
    exact leads_ensuring _ (uneventful_release mouse) t
  rw [setUp_eq]
  exact trans_of Uneventful hreleased (leads_bind _ (fun _ ↦ hannounce) s)

/-- A set-up whose probe fails adds nothing to the history. -/
theorem uneventful_setUp_of_unread (hclaim : (claim mouse).run s = (.ok (), t))
    (hprobe : (mouse.channel.probe mouse.probePolicy).run t.bus = (.error fault, bus)) :
    Uneventful s ((setUp mouse).run s).2 := by
  have hkept := uneventful_claim mouse s
  have hread := mouse.channel.uneventful_probe mouse.probePolicy t.bus
  have hsetUp := uneventful_setUp_of_claimed hclaim
  rw [run_probeAndCommit, hprobe] at hsetUp
  rw [hclaim] at hkept
  rw [hprobe] at hread
  have hfailed : Uneventful t { t with bus := bus } := ⟨rfl, hread⟩
  exact trans_of Uneventful (trans_of Uneventful hkept hfailed) hsetUp

/-- A set-up whose probe returns a version adds it to the history, and then what a forced commit of
the defaults adds. -/
theorem uneventful_setUp_of_read (hclaim : (claim mouse).run s = (.ok (), t))
    (hprobe : (mouse.channel.probe mouse.probePolicy).run t.bus = (.ok version, bus)) :
    let fresh := refreshed mouse version { t with bus := bus }
    0 < fresh.claims ∧
      history fresh.bus.trace = history s.bus.trace ++ [.firmwareRead version] ∧
      Uneventful ((commit mouse true).run fresh).2 ((setUp mouse).run s).2 := by
  intro fresh
  have hkept := (uneventful_claim mouse s).history_eq
  have hread := mouse.channel.uneventful_probe mouse.probePolicy t.bus
  have hsetUp := uneventful_setUp_of_claimed hclaim
  rw [run_probeAndCommit, hprobe] at hsetUp
  rw [hclaim] at hkept
  rw [hprobe] at hread
  have hfresh : fresh.claims = t.claims := by
    change (refreshed mouse version { t with bus := bus }).claims = t.claims
    rw [refreshed, checked]
    split <;> rfl
  refine ⟨hfresh ▸ claims_of_claim hclaim, ?_, ?_⟩
  · rw [history_refreshed, hread, hkept]
  · exact trans_of Uneventful (uneventful_initialCommit mouse fresh) hsetUp

end SetUp

end Session

end MouseControl
