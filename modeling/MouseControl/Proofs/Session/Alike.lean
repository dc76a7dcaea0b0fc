import MouseControl.Proofs.Command.Alike
import MouseControl.Proofs.Session.Revision

/-!
Sessions over two transports that differ in what they answer. Two sessions that differ in nothing
but their lines (`Alongside`) stay so through a commit (`agree_commit`), and through a set-up if
whole answers to the firmware query name the same version (`agree_setUp`). So the contents of
answers do not steer a session (`coincide_of_alike`): status and checksum of a response have no part
in what is written, read, returned or kept. They have one through an observer of anomalies who fails
over some answers and not over others (`parted_by_failing_observer`).
-/

set_option autoImplicit false
set_option relaxedAutoImplicit false

namespace MouseControl

open MouseControl.Action

variable {σ σ' τ α α' : Type}

/-- A line with the device of another transport. -/
def Bus.switched (bus : Bus σ τ) (device : σ') : Bus σ' τ where
  device := device
  clock := bus.clock
  spacing := bus.spacing
  trace := bus.trace
  log := bus.log
  lastAnomaly := bus.lastAnomaly
  anomalyObserver := bus.anomalyObserver

/-- A mouse over another transport. -/
def Mouse.switched (mouse : Mouse σ τ) (t : Transport σ' τ) : Mouse σ' τ :=
  ⟨mouse.model, mouse.channel.switched t, mouse.probePolicy⟩

namespace Session

/-- A session on another line. -/
def switched (s : Session σ τ) (bus : Bus σ' τ) : Session σ' τ where
  bus := bus
  config := s.config
  claims := s.claims
  ownsTransport := s.ownsTransport
  firmware := s.firmware
  suggestUpgrade := s.suggestUpgrade
  initialized := s.initialized
  observer := s.observer

/-- Two sessions that differ in nothing but their lines, which are alike. -/
def Alongside (observer : Observer) (timed : Prop) (alike : Option Bytes → σ → σ' → Prop)
    (s : Session σ τ) (s' : Session σ' τ) : Prop :=
  ∃ bus', s' = s.switched bus' ∧ s.bus.Alongside observer timed alike bus'

section Rules

variable {observer : Observer} {timed : Prop} {alike : Option Bytes → σ → σ' → Prop}

theorem agree_onBus {same : α → α' → Prop} {x : Action (Bus σ τ) α} {y : Action (Bus σ' τ) α'}
    (h : Agree (Bus.Alongside observer timed alike) (Bus.Alongside observer timed alike) same x y) :
    Agree (Alongside observer timed alike) (Alongside observer timed alike)
      same (onBus x) (onBus y) := by
  refine agree_onPart h ?_ ?_
  · rintro s _ ⟨bus', rfl, hbus⟩
    exact hbus
  · rintro s _ after after' ⟨bus', rfl, -⟩ hafter
    exact ⟨after', rfl, hafter⟩

theorem agree_notify (r : Report) :
    Agree (Alongside observer timed alike) (Alongside observer timed alike) Eq
      (notify r : Action (Session σ τ) Unit) (notify r : Action (Session σ' τ) Unit) := by
  refine agree_get_bind ?_
  rintro s _ ⟨bus', rfl, hbus⟩
  exact agree_onBus (Bus.agree_report s.observer r) s _ ⟨bus', rfl, hbus⟩

theorem agree_setDirty (dirty : Bool) :
    Agree (Alongside observer timed alike) (Alongside observer timed alike) Eq
      (setDirty dirty : Action (Session σ τ) Unit)
      (setDirty dirty : Action (Session σ' τ) Unit) := by
  refine agree_get_bind ?_
  rintro s _ ⟨bus', rfl, hbus⟩
  by_cases h : (s.config.dirty != dirty) = true
  · have h' : ((s.switched bus').config.dirty != dirty) = true := h
    rw [if_pos h, if_pos h', run_bind_ok (run_set s _), run_bind_ok (run_set (s.switched bus') _)]
    exact agree_notify (.dirty dirty) _ _ ⟨bus', rfl, hbus⟩
  · have h' : ¬ ((s.switched bus').config.dirty != dirty) = true := h
    rw [if_neg h, if_neg h']
    exact ⟨.ok rfl, bus', rfl, hbus⟩

theorem agree_requireClaim :
    Agree (Alongside observer timed alike) (Alongside observer timed alike) Eq
      (requireClaim : Action (Session σ τ) Unit) (requireClaim : Action (Session σ' τ) Unit) := by
  rintro s _ ⟨bus', rfl, hbus⟩
  rw [run_requireClaim, run_requireClaim]
  exact ⟨matching_eq_iff.mpr rfl, bus', rfl, hbus⟩

/-- A change of what the sessions have in common. -/
theorem agree_change {f : Session σ τ → Session σ τ} {f' : Session σ' τ → Session σ' τ}
    (hswitched : ∀ s bus', f' (s.switched bus') = (f s).switched bus')
    (hbus : ∀ s, (f s).bus = s.bus) :
    Agree (Alongside observer timed alike) (Alongside observer timed alike) Eq
      (modify f : Action (Session σ τ) PUnit) (modify f' : Action (Session σ' τ) PUnit) := by
  refine agree_modify ?_
  rintro s _ ⟨bus', rfl, h⟩
  refine ⟨bus', hswitched s bus', ?_⟩
  rw [hbus]
  exact h

end Rules

section Operations

variable [TimeScale τ] {observer : Observer} {timed versioned : Prop} {mouse : Mouse σ τ}
  {t' : Transport σ' τ} {alike : Option Bytes → σ → σ' → Prop}

theorem agree_commit (h : mouse.channel.transport.Alike timed versioned t' alike)
    (hobserver : observer.Indifferent mouse.channel.transport t' alike) (force : Bool) :
    Agree (Alongside observer timed alike) (Alongside observer timed alike) Eq (commit mouse force)
      (commit (mouse.switched t') force) := by
  refine agree_requireClaim.andThen (agree_get_bind ?_)
  rintro s _ ⟨bus', rfl, hbus⟩
  refine agree_ite Iff.rfl (fun _ ↦ ?_) (fun _ ↦ agree_pure rfl) s _ ⟨bus', rfl, hbus⟩
  refine Agree.andThen (agree_onBus (Channel.agree_push h hobserver s.config)) ?_
  refine Agree.andThen (agree_onBus (Bus.agree_record _)) ?_
  exact agree_setDirty false

/-- A call of the transport that hands nothing over. -/
theorem agree_calling {event : Except Fault α → Event τ} {step : σ → Reply σ τ α}
    {step' : σ' → Reply σ' τ α}
    (hstep : ∀ last device device', alike last device device' →
      Reply.Alike timed Eq (alike last) (step device) (step' device')) :
    Agree (Alongside observer timed alike) (Alongside observer timed alike) Eq
      (onBus (Bus.call event step))
      (onBus (Bus.call event step')) := by
  refine agree_onBus (Bus.agree_call ?_ fun outcome outcome' hmatch ↦ ?_)
  · rintro device device' ⟨last, hdevice⟩
    have hreply := hstep last device device' hdevice
    exact ⟨hreply.outcome, ⟨last, hreply.state⟩, hreply.elapsed⟩
  · rw [matching_eq_iff.mp hmatch]

theorem agree_opening (h : mouse.channel.transport.Alike timed versioned t' alike) :
    Agree (Alongside observer timed alike) (Alongside observer timed alike) Eq
      (onBus (opening mouse))
      (onBus (opening (mouse.switched t'))) :=
  agree_calling h.openDevice

theorem agree_closing (h : mouse.channel.transport.Alike timed versioned t' alike) :
    Agree (Alongside observer timed alike) (Alongside observer timed alike) Eq
      (onBus (closing mouse))
      (onBus (closing (mouse.switched t'))) :=
  agree_calling h.closeDevice

theorem agree_claim (h : mouse.channel.transport.Alike timed versioned t' alike) :
    Agree (Alongside observer timed alike) (Alongside observer timed alike) Eq (claim mouse)
      (claim (mouse.switched t')) := by
  have hlast : Agree (Alongside observer timed alike) (Alongside observer timed alike) Eq
      (do
        modify fun s ↦ { s with claims := s.claims + 1 }
        onBus (Bus.mark .claimed) : Action (Session σ τ) Unit)
      (do
        modify fun s ↦ { s with claims := s.claims + 1 }
        onBus (Bus.mark .claimed) : Action (Session σ' τ) Unit) := by
    refine Agree.andThen (agree_change (fun _ _ ↦ rfl) fun _ ↦ rfl) ?_
    exact agree_onBus (Bus.agree_record _)
  refine agree_get_bind ?_
  rintro s _ ⟨bus', rfl, hbus⟩
  obtain ⟨last, hdevice⟩ := hbus.device
  have hopen : mouse.channel.transport.isOpen s.bus.device = t'.isOpen bus'.device :=
    h.isOpen_eq last _ _ hdevice
  refine agree_ite ?_ (fun _ ↦ ?_) (fun _ ↦ hlast) s _ ⟨bus', rfl, hbus⟩
  · rw [hopen]
    exact Iff.rfl
  · refine Agree.andThen (agree_opening h) ?_
    refine Agree.andThen (agree_change (fun _ _ ↦ rfl) fun _ ↦ rfl) ?_
    exact hlast

theorem agree_release (h : mouse.channel.transport.Alike timed versioned t' alike) :
    Agree (Alongside observer timed alike) (Alongside observer timed alike) Eq (release mouse)
      (release (mouse.switched t')) := by
  refine agree_get_bind ?_
  rintro s _ ⟨bus', rfl, hbus⟩
  refine agree_ite Iff.rfl (fun _ ↦ agree_throw_bind _ _ _) (fun _ ↦ ?_) s _ ⟨bus', rfl, hbus⟩
  refine Agree.andThen (agree_set ⟨bus', rfl, hbus⟩) ?_
  refine Agree.andThen (agree_onBus (Bus.agree_record _)) ?_
  refine agree_ite Iff.rfl (fun _ ↦ ?_) fun _ ↦ agree_pure rfl
  exact (agree_closing h).andThen (agree_change (fun _ _ ↦ rfl) fun _ ↦ rfl)

theorem agree_claimed (h : mouse.channel.transport.Alike timed versioned t' alike)
    {same : α → α' → Prop} {body : Action (Session σ τ) α} {body' : Action (Session σ' τ) α'}
    (hbody : Agree (Alongside observer timed alike) (Alongside observer timed alike)
      same body body') :
    Agree (Alongside observer timed alike) (Alongside observer timed alike)
      same (claimed mouse body)
      (claimed (mouse.switched t') body') :=
  (agree_claim h).andThen (agree_ensuring hbody (agree_release h))

omit [TimeScale τ] in
theorem agree_checkFirmware :
    Agree (Alongside observer timed alike) (Alongside observer timed alike) Eq (checkFirmware mouse)
      (checkFirmware (mouse.switched t')) := by
  refine agree_get_bind ?_
  rintro s _ ⟨bus', rfl, hbus⟩
  refine agree_ite Iff.rfl (fun _ ↦ ?_) (fun _ ↦ agree_pure rfl) s _ ⟨bus', rfl, hbus⟩
  refine Agree.andThen (agree_onBus (Bus.agree_note _ _)) ?_
  exact agree_change (fun _ _ ↦ rfl) fun _ ↦ rfl

theorem agree_setUp (h : mouse.channel.transport.Alike timed versioned t' alike)
    (hobserver : observer.Indifferent mouse.channel.transport t' alike) (hversioned : versioned) :
    Agree (Alongside observer timed alike) (Alongside observer timed alike) Eq (setUp mouse)
      (setUp (mouse.switched t')) := by
  have hinitial : Agree (Alongside observer timed alike) (Alongside observer timed alike) Eq
      (initialCommit mouse)
      (initialCommit (mouse.switched t')) := by
    refine agree_tryCatch (agree_commit h hobserver true) (fun _ _ h ↦ h) fun fault ↦ ?_
    refine agree_ite Iff.rfl (fun _ ↦ ?_) fun _ ↦ agree_throw _
    exact (agree_onBus (Bus.agree_note _ _)).andThen (agree_throw _)
  have hbody : Agree (Alongside observer timed alike) (Alongside observer timed alike) Eq
      (probeAndCommit mouse)
      (probeAndCommit (mouse.switched t')) := by
    refine agree_bind (agree_onBus (Channel.agree_probe h hobserver hversioned mouse.probePolicy))
      (fun _ _ h ↦ h) ?_
    rintro version _ rfl
    refine Agree.andThen (agree_change (fun _ _ ↦ rfl) fun _ ↦ rfl) ?_
    refine Agree.andThen (agree_onBus (Bus.agree_record _)) ?_
    refine Agree.andThen agree_checkFirmware ?_
    refine Agree.andThen (agree_change (fun _ _ ↦ rfl) fun _ ↦ rfl) ?_
    exact hinitial
  have hannounce : Agree (Alongside observer timed alike) (Alongside observer timed alike) Eq
      (announce mouse)
      (announce (mouse.switched t')) := by
    refine Agree.andThen (agree_change (fun _ _ ↦ rfl) fun _ ↦ rfl) ?_
    refine agree_get_bind ?_
    rintro s _ ⟨bus', rfl, hbus⟩
    exact (agree_onBus (Bus.agree_note _ _)).andThen (agree_notify .initialized) s _
      ⟨bus', rfl, hbus⟩
  rw [setUp_eq, setUp_eq]
  exact (agree_claimed h hbody).andThen hannounce

/-- Two runs of one operation that differ in the bytes that were read, and in what was said of them
in the log and in reports of anomalies; if they are `timed`, in nothing else. -/
structure Coincide (timed : Prop) (r : Except Fault Unit × Session σ τ)
    (r' : Except Fault Unit × Session σ' τ) : Prop where
  outcome_eq : r'.1 = r.1
  /-- All but the line: the configuration with its dirty flag, claims, firmware version. -/
  session_eq : r'.2 = r.2.switched r'.2.bus
  observer_eq : r'.2.bus.anomalyObserver = r.2.bus.anomalyObserver
  written_eq : written r'.2.bus.trace = written r.2.bus.trace
  /-- The calls of the transport with their outcomes, milestones and reports of the dirty flag. -/
  outline_eq : outline r'.2.bus.trace = outline r.2.bus.trace
  clock_eq : timed → r'.2.bus.clock = r.2.bus.clock
  spacing_eq : timed → r'.2.bus.spacing = r.2.bus.spacing
  timeline_eq : timed → timeline r'.2.bus.trace = timeline r.2.bus.trace

omit [TimeScale τ] in
theorem coincide_of_ends {r : Except Fault Unit × Session σ τ}
    {r' : Except Fault Unit × Session σ' τ} (h : Ends (Alongside observer timed alike) Eq r r') :
    Coincide timed r r' := by
  obtain ⟨hmatch, bus', heq, hbus⟩ := h
  have hline : r'.2.bus = bus' := by
    rw [heq]
    rfl
  rw [← hline] at heq hbus
  constructor
  · exact (matching_eq_iff.mp hmatch).symm
  · exact heq
  · exact hbus.observer_eq'.trans hbus.observer_eq.symm
  · rw [written_eq_outline, written_eq_outline, hbus.outline_eq]
  · exact hbus.outline_eq
  · exact hbus.clock_eq
  · exact hbus.spacing_eq
  · exact hbus.timeline_eq

/-- The contents of answers do not steer a session. Assumes: another transport that replies like
that of the session from here on, but for the bytes of what is read, and an observer of anomalies
who makes the same of what either answers. Then a commit, forced or not, comes to the same on both,
whatever state the session is in. So does a set-up if whole answers to the firmware query agree on
bytes 8 and 9. -/
theorem coincide_of_alike (mouse : Mouse σ τ) (t' : Transport σ' τ)
    (alike : Option Bytes → σ → σ' → Prop)
    (halike : mouse.channel.transport.Alike timed versioned t' alike) (s : Session σ τ)
    (device' : σ') (last : Option Bytes) (hdevice : alike last s.bus.device device')
    (hobserver : s.bus.anomalyObserver.Indifferent mouse.channel.transport t' alike) :
    let s' := s.switched (s.bus.switched device')
    (∀ force, Coincide timed ((commit mouse force).run s)
      ((commit (mouse.switched t') force).run s')) ∧
    (versioned → Coincide timed ((setUp mouse).run s) ((setUp (mouse.switched t')).run s')) := by
  intro s'
  have hstart : Alongside s.bus.anomalyObserver timed alike s s' :=
    ⟨_, rfl, ⟨last, hdevice⟩, rfl, rfl, rfl, fun _ ↦ rfl, fun _ ↦ rfl, fun _ ↦ rfl⟩
  constructor
  · exact fun force ↦ coincide_of_ends (agree_commit halike hobserver force s s' hstart)
  · exact fun hversioned ↦ coincide_of_ends (agree_setUp halike hobserver hversioned s s' hstart)

/-- A mouse that answers with a bad status, and a checksum that does not fit it, is set up like one
that answers with a good one; the same holds of a commit. -/
theorem coincide_of_status :
    let model := Model.forPid Model.known Protocol.epicPid
    let mouse := replayed model
    let answer : Bytes := (List.replicate 90 0).set 8 1
    let device : Replay := { reads := [.ok answer, .error (.reported .transfer ""), .ok answer] }
    let s := after mouse (start model (recorded device)) [.claim]
    let s' := s.switched (s.bus.switched (s.bus.device.changed (List.set · 0 9)))
    (∀ force, Coincide True ((commit mouse force).run s) ((commit mouse force).run s')) ∧
      Coincide True ((setUp mouse).run s) ((setUp mouse).run s') := by
  intro model mouse answer device s s'
  have hlength (data : Bytes) : (data.set 0 9).length = data.length := List.length_set
  have hversion (data : Bytes) : ((data.set 0 9).drop 8).take 2 = (data.drop 8).take 2 := by
    rw [List.drop_set_of_lt (Nat.zero_lt_succ 7)]
  have hquiet : s.bus.anomalyObserver.Quiet := fun _ ↦ rfl
  obtain ⟨hcommit, hsetUp⟩ :=
    coincide_of_alike mouse Replay.transport _ (Replay.alike_changed hlength hversion) s _ none rfl
      (hquiet.indifferent _ _ _)
  exact ⟨hcommit, hsetUp trivial⟩

/-- An observer who fails over a bad status parts two transports that differ in that byte alone: a
commit hands over all four frames and cleans the configuration where the status is good, and stops
after the first frame where it is not. -/
theorem parted_by_failing_observer :
    let model := Model.forPid Model.known Protocol.classicPid
    let mouse := replayed model
    let bus := recorded { reads := [.ok (List.replicate 90 0)] }
    let observer := Observer.failing (.reported .lookup "observer")
    let s := after mouse (start model { bus with anomalyObserver := observer }) [.claim]
    let s' := s.switched (s.bus.switched (s.bus.device.changed (List.set · 0 9)))
    let r := (commit mouse false).run s
    let r' := (commit mouse false).run s'
    mouse.channel.transport.Alike True True Replay.transport
        (fun _ device device' ↦ device' = device.changed (List.set · 0 9)) ∧
      r.1.mapError Fault.kind = .ok () ∧ (written r.2.bus.trace).length = 4 ∧
      r.2.config.dirty = false ∧
      r'.1.mapError Fault.kind = .error .lookup ∧ (written r'.2.bus.trace).length = 1 ∧
      r'.2.config.dirty = true := by
  intro model mouse bus observer s s' r r'
  refine ⟨Replay.alike_changed (fun _ ↦ List.length_set) fun data ↦ ?_, ?_⟩
  · rw [List.drop_set_of_lt (Nat.zero_lt_succ 7)]
  · decide +kernel

end Operations

end Session

end MouseControl
