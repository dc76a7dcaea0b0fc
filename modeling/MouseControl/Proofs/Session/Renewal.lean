import MouseControl.Proofs.Command.Echo
import MouseControl.Proofs.Session.Alike
import MouseControl.Proofs.Session.SettingUp

/-!
What a set-up keeps of the past. Two sessions of one model are set up over devices that answer
transfers the same, whatever each of them did before. If the transport neither fails to open nor to
close, each set-up is a claim, the work under it, a release and an announcement
(`exists_run_setUp`), of which only the work makes transfers, and it does so in the same way on both
(`parallel_probeAndCommit`). So the same data is handed over and the same settings are left behind
(`sameRenewal_of_echoes`): nothing pending reaches the device or outlasts a set-up.
-/

set_option autoImplicit false
set_option relaxedAutoImplicit false

namespace MouseControl

open MouseControl.Action

variable {σ σ' τ α : Type}

theorem eq_ok_of_toOption {outcome : Except Fault α} {a : α} (h : outcome.toOption = some a) :
    outcome = .ok a := by
  cases outcome with
  | error fault => cases h
  | ok b => exact congrArg Except.ok (Option.some.inj h)

/-- The fault of an outcome, if it is one. -/
def faultOf : Except Fault α → Option Fault
  | .ok _ => none
  | .error fault => some fault

/-- The fault with which the transport failed to open or to close. -/
def Event.mishap? : Event τ → Option Fault
  | .opened outcome | .closed outcome => faultOf outcome
  | _ => none

theorem Event.passesOver_mishap : PassesOver (Event.mishap? : Event τ → Option Fault) where
  paused _ _ := rfl
  wrote _ _ := rfl
  read _ _ := rfl
  anomalyReported _ := rfl

namespace Replay

/-- The same outcomes of transfers are still to come. -/
def SameAnswers (device device' : Replay) : Prop :=
  device'.writes = device.writes ∧ device'.reads = device.reads

theorem echoes_transport [TimeScale τ] :
    (transport : Transport Replay τ).Echoes transport SameAnswers := by
  constructor
  · rintro call device device' ⟨hwrites, hreads⟩
    refine ⟨?_, ⟨congrArg List.tail hwrites, hreads⟩, fun _ ↦ rfl⟩
    simp only [transport, hwrites]
    exact matching_eq_iff.mpr rfl
  · rintro call device device' ⟨hwrites, hreads⟩
    refine ⟨?_, ⟨hwrites, congrArg List.tail hreads⟩, fun _ ↦ rfl⟩
    simp only [transport, hreads]
    exact matching_eq_iff.mpr rfl

end Replay

namespace Session

/-! ### Claims and releases without mishap -/

section Calm

variable [TimeScale τ] (mouse : Mouse σ τ)

/-- A claim fails if the transport does not open. -/
theorem mishaps_claim (s : Session σ τ) :
    extract Event.mishap? ((claim mouse).run s).2.bus.trace =
      extract Event.mishap? s.bus.trace ++ (faultOf ((claim mouse).run s).1).toList := by
  have hmark (bus : Bus σ τ) : extract Event.mishap? ((Bus.mark .claimed).run bus).2.trace =
      extract Event.mishap? bus.trace :=
    (Bus.extract_record _ bus).trans (List.append_nil _)
  have hopened : extract Event.mishap? ((opening mouse).run s.bus).2.trace =
      extract Event.mishap? s.bus.trace ++ (faultOf ((opening mouse).run s.bus).1).toList :=
    extract_concat Event.mishap? s.bus.trace _
  rw [run_claim]
  split_ifs
  · rcases hrun : (opening mouse).run s.bus with ⟨fault | _, bus⟩
    all_goals rw [hrun] at hopened
    · exact hopened
    · exact (hmark bus).trans hopened
  · exact (hmark s.bus).trans (List.append_nil _).symm

/-- A release of a claim fails if the transport does not close. -/
theorem mishaps_release {s : Session σ τ} (hclaims : 0 < s.claims) :
    extract Event.mishap? ((release mouse).run s).2.bus.trace =
      extract Event.mishap? s.bus.trace ++ (faultOf ((release mouse).run s).1).toList := by
  have hdropped : extract Event.mishap? s.dropped.bus.trace = extract Event.mishap? s.bus.trace :=
    (Bus.extract_record _ s.bus).trans (List.append_nil _)
  have hclosed : extract Event.mishap? ((closing mouse).run s.dropped.bus).2.trace =
      extract Event.mishap? s.dropped.bus.trace ++
        (faultOf ((closing mouse).run s.dropped.bus).1).toList :=
    extract_concat Event.mishap? s.dropped.bus.trace _
  rw [run_release, if_neg (Nat.ne_of_gt hclaims)]
  split_ifs
  · rcases hrun : (closing mouse).run s.dropped.bus with ⟨fault | _, bus⟩
    all_goals
      rw [hrun, hdropped] at hclosed
      exact hclosed
  · exact hdropped.trans (List.append_nil _).symm

theorem omits_probeAndCommit :
    Keeps (OnLine (Bus.Omits Event.mishap?)) (probeAndCommit mouse) := by
  have hmoves := mouse.channel.movesAlong_omits Event.passesOver_mishap
  have hnarrating : Bus.Narrating (Bus.Omits Event.mishap? : Bus σ τ → Bus σ τ → Prop) :=
    { note := fun _ _ _ ↦ rfl
      mark := fun _ _ ↦ Bus.omits_of_concat rfl rfl
      dirty := fun _ _ ↦ Bus.omits_of_concat rfl rfl }
  exact keeps_onLine_probeAndCommit hnarrating hmoves.pushes (hmoves.probes mouse.probePolicy)

/-- A set-up in which the transport does not fail to open or to close. -/
theorem exists_run_setUp {s : Session σ τ}
    (hcalm : s.bus.Omits Event.mishap? ((setUp mouse).run s).2.bus) :
    ∃ t v, (claim mouse).run s = (.ok (), t) ∧
      (release mouse).run ((probeAndCommit mouse).run t).2 = (.ok (), v) ∧
      (setUp mouse).run s =
        match ((probeAndCommit mouse).run t).1 with
        | .ok _ => (announce mouse).run v
        | .error fault => (.error fault, v) := by
  -- A claim or a release that fails leaves a mishap at the end of the trace, and the set-up fails
  -- with it at once, so it would be among what the whole set-up adds.
  have hclaimed := mishaps_claim mouse s
  have hsetUp : setUp mouse = (working mouse >>= fun _ ↦ announce mouse) := setUp_eq mouse
  rcases hclaim : (claim mouse).run s with ⟨fault | _, t⟩
  all_goals rw [hclaim] at hclaimed
  · have hworking : (working mouse).run s = (.error fault, t) := run_bind_error hclaim
    rw [hsetUp, run_bind_error hworking, Bus.Omits, hclaimed] at hcalm
    simp [faultOf] at hcalm
  have hbody : t.bus.Omits Event.mishap? ((probeAndCommit mouse).run t).2.bus :=
    omits_probeAndCommit mouse t
  have hstanding := (worked_probeAndCommit mouse (claims_of_claim hclaim)).sameStanding
  have hheld : 0 < ((probeAndCommit mouse).run t).2.claims :=
    hstanding.claims_eq ▸ claims_of_claim hclaim
  have hreleased := mishaps_release mouse hheld
  have hworking : (working mouse).run s = ((probeAndCommit mouse).ensuring (release mouse)).run t :=
    run_bind_ok hclaim
  rw [run_ensuring] at hworking
  rcases hrelease : (release mouse).run ((probeAndCommit mouse).run t).2 with ⟨fault | _, v⟩
  all_goals rw [hrelease] at hreleased hworking
  · rw [hsetUp, run_bind_error hworking, Bus.Omits, hreleased, hbody, hclaimed] at hcalm
    simp [faultOf] at hcalm
  refine ⟨t, v, rfl, hrelease, ?_⟩
  rw [hsetUp, run_bind, hworking]
  rcases ((probeAndCommit mouse).run t).1 with fault | _
  · rfl
  · rfl

/-- What comes of a set-up whose work under the claim comes to `r`: what follows the work makes no
transfer and leaves the settings alone, and a success is told to an observer. -/
structure Follows (observer : Observer) (r whole : Except Fault Unit × Session σ τ) : Prop where
  written_eq : written whole.2.bus.trace = written r.2.bus.trace
  config_eq : whole.2.config = r.2.config
  firmware_eq : whole.2.firmware = r.2.firmware
  outcome_eq : whole.1 = r.1.bind fun _ ↦ observer.verdict .initialized

omit [TimeScale τ] in
theorem Follows.ok {observer : Observer} {r whole : Except Fault Unit × Session σ τ}
    (h : Follows observer r whole) (hwhole : whole.1 = .ok ()) : r.1 = .ok () := by
  have houtcome := h.outcome_eq
  rw [hwhole] at houtcome
  rcases r with ⟨fault | _, t⟩
  · cases houtcome
  · rfl

theorem follows_setUp {s : Session σ τ}
    (hcalm : s.bus.Omits Event.mishap? ((setUp mouse).run s).2.bus) :
    ∃ t, (claim mouse).run s = (.ok (), t) ∧
      Follows s.observer ((probeAndCommit mouse).run t) ((setUp mouse).run s) := by
  obtain ⟨t, v, hclaim, hrelease, hrun⟩ := exists_run_setUp mouse hcalm
  refine ⟨t, hclaim, ?_⟩
  have hclaimed := sameRecord_claim mouse s
  have hworked := (worked_probeAndCommit mouse (claims_of_claim hclaim)).sameStanding
  rcases hbody : (probeAndCommit mouse).run t with ⟨outcome, u⟩
  rw [hbody] at hrelease hrun hworked
  have hreleased := sameRecord_release mouse u
  have hsilent := (Reclaims.release mouse u).silent
  rw [hrelease] at hreleased hsilent
  rw [hclaim] at hclaimed
  rw [hrun]
  rcases outcome with fault | _
  · exact ⟨hsilent.written_eq, hreleased.config_eq, hreleased.firmware_eq, rfl⟩
  · have hobserver : v.observer = s.observer :=
      hreleased.observer_eq.trans (hworked.observer_eq.trans hclaimed.observer_eq)
    have htold (noted : Bus σ τ) := (Bus.records_report v.observer .initialized noted).silent
    dsimp only
    rw [run_announce]
    refine ⟨?_, hreleased.config_eq, hreleased.firmware_eq, ?_⟩
    · exact (htold _).written_eq.trans hsilent.written_eq
    · rw [hobserver]
      rfl

end Calm

/-! ### The work in parallel -/

/-- Two sessions on paired lines that hold claims. -/
structure Paired (same : σ → σ' → Prop) (before before' : List Bytes) (s : Session σ τ)
    (s' : Session σ' τ) : Prop where
  line : s.bus.Paired same before before' s'.bus
  claimed : 0 < s.claims
  claimed' : 0 < s'.claims

/-- Two operations that end on paired lines. If their observers are of `oneMind`, they have the same
outcome, and whenever both succeed they leave the same settings behind. -/
structure Parallel (same : σ → σ' → Prop) (before before' : List Bytes) (oneMind : Prop)
    (r : Except Fault Unit × Session σ τ) (r' : Except Fault Unit × Session σ' τ) : Prop where
  line : r.2.bus.Paired same before before' r'.2.bus
  outcome_eq : oneMind → r'.1 = r.1
  config_eq : r.1 = .ok () → r'.1 = .ok () → r'.2.config = r.2.config
  firmware_eq : r.1 = .ok () → r'.1 = .ok () → r'.2.firmware = r.2.firmware

variable [TimeScale τ] {mouse : Mouse σ τ} {t' : Transport σ' τ} {same : σ → σ' → Prop}
  {before before' : List Bytes} {s : Session σ τ} {s' : Session σ' τ}

/-- Forced commits of the same configuration push it in parallel. -/
theorem parallel_commit (hechoes : mouse.channel.transport.Echoes t' same)
    (h : s.Paired same before before' s') (hdirty : s.config.dirty = true)
    (hconfig : s'.config = s.config) (hfirmware : s'.firmware = s.firmware) :
    Parallel same before before'
      (s'.observer.verdict (.dirty false) = s.observer.verdict (.dirty false))
      ((commit mouse true).run s) ((commit (mouse.switched t') true).run s') := by
  obtain ⟨hmatch, hline⟩ := Channel.agree_push_of_echoes hechoes s.config s.bus s'.bus h.line
  have hrun := run_forcedCommit mouse h.claimed hdirty
  have hrun' := run_forcedCommit (mouse.switched t') h.claimed' (hconfig ▸ hdirty)
  have hchannel : (mouse.switched t').channel = mouse.channel.switched t' := rfl
  rw [hchannel, hconfig] at hrun'
  rw [hrun, hrun']
  -- The observers of the sessions may differ, but they are told only after the whole push.
  have hmark {σ₁ : Type} (observer : Observer) (bus : Bus σ₁ τ) :
      bus.Still ((Bus.report observer (.dirty false)).run
        ((Bus.mark .pushed).run bus).2).2 :=
    trans_of Bus.Still (Bus.records_record rfl bus).still
      (Bus.records_report observer _ _).still
  rcases hpush : (mouse.channel.push s.config).run s.bus with ⟨outcome, bus⟩
  rcases hpush' : ((mouse.channel.switched t').push s.config).run s'.bus with ⟨outcome', bus'⟩
  rw [hpush, hpush'] at hmatch hline
  rcases hmatch with hsame | fault
  · exact ⟨hline.still (hmark _ bus) (hmark _ bus'), id, fun _ _ ↦ rfl, fun _ _ ↦ hfirmware⟩
  · exact ⟨hline, fun _ ↦ rfl, nofun, nofun⟩

/-- What is noted of failures is noted on each line by itself. -/
theorem Parallel.initialCommit {oneMind : Prop}
    (h : Parallel same before before' oneMind ((commit mouse true).run s)
      ((commit (mouse.switched t') true).run s')) :
    Parallel same before before' oneMind ((initialCommit mouse).run s)
      ((initialCommit (mouse.switched t')).run s') := by
  obtain ⟨houtcome, bus, hstate, hnoted⟩ := quietly_initialCommit mouse s
  obtain ⟨houtcome', bus', hstate', hnoted'⟩ := quietly_initialCommit (mouse.switched t') s'
  constructor
  · rw [hstate, hstate']
    exact h.line.still hnoted.still hnoted'.still
  · rw [houtcome, houtcome']
    exact h.outcome_eq
  · rw [houtcome, houtcome', hstate, hstate']
    exact h.config_eq
  · rw [houtcome, houtcome', hstate, hstate']
    exact h.firmware_eq

omit [TimeScale τ] in
/-- Two sessions that start over from the defaults with one version of the firmware. -/
theorem Paired.refreshed (h : s.Paired same before before' s') (version : Int) :
    Paired same before before' (refreshed mouse version s)
      (Session.refreshed (mouse.switched t') version s') := by
  have hstill {σ₁ : Type} (mouse : Mouse σ₁ τ) (s : Session σ₁ τ) :
      s.bus.Still (Session.refreshed mouse version s).bus := by
    have hmark : s.bus.Still ((Bus.mark (.firmwareRead version)).run s.bus).2 :=
      (Bus.records_record rfl s.bus).still
    rw [Session.refreshed, checked]
    split
    · exact trans_of Bus.Still hmark (Bus.records_note _ _).still
    · exact hmark
  refine ⟨h.line.still (hstill mouse s) (hstill (mouse.switched t') s'), ?_, ?_⟩
  · rw [(sameStanding_refreshed mouse version s).claims_eq]
    exact h.claimed
  · rw [(sameStanding_refreshed (mouse.switched t') version s').claims_eq]
    exact h.claimed'

theorem parallel_probeAndCommit (hechoes : mouse.channel.transport.Echoes t' same)
    (h : s.Paired same before before' s') :
    Parallel same before before'
      (s'.observer.verdict (.dirty false) = s.observer.verdict (.dirty false))
      ((probeAndCommit mouse).run s) ((probeAndCommit (mouse.switched t')).run s') := by
  obtain ⟨hmatch, hline⟩ :=
    Channel.agree_probe_of_echoes hechoes mouse.probePolicy s.bus s'.bus h.line
  have hchannel : (mouse.switched t').channel = mouse.channel.switched t' := rfl
  have hpolicy : (mouse.switched t').probePolicy = mouse.probePolicy := rfl
  rw [run_probeAndCommit, run_probeAndCommit, hchannel, hpolicy]
  rcases hprobe : (mouse.channel.probe mouse.probePolicy).run s.bus with ⟨outcome, bus⟩
  rcases hprobe' : ((mouse.channel.switched t').probe mouse.probePolicy).run s'.bus with
    ⟨outcome', bus'⟩
  rw [hprobe, hprobe'] at hmatch hline
  cases hmatch with
  | error fault => exact ⟨hline, fun _ ↦ rfl, nofun, nofun⟩
  | @ok version _ hsame =>
    subst hsame
    have hread : Paired same before before' { s with bus := bus } { s' with bus := bus' } :=
      ⟨hline, h.claimed, h.claimed'⟩
    have hfirmware : (refreshed (mouse.switched t') version { s' with bus := bus' }).firmware =
        (refreshed mouse version { s with bus := bus }).firmware := by
      rw [firmware_refreshed, firmware_refreshed]
    have hcommit := parallel_commit hechoes (hread.refreshed version) rfl rfl hfirmware
    rw [(sameStanding_refreshed mouse version _).observer_eq,
      (sameStanding_refreshed (mouse.switched t') version _).observer_eq] at hcommit
    exact hcommit.initialCommit

/-! ### Renewal -/

/-- Two set-ups that hand over the same data. If their observers are of `oneMind`, they succeed or
fail alike; and if both succeed, they leave the same configuration, dirty flag included, and the
same firmware version. -/
structure SameRenewal (oneMind : Prop) (s : Session σ τ) (r : Except Fault Unit × Session σ τ)
    (s' : Session σ' τ) (r' : Except Fault Unit × Session σ' τ) : Prop where
  written_eq : ∃ frames, written r.2.bus.trace = written s.bus.trace ++ frames ∧
    written r'.2.bus.trace = written s'.bus.trace ++ frames
  outcome_eq : oneMind → r'.1 = r.1
  config_eq : r.1 = .ok () → r'.1 = .ok () → r'.2.config = r.2.config
  firmware_eq : r.1 = .ok () → r'.1 = .ok () → r'.2.firmware = r.2.firmware

/-- A set-up forgets the past. Assumes: two sessions of one model and with one tuning, whatever
state each of them is in; devices that, once each session has its claim, give the same outcome to
the same transfers; observers of anomalies of one mind; and a transport that fails neither to open
nor to close in either set-up. Then both hand over the same data, whatever was pending, and come to
the same if the observers of the sessions are of one mind about what they hear. -/
theorem sameRenewal_of_echoes (mouse : Mouse σ τ) (t' : Transport σ' τ) (same : σ → σ' → Prop)
    (hechoes : mouse.channel.transport.Echoes t' same) (s : Session σ τ) (s' : Session σ' τ)
    (hdevice : same ((claim mouse).run s).2.bus.device
      ((claim (mouse.switched t')).run s').2.bus.device)
    (hanomaly : ∀ a, s'.bus.anomalyObserver.verdict (.anomaly a) =
      s.bus.anomalyObserver.verdict (.anomaly a))
    (hcalm : s.bus.Omits Event.mishap? ((setUp mouse).run s).2.bus)
    (hcalm' : s'.bus.Omits Event.mishap? ((setUp (mouse.switched t')).run s').2.bus) :
    SameRenewal (∀ r ∈ [Report.dirty false, .initialized],
        s'.observer.verdict r = s.observer.verdict r)
      s ((setUp mouse).run s) s' ((setUp (mouse.switched t')).run s') := by
  obtain ⟨t, hclaim, hfollows⟩ := follows_setUp mouse hcalm
  obtain ⟨u, hclaim', hfollows'⟩ := follows_setUp (mouse.switched t') hcalm'
  have hsilent := (Reclaims.claim mouse s).silent
  have hsilent' := (Reclaims.claim (mouse.switched t') s').silent
  have hkept := sameRecord_claim mouse s
  have hkept' := sameRecord_claim (mouse.switched t') s'
  rw [hclaim] at hdevice hsilent hkept
  rw [hclaim'] at hdevice hsilent' hkept'
  -- From here on what either session did before is only what `before` and `before'` stand for.
  have hstart : Paired same (written s.bus.trace) (written s'.bus.trace) t u := by
    refine ⟨⟨hdevice, ?_, [], ?_, ?_⟩, claims_of_claim hclaim, claims_of_claim hclaim'⟩
    · rw [hsilent.observer_eq, hsilent'.observer_eq]
      exact hanomaly
    · rw [hsilent.written_eq, List.append_nil]
    · rw [hsilent'.written_eq, List.append_nil]
  have hwork := parallel_probeAndCommit hechoes hstart
  rw [hkept.observer_eq, hkept'.observer_eq] at hwork
  constructor
  · obtain ⟨frames, hwritten, hwritten'⟩ := hwork.line.written_eq
    exact ⟨frames, hfollows.written_eq.trans hwritten, hfollows'.written_eq.trans hwritten'⟩
  · intro hverdict
    have hdirty := hverdict (.dirty false) (.head _)
    have hinitialized := hverdict .initialized (.tail _ (.head _))
    rw [hfollows.outcome_eq, hfollows'.outcome_eq, hwork.outcome_eq hdirty, hinitialized]
  · intro hok hok'
    rw [hfollows.config_eq, hfollows'.config_eq]
    exact hwork.config_eq (hfollows.ok hok) (hfollows'.ok hok')
  · intro hok hok'
    rw [hfollows.firmware_eq, hfollows'.firmware_eq]
    exact hwork.firmware_eq (hfollows.ok hok) (hfollows'.ok hok')

/-- A session with a changed frequency pending, after an earlier set-up and under a claim, is set up
like a fresh one. -/
theorem sameRenewal_of_recording :
    let model := Model.forPid Model.known Protocol.classicPid
    let mouse := replayed model
    let blank : Bytes := List.replicate 90 0
    let answer := blank.set 8 1
    let s := start model (recorded { reads := [.ok answer] })
    let past : List (Except Fault Bytes) := .ok answer :: List.replicate 4 (.ok blank)
    let s' := after mouse (start model (recorded { reads := past ++ [.ok answer] }))
      [.setUp, .claim, .setFrequency (.frequency .hz500)]
    s'.config.dirty = true ∧ ((setUp mouse).run s).1.toOption = some () ∧
      Replay.SameAnswers ((claim mouse).run s).2.bus.device ((claim mouse).run s').2.bus.device ∧
      s.bus.Omits Event.mishap? ((setUp mouse).run s).2.bus ∧
      s'.bus.Omits Event.mishap? ((setUp mouse).run s').2.bus ∧
      SameRenewal (∀ r ∈ [Report.dirty false, .initialized],
          s'.observer.verdict r = s.observer.verdict r)
        s ((setUp mouse).run s) s' ((setUp mouse).run s') := by
  intro model mouse blank answer s past s'
  have hreads (d : Replay) (h : d.reads.map Except.toOption = [some answer]) :
      d.reads = [.ok answer] := by
    obtain ⟨first, rest, heq, hfirst, hrest⟩ := List.map_eq_cons_iff.mp h
    rw [heq, eq_ok_of_toOption hfirst, List.map_eq_nil_iff.mp hrest]
  have hwrites (d : Replay) (h : d.writes.map Except.toOption = []) : d.writes = [] :=
    List.map_eq_nil_iff.mp h
  have hdevice : Replay.SameAnswers ((claim mouse).run s).2.bus.device
      ((claim mouse).run s').2.bus.device := by
    constructor
    · rw [hwrites _ (by decide +kernel), hwrites _ (by decide +kernel)]
    · rw [hreads _ (by decide +kernel), hreads _ (by decide +kernel)]
  have hanomaly (a : Anomaly) : s'.bus.anomalyObserver.verdict (.anomaly a) =
      s.bus.anomalyObserver.verdict (.anomaly a) := by
    have habsent : s'.bus.anomalyObserver matches .absent := by decide +kernel
    rcases hobserver : s'.bus.anomalyObserver with _ | verdict
    · rfl
    · rw [hobserver] at habsent
      cases habsent
  have hnone (bus : Bus Replay Rat) (h : (extract Event.mishap? bus.trace).isEmpty = true) :
      extract Event.mishap? bus.trace = [] := List.isEmpty_iff.mp h
  have hcalm : s.bus.Omits Event.mishap? ((setUp mouse).run s).2.bus := by
    rw [Bus.Omits, hnone _ (by decide +kernel), hnone _ (by decide +kernel)]
  have hcalm' : s'.bus.Omits Event.mishap? ((setUp mouse).run s').2.bus := by
    rw [Bus.Omits, hnone _ (by decide +kernel), hnone _ (by decide +kernel)]
  have hrenewal := sameRenewal_of_echoes mouse Replay.transport Replay.SameAnswers
    Replay.echoes_transport s s'
  have hmouse : mouse.switched Replay.transport = mouse := rfl
  rw [hmouse] at hrenewal
  exact ⟨by decide +kernel, by decide +kernel, hdevice, hcalm, hcalm',
    hrenewal hdevice hanomaly hcalm hcalm'⟩

/-- An observer who fails is no part of the device's answers: one of the session makes a set-up fail
that succeeds without it, and one of anomalies keeps frames from being sent. -/
theorem apart_by_failing_observers :
    let mouse := replayed (Model.forPid Model.known Protocol.classicPid)
    let blank : Bytes := List.replicate 90 0
    let bus := recorded { reads := [.ok ((blank.set 0 3).set 8 1)] }
    let fault := Fault.reported .lookup "observer"
    let s := start mouse.model bus
    let heard := after mouse s [.observe (.failing fault)]
    let alarmed := start mouse.model { bus with anomalyObserver := .failing fault }
    (∀ t ∈ [s, heard, alarmed],
      (extract Event.mishap? ((setUp mouse).run t).2.bus.trace).isEmpty = true) ∧
      ((setUp mouse).run s).1.toOption = some () ∧
      ((setUp mouse).run heard).1.toOption = none ∧
      written ((setUp mouse).run alarmed).2.bus.trace ≠
        written ((setUp mouse).run s).2.bus.trace := by
  decide +kernel

end Session

end MouseControl
