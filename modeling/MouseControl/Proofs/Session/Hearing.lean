import Mathlib.Data.List.Chain
import MouseControl.Proofs.Session.History

/-!
What an observer knows of the dirty flag. A fresh configuration is dirty, and an observer who was
there from the start takes it for dirty until told otherwise (`belief`). `Heard` lets the history of
a configuration and the reports of its flag grow side by side: an amendment and a whole push are
told if they change the flag, and the defaults of a set-up, which are dirty, are never told. So an
observer who only listens is told the truth, turn by turn, exactly as long as no set-up starts over
from a clean configuration (`faithful_of_reachable`, `stale_of_failing_setUp`).
-/

set_option autoImplicit false
set_option relaxedAutoImplicit false

namespace MouseControl

open MouseControl.Action

variable {σ τ α : Type}

/-! ### Reports -/

/-- What an event reports of the dirty flag. -/
def Event.dirtiness? : Event τ → Option Bool
  | .dirtyReported dirty => some dirty
  | _ => none

/-- The reports of the dirty flag, in order. -/
def reports (trace : List (Entry τ)) : List Bool := extract Event.dirtiness? trace

/-- What the reports leave an observer to believe of a flag that was set at first. -/
def belief (told : List Bool) : Bool := told.getLast?.getD true

/-- Reports are faithful to a flag that was set at first: the latest one tells what the flag is, and
each tells a change. -/
structure Faithful (told : List Bool) (dirty : Bool) : Prop where
  belief_eq : belief told = dirty
  alternating : (true :: told).IsChain (· ≠ ·)

/-- The report of a flag that is set to a value. -/
def news (before after : Bool) : List Bool := if before = after then [] else [after]

/-- No firmware version was read while everything was pushed: every set-up that got past its probe
found a dirty configuration. -/
def RenewedDirty (told : List Milestone) : Prop :=
  told.IsChain fun first second ↦ first = .pushed → ∀ version, second ≠ .firmwareRead version

theorem isChain_concat {β : Type} {rel : β → β → Prop} {list : List β} {b : β} :
    (list ++ [b]).IsChain rel ↔ list.IsChain rel ∧ ∀ a, list.getLast? = some a → rel a b := by
  simp [List.isChain_append]

theorem isChain_told_concat {told : List Bool} {dirty : Bool} :
    (true :: (told ++ [dirty])).IsChain (· ≠ ·) ↔
      (true :: told).IsChain (· ≠ ·) ∧ belief told ≠ dirty := by
  rw [← List.cons_append, isChain_concat, List.getLast?_cons]
  simp [belief]

/-- News keep reports as faithful as they were. -/
theorem faithful_news_iff {told : List Bool} {before after : Bool} :
    Faithful (told ++ news before after) after ↔ Faithful told before := by
  by_cases h : before = after
  · simp [news, h]
  · have hlast : belief (told ++ [after]) = after := by simp [belief]
    have hother : belief told ≠ after ↔ belief told = before := by
      revert h
      cases belief told <;> cases before <;> cases after <;> decide
    rw [news, if_neg h]
    constructor
    · intro hfaithful
      obtain ⟨hchain, hchange⟩ := isChain_told_concat.mp hfaithful.alternating
      exact ⟨hother.mp hchange, hchain⟩
    · intro hfaithful
      exact ⟨hlast, isChain_told_concat.mpr ⟨hfaithful.alternating, hother.mpr hfaithful.belief_eq⟩⟩

/-- The history of a configuration, the reports of its dirty flag, and the flag, step by step. -/
inductive Heard : List Milestone → List Bool → Bool → Prop
  | fresh : Heard [] [] true
  | amended {past : List Milestone} {told : List Bool} {dirty : Bool} (h : Heard past told dirty) :
      Heard (past ++ [.amended]) (told ++ news dirty true) true
  | pushed {past : List Milestone} {told : List Bool} {dirty : Bool} (h : Heard past told dirty) :
      Heard (past ++ [.pushed]) (told ++ news dirty false) false
  | renewed {past : List Milestone} {told : List Bool} {dirty : Bool} (h : Heard past told dirty)
      (version : Int) : Heard (past ++ [.firmwareRead version]) told true

namespace Heard

variable {past : List Milestone} {told : List Bool} {dirty : Bool}

theorem clean_iff (h : Heard past told dirty) :
    dirty = false ↔ past.getLast? = some .pushed := by
  cases h <;> simp

/-- A clean configuration is known to be clean. -/
theorem belief_of_clean (h : Heard past told dirty) : dirty = false → belief told = false := by
  induction h with
  | fresh => simp
  | amended => simp
  | renewed => simp
  | @pushed past told dirty h ih =>
    intro _
    by_cases hdirty : dirty = false
    · simpa [news, hdirty] using ih hdirty
    · simp [news, hdirty, belief]

/-- The reports are faithful exactly if every set-up found a dirty configuration. -/
theorem faithful_iff (h : Heard past told dirty) : Faithful told dirty ↔ RenewedDirty past := by
  induction h with
  | fresh => exact iff_of_true ⟨rfl, .singleton _⟩ .nil
  | amended h ih =>
    rw [faithful_news_iff, ih, RenewedDirty, RenewedDirty, isChain_concat]
    simp
  | pushed h ih =>
    rw [faithful_news_iff, ih, RenewedDirty, RenewedDirty, isChain_concat]
    simp
  | @renewed past told dirty h version ih =>
    rw [RenewedDirty, isChain_concat]
    cases dirty with
    | true =>
      have hlast : past.getLast? ≠ some .pushed := by simp [← h.clean_iff]
      rw [ih, RenewedDirty]
      refine (and_iff_left ?_).symm
      rintro _ heq rfl
      exact absurd heq hlast
    | false =>
      have hstale : belief told = false := h.belief_of_clean rfl
      refine iff_of_false (fun hfaithful ↦ ?_) fun hchain ↦ ?_
      · simpa [hstale] using hfaithful.belief_eq
      · exact hchain.2 _ (h.clean_iff.mp rfl) rfl version rfl

end Heard

theorem Event.passesOver_dirtiness : PassesOver (Event.dirtiness? : Event τ → Option Bool) where
  paused _ _ := rfl
  wrote _ _ := rfl
  read _ _ := rfl
  anomalyReported _ := rfl

namespace Session

/-! ### Steps -/

/-- Someone hears, and has heard what became of the configuration. -/
def Attended (s : Session σ τ) : Prop :=
  s.observer ≠ .absent ∧ Heard (history s.bus.trace) (reports s.bus.trace) s.config.dirty

/-- The dirty flag and what bears on it stay the same, and nothing is said of it. -/
structure Unheard (s s' : Session σ τ) : Prop extends Uneventful s s' where
  reports_eq : reports s'.bus.trace = reports s.bus.trace
  observer_eq : s'.observer = s.observer

theorem Unheard.attended {s s' : Session σ τ} (h : Unheard s s') (hs : s.Attended) :
    s'.Attended := by
  rw [Attended, h.observer_eq, h.history_eq, h.reports_eq, h.config_eq]
  exact hs

theorem unheard_onBus {x : Action (Bus σ τ) α} (hhistory : Keeps Bus.Uneventful x)
    (hreports : Keeps (Bus.Omits Event.dirtiness?) x) : Keeps Unheard (onBus x) :=
  fun s ↦ ⟨⟨rfl, hhistory s.bus⟩, hreports s.bus, rfl⟩

theorem Reclaims.unheard {s s' : Session σ τ} (h : Reclaims s s')
    (hobserver : s'.observer = s.observer) : Unheard s s' := by
  obtain ⟨new, htrace, hactive⟩ := h.grows
  refine ⟨h.uneventful, Bus.omits_of_append htrace fun entry hentry ↦ ?_, hobserver⟩
  have hentry := hactive entry hentry
  cases hevent : entry.event with
  | dirtyReported => simp [hevent, Event.isPassive] at hentry
  | _ => rfl

/-- A flag that changes is reported to whoever is there. -/
theorem reports_setDirty (s : Session σ τ) (hobserver : s.observer ≠ .absent) (dirty : Bool) :
    reports ((setDirty dirty).run s).2.bus.trace =
      reports s.bus.trace ++ news s.config.dirty dirty := by
  rw [run_setDirty]
  by_cases h : s.config.dirty = dirty
  · simp [news, h]
  · rw [if_neg h, news, if_neg h]
    exact Bus.extract_report hobserver _ s.bus

theorem observer_setDirty (dirty : Bool) (s : Session σ τ) :
    ((setDirty dirty).run s).2.observer = s.observer := by
  obtain ⟨bus, hset, -⟩ := quietly_setDirty dirty s
  rw [hset]

theorem attended_amend {change : Configuration → Configuration} {s : Session σ τ}
    (hchange : (change s.config).dirty = s.config.dirty) (hs : s.Attended) :
    ((amend change).run s).2.Attended := by
  obtain ⟨hobserver, hheard⟩ := hs
  obtain ⟨bus, hamended, -⟩ := quietly_amend change s
  have hmark : reports (s.changed change).bus.trace = reports s.bus.trace :=
    (Bus.extract_record _ s.bus).trans (List.append_nil _)
  have hreports : reports ((amend change).run s).2.bus.trace =
      reports s.bus.trace ++ news s.config.dirty true := by
    rw [run_amend, reports_setDirty (s.changed change) hobserver, hmark]
    show _ ++ news (change s.config).dirty true = _
    rw [hchange]
  have hdirty : ((amend change).run s).2.config.dirty = true := by rw [hamended]
  have hkept : ((amend change).run s).2.observer = s.observer := by rw [hamended]
  rw [Attended, hkept, history_amend, hreports, hdirty]
  exact ⟨hobserver, .amended hheard⟩

theorem attended_call (mouse : Mouse σ τ) (setter : Setter) :
    Keeps (Retains Attended) (setter.call mouse) := by
  intro s hs
  have hverdict := setter.verdict mouse s
  generalize (setter.call mouse).run s = r at hverdict
  cases hverdict with
  | refused => exact hs
  | unclaimed => exact hs
  | amended _ _ change hdirty => exact attended_amend hdirty hs

variable [TimeScale τ] (mouse : Mouse σ τ)

theorem unheard_claim : Keeps Unheard (claim mouse) := by
  intro s
  refine (Reclaims.claim mouse s).unheard ?_
  rw [run_claim]
  split_ifs
  · rcases (opening mouse).run s.bus with ⟨fault | _, bus⟩ <;> rfl
  · rfl

theorem unheard_release : Keeps Unheard (release mouse) := by
  intro s
  refine (Reclaims.release mouse s).unheard ?_
  rw [run_release]
  split_ifs
  · rfl
  · rcases (closing mouse).run s.dropped.bus with ⟨fault | _, bus⟩ <;> rfl
  · rfl

/-- A commit whose push is whole is told, and any other leaves everything as it was. -/
theorem attended_commit (force : Bool) : Keeps (Retains Attended) (commit mouse force) := by
  intro s hs
  have hobserver := hs.1
  rw [run_commit]
  split_ifs
  · exact hs
  · have hhistory := mouse.channel.uneventful_push s.config s.bus
    have hreports :=
      (mouse.channel.movesAlong_omits Event.passesOver_dirtiness).pushes s.config s.bus
    rcases hpush : (mouse.channel.push s.config).run s.bus with ⟨fault | _, bus⟩
    all_goals rw [hpush] at hhistory hreports
    · have hfailed : Unheard s { s with bus := bus } := ⟨⟨rfl, hhistory⟩, hreports, rfl⟩
      exact hfailed.attended hs
    · let marked : Session σ τ := { s with bus := ((Bus.mark .pushed).run bus).2 }
      have hpast : history ((setDirty false).run marked).2.bus.trace =
          history s.bus.trace ++ [.pushed] := by
        rw [uneventful_setDirty false marked, ← hhistory]
        exact Bus.history_record _ bus
      have htold : reports ((setDirty false).run marked).2.bus.trace =
          reports s.bus.trace ++ news s.config.dirty false := by
        have hmark : reports marked.bus.trace = reports bus.trace :=
          (Bus.extract_record _ bus).trans (List.append_nil _)
        rw [reports_setDirty marked hobserver, hmark]
        exact congrArg (· ++ _) hreports
      obtain ⟨last, hclean, -⟩ := quietly_setDirty false marked
      have hdirty : ((setDirty false).run marked).2.config.dirty = false := by rw [hclean]
      show ((setDirty false).run marked).2.Attended
      rw [Attended, observer_setDirty, hpast, htold, hdirty]
      exact ⟨hobserver, .pushed hs.2⟩
  · exact hs

omit [TimeScale τ] in
/-- Nobody is told that a set-up starts over from the defaults. -/
theorem attended_refreshed (version : Int) {s : Session σ τ} (hs : s.Attended) :
    (refreshed mouse version s).Attended := by
  have htold : reports (refreshed mouse version s).bus.trace = reports s.bus.trace := by
    have hmark : reports ((Bus.mark (.firmwareRead version)).run s.bus).2.trace =
        reports s.bus.trace :=
      (Bus.extract_record _ s.bus).trans (List.append_nil _)
    rw [refreshed, checked]
    split_ifs <;> exact hmark
  have hkept : (refreshed mouse version s).observer = s.observer := by
    rw [refreshed, checked]
    split_ifs <;> rfl
  rw [Attended, hkept, history_refreshed, htold]
  exact ⟨hs.1, .renewed hs.2 version⟩

theorem attended_setUp : Keeps (Retains Attended) (setUp mouse) := by
  have hnote (n : Notice) : Keeps (Retains Attended)
      (onBus (Bus.note n) : Action (Session σ τ) Unit) :=
    fun _ hs ↦ hs
  have hinitial : Keeps (Retains Attended) (initialCommit mouse) := by
    refine keeps_tryCatch (attended_commit mouse true) fun fault ↦ ?_
    exact keeps_ite (fun _ ↦ keeps_bind (hnote _) fun _ ↦ keeps_throw _) fun _ ↦ keeps_throw _
  have hbody : Keeps (Retains Attended) (probeAndCommit mouse) := by
    intro s hs
    have hhistory := mouse.channel.uneventful_probe mouse.probePolicy s.bus
    have hreports :=
      (mouse.channel.movesAlong_omits Event.passesOver_dirtiness).probes mouse.probePolicy s.bus
    rw [run_probeAndCommit]
    rcases hprobe : (mouse.channel.probe mouse.probePolicy).run s.bus with ⟨fault | version, bus⟩
    all_goals
      rw [hprobe] at hhistory hreports
      have hprobed : Unheard s { s with bus := bus } := ⟨⟨rfl, hhistory⟩, hreports, rfl⟩
    · exact hprobed.attended hs
    · exact hinitial _ (attended_refreshed mouse version (hprobed.attended hs))
  have hannounce : Keeps (Retains Attended) (announce mouse : Action (Session σ τ) Unit) := by
    refine keeps_bind (keeps_modify fun _ ↦ id) fun _ ↦ keeps_get_bind fun s ↦ ?_
    refine keeps_bind (hnote _) (fun _ ↦ keeps_get_bind fun s ↦ ?_) s
    exact (unheard_onBus (Bus.omits_report s.observer rfl)
      (Bus.omits_report s.observer rfl) s).attended
  rw [setUp_eq]
  refine keeps_bind (keeps_bind ?_ fun _ ↦ keeps_ensuring hbody ?_) fun _ ↦ hannounce
  · exact (unheard_claim mouse).mono fun _ _ h ↦ h.attended
  · exact (unheard_release mouse).mono fun _ _ h ↦ h.attended

theorem operates_attended : Operates mouse (Retains (Attended : Session σ τ → Prop)) where
  claim := (unheard_claim mouse).mono fun _ _ h ↦ h.attended
  release := (unheard_release mouse).mono fun _ _ h ↦ h.attended
  setUp := attended_setUp mouse
  commit := attended_commit mouse
  setLed led state := attended_call mouse (.led led state)
  setFrequency frequency := attended_call mouse (.frequency frequency)
  setMapping mapping axis := attended_call mouse (.mapping mapping axis)
  elapse span := fun s ↦ ((Reclaims.elapse span s).unheard rfl).attended

theorem attended_after (bus : Bus σ τ) {observer : Observer} (hobserver : observer ≠ .absent)
    {steps : List (Step τ)} (hsteps : ∀ other ∈ observersIn steps, other ≠ .absent) :
    (after mouse { start mouse.model { bus with trace := [] } with observer := observer }
      steps).Attended := by
  refine (operates_attended mouse).after steps _ (fun other hother s hs ↦ ?_) (fun _ ↦ ⟨?_, ?_⟩)
    ⟨hobserver, .fresh⟩
  · exact ⟨hsteps other hother, hs.2⟩
  · exact fun s ↦ ((Reclaims.opened mouse s).unheard rfl).attended
  · exact fun s ↦ ((Reclaims.closed mouse s).unheard rfl).attended

/-- In every state of a run from a fresh session, what was reported of the dirty flag is faithful to
it exactly if every set-up that got past its probe found a dirty configuration; and a clean
configuration is known to be clean. Assumes: someone hears from the start, and is only ever replaced
by another who hears. -/
theorem faithful_of_reachable (bus : Bus σ τ) {observer : Observer}
    (hobserver : observer ≠ .absent) {steps : List (Step τ)}
    (hsteps : ∀ other ∈ observersIn steps, other ≠ .absent) :
    let s := after mouse { start mouse.model { bus with trace := [] } with observer := observer }
      steps
    (Faithful (reports s.bus.trace) s.config.dirty ↔ RenewedDirty (history s.bus.trace)) ∧
      (s.config.dirty = false → belief (reports s.bus.trace) = false) := by
  intro s
  obtain ⟨-, hheard⟩ := attended_after mouse bus hobserver hsteps
  exact ⟨hheard.faithful_iff, hheard.belief_of_clean⟩

/-- A set-up over a changed configuration is told, also to an observer who fails on hearing
of it. -/
theorem faithful_of_setUp_after_change :
    let mouse := replayed (Model.forPid Model.known Protocol.classicPid)
    let blank : Bytes := List.replicate 90 0
    let reads := List.replicate 4 (Except.ok blank) ++ [.ok (blank.set 8 1)]
    let bus := recorded { reads := reads }
    let steps : List (Step Rat) :=
      [.claimed [.commit false, .setFrequency (.int 500),
        .observe (.failing (.reported .lookup "observer")), .setUp]]
    (Observer.listening ≠ .absent ∧ ∀ other ∈ observersIn steps, other ≠ .absent) ∧
      let s := after mouse
        { start mouse.model { bus with trace := [] } with observer := .listening } steps
      reports s.bus.trace = [false, true, false] ∧
        (Faithful (reports s.bus.trace) s.config.dirty ↔ RenewedDirty (history s.bus.trace)) ∧
          (s.config.dirty = false → belief (reports s.bus.trace) = false) := by
  intro mouse blank reads bus steps
  have hobserver : Observer.listening ≠ .absent := Observer.noConfusion
  have hsteps : ∀ other ∈ observersIn steps, other ≠ .absent := by
    simp [steps, observersIn, Step.observers, Observer.failing]
  refine ⟨⟨hobserver, hsteps⟩, by decide +kernel, ?_⟩
  clear_value mouse bus steps
  exact faithful_of_reachable mouse bus hobserver hsteps

/-- A set-up that starts over from a clean configuration leaves an observer in the dark: if its
commit fails, the configuration is dirty and was last reported clean, and if not, it is reported
clean twice. -/
theorem stale_of_failing_setUp :
    let mouse := replayed (Model.forPid Model.known Protocol.classicPid)
    let blank : Bytes := List.replicate 90 0
    let reads := List.replicate 4 (Except.ok blank) ++ [.ok (blank.set 8 1)]
    let writes := [.ok 90, .ok 90, .ok 90, .ok 90, .ok 90, .error (.reported .transfer "")]
    let steps : List (Step Rat) := [.claim, .commit false, .setUp]
    let failed := after mouse
      { start mouse.model (recorded { writes := writes, reads := reads }) with
        observer := .listening } steps
    let completed := after mouse
      { start mouse.model (recorded { reads := reads }) with observer := .listening } steps
    (reports failed.bus.trace = [false] ∧ failed.config.dirty = true) ∧
      reports completed.bus.trace = [false, false] ∧ completed.config.dirty = false := by
  decide +kernel

end Session

end MouseControl
