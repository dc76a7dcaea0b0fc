import MouseControl.Proofs.Session.History

/-!
The dirty flag as a verdict on the history. Every operation keeps the configuration clean exactly as
long as the latest entry of its history is a whole push (`movesAlong_settled`), and each entry
stands for what an operation came to (`chronicled`). Of a clean configuration only a forced commit
sends anything (`dirty_of_reachable`).
-/

set_option autoImplicit false
set_option relaxedAutoImplicit false

namespace MouseControl.Session

open MouseControl.Action

variable {σ τ : Type}

/-! ### The flag -/

/-- The configuration is clean exactly if the latest that became of it is a push. -/
def Settled (s : Session σ τ) : Prop :=
  s.config.dirty = false ↔ (history s.bus.trace).getLast? = some .pushed

theorem Uneventful.settled {s s' : Session σ τ} (h : Uneventful s s') (hs : s.Settled) :
    s'.Settled := by
  rw [Settled, h.config_eq, h.history_eq]
  exact hs

theorem settled_of_dirty {s : Session σ τ} {before : List Milestone} {latest : Milestone}
    (hdirty : s.config.dirty = true) (hhistory : history s.bus.trace = before ++ [latest])
    (hlatest : latest ≠ .pushed) : s.Settled := by
  rw [Settled, hdirty, hhistory, List.getLast?_concat, Option.some.injEq]
  exact iff_of_false Bool.noConfusion hlatest

theorem settled_of_pushed {s : Session σ τ} {before : List Milestone}
    (hclean : s.config.dirty = false) (hhistory : history s.bus.trace = before ++ [.pushed]) :
    s.Settled := by
  rw [Settled, hclean, hhistory, List.getLast?_concat]
  exact iff_of_true rfl rfl

theorem settled_call (mouse : Mouse σ τ) (setter : Setter) :
    Keeps (Retains Settled) (setter.call mouse) := by
  intro s hs
  have hverdict := setter.verdict mouse s
  generalize (setter.call mouse).run s = r at hverdict
  cases hverdict with
  | refused => exact hs
  | unclaimed => exact hs
  | amended _ _ change =>
    obtain ⟨bus, hamended, -⟩ := quietly_amend change s
    have hdirty : ((amend change).run s).2.config.dirty = true := by rw [hamended]
    exact settled_of_dirty hdirty (history_amend change s) Milestone.noConfusion

variable [TimeScale τ]

theorem settled_commit (mouse : Mouse σ τ) (force : Bool) :
    Keeps (Retains Settled) (commit mouse force) := by
  intro s hs
  rcases history_commit mouse force s with ⟨-, hhistory, hclean⟩ | ⟨-, hhistory, hconfig⟩
  · exact settled_of_pushed hclean hhistory
  · exact Uneventful.settled ⟨hconfig, hhistory⟩ hs

/-- A set-up that has got past its probe starts over from the defaults, which are dirty. -/
theorem settled_setUp (mouse : Mouse σ τ) : Keeps (Retains Settled) (setUp mouse) := by
  -- Not part by part: after the probe, and until the defaults are in place, the version is in the
  -- history while the old configuration may still be clean.
  intro s hs
  rcases hclaim : (claim mouse).run s with ⟨fault | _, t⟩
  · exact (uneventful_setUp_of_unclaimed hclaim).settled hs
  rcases hprobe : (mouse.channel.probe mouse.probePolicy).run t.bus with ⟨fault | version, bus⟩
  · exact (uneventful_setUp_of_unread hclaim hprobe).settled hs
  · obtain ⟨-, hhistory, hcommitted⟩ := uneventful_setUp_of_read hclaim hprobe
    have hfresh : (refreshed mouse version { t with bus := bus }).Settled :=
      settled_of_dirty rfl hhistory Milestone.noConfusion
    exact hcommitted.settled (settled_commit mouse true _ hfresh)

theorem movesAlong_settled (mouse : Mouse σ τ) :
    MovesAlong mouse (Retains (Settled : Session σ τ → Prop)) where
  claim := (uneventful_claim mouse).mono fun _ _ h hs ↦ h.settled hs
  release := (uneventful_release mouse).mono fun _ _ h hs ↦ h.settled hs
  setUp := settled_setUp mouse
  commit := settled_commit mouse
  setLed led state := settled_call mouse (.led led state)
  setFrequency frequency := settled_call mouse (.frequency frequency)
  setMapping mapping axis := settled_call mouse (.mapping mapping axis)
  observe observer s hs := (Reclaims.observe observer s).uneventful.settled hs
  elapse span := (Reclaims.elapse span).mono fun _ _ h hs ↦ h.uneventful.settled hs

theorem settled_after (mouse : Mouse σ τ) (bus : Bus σ τ) (steps : List (Step τ)) :
    (after mouse (start mouse.model { bus with trace := [] }) steps).Settled := by
  refine (movesAlong_settled mouse).after steps _ (fun _ ↦ ⟨?_, ?_⟩) (iff_of_false ?_ ?_)
  · exact (Reclaims.opened mouse).mono fun _ _ h hs ↦ h.uneventful.settled hs
  · exact (Reclaims.closed mouse).mono fun _ _ h hs ↦ h.uneventful.settled hs
  · exact Bool.noConfusion
  · exact fun h ↦ (nomatch h)

/-! ### The history -/

/-- What operations leave in the history, from a state on. -/
structure Chronicled (mouse : Mouse σ τ) (s : Session σ τ) : Prop where
  claim : history ((claim mouse).run s).2.bus.trace = history s.bus.trace
  release : history ((release mouse).run s).2.bus.trace = history s.bus.trace
  /-- A setter that returns has amended the configuration. One that fails has not, unless it is the
  observer who failed on hearing of it. -/
  setter : ∀ setter : Setter,
    let r := (setter.call mouse).run s
    (r.1 = .ok () → history r.2.bus.trace = history s.bus.trace ++ [.amended]) ∧
      ∀ fault, r.1 = .error fault → r.2 = s ∨
        s.observer.verdict (.dirty true) = .error fault ∧
          history r.2.bus.trace = history s.bus.trace ++ [.amended]
  /-- A commit leaves a push if it ran and its push returned. -/
  commit : ∀ force,
    let r := (commit mouse force).run s
    let pushed := 0 < s.claims ∧ (s.config.dirty = true ∨ force = true) ∧
      ((mouse.channel.push s.config).run s.bus).1 = .ok ()
    (pushed → history r.2.bus.trace = history s.bus.trace ++ [.pushed]) ∧
      (¬ pushed → history r.2.bus.trace = history s.bus.trace)
  /-- A set-up leaves the version if its probe returned one, and a push after it if that of the
  defaults returned. -/
  setUp :
    let claiming := (Session.claim mouse).run s
    let probing := (mouse.channel.probe mouse.probePolicy).run claiming.2.bus
    let told := history ((Session.setUp mouse).run s).2.bus.trace
    (∀ fault, claiming.1 = .error fault ∨ probing.1 = .error fault → told = history s.bus.trace) ∧
      ∀ version, claiming.1 = .ok () → probing.1 = .ok version →
        let fresh := refreshed mouse version { claiming.2 with bus := probing.2 }
        let pushing := (mouse.channel.push fresh.config).run fresh.bus
        (pushing.1 = .ok () → told = history s.bus.trace ++ [.firmwareRead version, .pushed]) ∧
          ∀ fault, pushing.1 = .error fault → told = history s.bus.trace ++ [.firmwareRead version]

theorem chronicled (mouse : Mouse σ τ) (s : Session σ τ) : Chronicled mouse s where
  claim := (uneventful_claim mouse s).history_eq
  release := (uneventful_release mouse s).history_eq
  setter := by
    intro setter
    have hverdict := setter.verdict mouse s
    generalize (setter.call mouse).run s = r at hverdict ⊢
    cases hverdict with
    | refused => exact ⟨fun h ↦ (nomatch h), fun _ _ ↦ .inl rfl⟩
    | unclaimed => exact ⟨fun h ↦ (nomatch h), fun _ _ ↦ .inl rfl⟩
    | amended _ _ change hdirty =>
      have hamended := history_amend change s
      exact ⟨fun _ ↦ hamended, fun fault h ↦ .inr ⟨(amend_eq_error hdirty h).2, hamended⟩⟩
  commit := by
    intro force r pushed
    rcases history_commit mouse force s with ⟨hpushed, hhistory, -⟩ | ⟨hnot, hhistory, -⟩
    · exact ⟨fun _ ↦ hhistory, fun hnot ↦ absurd hpushed hnot⟩
    · exact ⟨fun hpushed ↦ absurd hpushed hnot, fun _ ↦ hhistory⟩
  setUp := by
    dsimp only
    rcases hclaim : (claim mouse).run s with ⟨fault | _, t⟩
    · have hkept := (uneventful_setUp_of_unclaimed hclaim).history_eq
      exact ⟨fun _ _ ↦ hkept, fun _ h ↦ (nomatch h)⟩
    rcases hprobe : (mouse.channel.probe mouse.probePolicy).run t.bus with ⟨fault | version, bus⟩
    · have hkept := (uneventful_setUp_of_unread hclaim hprobe).history_eq
      exact ⟨fun _ _ ↦ hkept, fun _ _ h ↦ (nomatch h)⟩
    refine ⟨fun _ h ↦ h.elim (fun h ↦ (nomatch h)) fun h ↦ (nomatch h), ?_⟩
    rintro _ - ⟨⟩
    obtain ⟨hclaims, hfresh, hcommitted⟩ := uneventful_setUp_of_read hclaim hprobe
    rw [hcommitted.history_eq]
    rcases history_commit mouse true (refreshed mouse version { t with bus := bus }) with
      ⟨hpushed, hhistory, -⟩ | ⟨hnot, hhistory, -⟩
    · rw [hhistory, hfresh, List.append_assoc]
      refine ⟨fun _ ↦ rfl, fun fault hfault ↦ ?_⟩
      rw [hpushed.2.2] at hfault
      cases hfault
    · rw [hhistory, hfresh]
      exact ⟨fun hpushed ↦ absurd ⟨hclaims, .inr rfl, hpushed⟩ hnot, fun _ _ ↦ rfl⟩

/-! ### What a commit sends -/

/-- A commit that runs makes the transfers of its push. -/
theorem transfers_commit {mouse : Mouse σ τ} {force : Bool} {s : Session σ τ}
    (hclaims : 0 < s.claims) (hruns : s.config.dirty = true ∨ force = true) :
    transfers ((commit mouse force).run s).2.bus.trace =
      transfers ((mouse.channel.push s.config).run s.bus).2.trace := by
  rw [run_commit, if_neg (Nat.ne_of_gt hclaims), if_pos (Bool.or_eq_true_iff.mpr hruns)]
  rcases (mouse.channel.push s.config).run s.bus with ⟨fault | _, bus⟩
  · rfl
  · let marked : Session σ τ := { s with bus := ((Bus.mark .pushed).run bus).2 }
    have hmark : bus.Silent marked.bus := Bus.silent_record rfl bus
    obtain ⟨last, hclean, hrecords⟩ := quietly_setDirty false marked
    have hlast : marked.bus.Silent last := hrecords.silent
    change transfers ((setDirty false).run marked).2.bus.trace = transfers bus.trace
    rw [hclean]
    exact (trans_of Bus.Silent hmark hlast).transfers_eq

/-- Under a claim a commit makes transfers if the configuration is dirty or it is forced, and not
otherwise. -/
theorem transfers_commit_ne_iff {mouse : Mouse σ τ} {s : Session σ τ}
    (hfits : s.config.Fits mouse.model) (hclaims : 0 < s.claims) (force : Bool) :
    transfers ((commit mouse force).run s).2.bus.trace ≠ transfers s.bus.trace ↔
      s.config.dirty = true ∨ force = true := by
  constructor
  · intro hne
    by_contra hidle
    have hskip : ¬ (s.config.dirty || force) = true := fun h ↦ hidle (Bool.or_eq_true_iff.mp h)
    rw [run_commit, if_neg (Nat.ne_of_gt hclaims), if_neg hskip] at hne
    exact hne rfl
  · intro hruns hsame
    obtain ⟨exchanges, haccount⟩ := mouse.channel.exists_pushAccount hfits s.bus
    obtain ⟨resolution, leds, -, -, -, hframes⟩ := hfits.frames_eq
    obtain ⟨others, hstarts⟩ := haccount.starts hframes
    have hwritten := haccount.written_eq
    rw [written_eq, ← transfers_commit hclaims hruns, hsame, ← written_eq] at hwritten
    rw [hstarts] at hwritten
    cases List.append_right_eq_self.mp hwritten.symm

/-- In every state of a run from a fresh session the configuration is clean exactly if a whole push
was made and nothing was amended and no firmware version read since; the history says what
operations came to; and under a claim a commit makes transfers if the configuration is dirty or it
is forced, and not otherwise. -/
theorem dirty_of_reachable (mouse : Mouse σ τ) (bus : Bus σ τ) (steps : List (Step τ)) :
    let s := after mouse (start mouse.model { bus with trace := [] }) steps
    (s.config.dirty = false ↔ (history s.bus.trace).getLast? = some .pushed) ∧
      Chronicled mouse s ∧
      (0 < s.claims → ∀ force,
        transfers ((commit mouse force).run s).2.bus.trace ≠ transfers s.bus.trace ↔
          s.config.dirty = true ∨ force = true) := by
  intro s
  have hfits : s.config.Fits mouse.model := fits_after mouse { bus with trace := [] } steps
  refine ⟨settled_after mouse bus steps, chronicled mouse s, fun hclaims force ↦ ?_⟩
  exact transfers_commit_ne_iff hfits hclaims force

/-- A setter that fails with its observer leaves a committed configuration dirty all the same. -/
theorem dirty_after_failing_setter :
    let mouse := replayed (Model.forPid Model.known Protocol.classicPid)
    let observer := Observer.failing (.reported .lookup "observer")
    let s := after mouse (start mouse.model (recorded {}))
      [.claim, .commit false, .observe observer]
    let r := ((Setter.led (.int 0) (.int 0)).call mouse).run s
    s.config.dirty = false ∧ r.1.mapError Fault.kind = .error .lookup ∧
      r.2.config.dirty = true := by
  decide +kernel

end MouseControl.Session
