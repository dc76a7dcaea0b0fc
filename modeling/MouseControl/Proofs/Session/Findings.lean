import MouseControl.Proofs.Session.SettingUp

/-!
What is known of the firmware and of the initialization. Set-ups alone find it out (`SameFindings`,
`finds_setUp`), so it follows from the states in which a run calls them, inside blocks too
(`setUps`, `through_after`). The firmware version is that of the latest probe, but the two flags are
only ever set. An upgrade stays suggested once any version was old (`upgrade_suggested`), and a
session stays initialized once any set-up announced it (`initialized_of_reachable`).
-/

set_option autoImplicit false
set_option relaxedAutoImplicit false

namespace MouseControl.Session

open MouseControl.Action

variable {σ τ α β : Type}

/-! ### What set-ups alone find out -/

/-- The same is known of the firmware and of the initialization. -/
structure SameFindings (s s' : Session σ τ) : Prop where
  firmware_eq : s'.firmware = s.firmware
  suggestUpgrade_eq : s'.suggestUpgrade = s.suggestUpgrade
  initialized_eq : s'.initialized = s.initialized

instance : IsPreorder (Session σ τ) SameFindings where
  refl _ := ⟨rfl, rfl, rfl⟩
  trans _ _ _ h h' :=
    ⟨h'.firmware_eq.trans h.firmware_eq, h'.suggestUpgrade_eq.trans h.suggestUpgrade_eq,
      h'.initialized_eq.trans h.initialized_eq⟩

theorem SameRecord.sameFindings {s s' : Session σ τ} (h : SameRecord s s') : SameFindings s s' :=
  ⟨h.firmware_eq, h.suggestUpgrade_eq, h.initialized_eq⟩

theorem Quietly.sameFindings {s s' : Session σ τ} (h : Quietly s s') : SameFindings s s' := by
  obtain ⟨bus, rfl, -⟩ := h
  exact ⟨rfl, rfl, rfl⟩

theorem sameFindings_onBus (x : Action (Bus σ τ) α) : Keeps SameFindings (onBus x) :=
  fun _ ↦ ⟨rfl, rfl, rfl⟩

theorem sameFindings_setDirty (dirty : Bool) :
    Keeps (SameFindings : Session σ τ → Session σ τ → Prop) (setDirty dirty) := by
  intro s
  have hset := (quietly_setDirty dirty s).sameFindings
  exact ⟨hset.firmware_eq, hset.suggestUpgrade_eq, hset.initialized_eq⟩

theorem sameFindings_call (mouse : Mouse σ τ) (setter : Setter) :
    Keeps SameFindings (setter.call mouse) := by
  intro s
  rcases sets_call mouse setter s with ⟨fault, hrun⟩ | ⟨-, change, -, hrun⟩
  · rw [hrun]
    exact refl_of SameFindings s
  · have hset := (quietly_amend change s).sameFindings
    rw [hrun]
    exact ⟨hset.firmware_eq, hset.suggestUpgrade_eq, hset.initialized_eq⟩

variable [TimeScale τ] (mouse : Mouse σ τ)

theorem sameFindings_claim : Keeps SameFindings (claim mouse) :=
  (sameRecord_claim mouse).mono fun _ _ h ↦ h.sameFindings

theorem sameFindings_release : Keeps SameFindings (release mouse) :=
  (sameRecord_release mouse).mono fun _ _ h ↦ h.sameFindings

theorem sameFindings_commit (force : Bool) : Keeps SameFindings (commit mouse force) := by
  have hrequire : Keeps SameFindings (requireClaim : Action (Session σ τ) Unit) :=
    keeps_of_run_eq fun s ↦ by rw [run_requireClaim]
  refine keeps_bind hrequire fun _ ↦ keeps_get_bind fun s ↦ ?_
  split
  · refine keeps_bind (sameFindings_onBus _) (fun _ ↦ ?_) s
    exact keeps_bind (sameFindings_onBus _) fun _ ↦ sameFindings_setDirty false
  · exact refl_of SameFindings s

theorem sameFindings_initialCommit : Keeps SameFindings (initialCommit mouse) := by
  intro s
  have hnoted := (quietly_initialCommit mouse s).2.sameFindings
  exact trans_of SameFindings (sameFindings_commit mouse true s) hnoted

/-! ### What a set-up finds out -/

/-- The firmware version that the probe of a set-up reads, if it is read. -/
def versionRead (s : Session σ τ) : Option Int := ((reading mouse).run s).1.toOption

/-- What is known after a set-up, or after the work of one, that was called in a state. -/
structure Reads (mouse : Mouse σ τ) (s : Session σ τ) (r : Except Fault Unit × Session σ τ) :
    Prop where
  firmware_eq : r.2.firmware = (versionRead mouse s).getD s.firmware
  suggestUpgrade_eq : r.2.suggestUpgrade =
    (s.suggestUpgrade || (versionRead mouse s).any mouse.model.hasOldFirmware)
  isSome_of_ok : r.1 = .ok () → (versionRead mouse s).isSome = true

/-- Work that got past its probe starts over from the version that was read. -/
theorem exists_refreshed {s : Session σ τ} {version : Int}
    (hreading : ((reading mouse).run s).1 = .ok version) :
    ∃ t, SameFindings s t ∧ SameFindings (refreshed mouse version t) ((working mouse).run s).2 := by
  rcases hclaim : (claim mouse).run s with ⟨fault | _, t⟩
  · rw [reading, run_bind_error hclaim] at hreading
    cases hreading
  rcases hprobe : (mouse.channel.probe mouse.probePolicy).run t.bus with ⟨outcome, bus⟩
  have hread : outcome = .ok version := by
    rw [reading, run_bind_ok hclaim] at hreading
    exact (congrArg Prod.fst hprobe).symm.trans hreading
  subst hread
  have hclaimed : SameFindings s t := by
    have hkept := sameFindings_claim mouse s
    rwa [hclaim] at hkept
  have hbody : SameFindings (refreshed mouse version { t with bus := bus })
      ((probeAndCommit mouse).run t).2 := by
    rw [run_probeAndCommit, hprobe]
    exact sameFindings_initialCommit mouse _
  have hrun : (working mouse).run s = ((probeAndCommit mouse).ensuring (release mouse)).run t :=
    run_bind_ok hclaim
  have hreleased := leads_ensuring (probeAndCommit mouse) (sameFindings_release mouse) t
  rw [← hrun] at hreleased
  exact ⟨{ t with bus := bus }, ⟨hclaimed.firmware_eq, hclaimed.suggestUpgrade_eq,
    hclaimed.initialized_eq⟩, trans_of SameFindings hbody hreleased⟩

theorem reads_working (s : Session σ τ) : Reads mouse s ((working mouse).run s) := by
  rcases hreading : ((reading mouse).run s).1 with fault | version
  · -- Nothing changes without a version, be it the claim or the probe that failed.
    have hnone : versionRead mouse s = none := by rw [versionRead, hreading, Except.toOption]
    obtain ⟨hfailed, hsame, -⟩ := (working_working s).unread hreading
    refine ⟨?_, ?_, fun hok ↦ absurd hok hfailed⟩
    · rw [hsame.firmware_eq, hnone, Option.getD_none]
    · rw [hsame.suggestUpgrade_eq, hnone, Option.any_none, Bool.or_false]
  · have hsome : versionRead mouse s = some version := by
      rw [versionRead, hreading, Except.toOption]
    obtain ⟨t, hclaimed, hworked⟩ := exists_refreshed mouse hreading
    refine ⟨?_, ?_, fun _ ↦ by rw [hsome, Option.isSome_some]⟩
    · rw [hworked.firmware_eq, firmware_refreshed, hsome, Option.getD_some]
    · rw [hworked.suggestUpgrade_eq, suggestUpgrade_refreshed, hclaimed.suggestUpgrade_eq, hsome,
        Option.any_some]

/-- A set-up that is called in a state gets as far as its announcement. -/
def Announces (mouse : Mouse σ τ) (s : Session σ τ) : Prop := ((working mouse).run s).1 = .ok ()

/-- A set-up fails with its work, or it comes to what the observer makes of its announcement. -/
theorem setUp_cases (s : Session σ τ) :
    ¬Announces mouse s ∧ (setUp mouse).run s = (working mouse).run s ∨
      Announces mouse s ∧ ∃ bus, (setUp mouse).run s =
        (s.observer.verdict .initialized,
          { ((working mouse).run s).2 with initialized := true, bus := bus }) := by
  have hobserver : ((working mouse).run s).2.observer = s.observer :=
    (working_working s).sameStanding.observer_eq
  rw [Announces]
  rcases hrun : (working mouse).run s with ⟨fault | _, t⟩
  · exact .inl ⟨nofun, run_setUp_of_error hrun⟩
  · rw [hrun] at hobserver
    obtain ⟨bus, hannounce, -⟩ := exists_announce mouse t
    have hobserver : t.observer = s.observer := hobserver
    exact .inr ⟨rfl, bus, by rw [run_setUp_of_ok hrun, hannounce, ← hobserver]⟩

theorem outcome_of_announces {s : Session σ τ} (h : Announces mouse s) :
    ((setUp mouse).run s).1 = s.observer.verdict .initialized := by
  obtain ⟨hnot, -⟩ | ⟨-, bus, hrun⟩ := setUp_cases mouse s
  · exact absurd h hnot
  · rw [hrun]

theorem announces_of_ok {s : Session σ τ} (h : ((setUp mouse).run s).1 = .ok ()) :
    Announces mouse s := by
  obtain ⟨hnot, hrun⟩ | ⟨hannounces, -⟩ := setUp_cases mouse s
  · rw [hrun] at h
    exact absurd h hnot
  · exact hannounces

theorem reads_setUp (s : Session σ τ) : Reads mouse s ((setUp mouse).run s) := by
  have hworking := reads_working mouse s
  rcases setUp_cases mouse s with ⟨-, hrun⟩ | ⟨hok, bus, hrun⟩
  · rw [hrun]
    exact hworking
  · rw [hrun]
    exact ⟨hworking.firmware_eq, hworking.suggestUpgrade_eq, fun _ ↦ hworking.isSome_of_ok hok⟩

theorem initialized_setUp_iff (s : Session σ τ) :
    ((setUp mouse).run s).2.initialized = true ↔ s.initialized = true ∨ Announces mouse s := by
  rcases setUp_cases mouse s with ⟨hnot, hrun⟩ | ⟨hannounces, bus, hrun⟩
  · rw [hrun, (working_working s).sameStanding.initialized_eq]
    exact (or_iff_left hnot).symm
  · rw [hrun]
    exact iff_of_true rfl (.inr hannounces)

/-! ### The set-ups of a run -/

/-- What is called after an action: nothing unless it returned. -/
def ifReturned (r : Except Fault α × Session σ τ) (others : Session σ τ → List (Session σ τ)) :
    List (Session σ τ) :=
  match r with
  | (.ok _, t) => others t
  | (.error _, _) => []

mutual

/-- The states in which a step, or one inside it, calls a set-up. -/
def Step.setUps (mouse : Mouse σ τ) : Session σ τ → Step τ → List (Session σ τ)
  | s, .setUp => [s]
  | s, .claimed steps =>
    ifReturned ((Session.claim mouse).run s) fun t ↦ setUpsAmong mouse t steps
  | s, .scoped steps => setUpsAmong mouse s steps
  | _, _ => []

/-- Those in which some steps do, up to the first step that fails. -/
def setUpsAmong (mouse : Mouse σ τ) : Session σ τ → List (Step τ) → List (Session σ τ)
  | _, [] => []
  | s, step :: rest =>
    step.setUps mouse s ++
      ifReturned ((step.perform mouse).run s) fun t ↦ setUpsAmong mouse t rest

end

/-- The states in which a run calls a set-up, in order. -/
def setUps (mouse : Mouse σ τ) : Session σ τ → List (Step τ) → List (Session σ τ)
  | _, [] => []
  | s, step :: rest => step.setUps mouse s ++ setUps mouse ((step.perform mouse).run s).2 rest

/-- The set-ups called in some states lead from one session to another, and what they find out stays
the same in between. -/
inductive Through (mouse : Mouse σ τ) : Session σ τ → List (Session σ τ) → Session σ τ → Prop
  | idle {s s' : Session σ τ} (h : SameFindings s s') : Through mouse s [] s'
  | call {s call s' : Session σ τ} {rest : List (Session σ τ)} (h : SameFindings s call)
      (hrest : Through mouse ((setUp mouse).run call).2 rest s') : Through mouse s (call :: rest) s'

variable {mouse} {s t u : Session σ τ} {first second : List (Session σ τ)}

theorem Through.after_idle (hst : SameFindings s t) (h : Through mouse t first u) :
    Through mouse s first u := by
  cases h with
  | idle h => exact .idle (trans_of SameFindings hst h)
  | call h hrest => exact .call (trans_of SameFindings hst h) hrest

theorem Through.append (h : Through mouse s first t) (h' : Through mouse t second u) :
    Through mouse s (first ++ second) u := by
  induction h with
  | idle h => exact h'.after_idle h
  | call h _ ih => exact .call h (ih h')

/-- The set-ups before one lead to the state in which that one is called. -/
theorem Through.before {call : Session σ τ} (h : Through mouse s second u)
    (hstarts : first ++ [call] <+: second) : Through mouse s first call := by
  induction h generalizing first with
  | idle => simp at hstarts
  | @call _ own _ rest h _ ih =>
    cases first with
    | nil =>
      obtain ⟨rfl, -⟩ := List.cons_prefix_cons.mp hstarts
      exact .idle h
    | cons head first =>
      obtain ⟨rfl, hothers⟩ := List.cons_prefix_cons.mp hstarts
      exact .call h (ih hothers)

theorem Through.of_keeps {x : Action (Session σ τ) α} (hx : Keeps SameFindings x)
    (s : Session σ τ) : Through mouse s [] (x.run s).2 :=
  .idle (hx s)

theorem Through.then_idle (h : Through mouse s first t) (htu : SameFindings t u) :
    Through mouse s first u := by
  rw [← List.append_nil first]
  exact h.append (.idle htu)

/-- What comes after an action calls its set-ups only if that one returned. -/
theorem through_bind {x : Action (Session σ τ) α} {next : α → Action (Session σ τ) β}
    {others : Session σ τ → List (Session σ τ)} (hx : Through mouse s first (x.run s).2)
    (hnext : ∀ a t, Through mouse t (others t) ((next a).run t).2) :
    Through mouse s (first ++ ifReturned (x.run s) others) ((x >>= next).run s).2 := by
  rw [run_bind]
  rcases hrun : x.run s with ⟨fault | a, t⟩
  all_goals rw [hrun] at hx
  · exact hx.append (.idle (refl_of SameFindings t))
  · exact hx.append (hnext a t)

mutual

/-- A step leads on by the set-ups that it calls, itself or inside. -/
theorem through_perform : ∀ (step : Step τ) (s : Session σ τ),
    Through mouse s (step.setUps mouse s) ((step.perform mouse).run s).2
  | .claim, s => .of_keeps (keeps_andDone (sameFindings_claim mouse)) s
  | .release, s => .of_keeps (keeps_andDone (sameFindings_release mouse)) s
  | .close, s => .of_keeps (keeps_andDone (keeps_close (sameFindings_release mouse))) s
  | .setUp, s =>
    .call (refl_of SameFindings s) (.idle (leads_bind (setUp mouse) (fun _ ↦ keeps_pure _) s))
  | .commit force, s => .of_keeps (keeps_andDone (sameFindings_commit mouse force)) s
  | .setLed led state, s =>
    .of_keeps (keeps_andDone (sameFindings_call mouse (.led led state))) s
  | .setFrequency frequency, s =>
    .of_keeps (keeps_andDone (sameFindings_call mouse (.frequency frequency))) s
  | .setMapping mapping axis, s =>
    .of_keeps (keeps_andDone (sameFindings_call mouse (.mapping mapping axis))) s
  | .setResolution resolution axis, s =>
    .of_keeps (keeps_andDone (sameFindings_call mouse (.resolution resolution axis))) s
  | .leds, s | .frequency, s | .resolutions, s | .mappings, s | .mapping _, s | .describe, s =>
    .of_keeps (keeps_bind keeps_get fun _ ↦ keeps_pure _) s
  | .frequencies, s | .axes, s => .of_keeps (keeps_pure _) s
  | .claimed steps, s =>
    have hclaimed : Through mouse s (Step.setUps mouse s (.claimed steps))
        ((claimed mouse (performAll mouse steps)).run s).2 :=
      through_bind (.of_keeps (sameFindings_claim mouse) s) fun _ t ↦
        (through_performAll steps t).then_idle (leads_ensuring _ (sameFindings_release mouse) t)
    hclaimed.then_idle (leads_bind _ (fun _ ↦ keeps_pure _) s)
  | .scoped steps, s =>
    have hclosed := leads_ensuring (performAll mouse steps)
      (keeps_close (sameFindings_release mouse)) s
    ((through_performAll steps s).then_idle hclosed).then_idle
      (leads_bind _ (fun _ ↦ keeps_pure _) s)
  | .fail fault, s => .of_keeps (keeps_throw fault) s
  | .observe _, _ | .elapse _, _ => .idle ⟨rfl, rfl, rfl⟩
  | .openTransport, s | .closeTransport, s =>
    .of_keeps (keeps_andDone (sameFindings_onBus _)) s

theorem through_performAll : ∀ (steps : List (Step τ)) (s : Session σ τ),
    Through mouse s (setUpsAmong mouse s steps) ((performAll mouse steps).run s).2
  | [], s => .of_keeps (keeps_pure _) s
  | step :: rest, s => through_bind (through_perform step s) fun _ t ↦ through_performAll rest t

end

theorem through_after (steps : List (Step τ)) :
    ∀ s : Session σ τ, Through mouse s (setUps mouse s steps) (after mouse s steps) := by
  induction steps with
  | nil => exact fun s ↦ .idle (refl_of SameFindings s)
  | cons step rest ih => exact fun s ↦ (through_perform step s).append (ih _)

/-- The second set-up of a block is not called if the block fails before it. -/
example :
    let mouse := replayed (Model.forPid Model.known Protocol.classicPid)
    let steps : List (Step Rat) := [.claimed [.setUp, .fail .notClaimed, .setUp], .scoped [.setUp]]
    let s := start mouse.model (recorded { reads := [.ok (.replicate 90 1)] })
    (setUps mouse s steps).length = 2 := by
  decide +kernel

/-! ### The suggestion of an upgrade -/

/-- An upgrade is suggested once and for all when a version with known faults is read. -/
theorem Through.suggestUpgrade_eq (h : Through mouse s first t) :
    t.suggestUpgrade = (s.suggestUpgrade ||
      first.any fun call ↦ (versionRead mouse call).any mouse.model.hasOldFirmware) := by
  induction h with
  | idle h => rw [h.suggestUpgrade_eq, List.any_nil, Bool.or_false]
  | @call _ call _ _ h _ ih =>
    rw [ih, (reads_setUp mouse call).suggestUpgrade_eq, h.suggestUpgrade_eq, List.any_cons,
      Bool.or_assoc]

/-- In every state of a run an upgrade is suggested if any of its set-ups has read a version older
than the model's minimum. So after a set-up that returned, the suggestion agrees with the version
which that one read if and only if this version is old or no earlier one was. -/
theorem upgrade_suggested (mouse : Mouse σ τ) (bus : Bus σ τ) (steps : List (Step τ)) :
    let fresh := start mouse.model bus
    let calls := setUps mouse fresh steps
    let old (version : Int) : Prop :=
      mouse.model.goodFirmware ≠ 0 ∧ version < mouse.model.goodFirmware
    let readsOld (call : Session σ τ) : Prop :=
      ∃ version, versionRead mouse call = some version ∧ old version
    ((after mouse fresh steps).suggestUpgrade = true ↔ ∃ call ∈ calls, readsOld call) ∧
      ∀ earlier call, earlier ++ [call] <+: calls →
        let r := (setUp mouse).run call
        r.1 = .ok () → ∃ version, versionRead mouse call = some version ∧ r.2.firmware = version ∧
          ((r.2.suggestUpgrade = true ↔ old version) ↔
            old version ∨ ¬∃ before ∈ earlier, readsOld before) := by
  intro fresh calls old readsOld
  have hold (version : Int) : mouse.model.hasOldFirmware version = true ↔ old version := by
    rw [Model.hasOldFirmware, Bool.and_eq_true, bne_iff_ne, decide_eq_true_iff]
  have hthrough : Through mouse fresh calls (after mouse fresh steps) := through_after steps fresh
  -- A fresh session suggests nothing.
  have hsuggested {before : List (Session σ τ)} {t : Session σ τ}
      (h : Through mouse fresh before t) :
      t.suggestUpgrade = true ↔ ∃ call ∈ before, readsOld call := by
    have hfresh : fresh.suggestUpgrade = false := rfl
    rw [h.suggestUpgrade_eq, hfresh, Bool.false_or, List.any_eq_true]
    simp only [Option.any_eq_true, hold]
    rfl
  refine ⟨hsuggested hthrough, ?_⟩
  intro earlier call hstarts r hok
  have hreads : Reads mouse call r := reads_setUp mouse call
  obtain ⟨version, hversion⟩ := Option.isSome_iff_exists.mp (hreads.isSome_of_ok hok)
  have hflag : r.2.suggestUpgrade = true ↔ (∃ before ∈ earlier, readsOld before) ∨ old version := by
    rw [hreads.suggestUpgrade_eq, hversion, Option.any_some, Bool.or_eq_true, hold,
      hsuggested (hthrough.before hstarts)]
  refine ⟨version, hversion, by rw [hreads.firmware_eq, hversion, Option.getD_some], ?_⟩
  rw [hflag, or_iff_right_iff_imp, imp_iff_not_or, or_comm]

/-- An Epic whose firmware was upgraded between two set-ups, which both return. -/
theorem suggested_after_upgrade :
    let mouse := replayed (Model.forPid Model.known Protocol.epicPid)
    let blank : Bytes := List.replicate 90 0
    let answer (minor : UInt8) : Except Fault Bytes := .ok ((blank.set 8 1).set 9 minor)
    let device : Replay := { reads := answer 3 :: List.replicate 4 (.ok blank) ++ [answer 4] }
    let s := after mouse (start mouse.model (recorded device)) [.setUp]
    let r := (setUp mouse).run s
    s.suggestUpgrade = true ∧ r.1.toOption = some () ∧ versionRead mouse s = some 0x0104 ∧
      ¬(0x0104 : Int) < mouse.model.goodFirmware ∧ r.2.suggestUpgrade = true := by
  decide +kernel

/-! ### The initialization -/

theorem Through.initialized_iff (h : Through mouse s first t) :
    t.initialized = true ↔ s.initialized = true ∨ ∃ call ∈ first, Announces mouse call := by
  induction h with
  | idle h => rw [h.initialized_eq, or_iff_left fun ⟨_, hcall, _⟩ ↦ List.not_mem_nil hcall]
  | @call _ call _ _ h _ ih =>
    rw [ih, initialized_setUp_iff, h.initialized_eq, List.exists_mem_cons_iff, or_assoc]

/-- In every state of a run the session is initialized if any of its set-ups has announced it, and
so it is after each of them. Those are the set-ups that returned and those that failed with their
observer on hearing of it. So the flag agrees with the latest set-up if and only if that one
returned, or none announced anything. -/
theorem initialized_of_reachable (mouse : Mouse σ τ) (bus : Bus σ τ) (steps : List (Step τ)) :
    let fresh := start mouse.model bus
    let s := after mouse fresh steps
    let calls := setUps mouse fresh steps
    let outcome (call : Session σ τ) := ((setUp mouse).run call).1
    (s.initialized = true ↔ ∃ call ∈ calls, Announces mouse call) ∧
      (∀ earlier call, earlier ++ [call] <+: calls →
        (((setUp mouse).run call).2.initialized = true ↔
          ∃ other ∈ earlier ++ [call], Announces mouse other)) ∧
      (∀ call, (outcome call = .ok () → Announces mouse call) ∧
        (Announces mouse call → outcome call = call.observer.verdict .initialized)) ∧
      ((s.initialized = true ↔ (calls.map outcome).getLast? = some (.ok ())) ↔
        (calls.map outcome).getLast? = some (.ok ()) ∨ ¬∃ call ∈ calls, Announces mouse call) := by
  intro fresh s calls outcome
  have hthrough : Through mouse fresh calls s := through_after steps fresh
  -- A fresh session is not initialized.
  have hinitialized {before : List (Session σ τ)} {t : Session σ τ}
      (h : Through mouse fresh before t) :
      t.initialized = true ↔ ∃ call ∈ before, Announces mouse call :=
    h.initialized_iff.trans (or_iff_right Bool.false_ne_true)
  have hflag := hinitialized hthrough
  have hlatest (h : (calls.map outcome).getLast? = some (.ok ())) :
      ∃ call ∈ calls, Announces mouse call := by
    obtain ⟨call, hcall, hok⟩ := List.mem_map.mp (List.mem_of_getLast? h)
    exact ⟨call, hcall, announces_of_ok mouse hok⟩
  refine ⟨hflag, fun earlier call hstarts ↦ ?_,
    fun call ↦ ⟨announces_of_ok mouse, outcome_of_announces mouse⟩, ?_⟩
  · have hcalled : Through mouse fresh (earlier ++ [call]) ((setUp mouse).run call).2 :=
      (hthrough.before hstarts).append
        (.call (refl_of SameFindings call) (.idle (refl_of SameFindings _)))
    exact hinitialized hcalled
  · rw [hflag]
    by_cases hlast : (calls.map outcome).getLast? = some (.ok ())
    · exact iff_of_true (iff_of_true (hlatest hlast) hlast) (.inl hlast)
    · rw [iff_false_right hlast, or_iff_right hlast]

/-- A session was set up, and the mouse gives no version when it is set up anew. -/
theorem initialized_after_failing_setUp :
    let mouse := replayed (Model.forPid Model.known Protocol.classicPid)
    let blank : Bytes := List.replicate 90 0
    let device : Replay := { reads := [.ok (blank.set 8 1)] }
    let s := after mouse (start mouse.model (recorded device)) [.setUp]
    let r := (setUp mouse).run s
    s.initialized = true ∧ r.1.mapError Fault.kind = .error .notResponding ∧
      r.2.initialized = true := by
  decide +kernel

end MouseControl.Session
