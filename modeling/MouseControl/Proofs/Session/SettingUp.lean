import MouseControl.Proofs.Line.Extract
import MouseControl.Proofs.Session.History
import MouseControl.Proofs.Session.OnLine

/-!
How a set-up ends. It claims, probes the firmware, commits the defaults and releases, and only then
announces that the mouse is initialized. Under the claim it fails before anything changed, fails in
the commit of the defaults, or comes to its end (`Worked`); a claim and a release change neither
(`SameRecord`). So a set-up holds no claim of its own afterwards, leaves a session as it was if the
firmware was not read, and announces exactly that all of this succeeded (`setUpAccount`). The
observer who hears of it can still make it fail (`failing_setUp_by_observer`).
-/

set_option autoImplicit false
set_option relaxedAutoImplicit false

namespace MouseControl

open MouseControl.Action

variable {σ τ : Type}

/-- An event other than the report of an initialization. -/
def Event.Unannounced (event : Event τ) : Prop := event ≠ .initializedReported

theorem Event.coversTraffic_unannounced : CoversTraffic (Event.Unannounced : Event τ → Prop) where
  paused _ _ := nofun
  wrote _ _ := nofun
  read _ _ := nofun
  anomalyReported _ := nofun

theorem Event.unannounced_of_not_passive {event : Event τ} (h : event.isPassive = false) :
    event.Unannounced := by
  rintro rfl
  cases h

/-- The query for the firmware version. -/
def Frame.IsQuery (data : Bytes) : Prop := encode .firmwareVersion [] = .ok data

namespace Session

/-! ### Claiming and releasing -/

/-- Sessions that differ only in their lines and in who holds the transport. -/
structure SameRecord (s s' : Session σ τ) : Prop where
  config_eq : s'.config = s.config
  firmware_eq : s'.firmware = s.firmware
  suggestUpgrade_eq : s'.suggestUpgrade = s.suggestUpgrade
  initialized_eq : s'.initialized = s.initialized
  observer_eq : s'.observer = s.observer

instance : IsPreorder (Session σ τ) SameRecord where
  refl _ := ⟨rfl, rfl, rfl, rfl, rfl⟩
  trans _ _ _ h h' :=
    ⟨h'.config_eq.trans h.config_eq, h'.firmware_eq.trans h.firmware_eq,
      h'.suggestUpgrade_eq.trans h.suggestUpgrade_eq, h'.initialized_eq.trans h.initialized_eq,
      h'.observer_eq.trans h.observer_eq⟩

theorem Reclaims.unannounced {s s' : Session σ τ} (h : Reclaims s s') :
    s.bus.Adds Event.Unannounced s'.bus := by
  obtain ⟨new, htrace, hactive⟩ := h.grows
  exact ⟨new, htrace, fun entry hentry ↦ Event.unannounced_of_not_passive (hactive entry hentry)⟩

variable [TimeScale τ] (mouse : Mouse σ τ)

theorem sameRecord_claim : Keeps SameRecord (claim mouse) := by
  intro s
  rw [run_claim]
  split_ifs
  · rcases (opening mouse).run s.bus with ⟨fault | _, bus⟩
    · exact ⟨rfl, rfl, rfl, rfl, rfl⟩
    · exact ⟨rfl, rfl, rfl, rfl, rfl⟩
  · exact ⟨rfl, rfl, rfl, rfl, rfl⟩

theorem sameRecord_release : Keeps SameRecord (release mouse) := by
  intro s
  rw [run_release]
  split_ifs
  · exact refl_of SameRecord s
  · rcases (closing mouse).run s.dropped.bus with ⟨fault | _, bus⟩
    · exact ⟨rfl, rfl, rfl, rfl, rfl⟩
    · exact ⟨rfl, rfl, rfl, rfl, rfl⟩
  · exact ⟨rfl, rfl, rfl, rfl, rfl⟩

variable {mouse} in
/-- A claim counts if it succeeds. -/
theorem claims_of_claim_ok {s t : Session σ τ} (h : (claim mouse).run s = (.ok (), t)) :
    t.claims = s.claims + 1 := by
  rw [run_claim] at h
  split_ifs at h
  · rcases hopening : (opening mouse).run s.bus with ⟨fault | _, bus⟩
    all_goals
      rw [hopening] at h
      cases h
    rfl
  · cases h
    rfl

variable {mouse} in
theorem claims_of_claim_error {s t : Session σ τ} {fault : Fault}
    (h : (claim mouse).run s = (.error fault, t)) : t.claims = s.claims := by
  rw [run_claim] at h
  split at h
  · rcases hopening : (opening mouse).run s.bus with ⟨own | _, bus⟩
    all_goals
      rw [hopening] at h
      cases h
    rfl
  · cases h

/-- A release counts even if it fails. -/
theorem claims_release (s : Session σ τ) :
    ((release mouse).run s).2.claims = s.claims - 1 := by
  rw [run_release]
  split_ifs with hclaims
  · simp [hclaims]
  · rcases (closing mouse).run s.dropped.bus with ⟨fault | _, bus⟩ <;> rfl
  · rfl

/-! ### Probing and committing -/

/-- The defaults of a model, once the mouse has them. -/
def delivered (model : Model) : Configuration :=
  { Configuration.defaults model with dirty := false }

/-- As many claims are held, and the same is said of the initialization and heard by the same
observer. -/
structure SameStanding (s s' : Session σ τ) : Prop where
  claims_eq : s'.claims = s.claims
  initialized_eq : s'.initialized = s.initialized
  observer_eq : s'.observer = s.observer

instance : IsPreorder (Session σ τ) SameStanding where
  refl _ := ⟨rfl, rfl, rfl⟩
  trans _ _ _ h h' :=
    ⟨h'.claims_eq.trans h.claims_eq, h'.initialized_eq.trans h.initialized_eq,
      h'.observer_eq.trans h.observer_eq⟩

/-- Of the first commit it is only noted that it failed. -/
theorem quietly_initialCommit (s : Session σ τ) :
    ((initialCommit mouse).run s).1 = ((commit mouse true).run s).1 ∧
      Quietly ((commit mouse true).run s).2 ((initialCommit mouse).run s).2 := by
  refine run_tryCatch_of_passesOn (fun fault t ↦ ?_) (fun fault ↦ ?_) s
  · by_cases hlibrary : fault.isA .library = true
    · rw [if_pos hlibrary]
      rfl
    · rw [if_neg hlibrary]
      rfl
  · refine keeps_ite (fun _ ↦ ?_) fun _ ↦ keeps_throw _
    exact keeps_bind (quietly_onBus (Bus.records_note _)) fun _ ↦ keeps_throw _

omit [TimeScale τ] in
theorem run_notify (r : Report) (s : Session σ τ) :
    (notify r).run s =
      (((Bus.report s.observer r).run s.bus).1,
        { s with bus := ((Bus.report s.observer r).run s.bus).2 }) :=
  rfl

/-- Where a forced commit of something dirty ends: the push fails, or the observer is told that
nothing is pending any more. -/
theorem run_forcedCommit {s : Session σ τ} (hclaims : 0 < s.claims)
    (hdirty : s.config.dirty = true) :
    (commit mouse true).run s =
      match (mouse.channel.push s.config).run s.bus with
      | (.ok (), bus) => (s.observer.verdict (.dirty false), { s with
          config := { s.config with dirty := false }
          bus := ((Bus.report s.observer (.dirty false)).run
            ((Bus.mark .pushed).run bus).2).2 })
      | (.error fault, bus) => (.error fault, { s with bus := bus }) := by
  rw [run_commit, if_neg (Nat.ne_of_gt hclaims), if_pos (Bool.or_true _)]
  rcases (mouse.channel.push s.config).run s.bus with ⟨fault | _, bus⟩
  · rfl
  · dsimp only
    rw [run_setDirty, if_neg (by simp [hdirty]), run_notify, Bus.outcome_of_report]

/-- Where a commit of the defaults ends, besides the line: before they were cleaned, or with an
observer who failed on hearing of it, or well. -/
inductive Settles (model : Model) (s : Session σ τ) (r : Except Fault Unit × Session σ τ) :
    Prop where
  | cut {fault : Fault} {bus : Bus σ τ} (hr : r = (.error fault, { s with bus := bus }))
  | deafened {fault : Fault} {bus : Bus σ τ}
    (hobserver : s.observer.verdict (.dirty false) = .error fault)
    (hr : r = (.error fault, { s with bus := bus, config := delivered model }))
  | whole {bus : Bus σ τ} (hr : r = (.ok (), { s with bus := bus, config := delivered model }))

theorem settles_commit {s : Session σ τ} (hclaims : 0 < s.claims)
    (hconfig : s.config = .defaults mouse.model) :
    Settles mouse.model s ((commit mouse true).run s) := by
  have hdirty : s.config.dirty = true := by
    rw [hconfig]
    rfl
  rw [run_forcedCommit mouse hclaims hdirty]
  rcases (mouse.channel.push s.config).run s.bus with ⟨fault | _, bus⟩
  · exact .cut rfl
  dsimp only
  rw [hconfig]
  rcases hverdict : s.observer.verdict (.dirty false) with fault | _
  · exact .deafened hverdict rfl
  · exact .whole rfl

variable {mouse} in
theorem Settles.initialCommit {s : Session σ τ}
    (h : Settles mouse.model s ((commit mouse true).run s)) :
    Settles mouse.model s ((initialCommit mouse).run s) := by
  obtain ⟨houtcome, bus, hstate, -⟩ := quietly_initialCommit mouse s
  have hrun : (Session.initialCommit mouse).run s =
      (((commit mouse true).run s).1, { ((commit mouse true).run s).2 with bus := bus }) :=
    Prod.ext houtcome hstate
  rw [hrun]
  cases h with
  | cut hr =>
    rw [hr]
    exact .cut rfl
  | deafened hobserver hr =>
    rw [hr]
    exact .deafened hobserver rfl
  | whole hr =>
    rw [hr]
    exact .whole rfl

omit [TimeScale τ] in
theorem sameStanding_refreshed (version : Int) (s : Session σ τ) :
    SameStanding s (refreshed mouse version s) := by
  rw [refreshed, checked]
  split
  · exact ⟨rfl, rfl, rfl⟩
  · exact ⟨rfl, rfl, rfl⟩

/-- What a set-up comes to under its claim. -/
inductive Worked (mouse : Mouse σ τ) (s : Session σ τ) (r : Except Fault Unit × Session σ τ) :
    Prop where
  | unread {fault : Fault} {bus : Bus σ τ}
    (hprobe : (mouse.channel.probe mouse.probePolicy).run s.bus = (.error fault, bus))
    (hr : r = (.error fault, { s with bus := bus }))
  | read {version : Int} {t : Session σ τ}
    (hprobe : ((mouse.channel.probe mouse.probePolicy).run s.bus).1 = .ok version)
    (hstanding : SameStanding s t) (hconfig : t.config = .defaults mouse.model)
    (hsettles : Settles mouse.model t r)

theorem worked_probeAndCommit {s : Session σ τ} (hclaims : 0 < s.claims) :
    Worked mouse s ((probeAndCommit mouse).run s) := by
  rw [run_probeAndCommit]
  rcases hprobe : (mouse.channel.probe mouse.probePolicy).run s.bus with ⟨fault | version, bus⟩
  · exact .unread hprobe rfl
  let fresh := refreshed mouse version { s with bus := bus }
  have hfresh := sameStanding_refreshed mouse version { s with bus := bus }
  have hstanding : SameStanding s fresh :=
    ⟨hfresh.claims_eq, hfresh.initialized_eq, hfresh.observer_eq⟩
  have hheld : 0 < fresh.claims := hstanding.claims_eq ▸ hclaims
  have hsettles : Settles mouse.model fresh ((commit mouse true).run fresh) :=
    settles_commit mouse hheld rfl
  exact .read (congrArg Prod.fst hprobe) hstanding rfl hsettles.initialCommit

omit [TimeScale τ] in
theorem Settles.sameStanding {model : Model} {s : Session σ τ} {r : Except Fault Unit × Session σ τ}
    (h : Settles model s r) : SameStanding s r.2 := by
  cases h with
  | cut hr | deafened _ hr | whole hr =>
    rw [hr]
    exact ⟨rfl, rfl, rfl⟩

variable {mouse} in
theorem Worked.sameStanding {s : Session σ τ} {r : Except Fault Unit × Session σ τ}
    (h : Worked mouse s r) : SameStanding s r.2 := by
  cases h with
  | unread _ hr =>
    rw [hr]
    exact ⟨rfl, rfl, rfl⟩
  | read _ hstanding _ hsettles => exact trans_of SameStanding hstanding hsettles.sameStanding

/-- Under its claim a set-up reports no initialization. -/
theorem unannounced_probeAndCommit :
    Keeps (OnLine (Bus.Adds Event.Unannounced)) (probeAndCommit mouse) := by
  have hmoves := mouse.channel.movesAlong_adds Event.coversTraffic_unannounced
  have hnarrating : Bus.Narrating (Bus.Adds Event.Unannounced : Bus σ τ → Bus σ τ → Prop) :=
    { note := fun _ _ _ ↦ Bus.adds_nothing rfl
      mark := fun _ _ ↦ Bus.adds_concat rfl nofun
      dirty := fun _ _ ↦ Bus.adds_concat rfl nofun }
  exact keeps_onLine_probeAndCommit hnarrating hmoves.pushes (hmoves.probes mouse.probePolicy)

/-! ### The whole set-up -/

/-- The part of a set-up up to its probe. -/
def reading : Action (Session σ τ) Int := do
  claim mouse
  onBus (mouse.channel.probe mouse.probePolicy)

/-- The part of a set-up up to its commit. -/
def committing : Action (Session σ τ) Unit := do
  claim mouse
  probeAndCommit mouse

/-- Everything that a set-up does under its claim, and the claim and its release. -/
def working : Action (Session σ τ) Unit := claimed mouse (probeAndCommit mouse)

variable {mouse} {s t : Session σ τ}

/-- How the work ends: without a claim, or with a release after what it came to under its claim. -/
inductive Working (mouse : Mouse σ τ) (s : Session σ τ) (r : Except Fault Unit × Session σ τ) :
    Prop where
  | unclaimed {fault : Fault} (hclaim : (claim mouse).run s = (.error fault, r.2))
    (herror : r.1 = .error fault)
  | released {t u : Session σ τ} {outcome : Except Fault Unit}
    (hclaim : (claim mouse).run s = (.ok (), t))
    (hbody : (probeAndCommit mouse).run t = (outcome, u)) (hworked : Worked mouse t (outcome, u))
    (hstate : r.2 = ((release mouse).run u).2) (hok : r.1 = .ok () → outcome = .ok ())

theorem working_working (s : Session σ τ) : Working mouse s ((working mouse).run s) := by
  rcases hclaim : (claim mouse).run s with ⟨fault | _, t⟩
  · have hrun : (working mouse).run s = (.error fault, t) := run_bind_error hclaim
    rw [hrun]
    exact .unclaimed hclaim rfl
  have hrun : (working mouse).run s = ((probeAndCommit mouse).ensuring (release mouse)).run t :=
    run_bind_ok hclaim
  have hworked := worked_probeAndCommit mouse (claims_of_claim hclaim)
  rcases hbody : (probeAndCommit mouse).run t with ⟨outcome, u⟩
  rw [hbody] at hworked
  rw [hrun, run_ensuring, hbody]
  rcases hrelease : (release mouse).run u with ⟨fault | _, v⟩
  · exact .released hclaim hbody hworked (by rw [hrelease]) nofun
  · exact .released hclaim hbody hworked (by rw [hrelease]) id

/-- However the work ends, as many claims are held as before. -/
theorem Working.sameStanding {r : Except Fault Unit × Session σ τ} (h : Working mouse s r) :
    SameStanding s r.2 := by
  cases h with
  | unclaimed hclaim =>
    have hsame := sameRecord_claim mouse s
    rw [hclaim] at hsame
    exact ⟨claims_of_claim_error hclaim, hsame.initialized_eq, hsame.observer_eq⟩
  | @released t u _ hclaim _ hworked hstate =>
    have hclaimed := sameRecord_claim mouse s
    have hreleased := sameRecord_release mouse u
    have hstanding : SameStanding t u := hworked.sameStanding
    rw [hclaim] at hclaimed
    rw [← hstate] at hreleased
    have hclaims : r.2.claims = s.claims := by
      rw [hstate, claims_release, hstanding.claims_eq, claims_of_claim_ok hclaim]
      rfl
    exact ⟨hclaims,
      hreleased.initialized_eq.trans (hstanding.initialized_eq.trans hclaimed.initialized_eq),
      hreleased.observer_eq.trans (hstanding.observer_eq.trans hclaimed.observer_eq)⟩

/-- The work reports no initialization. -/
theorem unannounced_working (s : Session σ τ) :
    s.bus.Adds Event.Unannounced ((working mouse).run s).2.bus := by
  have hreclaims : ∀ s s' : Session σ τ, Reclaims s s' → OnLine (Bus.Adds Event.Unannounced) s s' :=
    fun _ _ h ↦ h.unannounced
  refine keeps_bind ((Reclaims.claim mouse).mono hreclaims) (fun _ ↦ ?_) s
  exact keeps_ensuring (unannounced_probeAndCommit mouse) ((Reclaims.release mouse).mono hreclaims)

/-- A probe hands over the firmware query and nothing else. -/
theorem hands_probe (mouse : Mouse σ τ) (bus : Bus σ τ) :
    bus.Hands Frame.IsQuery ((mouse.channel.probe mouse.probePolicy).run bus).2 := by
  refine (mouse.channel.movesAlong_hands Frame.IsQuery).probe mouse.probePolicy ?_ bus
  intro frame sealed hencode hreseal
  rw [(Frame.sealed_of_encode hencode).reseal_eq] at hreseal
  cases hreseal
  exact hencode

theorem Working.unread {r : Except Fault Unit × Session σ τ} (h : Working mouse s r)
    {fault : Fault} (hreading : ((reading mouse).run s).1 = .error fault) :
    r.1 ≠ .ok () ∧ SameRecord s r.2 ∧ s.bus.Hands Frame.IsQuery r.2.bus := by
  have hclaimed := sameRecord_claim mouse s
  have hsilent : s.bus.Silent ((claim mouse).run s).2.bus := (Reclaims.claim mouse s).silent
  cases h with
  | unclaimed hclaim herror =>
    rw [hclaim] at hclaimed hsilent
    exact ⟨by simp [herror], hclaimed, hsilent.hands⟩
  | @released t u outcome hclaim _ hworked hstate hok =>
    rw [hclaim] at hclaimed hsilent
    rw [reading, run_bind_ok hclaim] at hreading
    cases hworked with
    | @unread own bus hprobe hr =>
      obtain ⟨rfl, rfl⟩ := Prod.mk.inj hr
      have hhanded := hands_probe mouse t.bus
      have hreleased := (Reclaims.release mouse { t with bus := bus }).silent
      rw [hprobe] at hhanded
      rw [← hstate] at hreleased
      have hprobed : SameRecord t { t with bus := bus } := ⟨rfl, rfl, rfl, rfl, rfl⟩
      have hkept := trans_of SameRecord hprobed (sameRecord_release mouse { t with bus := bus })
      rw [← hstate] at hkept
      constructor
      · intro hend
        cases hok hend
      constructor
      · exact trans_of SameRecord hclaimed hkept
      · exact trans_of (Bus.Hands Frame.IsQuery)
          (trans_of (Bus.Hands Frame.IsQuery) hsilent.hands hhanded) hreleased.hands
    | read hprobe =>
      have hread : ((mouse.channel.probe mouse.probePolicy).run t.bus).1 = .error fault := hreading
      rw [hprobe] at hread
      cases hread

theorem Working.uncommitted {r : Except Fault Unit × Session σ τ} (h : Working mouse s r)
    {version : Int} {fault : Fault} (hreading : ((reading mouse).run s).1 = .ok version)
    (hcommitting : ((committing mouse).run s).1 = .error fault) :
    r.1 ≠ .ok () ∧ (r.2.config = .defaults mouse.model ∨
      s.observer.verdict (.dirty false) = .error fault ∧ r.2.config = delivered mouse.model) := by
  cases h with
  | unclaimed hclaim =>
    rw [reading, run_bind_error hclaim] at hreading
    cases hreading
  | @released t u outcome hclaim hbody hworked hstate hok =>
    have hclaimed := sameRecord_claim mouse s
    have hreleased := sameRecord_release mouse u
    rw [hclaim] at hclaimed
    rw [← hstate] at hreleased
    rw [reading, run_bind_ok hclaim] at hreading
    rw [committing, run_bind_ok hclaim, hbody] at hcommitting
    subst hcommitting
    have hfailed : r.1 ≠ .ok () := by
      intro hend
      cases hok hend
    refine ⟨hfailed, ?_⟩
    rw [hreleased.config_eq]
    cases hworked with
    | unread hprobe =>
      have hread : ((mouse.channel.probe mouse.probePolicy).run t.bus).1 = .ok version := hreading
      rw [hprobe] at hread
      cases hread
    | read _ hstanding hconfig hsettles =>
      cases hsettles with
      | cut hr =>
        obtain ⟨-, rfl⟩ := Prod.mk.inj hr
        exact .inl hconfig
      | deafened hobserver hr =>
        obtain ⟨hfault, rfl⟩ := Prod.mk.inj hr
        obtain rfl := Except.error.inj hfault
        exact .inr ⟨by rw [← hclaimed.observer_eq, ← hstanding.observer_eq, hobserver], rfl⟩
      | whole hr => cases congrArg Prod.fst hr

/-- Work that comes to its end leaves the defaults behind, which the mouse has. -/
theorem Working.completed {r : Except Fault Unit × Session σ τ} (h : Working mouse s r)
    (hend : r.1 = .ok ()) : r.2.config = delivered mouse.model := by
  cases h with
  | unclaimed _ herror => simp [hend] at herror
  | @released t u outcome _ _ hworked hstate hok =>
    have hreleased := sameRecord_release mouse u
    rw [← hstate] at hreleased
    obtain rfl := hok hend
    cases hworked with
    | unread _ hr => cases congrArg Prod.fst hr
    | read _ hstanding _ hsettles =>
      cases hsettles with
      | cut hr => cases congrArg Prod.fst hr
      | deafened _ hr => cases congrArg Prod.fst hr
      | whole hr =>
        obtain ⟨-, rfl⟩ := Prod.mk.inj hr
        exact hreleased.config_eq

omit [TimeScale τ] in
theorem run_announce (mouse : Mouse σ τ) (s : Session σ τ) :
    (announce mouse).run s =
      let noted := ((Bus.note (.initialized mouse.model.name s.firmware
        mouse.model.generation)).run s.bus).2
      (s.observer.verdict .initialized, { s with
        initialized := true
        bus := ((Bus.report s.observer .initialized).run noted).2 }) :=
  Prod.ext (Bus.outcome_of_report s.observer _ _) rfl

omit [TimeScale τ] in
/-- An announcement is the last that is recorded, whatever the observer makes of it. -/
theorem exists_announce (mouse : Mouse σ τ) (s : Session σ τ) :
    ∃ bus, (announce mouse).run s =
        (s.observer.verdict .initialized, { s with initialized := true, bus := bus }) ∧
      bus.trace = s.bus.trace ++
        s.observer.hears [⟨s.bus.clock, s.bus.clock, .initializedReported⟩] := by
  rw [run_announce]
  exact ⟨_, rfl, Bus.trace_report s.observer .initialized _⟩

/-- A set-up ends with its work if that fails. -/
theorem run_setUp_of_error {fault : Fault} (h : (working mouse).run s = (.error fault, t)) :
    (setUp mouse).run s = (.error fault, t) := by
  rw [setUp_eq]
  exact run_bind_error h

/-- If it does not, a set-up ends with its announcement. -/
theorem run_setUp_of_ok (h : (working mouse).run s = (.ok (), t)) :
    (setUp mouse).run s = (announce mouse).run t := by
  rw [setUp_eq]
  exact run_bind_ok h

/-- What comes of a set-up. -/
structure SetUpAccount (mouse : Mouse σ τ) (s : Session σ τ)
    (r : Except Fault Unit × Session σ τ) : Prop where
  /-- However it ends, no claim of its own is left. -/
  claims_eq : r.2.claims = s.claims
  /-- If the transport does not open or the firmware is not read, the work fails, nothing changes
  and nothing but the query is written. -/
  unread : ∀ fault, ((reading mouse).run s).1 = .error fault →
    ((working mouse).run s).1 ≠ .ok () ∧ SameRecord s r.2 ∧ s.bus.Hands Frame.IsQuery r.2.bus
  /-- If the firmware is read and the commit fails, the work fails and the defaults are pending, but
  for an observer who fails on hearing that they no longer are. -/
  uncommitted : ∀ version fault, ((reading mouse).run s).1 = .ok version →
    ((committing mouse).run s).1 = .error fault →
      ((working mouse).run s).1 ≠ .ok () ∧
        (r.2.config = .defaults mouse.model ∧ r.2.config.dirty = true ∨
          s.observer.verdict (.dirty false) = .error fault ∧ r.2.config = delivered mouse.model)
  /-- A set-up whose work fails ends with it and announces nothing. -/
  unannounced : ∀ fault released, (working mouse).run s = (.error fault, released) →
    r = (.error fault, released) ∧ r.2.initialized = s.initialized ∧
      s.bus.Adds Event.Unannounced r.2.bus
  /-- A set-up whose work is done announces this after its release, as the last thing recorded, and
  comes to what the observer makes of it. -/
  announced : ∀ released, (working mouse).run s = (.ok (), released) →
    r.1 = s.observer.verdict .initialized ∧ r.2.initialized = true ∧
      r.2.config = delivered mouse.model ∧ s.bus.Adds Event.Unannounced released.bus ∧
        r.2.bus.trace = released.bus.trace ++
          s.observer.hears [⟨released.bus.clock, released.bus.clock, .initializedReported⟩]

/-- A set-up leaves no claim behind, changes nothing unless the firmware was read, and announces,
last of all, that its work is done, and nothing else. -/
theorem setUpAccount (mouse : Mouse σ τ) (s : Session σ τ) :
    SetUpAccount mouse s ((setUp mouse).run s) := by
  have hworking : Working mouse s ((working mouse).run s) := working_working s
  have hadds : s.bus.Adds Event.Unannounced ((working mouse).run s).2.bus := unannounced_working s
  have hstanding := hworking.sameStanding
  rcases hrun : (working mouse).run s with ⟨fault | _, t⟩
  all_goals rw [hrun] at hworking hadds hstanding
  · rw [run_setUp_of_error hrun]
    refine ⟨hstanding.claims_eq, fun _ hreading ↦ ?_, fun _ _ hreading hcommitting ↦ ?_, ?_, ?_⟩
    · rw [hrun]
      exact hworking.unread hreading
    · obtain ⟨hfailed, hconfig⟩ := hworking.uncommitted hreading hcommitting
      rw [hrun]
      refine ⟨hfailed, hconfig.imp_left fun heq ↦ ?_⟩
      rw [heq]
      exact ⟨rfl, rfl⟩
    · rintro own released hfailed
      rw [hrun] at hfailed
      cases hfailed
      exact ⟨rfl, hstanding.initialized_eq, hadds⟩
    · rintro released hdone
      rw [hrun] at hdone
      cases hdone
  · obtain ⟨bus, hannounce, htrace⟩ := exists_announce mouse t
    rw [run_setUp_of_ok hrun, hannounce]
    refine ⟨hstanding.claims_eq, fun _ hreading ↦ ?_, fun _ _ hreading hcommitting ↦ ?_, ?_, ?_⟩
    · exact absurd rfl (hworking.unread hreading).1
    · exact absurd rfl (hworking.uncommitted hreading hcommitting).1
    · rintro own released hfailed
      rw [hrun] at hfailed
      cases hfailed
    · rintro released hdone
      rw [hrun] at hdone
      cases hdone
      rw [hstanding.observer_eq] at htrace ⊢
      exact ⟨rfl, rfl, hworking.completed rfl, hadds, htrace⟩

/-- The observer fails on hearing that the defaults are delivered: the commit fails, and nothing is
pending. One who fails on hearing of the initialization alone lets the set-up fail after all its
work and its announcement. -/
theorem failing_setUp_by_observer :
    let mouse := replayed (Model.forPid Model.known Protocol.classicPid)
    let blank : Bytes := List.replicate 90 0
    let fault := Fault.reported .lookup "observer"
    let heard (observer : Observer) := after mouse
      (start mouse.model (recorded { reads := [.ok (blank.set 8 1)] })) [.observe observer]
    let s := heard (.present fun | .dirty _ => .error fault | _ => .ok ())
    let s' := heard (.present fun | .initialized => .error fault | _ => .ok ())
    let r' := (setUp mouse).run s'
    (((reading mouse).run s).1.toOption = some 0x0100 ∧
      ((committing mouse).run s).1.toOption = none ∧
        ((setUp mouse).run s).2.config.dirty = false) ∧
      ((working mouse).run s').1.toOption = some () ∧ r'.1.mapError Fault.kind = .error .lookup ∧
        r'.2.initialized = true ∧ r'.2.config.dirty = false := by
  decide +kernel

end Session

end MouseControl
