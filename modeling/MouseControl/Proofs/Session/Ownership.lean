import MouseControl.Proofs.Line.Ledger
import MouseControl.Proofs.Session.Commit

/-!
How claims and the transport go together. Over a transport that only the session opens and closes,
every run keeps its account (`accounted_after`): transfers happen under a claim and on an open
transport, and a transport that was open before is left alone. Between a claim and its release the
ledger does not move (`Works`); a claim and a release move it by the events they record
(`accounted_claim`, `accounted_release`). What this comes to for the owner of a session is
`ownership_after`.
-/

set_option autoImplicit false
set_option relaxedAutoImplicit false

namespace MouseControl

open MouseControl.Action

variable {σ τ α : Type}

/-- What the transport and its owner make of an attempt to open it. -/
theorem Transport.Honest.next_opened {t : Transport σ τ} (h : t.Honest) (device : σ)
    (claims : Int) (owned : Bool) :
    Ledger.next ⟨claims, t.isOpen device, owned⟩
        (.opened (t.openDevice device).outcome : Event τ) =
      ⟨claims, t.isOpen (t.openDevice device).state,
        match (t.openDevice device).outcome with
        | .ok _ => true
        | .error _ => owned⟩ := by
  rw [h.isOpen_openDevice]
  rcases (t.openDevice device).outcome with fault | _ <;> rfl

theorem Transport.Honest.next_closed {t : Transport σ τ} (h : t.Honest) (device : σ)
    (claims : Int) (owned : Bool) :
    Ledger.next ⟨claims, t.isOpen device, owned⟩
        (.closed (t.closeDevice device).outcome : Event τ) =
      ⟨claims, t.isOpen (t.closeDevice device).state,
        match (t.closeDevice device).outcome with
        | .ok _ => false
        | .error _ => owned⟩ := by
  rw [h.isOpen_closeDevice]
  rcases (t.closeDevice device).outcome with fault | _ <;> rfl

theorem lastClosing_append_of_isPassive (trace : List (Entry τ)) {new : List (Entry τ)}
    (h : ∀ entry ∈ new, entry.event.isPassive = true) :
    lastClosing (trace ++ new) = lastClosing trace := by
  have hnone : new.filterMap (fun entry ↦ entry.event.closing?) = [] := by
    refine List.filterMap_eq_nil_iff.mpr fun entry hentry ↦ ?_
    have hpassive := h entry hentry
    unfold Event.isPassive at hpassive
    unfold Event.closing?
    split
    · next hclosed =>
      rw [hclosed] at hpassive
      cases hpassive
    · rfl
  rw [lastClosing, List.filterMap_append, hnone, List.append_nil, lastClosing]

namespace Session

/-- The ledger of a session. -/
def ledger (mouse : Mouse σ τ) (s : Session σ τ) : Ledger :=
  ⟨s.claims, mouse.channel.transport.isOpen s.bus.device, s.ownsTransport⟩

/-- The events of a session keep its account, and a transport that the session still owns without a
claim is one that failed to close. -/
structure Accounted (mouse : Mouse σ τ) (first : Bool) (s : Session σ τ) : Prop where
  account : Account first (s.bus.trace.map Entry.event) (s.ledger mouse)
  closing : s.claims = 0 → s.ownsTransport = true →
    ∃ fault, lastClosing s.bus.trace = some (.error fault)

/-- A session neither claims nor releases, and makes transfers only under a claim. -/
structure Uses (mouse : Mouse σ τ) (s s' : Session σ τ) : Prop where
  claims_eq : s'.claims = s.claims
  owns_eq : s'.ownsTransport = s.ownsTransport
  proceeds : s.bus.Proceeds mouse.channel.transport (0 < s.claims) s'.bus

instance (mouse : Mouse σ τ) : IsPreorder (Session σ τ) (Uses mouse) where
  refl s := ⟨rfl, rfl, refl_of (Bus.Proceeds mouse.channel.transport (0 < s.claims)) s.bus⟩
  trans s s' s'' h h' := by
    have hproceeds := h'.proceeds
    rw [h.claims_eq] at hproceeds
    exact ⟨h'.claims_eq.trans h.claims_eq, h'.owns_eq.trans h.owns_eq,
      trans_of (Bus.Proceeds mouse.channel.transport (0 < s.claims)) h.proceeds hproceeds⟩

/-- The same, of what is done under a claim. -/
def Works (mouse : Mouse σ τ) (s s' : Session σ τ) : Prop := 0 < s.claims → Uses mouse s s'

instance (mouse : Mouse σ τ) : IsPreorder (Session σ τ) (Works mouse) where
  refl s _ := refl_of (Uses mouse) s
  trans s s' s'' h h' hpos := by
    have hfirst := h hpos
    exact trans_of (Uses mouse) hfirst (h' (hfirst.claims_eq.symm ▸ hpos))

section Uses

variable {mouse : Mouse σ τ} {first : Bool} {s s' : Session σ τ}

theorem Accounted.uses (hs : Accounted mouse first s) (h : Uses mouse s s') :
    Accounted mouse first s' := by
  obtain ⟨hopen, new, htrace, hnew⟩ := h.proceeds
  have hledger : s'.ledger mouse = s.ledger mouse := by
    rw [ledger, h.claims_eq, h.owns_eq, hopen, ledger]
  constructor
  · rw [hledger, htrace, List.map_append]
    refine hs.account.append _ fun event hevent ↦ ?_
    obtain ⟨entry, hentry, rfl⟩ := List.mem_map.mp hevent
    refine ⟨(hnew entry hentry).1, fun htransfer ↦ ?_⟩
    exact Int.natCast_pos.mpr ((hnew entry hentry).2 htransfer)
  · intro hclaims howns
    rw [htrace, lastClosing_append_of_isPassive _ fun entry hentry ↦ (hnew entry hentry).1]
    exact hs.closing (h.claims_eq ▸ hclaims) (h.owns_eq ▸ howns)

theorem Uses.of_quietly (h : Quietly s s') : Uses mouse s s' := by
  obtain ⟨bus, rfl, hrecords⟩ := h
  exact ⟨rfl, rfl, hrecords.proceeds⟩

/-- The configuration has no part in the account. -/
theorem Uses.of_config (config : Configuration) : Uses mouse s { s with config := config } :=
  ⟨rfl, rfl, refl_of (Bus.Proceeds mouse.channel.transport (0 < s.claims)) s.bus⟩

theorem Uses.of_adjusts (h : Adjusts mouse.model s s') : Uses mouse s s' := by
  obtain ⟨_, _, _, _, -, rfl⟩ := h
  exact ⟨rfl, rfl, refl_of (Bus.Proceeds mouse.channel.transport (0 < s.claims)) s.bus⟩

/-- Transfers may be made on the line of a session that holds a claim. -/
theorem Uses.of_proceeds {bus : Bus σ τ} (hpos : 0 < s.claims)
    (h : s.bus.Proceeds mouse.channel.transport True bus) : Uses mouse s { s with bus := bus } := by
  obtain ⟨hopen, new, htrace, hnew⟩ := h
  exact ⟨rfl, rfl, hopen, new, htrace, fun entry hentry ↦ ⟨(hnew entry hentry).1, fun _ ↦ hpos⟩⟩

theorem uses_sets {model : Model} {x : Action (Session σ τ) Unit} (hx : Sets model x) :
    Keeps (Uses mouse) x := by
  intro s
  rcases hx s with ⟨fault, h⟩ | ⟨-, change, -, h⟩
  · rw [h]
    exact refl_of (Uses mouse) s
  · rw [h]
    exact trans_of (Uses mouse) (Uses.of_config _) (Uses.of_quietly (quietly_amend change s))

variable [TimeScale τ]

theorem uses_commit (hhonest : mouse.channel.transport.Honest) (force : Bool) :
    Keeps (Uses mouse) (commit mouse force) := by
  intro s
  rw [run_commit]
  split
  · exact refl_of (Uses mouse) s
  next hclaims =>
  split
  · have hpush : s.bus.Proceeds mouse.channel.transport True
        ((mouse.channel.push s.config).run s.bus).2 :=
      (mouse.channel.movesAlong_proceeds hhonest).pushes s.config s.bus
    have hused := Uses.of_proceeds (Nat.pos_of_ne_zero hclaims) hpush
    rcases h : (mouse.channel.push s.config).run s.bus with ⟨fault | _, bus⟩ <;> rw [h] at hused
    · exact hused
    · let marked : Session σ τ := { s with bus := ((Bus.mark .pushed).run bus).2 }
      have hmark : Uses mouse { s with bus := bus } marked :=
        .of_quietly ⟨_, rfl, Bus.records_record rfl bus⟩
      have hclean : Uses mouse marked ((setDirty false).run marked).2 :=
        trans_of (Uses mouse) (Uses.of_config _) (Uses.of_quietly (quietly_setDirty false marked))
      exact trans_of (Uses mouse) (trans_of (Uses mouse) hused hmark) hclean
  · exact refl_of (Uses mouse) s

theorem works_probeAndCommit (hhonest : mouse.channel.transport.Honest) :
    Keeps (Works mouse) (probeAndCommit mouse) := by
  refine keeps_probeAndCommit (fun _ _ h _ ↦ .of_quietly h) (fun _ _ h _ ↦ .of_adjusts h) ?_ ?_
  · intro s hpos
    exact .of_proceeds hpos
      ((mouse.channel.movesAlong_proceeds hhonest).probes mouse.probePolicy s.bus)
  · exact fun s _ ↦ uses_commit hhonest true s

end Uses

/-! ### Claiming and releasing -/

section Claiming

variable {mouse : Mouse σ τ} {first : Bool} {s : Session σ τ}

/-- A claim may be counted once the transport is open. -/
theorem account_taken (h : Account first (s.bus.trace.map Entry.event) (s.ledger mouse))
    (hopen : mouse.channel.transport.isOpen s.bus.device = true) :
    Account first (s.taken.bus.trace.map Entry.event) (s.taken.ledger mouse) := by
  have hnonneg : (0 : Int) ≤ s.claims + 1 := by omega
  exact h.concat ⟨s.bus.clock, s.bus.clock, .reached .claimed⟩ trivial
    ⟨hnonneg, fun _ ↦ hopen⟩

/-- Every claim may be dropped. -/
theorem account_dropped (h : Account first (s.bus.trace.map Entry.event) (s.ledger mouse))
    (hpos : 0 < s.claims) :
    Account first (s.dropped.bus.trace.map Entry.event) (s.dropped.ledger mouse) := by
  have hclaims : ((s.claims - 1 : Nat) : Int) = s.claims - 1 := by omega
  have hnonneg : (0 : Int) ≤ s.claims - 1 := by omega
  have hopen : mouse.channel.transport.isOpen s.bus.device = true :=
    h.sound.isOpen_of_pos (Int.natCast_pos.mpr hpos)
  have hconcat := h.concat ⟨s.bus.clock, s.bus.clock, .reached .released⟩
    (Int.natCast_pos.mpr hpos) ⟨hnonneg, fun _ ↦ hopen⟩
  have hledger : s.dropped.ledger mouse =
      Ledger.next (s.ledger mouse) (.reached .released : Event τ) := by
    simp only [ledger, dropped, Ledger.next, hclaims]
    rfl
  rw [hledger]
  exact hconcat

variable [TimeScale τ]

theorem account_opening (hhonest : mouse.channel.transport.Honest)
    (h : Account first (s.bus.trace.map Entry.event) (s.ledger mouse)) (hclaims : s.claims = 0)
    (hclosed : mouse.channel.transport.isOpen s.bus.device = false) :
    let r := (opening mouse).run s.bus
    Account first (r.2.trace.map Entry.event)
      ⟨s.claims, mouse.channel.transport.isOpen r.2.device,
        match r.1 with
        | .ok _ => true
        | .error _ => s.ownsTransport⟩ := by
  intro r
  have hzero : (s.claims : Int) = 0 := by omega
  have hnext : Ledger.next (s.ledger mouse) (.opened r.1 : Event τ) =
      ⟨s.claims, mouse.channel.transport.isOpen r.2.device,
        match r.1 with
        | .ok _ => true
        | .error _ => s.ownsTransport⟩ :=
    hhonest.next_opened s.bus.device s.claims s.ownsTransport
  have hsound : (Ledger.next (s.ledger mouse) (.opened r.1 : Event τ)).Sound := by
    rw [hnext]
    exact Ledger.sound_of_claims_eq_zero hzero
  have hconcat := h.concat ⟨s.bus.clock, r.2.clock, .opened r.1⟩ ⟨hzero, hclosed⟩ hsound
  rw [hnext] at hconcat
  exact hconcat

theorem account_closing (hhonest : mouse.channel.transport.Honest)
    (h : Account first (s.bus.trace.map Entry.event) (s.ledger mouse)) (hclaims : s.claims = 0)
    (howns : s.ownsTransport = true) :
    let r := (closing mouse).run s.bus
    Account first (r.2.trace.map Entry.event)
      ⟨s.claims, mouse.channel.transport.isOpen r.2.device,
        match r.1 with
        | .ok _ => false
        | .error _ => s.ownsTransport⟩ := by
  intro r
  have hzero : (s.claims : Int) = 0 := by omega
  have hnext : Ledger.next (s.ledger mouse) (.closed r.1 : Event τ) =
      ⟨s.claims, mouse.channel.transport.isOpen r.2.device,
        match r.1 with
        | .ok _ => false
        | .error _ => s.ownsTransport⟩ :=
    hhonest.next_closed s.bus.device s.claims s.ownsTransport
  have hsound : (Ledger.next (s.ledger mouse) (.closed r.1 : Event τ)).Sound := by
    rw [hnext]
    exact Ledger.sound_of_claims_eq_zero hzero
  have hconcat := h.concat ⟨s.bus.clock, r.2.clock, .closed r.1⟩ ⟨hzero, howns⟩ hsound
  rw [hnext] at hconcat
  exact hconcat

theorem accounted_claim (hhonest : mouse.channel.transport.Honest) :
    Keeps (Retains (Accounted mouse first)) (claim mouse) := by
  intro s hs
  rw [run_claim]
  split
  next hfirst =>
    obtain ⟨hclaims, hclosed⟩ := hfirst
    have hopening := account_opening hhonest hs.account hclaims hclosed
    rcases h : (opening mouse).run s.bus with ⟨fault | _, bus⟩ <;> rw [h] at hopening
    · refine ⟨hopening, fun _ howns ↦ ?_⟩
      have hopen := hs.account.isOpen_eq
      simp [ledger, hclosed, show s.ownsTransport = true from howns] at hopen
    · have hopen := hopening.isOpen_eq
      rw [Bool.or_true] at hopen
      let opened : Session σ τ := { s with bus := bus, ownsTransport := true }
      have htaken : Account first (opened.taken.bus.trace.map Entry.event)
          (opened.taken.ledger mouse) := account_taken hopening hopen
      exact ⟨htaken, fun hzero ↦ absurd hzero (Nat.succ_ne_zero _)⟩
  next hlater =>
    have hopen : mouse.channel.transport.isOpen s.bus.device = true := by
      by_cases hclaims : s.claims = 0
      · exact Bool.ne_false_iff.mp fun hclosed ↦ hlater ⟨hclaims, hclosed⟩
      · exact hs.account.sound.isOpen_of_pos (Int.natCast_pos.mpr (Nat.pos_of_ne_zero hclaims))
    exact ⟨account_taken hs.account hopen, fun hzero ↦ absurd hzero (Nat.succ_ne_zero _)⟩

theorem accounted_release (hhonest : mouse.channel.transport.Honest) :
    Keeps (Retains (Accounted mouse first)) (release mouse) := by
  intro s hs
  rw [run_release]
  split
  · exact hs
  next hclaims =>
  have hdropped := account_dropped hs.account (Nat.pos_of_ne_zero hclaims)
  split
  next hlast =>
    obtain ⟨hone, howns⟩ := hlast
    have hzero : s.dropped.claims = 0 := by
      simp only [dropped, hone]
    have hclosing := account_closing hhonest hdropped hzero howns
    have hlastClosing : lastClosing ((closing mouse).run s.dropped.bus).2.trace =
        some ((closing mouse).run s.dropped.bus).1 := by
      rw [lastClosing, closing]
      simp only [Bus.call, run_of, List.filterMap_append, List.filterMap_cons, List.filterMap_nil,
        Event.closing?, List.getLast?_concat]
    rcases h : (closing mouse).run s.dropped.bus with ⟨fault | _, bus⟩ <;>
      rw [h] at hclosing hlastClosing
    · exact ⟨hclosing, fun _ _ ↦ ⟨fault, hlastClosing⟩⟩
    · exact ⟨hclosing, fun _ hnot ↦ absurd hnot Bool.false_ne_true⟩
  next hmore =>
    refine ⟨hdropped, fun hzero howns ↦ absurd ⟨?_, howns⟩ hmore⟩
    have hzero : s.claims - 1 = 0 := hzero
    omega

/-- What is done under a claim of its own finds the transport open and leaves a session in order. -/
theorem accounted_claimed (hhonest : mouse.channel.transport.Honest)
    {body : Action (Session σ τ) α} (hbody : Keeps (Works mouse) body) :
    Keeps (Retains (Accounted mouse first)) (claimed mouse body) := by
  intro s hs
  have ht := accounted_claim hhonest s hs
  rw [claimed, run_bind]
  rcases hclaim : (claim mouse).run s with ⟨fault | _, t⟩ <;> rw [hclaim] at ht
  · exact ht
  · have hdone : Accounted mouse first (body.run t).2 :=
      Accounted.uses ht (hbody t (claims_of_claim hclaim))
    have hreleased := accounted_release hhonest (body.run t).2 hdone
    dsimp only
    rw [run_ensuring]
    rcases hrelease : (release mouse).run (body.run t).2 with ⟨fault | _, u⟩ <;>
      rwa [hrelease] at hreleased

theorem movesAlong_accounted (hhonest : mouse.channel.transport.Honest) :
    MovesAlong mouse (Retains (Accounted mouse first)) where
  claim := accounted_claim hhonest
  release := accounted_release hhonest
  setUp := by
    refine keeps_bind (accounted_claimed hhonest (works_probeAndCommit hhonest)) fun _ ↦ ?_
    exact keeps_announce (fun _ _ h hs ↦ Accounted.uses hs (.of_quietly h))
      fun _ _ h hs ↦ Accounted.uses hs (.of_adjusts h)
  commit force := (uses_commit hhonest force).mono fun _ _ h hs ↦ Accounted.uses hs h
  setLed led state := (uses_sets (sets_call mouse (.led led state))).mono fun _ _ h hs ↦
    Accounted.uses hs h
  setFrequency frequency := (uses_sets (sets_call mouse (.frequency frequency))).mono
    fun _ _ h hs ↦ Accounted.uses hs h
  setMapping mapping axis := (uses_sets (sets_call mouse (.mapping mapping axis))).mono
    fun _ _ h hs ↦ Accounted.uses hs h
  observe _ _ hs := ⟨hs.account, hs.closing⟩
  elapse _ _ hs := ⟨hs.account, hs.closing⟩

/-- A run from a fresh line keeps the account of the transport. -/
theorem accounted_after (hhonest : mouse.channel.transport.Honest) (bus : Bus σ τ)
    {steps : List (Step τ)} (hsteps : anyBypasses steps = false) :
    Accounted mouse (mouse.channel.transport.isOpen bus.device)
      (after mouse (start mouse.model { bus with trace := [] }) steps) := by
  refine (movesAlong_accounted hhonest).after steps _ (fun hbypass ↦ ?_) ⟨?_, ?_⟩
  · rw [hsteps] at hbypass
    cases hbypass
  · exact Account.nil _
  · exact fun _ howns ↦ nomatch howns

/-- How a session stands to its transport, which was open before or not. -/
structure Ownership (mouse : Mouse σ τ) (before : Bool) (s : Session σ τ) : Prop where
  /-- Claims, transport and ownership are what the events so far make of them. -/
  ledger_eq : Ledger.after ⟨0, before, false⟩ (s.bus.trace.map Entry.event) =
    ⟨s.claims, mouse.channel.transport.isOpen s.bus.device, s.ownsTransport⟩
  /-- Every event was allowed when it happened, and what was claimed was open. -/
  lawful : Ledger.Lawful ⟨0, before, false⟩ (s.bus.trace.map Entry.event)
  isOpen_of_pos : 0 < s.claims → mouse.channel.transport.isOpen s.bus.device = true
  /-- A transport that was open before is never opened or closed. -/
  untouched : before = true → ∀ entry ∈ s.bus.trace, entry.event.touches = false
  /-- Without a claim the transport is as it was before, unless it failed to close. -/
  restored : s.claims = 0 → (∀ fault, lastClosing s.bus.trace ≠ some (.error fault)) →
    mouse.channel.transport.isOpen s.bus.device = before ∧ s.ownsTransport = false
  restored_by_release : ∀ t, (release mouse).run s = (.ok (), t) → t.claims = 0 →
    mouse.channel.transport.isOpen t.bus.device = before ∧ t.ownsTransport = false
  release_unclaimed : s.claims = 0 →
    ∃ fault, fault.kind = .busy ∧ (release mouse).run s = (.error fault, s)
  /-- A claim that fails leaves all but the line as it was. -/
  claim_failed : ∀ fault t, (claim mouse).run s = (.error fault, t) → t = { s with bus := t.bus }

omit [TimeScale τ] in
theorem Accounted.restored (hs : Accounted mouse first s) (howns : s.ownsTransport = false) :
    mouse.channel.transport.isOpen s.bus.device = first ∧ s.ownsTransport = false := by
  have hopen : mouse.channel.transport.isOpen s.bus.device = (first || s.ownsTransport) :=
    hs.account.isOpen_eq
  rw [howns, Bool.or_false] at hopen
  exact ⟨hopen, howns⟩

/-- A release that comes to zero without a fault leaves nothing to close. -/
theorem owns_of_release {t : Session σ τ} (h : (release mouse).run s = (.ok (), t))
    (hzero : t.claims = 0) : t.ownsTransport = false := by
  rw [run_release] at h
  split at h
  · cases h
  next hclaims =>
  split at h
  · rcases hclosing : (closing mouse).run s.dropped.bus with ⟨fault | _, bus⟩ <;>
      rw [hclosing] at h
    · cases h
    · cases h
      rfl
  next hmore =>
    cases h
    have hone : s.claims - 1 = 0 := hzero
    exact Bool.eq_false_iff.mpr fun howns ↦ hmore ⟨by omega, howns⟩

theorem claim_failed {fault : Fault} {t : Session σ τ}
    (h : (claim mouse).run s = (.error fault, t)) : t = { s with bus := t.bus } := by
  rw [run_claim] at h
  split at h
  · rcases hopening : (opening mouse).run s.bus with ⟨other | _, bus⟩ <;> rw [hopening] at h
    · cases h
      rfl
    · cases h
  · cases h

/-- Over an honest transport that only the session opens and closes, every run, whatever fails in
it, comes to a session that is in order. -/
theorem ownership_after (mouse : Mouse σ τ) (hhonest : mouse.channel.transport.Honest)
    (bus : Bus σ τ) (steps : List (Step τ)) (hsteps : anyBypasses steps = false) :
    Ownership mouse (mouse.channel.transport.isOpen bus.device)
      (after mouse (start mouse.model { bus with trace := [] }) steps) := by
  have hs := accounted_after hhonest bus hsteps
  generalize after mouse (start mouse.model { bus with trace := [] }) steps = s at hs
  constructor
  · exact hs.account.after_eq
  · exact hs.account.lawful
  · exact fun hpos ↦ hs.account.sound.isOpen_of_pos (Int.natCast_pos.mpr hpos)
  · intro hopen entry hentry
    exact (hs.account.untouched hopen).2 _ (List.mem_map_of_mem hentry)
  · intro hzero hclosed
    refine hs.restored (Bool.eq_false_iff.mpr fun howns ↦ ?_)
    obtain ⟨fault, hfault⟩ := hs.closing hzero howns
    exact hclosed fault hfault
  · intro t hrelease hzero
    have ht := accounted_release hhonest s hs
    rw [hrelease] at ht
    exact Accounted.restored ht (owns_of_release hrelease hzero)
  · intro hzero
    refine ⟨.releasedUnclaimed, rfl, ?_⟩
    rw [run_release, if_pos hzero]
  · exact fun fault t ↦ claim_failed

/-- A transport fails to open, and when a block fails in its turn, to close; the next claim takes it
over. -/
theorem ownership_after_faults :
    let model := Model.forPid Model.known Protocol.epicPid
    let fault : Fault := .reported .transfer ""
    let steps : List (Step Rat) :=
      [.claim, .claimed [.commit false, .fail fault], .release, .claim, .setUp, .close]
    let bus := recorded { opens := [.error fault], closes := [.error fault], writes := [.ok 3] }
    anyBypasses steps = false ∧
      Ownership (replayed model) false
        (after (replayed model) (start model { bus with trace := [] }) steps) := by
  intro model fault steps bus
  have hsteps : anyBypasses steps = false := rfl
  exact ⟨hsteps, ownership_after (replayed model) Replay.honest bus steps hsteps⟩

end Claiming

end Session

end MouseControl
