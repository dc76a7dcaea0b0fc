import MouseControl.Line.Replay
import MouseControl.Proofs.Line.Traffic

/-!
Who holds a transport, as a trace tells it. A `Ledger` keeps the number of claims, whether the
transport is open and whether the session opened it; every event moves it on (`Ledger.next`), and it
says what may happen (`Ledger.Allows`). `Account` holds of the events of a session that keeps to it
throughout: a transport that was open before is then never opened or closed. One event that the
ledger allows keeps the account (`Account.snoc`), and so do any number of events that leave claims
and transport alone (`Account.append`).
-/

set_option autoImplicit false
set_option relaxedAutoImplicit false

namespace MouseControl

open MouseControl.Action

variable {σ τ : Type}

/-- The claims on a transport, whether it is open, and whether the session opened it and has not
closed it since. -/
structure Ledger where
  claims : Int
  isOpen : Bool
  owned : Bool
  deriving DecidableEq

/-- Whether an event opens or closes the transport, or tries to. -/
def Event.touches : Event τ → Bool
  | .opened _ | .closed _ => true
  | _ => false

/-- Whether an event leaves claims and transport as they are. -/
def Event.isPassive : Event τ → Bool
  | .opened _ | .closed _ | .reached .claimed | .reached .released => false
  | _ => true

/-- The outcome of a call that closes the transport. -/
def Event.closing? : Event τ → Option (Except Fault Unit)
  | .closed outcome => some outcome
  | _ => none

/-- How the latest attempt to close the transport ended. -/
def lastClosing (trace : List (Entry τ)) : Option (Except Fault Unit) :=
  (trace.filterMap fun entry ↦ entry.event.closing?).getLast?

namespace Ledger

/-- The ledger after an event. -/
def next (l : Ledger) : Event τ → Ledger
  | .opened (.ok _) => { l with isOpen := true, owned := true }
  | .closed (.ok _) => { l with isOpen := false, owned := false }
  | .reached .claimed => { l with claims := l.claims + 1 }
  | .reached .released => { l with claims := l.claims - 1 }
  | _ => l

/-- The ledger after some events. -/
def after (l : Ledger) (events : List (Event τ)) : Ledger := events.foldl next l

/-- Transfers need a claim and an open transport. The transport is opened when it is closed, and
closed only by a session that opened it, both without a claim, and only a claim can be dropped. -/
def Allows (l : Ledger) : Event τ → Prop
  | .wrote .. | .read .. => 0 < l.claims ∧ l.isOpen = true
  | .opened _ => l.claims = 0 ∧ l.isOpen = false
  | .closed _ => l.claims = 0 ∧ l.owned = true
  | .reached .released => 0 < l.claims
  | _ => True

/-- The number of claims is not negative, and what is claimed is open. -/
structure Sound (l : Ledger) : Prop where
  nonneg : 0 ≤ l.claims
  isOpen_of_pos : 0 < l.claims → l.isOpen = true

/-- Each of some events is allowed by the ledger before it, and the ledger is sound all along. -/
def Lawful (l : Ledger) : List (Event τ) → Prop
  | [] => l.Sound
  | event :: rest => l.Sound ∧ l.Allows event ∧ (l.next event).Lawful rest

theorem sound_of_claims_eq_zero {l : Ledger} (h : l.claims = 0) : l.Sound where
  nonneg := by omega
  isOpen_of_pos hpos := by omega

theorem after_append (l : Ledger) (first second : List (Event τ)) :
    l.after (first ++ second) = (l.after first).after second := List.foldl_append

theorem Lawful.append {second : List (Event τ)} : ∀ {first : List (Event τ)} {l : Ledger},
    l.Lawful first → (l.after first).Lawful second → l.Lawful (first ++ second)
  | [], _, _, h => h
  | _ :: _, _, ⟨hsound, hallows, hrest⟩, h => ⟨hsound, hallows, hrest.append h⟩

theorem Lawful.sound : ∀ {events : List (Event τ)} {l : Ledger}, l.Lawful events →
    (l.after events).Sound
  | [], _, h => h
  | _ :: _, _, ⟨_, _, hrest⟩ => hrest.sound

theorem next_of_isPassive (l : Ledger) {event : Event τ} (h : event.isPassive = true) :
    l.next event = l := by
  unfold Event.isPassive at h
  split at h
  · cases h
  · cases h
  · cases h
  · cases h
  · unfold next
    split <;> first | rfl | (exfalso; simp_all)

theorem allows_of_isPassive {l : Ledger} (hsound : l.Sound) {event : Event τ}
    (h : event.isPassive = true) (hused : event.isTransfer = true → 0 < l.claims) :
    l.Allows event := by
  cases event with
  | wrote | read => exact ⟨hused rfl, hsound.isOpen_of_pos (hused rfl)⟩
  | opened | closed => cases h
  | reached milestone =>
    cases milestone with
    | released => cases h
    | _ => trivial
  | _ => trivial

end Ledger

/-- The events of a session that keeps to its ledger, and the ledger after them. At first nothing is
claimed, and the transport is open or not. -/
structure Account (first : Bool) (events : List (Event τ)) (l : Ledger) : Prop where
  after_eq : Ledger.after ⟨0, first, false⟩ events = l
  lawful : Ledger.Lawful ⟨0, first, false⟩ events
  isOpen_eq : l.isOpen = (first || l.owned)
  untouched : first = true → l.owned = false ∧ ∀ event ∈ events, event.touches = false

namespace Account

variable {first : Bool} {events : List (Event τ)} {l : Ledger}

theorem nil (first : Bool) : Account first ([] : List (Event τ)) ⟨0, first, false⟩ where
  after_eq := rfl
  lawful := ⟨Int.le_refl 0, fun h ↦ absurd h (Int.lt_irrefl 0)⟩
  isOpen_eq := (Bool.or_false first).symm
  untouched _ := ⟨rfl, List.forall_mem_nil _⟩

theorem sound (h : Account first events l) : l.Sound := h.after_eq ▸ h.lawful.sound

/-- Any event that the ledger allows, unless it leaves a claim on a closed transport. -/
theorem snoc (h : Account first events l) {event : Event τ} (hallows : l.Allows event)
    (hsound : (l.next event).Sound) : Account first (events ++ [event]) (l.next event) where
  after_eq := by
    rw [Ledger.after_append, h.after_eq]
    rfl
  lawful := by
    refine h.lawful.append ?_
    rw [h.after_eq]
    exact ⟨h.sound, hallows, hsound⟩
  isOpen_eq := by
    have hopen := h.isOpen_eq
    unfold Ledger.next
    split
    · exact (Bool.or_true first).symm
    · -- A transport that was open at first is not owned, so it is not the one that is closed.
      have hfirst : first = false := by
        refine Bool.eq_false_iff.mpr fun hfirst ↦ ?_
        have hnot := (h.untouched hfirst).1
        rw [hallows.2] at hnot
        cases hnot
      rw [hfirst]
      rfl
    all_goals exact hopen
  untouched hfirst := by
    obtain ⟨hnot, hevents⟩ := h.untouched hfirst
    have htouches : event.touches = false := by
      cases event with
      | opened =>
        have hclosed := hallows.2
        rw [h.isOpen_eq, hfirst] at hclosed
        cases hclosed
      | closed =>
        have howned := hallows.2
        rw [hnot] at howned
        cases howned
      | _ => rfl
    refine ⟨?_, List.forall_mem_append.mpr ⟨hevents, List.forall_mem_singleton.mpr htouches⟩⟩
    unfold Ledger.next
    split
    · cases htouches
    · cases htouches
    all_goals exact hnot

/-- The same of one entry more in a trace. -/
theorem concat {trace : List (Entry τ)} (h : Account first (trace.map Entry.event) l)
    (entry : Entry τ) (hallows : l.Allows entry.event) (hsound : (l.next entry.event).Sound) :
    Account first ((trace ++ [entry]).map Entry.event) (l.next entry.event) := by
  rw [List.map_append]
  exact h.snoc hallows hsound

theorem append (h : Account first events l) (new : List (Event τ))
    (hnew : ∀ event ∈ new, event.isPassive = true ∧ (event.isTransfer = true → 0 < l.claims)) :
    Account first (events ++ new) l := by
  induction new generalizing events with
  | nil =>
    rw [List.append_nil]
    exact h
  | cons event rest ih =>
    obtain ⟨⟨hpassive, hused⟩, hrest⟩ := List.forall_mem_cons.mp hnew
    have hnext : l.next event = l := l.next_of_isPassive hpassive
    have hsnoc : Account first (events ++ [event]) l := by
      have hstep := h.snoc (Ledger.allows_of_isPassive h.sound hpassive hused)
        (hnext.symm ▸ h.sound)
      rwa [hnext] at hstep
    rw [← List.singleton_append, ← List.append_assoc]
    exact ih hsnoc hrest

end Account

/-! ### Lines between opening and closing -/

/-- A transport tells the truth about being open: only a success changes it. -/
structure Transport.Honest (t : Transport σ τ) : Prop where
  isOpen_openDevice : ∀ device, t.isOpen (t.openDevice device).state =
    match (t.openDevice device).outcome with
    | .ok _ => true
    | .error _ => t.isOpen device
  isOpen_closeDevice : ∀ device, t.isOpen (t.closeDevice device).state =
    match (t.closeDevice device).outcome with
    | .ok _ => false
    | .error _ => t.isOpen device
  isOpen_write : ∀ call device, t.isOpen (t.write call device).state = t.isOpen device
  isOpen_read : ∀ call device, t.isOpen (t.read call device).state = t.isOpen device

theorem Replay.honest [TimeScale τ] : (Replay.transport : Transport Replay τ).Honest where
  isOpen_openDevice _ := rfl
  isOpen_closeDevice _ := rfl
  isOpen_write _ _ := rfl
  isOpen_read _ _ := rfl

/-- A line moves on without claims and transport being concerned, and with transfers only if it is
used. -/
def Bus.Proceeds (t : Transport σ τ) (used : Prop) (bus bus' : Bus σ τ) : Prop :=
  t.isOpen bus'.device = t.isOpen bus.device ∧
    ∃ new, bus'.trace = bus.trace ++ new ∧
      ∀ entry ∈ new, entry.event.isPassive = true ∧ (entry.event.isTransfer = true → used)

instance (t : Transport σ τ) (used : Prop) : IsPreorder (Bus σ τ) (Bus.Proceeds t used) where
  refl bus := ⟨rfl, [], (List.append_nil _).symm, List.forall_mem_nil _⟩
  trans _ _ _ := by
    rintro ⟨hopen, first, hfirst, hpassive⟩ ⟨hopen', second, hsecond, hpassive'⟩
    refine ⟨hopen'.trans hopen, first ++ second, by rw [hsecond, hfirst, List.append_assoc], ?_⟩
    exact List.forall_mem_append.mpr ⟨hpassive, hpassive'⟩

theorem Event.isPassive_of_isReport {event : Event τ} (h : event.isReport = true) :
    event.isPassive = true := by
  cases event with
  | reached milestone => cases milestone <;> first | rfl | cases h
  | opened | closed => cases h
  | _ => rfl

theorem Bus.Records.proceeds {t : Transport σ τ} {used : Prop} {bus bus' : Bus σ τ}
    (h : bus.Records bus') : bus.Proceeds t used bus' := by
  obtain ⟨reports, htrace, hreports⟩ := h.grows
  refine ⟨congrArg t.isOpen h.device_eq, reports, htrace, fun entry hentry ↦ ?_⟩
  have hreport := hreports entry hentry
  refine ⟨Event.isPassive_of_isReport hreport, fun htransfer ↦ ?_⟩
  rw [entry.event.isTransfer_of_isReport hreport] at htransfer
  cases htransfer

/-- Whatever a channel of an honest transport does on a line that is in use. -/
theorem Channel.movesAlong_proceeds [TimeScale τ] (c : Channel σ τ) (h : c.transport.Honest) :
    c.MovesAlong (fun _ ↦ True) (Bus.Proceeds c.transport True) where
  note n := (Bus.records_note n).mono fun _ _ ↦ Bus.Records.proceeds
  pause _ _ _ := ⟨rfl, _, rfl, List.forall_mem_singleton.mpr ⟨rfl, fun _ ↦ trivial⟩⟩
  leave bus := ⟨rfl, [], (List.append_nil bus.trace).symm, List.forall_mem_nil _⟩
  remember _ bus := ⟨rfl, [], (List.append_nil bus.trace).symm, List.forall_mem_nil _⟩
  record _ := (Bus.records_record rfl).mono fun _ _ ↦ Bus.Records.proceeds
  write call _ bus := ⟨h.isOpen_write call bus.device, _, rfl,
    List.forall_mem_singleton.mpr ⟨rfl, fun _ ↦ trivial⟩⟩
  read call bus := ⟨h.isOpen_read call bus.device, _, rfl,
    List.forall_mem_singleton.mpr ⟨rfl, fun _ ↦ trivial⟩⟩

end MouseControl
