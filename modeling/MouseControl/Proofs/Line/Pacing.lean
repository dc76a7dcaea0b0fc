import Mathlib.Algebra.Order.Ring.Rat
import Mathlib.Tactic.Linarith
import MouseControl.Line.Replay
import MouseControl.Proofs.Line.Traffic
import MouseControl.Proofs.Line.Transaction

/-!
The pace of a line, in exact time. Between the end of one transfer and the start of the next lies at
least the least gap; a transfer that would come too early waits for what is missing of it, and any
other does not wait (`Slot`). Before the first transfer there is no pause at all, and after the last
one none that keeps a gap (`Paced`). What happens on the line without being a transfer leaves its
pace (`Paced.idle`), a transfer in its slot carries it on (`Paced.transfer`), and so it holds after
every run of transactions on a fresh line, whatever else happens in between
(`Channel.paced_after`). What is missing of a gap is never more than the gap, so if the gap is one
that can be waited, a line comes to no pause that cannot (`Channel.waitable_after`).
-/

set_option autoImplicit false
set_option relaxedAutoImplicit false

namespace MouseControl

open MouseControl.Action

variable {σ τ α : Type}

/-! ### Slots -/

/-- Whether an event leaves the line idle on purpose. -/
def Event.isPause : Event τ → Bool
  | .paused .. => true
  | _ => false

/-- Whether an event leaves the line idle to keep a gap. -/
def Event.isSpacing : Event τ → Bool
  | .paused .spacing _ => true
  | _ => false

/-- What precedes a transfer to keep the gap to one that stopped at some time: nothing if the gap
has passed, and otherwise a pause for exactly what is missing. -/
inductive Slot (interval stop : Rat) : List (Entry Rat) → Entry Rat → Prop
  | prompt {next : Entry Rat} (hdue : stop + interval ≤ next.start) : Slot interval stop [] next
  | late {next : Entry Rat} {now : Rat} (hearly : now < stop + interval)
      (hstart : next.start = stop + interval) :
      Slot interval stop [⟨now, next.start, .paused .spacing (stop + interval - now)⟩] next

/-- What lies between a transfer and the next one: a slot, and before it no pause that keeps a
gap. -/
def Gap (interval : Rat) (prev : Entry Rat) (between : List (Entry Rat)) (next : Entry Rat) :
    Prop :=
  ∃ idle wait, between = idle ++ wait ∧ (∀ entry ∈ idle, entry.event.isSpacing = false) ∧
    Slot interval prev.stop wait next

/-- Nothing of some trace is a transfer. -/
def Untouched (trace : List (Entry τ)) : Prop := ∀ entry ∈ trace, entry.event.isTransfer = false

/-- The pace of a line whose last transfer stopped at some time, if there was one. -/
structure Paced (interval : Rat) (last : Option Rat) (trace : List (Entry Rat)) : Prop where
  untouched_iff : Untouched trace ↔ last = none
  beforeFirst : ∀ before after, trace = before ++ after → Untouched before →
    ∀ entry ∈ before, entry.event.isPause = false
  between : ∀ before prev between next after, trace = before ++ prev :: between ++ next :: after →
    prev.event.isTransfer = true → next.event.isTransfer = true → Untouched between →
      Gap interval prev between next
  afterLast : ∀ before prev after, trace = before ++ prev :: after →
    prev.event.isTransfer = true → Untouched after →
      last = some prev.stop ∧ ∀ entry ∈ after, entry.event.isSpacing = false

/-- After a slot the gap has passed. -/
theorem Gap.le_start {interval : Rat} {prev next : Entry Rat} {between : List (Entry Rat)}
    (h : Gap interval prev between next) : prev.stop + interval ≤ next.start := by
  obtain ⟨_, _, -, -, hslot⟩ := h
  cases hslot with
  | prompt hdue => exact hdue
  | late _ hstart => exact hstart.ge

theorem untouched_append {first second : List (Entry τ)} :
    Untouched (first ++ second) ↔ Untouched first ∧ Untouched second :=
  List.forall_mem_append

theorem untouched_singleton {entry : Entry τ} :
    Untouched [entry] ↔ entry.event.isTransfer = false :=
  List.forall_mem_singleton

/-- The last element of a list that is split in two, in one of them. -/
theorem concat_eq_append_iff {first before after : List α} {a : α} :
    first ++ [a] = before ++ after ↔
      (after = [] ∧ before = first ++ [a]) ∨
        ∃ rest, after = rest ++ [a] ∧ first = before ++ rest := by
  constructor
  · intro h
    rcases List.eq_nil_or_concat after with rfl | ⟨rest, last, rfl⟩
    · exact .inl ⟨rfl, by simpa using h.symm⟩
    · rw [List.concat_eq_append, ← List.append_assoc] at h
      obtain ⟨hfirst, hlast⟩ := List.append_inj' h rfl
      rw [List.singleton_inj.mp hlast]
      exact .inr ⟨rest, by simp, hfirst⟩
  · rintro (⟨rfl, rfl⟩ | ⟨rest, rfl, rfl⟩)
    · simp
    · simp

theorem concat_eq_append_cons_iff {first before after : List α} {a b : α} :
    first ++ [a] = before ++ b :: after ↔
      (after = [] ∧ b = a ∧ first = before) ∨
        ∃ rest, after = rest ++ [a] ∧ first = before ++ b :: rest := by
  constructor
  · intro h
    obtain ⟨hnil, -⟩ | ⟨rest, hrest, hfirst⟩ := concat_eq_append_iff.mp h
    · cases hnil
    · rcases rest with _ | ⟨c, rest⟩
      · obtain ⟨rfl, rfl⟩ := List.cons.inj hrest
        exact .inl ⟨rfl, rfl, by simpa using hfirst⟩
      · obtain ⟨rfl, rfl⟩ := List.cons.inj hrest
        exact .inr ⟨rest, rfl, hfirst⟩
  · rintro (⟨rfl, rfl, rfl⟩ | ⟨rest, rfl, rfl⟩)
    · rfl
    · simp

/-- A transfer before the end of a list is before some untouched end of it. -/
theorem append_eq_append_cons {first wait before after : List (Entry τ)} {prev : Entry τ}
    (hwait : Untouched wait) (hprev : prev.event.isTransfer = true)
    (h : first ++ wait = before ++ prev :: after) :
    ∃ rest, after = rest ++ wait ∧ first = before ++ prev :: rest := by
  have hnot : prev ∉ wait := fun hmem ↦ by simp [hwait prev hmem] at hprev
  obtain ⟨middle, rfl, hsplit⟩ | ⟨middle, rfl, hsplit⟩ := List.append_eq_append_iff.mp h
  · exact absurd (by simp [hsplit]) hnot
  · rcases middle with _ | ⟨entry, rest⟩
    · exact absurd (show prev ∈ [] ++ wait from hsplit ▸ List.mem_cons_self) hnot
    · obtain ⟨rfl, rfl⟩ := List.cons.inj hsplit
      exact ⟨rest, rfl, rfl⟩

namespace Paced

variable {interval : Rat} {last : Option Rat} {trace : List (Entry Rat)}

theorem fresh : Paced interval none [] where
  untouched_iff := iff_of_true (List.forall_mem_nil _) rfl
  beforeFirst before after h := by
    obtain ⟨rfl, rfl⟩ := List.append_eq_nil_iff.mp h.symm
    exact fun _ ↦ List.forall_mem_nil _
  between _ _ _ _ _ h := by simp at h
  afterLast _ _ _ h := by simp at h

/-- Anything that is neither a transfer nor a pause to keep a gap. -/
theorem idle (h : Paced interval last trace) {entry : Entry Rat}
    (htransfer : entry.event.isTransfer = false) (hspacing : entry.event.isSpacing = false)
    (hpause : last = none → entry.event.isPause = false) :
    Paced interval last (trace ++ [entry]) where
  untouched_iff := by
    rw [untouched_append, untouched_singleton, h.untouched_iff]
    exact and_iff_left htransfer
  beforeFirst before after hsplit huntouched := by
    obtain ⟨-, rfl⟩ | ⟨rest, -, htrace⟩ := concat_eq_append_iff.mp hsplit
    · have htrace := (untouched_append.mp huntouched).1
      refine List.forall_mem_append.mpr ⟨?_, ?_⟩
      · exact h.beforeFirst trace [] (List.append_nil _).symm htrace
      · exact List.forall_mem_singleton.mpr (hpause (h.untouched_iff.mp htrace))
    · exact h.beforeFirst before rest htrace huntouched
  between before prev between next after hsplit hprev hnext huntouched := by
    obtain ⟨rest, -, htrace⟩ :=
      append_eq_append_cons (untouched_singleton.mpr htransfer) hnext hsplit
    exact h.between before prev between next rest htrace hprev hnext huntouched
  afterLast before prev after hsplit hprev huntouched := by
    obtain ⟨rest, rfl, htrace⟩ :=
      append_eq_append_cons (untouched_singleton.mpr htransfer) hprev hsplit
    obtain ⟨hlast, hrest⟩ := h.afterLast before prev rest htrace hprev
      (untouched_append.mp huntouched).1
    exact ⟨hlast, List.forall_mem_append.mpr ⟨hrest, List.forall_mem_singleton.mpr hspacing⟩⟩

/-- A transfer, in its slot. -/
theorem transfer (h : Paced interval last trace) (wait : List (Entry Rat)) (entry : Entry Rat)
    (htransfer : entry.event.isTransfer = true) (hwait : Untouched wait)
    (hfirst : last = none → wait = [])
    (hslot : ∀ stop, last = some stop → Slot interval stop wait entry) :
    Paced interval (some entry.stop) (trace ++ wait ++ [entry]) where
  untouched_iff := by
    rw [untouched_append, untouched_singleton]
    simp [htransfer]
  beforeFirst before after hsplit huntouched := by
    obtain ⟨-, rfl⟩ | ⟨rest, -, hsplit⟩ := concat_eq_append_iff.mp hsplit
    · have hentry := untouched_singleton.mp (untouched_append.mp huntouched).2
      simp [htransfer] at hentry
    · obtain ⟨middle, rfl, hmiddle⟩ | ⟨middle, rfl, -⟩ := List.append_eq_append_iff.mp hsplit
      · have htrace := (untouched_append.mp huntouched).1
        have hnone := hmiddle.symm.trans (hfirst (h.untouched_iff.mp htrace))
        rw [(List.append_eq_nil_iff.mp hnone).1, List.append_nil]
        exact h.beforeFirst trace [] (List.append_nil _).symm htrace
      · exact h.beforeFirst before middle rfl huntouched
  between before prev between next after hsplit hprev hnext huntouched := by
    obtain ⟨-, rfl, hend⟩ | ⟨rest, -, hend⟩ := concat_eq_append_cons_iff.mp hsplit
    · obtain ⟨idle, rfl, htrace⟩ := append_eq_append_cons hwait hprev hend
      obtain ⟨hlast, hidle⟩ := h.afterLast before prev idle htrace hprev
        (untouched_append.mp huntouched).1
      exact ⟨idle, wait, rfl, hidle, hslot prev.stop hlast⟩
    · obtain ⟨after, -, htrace⟩ := append_eq_append_cons hwait hnext hend
      exact h.between before prev between next after htrace hprev hnext huntouched
  afterLast before prev after hsplit hprev huntouched := by
    obtain ⟨rfl, rfl, -⟩ | ⟨rest, rfl, -⟩ := concat_eq_append_cons_iff.mp hsplit
    · exact ⟨rfl, List.forall_mem_nil _⟩
    · have hentry := untouched_singleton.mp (untouched_append.mp huntouched).2
      simp [htransfer] at hentry

end Paced

/-! ### Runs -/

/-- Nothing is owed exactly if the gap to the last transfer has passed. -/
theorem Spacing.remaining_eq_none_iff {s : Spacing Rat} {now : Rat} :
    s.remaining now = none ↔ ∀ stop, s.lastLeave = some stop → stop + s.interval ≤ now := by
  rcases hlast : s.lastLeave with _ | last
  · simp [remaining, hlast]
  · have hpositive : (Zero.zero : Rat) < last + s.interval - now ↔ now < last + s.interval :=
      sub_pos
    simp [remaining, hlast, hpositive]

/-- What is owed is what is missing of the gap. -/
theorem Spacing.remaining_eq_some_iff {s : Spacing Rat} {now rest : Rat} :
    s.remaining now = some rest ↔ ∃ stop, s.lastLeave = some stop ∧ now < stop + s.interval ∧
      stop + s.interval - now = rest := by
  rcases hlast : s.lastLeave with _ | last
  · simp [remaining, hlast]
  · have hpositive : (Zero.zero : Rat) < last + s.interval - now ↔ now < last + s.interval :=
      sub_pos
    simp [remaining, hlast, hpositive]

/-- The pace of a line is kept, and its spacing counts from its last transfer. -/
def Bus.InPace (interval : Rat) (bus : Bus σ Rat) : Prop :=
  bus.spacing.interval = interval ∧ Paced interval bus.spacing.lastLeave bus.trace

/-- The same of a line with a transfer behind it. -/
def Bus.Underway (interval : Rat) (bus : Bus σ Rat) : Prop :=
  bus.InPace interval ∧ bus.spacing.lastLeave ≠ none

namespace Bus

variable {interval : Rat} {bus : Bus σ Rat}

/-- A transfer is in its slot, whatever its outcome. -/
theorem InPace.underway_spaced_call (h : bus.InPace interval) (event : Except Fault α → Event Rat)
    (hevent : ∀ outcome, (event outcome).isTransfer = true) (step : σ → Reply σ Rat α) :
    ((spaced (call event step)).run bus).2.Underway interval := by
  obtain ⟨rfl, hpaced⟩ := h
  let transfer (start : Rat) : Entry Rat :=
    ⟨start, start + (step bus.device).elapsed, event (step bus.device).outcome⟩
  rw [run_spaced]
  obtain ⟨hnone, hentered⟩ | ⟨rest, hrest, hentered⟩ := bus.entered_cases
  · rw [hentered]
    have hdue := Spacing.remaining_eq_none_iff.mp hnone
    have htransfer := hpaced.transfer [] (transfer bus.clock) (hevent _) (List.forall_mem_nil _)
      (fun _ ↦ rfl) fun stop hlast ↦ .prompt (hdue stop hlast)
    rw [List.append_nil] at htransfer
    exact ⟨⟨rfl, htransfer⟩, Option.some_ne_none _⟩
  · rw [hentered]
    obtain ⟨stop, hlast, hearly, rfl⟩ := Spacing.remaining_eq_some_iff.mp hrest
    let start := bus.clock + (stop + bus.spacing.interval - bus.clock)
    have hstart : start = stop + bus.spacing.interval := add_sub_cancel _ _
    refine ⟨⟨rfl, hpaced.transfer
      [⟨bus.clock, start, .paused .spacing (stop + bus.spacing.interval - bus.clock)⟩]
      (transfer start) (hevent _) (untouched_singleton.mpr rfl) ?_ ?_⟩, Option.some_ne_none _⟩
    · exact fun hnone ↦ by simp [hlast] at hnone
    · intro other hother
      obtain rfl : stop = other := Option.some.inj (hlast.symm.trans hother)
      exact @Slot.late _ _ (transfer start) _ hearly hstart

theorem InPace.concat (h : bus.InPace interval) {bus' : Bus σ Rat} {entry : Entry Rat}
    (hspacing : bus'.spacing = bus.spacing) (htrace : bus'.trace = bus.trace ++ [entry])
    (htransfer : entry.event.isTransfer = false) (hentry : entry.event.isSpacing = false)
    (hpause : bus.spacing.lastLeave = none → entry.event.isPause = false) :
    bus'.InPace interval := by
  rw [InPace, hspacing, htrace]
  exact ⟨h.1, h.2.idle htransfer hentry hpause⟩

/-- Between two attempts a line stays underway. -/
theorem waiting_underway :
    Waiting (Retains (Underway interval) : Bus σ Rat → Bus σ Rat → Prop) where
  note _ _ _ h := h
  pause _ span _ bus h := by
    obtain ⟨hpace, hlast⟩ := h
    exact ⟨hpace.concat rfl rfl rfl rfl fun hnone ↦ absurd hnone hlast, hlast⟩

end Bus

namespace Channel

variable {interval : Rat} (c : Channel σ Rat) {bus : Bus σ Rat}

theorem underway_write (h : bus.InPace interval) (request value : Int) (data : Bytes) :
    ((c.write request value data).run bus).2.Underway interval := by
  have hraw := h.underway_spaced_call (.wrote (c.writeCall request value data)) (fun _ ↦ rfl)
    (c.transport.write (c.writeCall request value data))
  have hafter : Retains (Bus.Underway interval)
      ((c.rawWrite (c.writeCall request value data)).run bus).2
      ((c.write request value data).run bus).2 := by
    refine leads_bind _ (fun transferred ↦ keeps_ite (fun _ ↦ ?_) fun _ ↦ keeps_pure _) bus
    exact keeps_bind (Bus.waiting_underway.note _ rfl) fun _ ↦ keeps_throw _
  exact hafter hraw

theorem underway_readOnce (h : bus.InPace interval) (request value length : Int) :
    ((c.readOnce request value length).run bus).2.Underway interval := by
  have hraw := h.underway_spaced_call (.read (c.readCall request value length)) (fun _ ↦ rfl)
    (c.transport.read (c.readCall request value length))
  have hafter : Retains (Bus.Underway interval)
      ((c.rawRead (c.readCall request value length)).run bus).2
      ((c.readOnce request value length).run bus).2 := by
    refine leads_bind _ (fun data ↦ keeps_ite (fun _ ↦ ?_) fun _ ↦ keeps_pure _) bus
    exact keeps_bind (keeps_throw _) fun _ ↦ keeps_pure _
  exact hafter hraw

/-- A read that makes an attempt leaves the line underway, and one that makes none leaves it as it
was. -/
theorem inPace_attempting (request value length : Int) :
    Keeps (Retains (Bus.InPace interval)) (c.attempting request value length) := by
  intro bus h
  have honce : Keeps (Retains (Bus.Underway interval)) (c.readOnce request value length) :=
    fun _ hbus ↦ c.underway_readOnce hbus.1 request value length
  rw [attempting, RetryPolicy.run]
  rcases c.readPolicy.attempts.toInt? with _ | n
  · exact h
  · dsimp only
    rcases n.toNat with _ | left
    · exact h
    · refine (Bus.waiting_underway.leads_attempts c.readPolicy _ _ none (fun _ ↦ keeps_pure _) ?_
        bus (c.underway_readOnce h request value length)).1
      exact Bus.waiting_underway.attempts c.readPolicy _ none honce (fun _ ↦ keeps_pure _) left 2

theorem inPace_read (request value length : Int) :
    Keeps (Retains (Bus.InPace interval)) (c.read request value length) := by
  have hnote (n : Notice) :
      Keeps (Retains (Bus.InPace interval)) (Bus.note n : Action (Bus σ Rat) _) :=
    fun _ h ↦ h
  refine keeps_tryCatch (c.inPace_attempting request value length) fun fault ↦ ?_
  exact keeps_ite (fun _ ↦ keeps_bind (hnote _) fun _ ↦ keeps_throw _) fun _ ↦ keeps_throw _

end Channel

/-- What a line is used for: a transaction, or whatever else happens to it or around it. -/
inductive Use where
  | transaction (t : Transaction)
  | openDevice
  | closeDevice
  | elapse (span : Rat)

/-- The line after a use, whatever its outcome. -/
def Use.perform (c : Channel σ Rat) (bus : Bus σ Rat) : Use → Bus σ Rat
  | transaction t => ((c.carryOut t).run bus).2
  | openDevice => ((Bus.call .opened c.transport.openDevice).run bus).2
  | closeDevice => ((Bus.call .closed c.transport.closeDevice).run bus).2
  | elapse span => { bus with clock := bus.clock + span }

/-- Every use keeps the pace. -/
theorem Use.inPace_perform (c : Channel σ Rat) {interval : Rat} {bus : Bus σ Rat}
    (h : bus.InPace interval) (use : Use) : (use.perform c bus).InPace interval := by
  cases use with
  | transaction t =>
    cases t with
    | write request value data =>
      have hwrite := c.underway_write h request value data
      have hafter : Retains (Bus.InPace interval) ((c.write request value data).run bus).2
          ((c.carryOut (.write request value data)).run bus).2 :=
        leads_bind _ (fun _ ↦ keeps_pure _) bus
      exact hafter hwrite.1
    | read request value length => exact c.inPace_read request value length bus h
  | openDevice => exact h.concat rfl rfl rfl rfl fun _ ↦ rfl
  | closeDevice => exact h.concat rfl rfl rfl rfl fun _ ↦ rfl
  | elapse span => exact h

/-- On a line that was not in use before, every transfer of a channel is in its slot: it starts when
the least gap has passed since the last one stopped, after a pause for what was missing of it and no
other pause to keep a gap; and before the first transfer there is no pause. -/
theorem Channel.paced_after (c : Channel σ Rat) (bus : Bus σ Rat) (uses : List Use) :
    let fresh : Bus σ Rat :=
      { bus with trace := [], spacing := { bus.spacing with lastLeave := none } }
    let last := uses.foldl (Use.perform c) fresh
    Paced bus.spacing.interval last.spacing.lastLeave last.trace ∧
      ∀ before prev between next after,
        last.trace = before ++ prev :: between ++ next :: after → prev.event.isTransfer = true →
          next.event.isTransfer = true → Untouched between →
            prev.stop + bus.spacing.interval ≤ next.start := by
  intro fresh last
  have hrun (uses : List Use) : ∀ {bus' : Bus σ Rat}, bus'.InPace bus.spacing.interval →
      (uses.foldl (Use.perform c) bus').InPace bus.spacing.interval := by
    induction uses with
    | nil => exact fun h ↦ h
    | cons use rest ih => exact fun h ↦ ih (use.inPace_perform c h)
  have hfresh : fresh.InPace bus.spacing.interval := ⟨rfl, .fresh⟩
  have hpaced := (hrun uses hfresh).2
  refine ⟨hpaced, fun before prev between next after hsplit hprev hnext huntouched ↦ ?_⟩
  exact (hpaced.between before prev between next after hsplit hprev hnext huntouched).le_start

/-! ### Waits -/

/-- The calls of a transport take no negative time. -/
structure Transport.Forward (t : Transport σ Rat) : Prop where
  openDevice : ∀ device, 0 ≤ (t.openDevice device).elapsed
  closeDevice : ∀ device, 0 ≤ (t.closeDevice device).elapsed
  write : ∀ call device, 0 ≤ (t.write call device).elapsed
  read : ∀ call device, 0 ≤ (t.read call device).elapsed

/-- What a span of time lasts can be waited. -/
def CanWait (span : Rat) : Prop := waitFor span = .ok span

theorem canWait_of_waited {n : Number} {span : Rat} (h : TimeScale.wait n = .ok span) :
    CanWait span := by
  have hwaited : n.waited = .ok span := h
  rw [Number.waited] at hwaited
  split at hwaited
  next seconds _ =>
    obtain ⟨rfl, hrange⟩ := waitFor_eq_ok_iff.mp hwaited
    exact waitFor_eq_ok_iff.mpr ⟨rfl, hrange⟩
  next => cases hwaited

/-- Part of what can be waited can be waited as well. -/
theorem CanWait.of_le {span rest : Rat} (h : CanWait span) (hnonneg : 0 ≤ rest)
    (hle : rest ≤ span) : CanWait rest := by
  obtain ⟨-, -, hrange⟩ := waitFor_eq_ok_iff.mp h
  exact waitFor_eq_ok_iff.mpr ⟨rfl, hnonneg, by linarith⟩

/-- No more than the least gap, which can be waited, is owed on a line, and no pause on it was
longer than can be waited. -/
structure Bus.Timely (bus : Bus σ Rat) : Prop where
  interval : CanWait bus.spacing.interval
  lastLeave_le : ∀ stop, bus.spacing.lastLeave = some stop → stop ≤ bus.clock
  pauses : ∀ entry ∈ bus.trace, ∀ why span, entry.event = .paused why span → CanWait span

namespace Bus.Timely

variable {bus bus' : Bus σ Rat}

/-- Time goes by, and one more entry tells of it. -/
theorem concat (h : bus.Timely) (hspacing : bus'.spacing = bus.spacing)
    (hclock : bus.clock ≤ bus'.clock) {entry : Entry Rat}
    (htrace : bus'.trace = bus.trace ++ [entry])
    (hentry : ∀ why span, entry.event = .paused why span → CanWait span) : bus'.Timely where
  interval := hspacing ▸ h.interval
  lastLeave_le stop hstop := (h.lastLeave_le stop (hspacing ▸ hstop)).trans hclock
  pauses := by
    rw [htrace]
    exact List.forall_mem_append.mpr ⟨h.pauses, List.forall_mem_singleton.mpr hentry⟩

/-- The line waits for a span that can be waited. -/
theorem pause (h : bus.Timely) (why : Pause) {span : Rat} (hspan : CanWait span) :
    ((Bus.pause why span).run bus).2.Timely := by
  obtain ⟨-, hnonneg, -⟩ := waitFor_eq_ok_iff.mp hspan
  refine h.concat rfl (le_add_of_nonneg_right hnonneg) rfl ?_
  rintro _ _ ⟨⟩
  exact hspan

theorem call (h : bus.Timely) {event : Except Fault α → Event Rat}
    (hevent : ∀ outcome, (event outcome).isPause = false) {step : σ → Reply σ Rat α}
    (hstep : ∀ device, 0 ≤ (step device).elapsed) : ((Bus.call event step).run bus).2.Timely := by
  refine h.concat rfl (le_add_of_nonneg_right (hstep bus.device)) rfl fun why span hpaused ↦ ?_
  have hpaused : event (step bus.device).outcome = .paused why span := hpaused
  have hpause := hevent (step bus.device).outcome
  rw [hpaused] at hpause
  cases hpause

end Bus.Timely

/-- Transfers leave a line timely. -/
theorem Channel.transfers_timely (c : Channel σ Rat) (h : c.transport.Forward) :
    c.Transfers (fun _ ↦ True) (Retains Bus.Timely) where
  note _ _ _ hbus := ⟨hbus.interval, hbus.lastLeave_le, hbus.pauses⟩
  pause _ _ hwait _ hbus := hbus.pause .retry (canWait_of_waited hwait)
  slot bus rest hrest hbus := by
    obtain ⟨stop, hlast, hearly, rfl⟩ := Spacing.remaining_eq_some_iff.mp hrest
    have hle := hbus.lastLeave_le stop hlast
    exact hbus.pause .spacing (hbus.interval.of_le (by linarith) (by linarith))
  leave _ hbus := ⟨hbus.interval, fun _ hstop ↦ (Option.some.inj hstop).ge, hbus.pauses⟩
  write call _ _ hbus := hbus.call (fun _ ↦ rfl) (h.write call)
  read call _ hbus := hbus.call (fun _ ↦ rfl) (h.read call)

/-- Every use leaves a line timely. -/
theorem Use.timely_perform (c : Channel σ Rat) (h : c.transport.Forward) {bus : Bus σ Rat}
    (hbus : bus.Timely) (use : Use) (hspan : ∀ span, use = .elapse span → 0 ≤ span) :
    (use.perform c bus).Timely := by
  cases use with
  | transaction t =>
    cases t with
    | write request value data =>
      have hwrite : Keeps (Retains Bus.Timely) (c.write request value data) :=
        (c.transfers_timely h).transferOut request value trivial
      exact keeps_bind hwrite (fun _ ↦ keeps_pure _) bus hbus
    | read request value length =>
      exact (c.transfers_timely h).transferIn request value length bus hbus
  | openDevice => exact hbus.call (fun _ ↦ rfl) h.openDevice
  | closeDevice => exact hbus.call (fun _ ↦ rfl) h.closeDevice
  | elapse span =>
    exact ⟨hbus.interval, fun stop hstop ↦ (hbus.lastLeave_le stop hstop).trans
      (le_add_of_nonneg_right (hspan span rfl)), hbus.pauses⟩

/-- On a line that was not in use before and whose least gap can be waited, so can every pause, be
it to keep a gap or between two attempts, as long as time does not run back. -/
theorem Channel.waitable_after (c : Channel σ Rat) (h : c.transport.Forward) (bus : Bus σ Rat)
    (hinterval : CanWait bus.spacing.interval) (uses : List Use)
    (huses : ∀ span, .elapse span ∈ uses → 0 ≤ span) :
    let fresh : Bus σ Rat :=
      { bus with trace := [], spacing := { bus.spacing with lastLeave := none } }
    ∀ entry ∈ (uses.foldl (Use.perform c) fresh).trace, ∀ why span,
      entry.event = .paused why span → CanWait span := by
  intro fresh
  have hrun : ∀ {bus' : Bus σ Rat}, bus'.Timely → (uses.foldl (Use.perform c) bus').Timely := by
    induction uses with
    | nil => exact fun hbus ↦ hbus
    | cons use rest ih =>
      intro bus' hbus
      refine ih (fun span hspan ↦ huses span (.tail _ hspan)) ?_
      exact use.timely_perform c h hbus fun span hspan ↦ huses span (hspan ▸ .head _)
  have hfresh : fresh.Timely :=
    ⟨hinterval, fun _ hstop ↦ (nomatch hstop), fun _ hentry ↦ (nomatch hentry)⟩
  exact (hrun hfresh).pauses

end MouseControl
