import MouseControl.Proofs.Line.Keeps

/-!
What passes over a line: `transfers` are the raw writes and reads of a trace in order, each with its
outcome, and `written` is the data of its writes. A channel write makes exactly one transfer and
succeeds when every byte was taken (`transfers_write`); so does one attempt to read, when it brought
as many bytes as were asked for (`transfers_readOnce`). One attempt settles retries
(`RetryPolicy.run_of_foreign`, `run_of_accepted`, `run_of_check_fault`), or leaves a fault to go on
with (`run_of_covered`, `run_of_rejected`). A channel read makes transfers up to the first full one
or up to the end of its attempts, and succeeds exactly in the first case (`transfers_read`).
-/

set_option autoImplicit false
set_option relaxedAutoImplicit false

namespace MouseControl

open MouseControl.Action

variable {σ τ α : Type}

/-! ### Transfers of a trace -/

/-- Whether an event is a raw transfer. -/
def Event.isTransfer : Event τ → Bool
  | .wrote .. | .read .. => true
  | _ => false

/-- Whether an event only tells of something, and leaves the device and its owner alone. -/
def Event.isReport : Event τ → Bool
  | .anomalyReported _ | .dirtyReported _ | .initializedReported => true
  | .reached .claimed | .reached .released => false
  | .reached _ => true
  | _ => false

theorem Event.isTransfer_of_isReport (event : Event τ) (h : event.isReport = true) :
    event.isTransfer = false := by
  cases event with
  | wrote | read => cases h
  | _ => rfl

/-- The data that an event hands to the device. -/
def Event.data? : Event τ → Option Bytes
  | .wrote call _ => some call.data
  | _ => none

/-- The raw transfers of a trace. -/
def transfers (trace : List (Entry τ)) : List (Event τ) :=
  (trace.map Entry.event).filter Event.isTransfer

/-- What was handed to the device, succeed or fail. -/
def written (trace : List (Entry τ)) : List Bytes := trace.filterMap fun entry ↦ entry.event.data?

theorem transfers_append (first second : List (Entry τ)) :
    transfers (first ++ second) = transfers first ++ transfers second := by
  simp only [transfers, List.map_append, List.filter_append]

theorem transfers_snoc_of_isTransfer (trace : List (Entry τ)) {entry : Entry τ}
    (h : entry.event.isTransfer = true) :
    transfers (trace ++ [entry]) = transfers trace ++ [entry.event] := by
  rw [transfers_append]
  simp [transfers, h]

theorem transfers_snoc_of_not (trace : List (Entry τ)) {entry : Entry τ}
    (h : entry.event.isTransfer = false) : transfers (trace ++ [entry]) = transfers trace := by
  rw [transfers_append]
  simp [transfers, h]

/-- Only transfers hand data to the device. -/
theorem written_eq (trace : List (Entry τ)) :
    written trace = (transfers trace).filterMap Event.data? := by
  have hnone (event : Event τ) :
      event.data? = if event.isTransfer then event.data? else none := by
    cases event <;> rfl
  rw [transfers, List.filterMap_filter, List.filterMap_map]
  exact congrArg (List.filterMap · trace) (funext fun entry ↦ hnone entry.event)

/-- No transfer is made and the observer of anomalies stays the same. -/
structure Bus.Silent (bus bus' : Bus σ τ) : Prop where
  transfers_eq : transfers bus'.trace = transfers bus.trace
  observer_eq : bus'.anomalyObserver = bus.anomalyObserver

instance : IsPreorder (Bus σ τ) Bus.Silent where
  refl _ := ⟨rfl, rfl⟩
  trans _ _ _ h h' :=
    ⟨h'.transfers_eq.trans h.transfers_eq, h'.observer_eq.trans h.observer_eq⟩

theorem Bus.Silent.written_eq {bus bus' : Bus σ τ} (h : bus.Silent bus') :
    written bus'.trace = written bus.trace := by
  rw [MouseControl.written_eq, h.transfers_eq, ← MouseControl.written_eq]

/-- Some data is handed to the device, all of it of one kind. -/
def Bus.Hands (kind : Bytes → Prop) (bus bus' : Bus σ τ) : Prop :=
  ∃ handed, written bus'.trace = written bus.trace ++ handed ∧ ∀ data ∈ handed, kind data

instance (kind : Bytes → Prop) : IsPreorder (Bus σ τ) (Bus.Hands kind) where
  refl bus := ⟨[], (List.append_nil _).symm, List.forall_mem_nil _⟩
  trans _ _ _ := by
    rintro ⟨first, hfirst, hkind⟩ ⟨second, hsecond, hkind'⟩
    refine ⟨first ++ second, by rw [hsecond, hfirst, List.append_assoc], ?_⟩
    exact List.forall_mem_append.mpr ⟨hkind, hkind'⟩

theorem Bus.Silent.hands {kind : Bytes → Prop} {bus bus' : Bus σ τ} (h : bus.Silent bus') :
    bus.Hands kind bus' :=
  ⟨[], by rw [h.written_eq, List.append_nil], List.forall_mem_nil _⟩

/-- Reports are added to the trace, and notices to the log. -/
structure Bus.Records (bus bus' : Bus σ τ) : Prop where
  device_eq : bus'.device = bus.device
  observer_eq : bus'.anomalyObserver = bus.anomalyObserver
  grows : ∃ reports, bus'.trace = bus.trace ++ reports ∧
    ∀ entry ∈ reports, entry.event.isReport = true

instance : IsPreorder (Bus σ τ) Bus.Records where
  refl bus := ⟨rfl, rfl, [], (List.append_nil _).symm, List.forall_mem_nil _⟩
  trans _ _ _ h h' := by
    obtain ⟨first, hfirst, hreports⟩ := h.grows
    obtain ⟨second, hsecond, hreports'⟩ := h'.grows
    refine ⟨h'.device_eq.trans h.device_eq, h'.observer_eq.trans h.observer_eq, first ++ second,
      by rw [hsecond, hfirst, List.append_assoc], ?_⟩
    exact List.forall_mem_append.mpr ⟨hreports, hreports'⟩

theorem Bus.Records.silent {bus bus' : Bus σ τ} (h : bus.Records bus') : bus.Silent bus' where
  transfers_eq := by
    obtain ⟨reports, htrace, hreports⟩ := h.grows
    have hnone : transfers reports = [] := by
      refine List.filter_eq_nil_iff.mpr fun event hevent ↦ ?_
      obtain ⟨entry, hentry, rfl⟩ := List.mem_map.mp hevent
      rw [entry.event.isTransfer_of_isReport (hreports entry hentry)]
      exact Bool.false_ne_true
    rw [htrace, transfers_append, hnone, List.append_nil]
  observer_eq := h.observer_eq

theorem Report.isReport_event (report : Report) : (report.event : Event τ).isReport = true := by
  cases report with
  | anomaly | dirty | initialized => rfl

namespace Bus

theorem records_note (n : Notice) : Keeps (Records : Bus σ τ → Bus σ τ → Prop) (note n) :=
  fun _ ↦ ⟨rfl, rfl, [], (List.append_nil _).symm, List.forall_mem_nil _⟩

theorem records_record {event : Event τ} (h : event.isReport = true) :
    Keeps (Records : Bus σ τ → Bus σ τ → Prop) (record event) :=
  fun _ ↦ ⟨rfl, rfl, _, rfl, List.forall_mem_singleton.mpr h⟩

theorem silent_record {event : Event τ} (h : event.isTransfer = false) :
    Keeps (Silent : Bus σ τ → Bus σ τ → Prop) (record event) :=
  fun bus ↦ ⟨transfers_snoc_of_not bus.trace h, rfl⟩

/-- A report is recorded at most, whether the observer fails or not. -/
theorem records_report (observer : Observer) (r : Report) :
    Keeps (Records : Bus σ τ → Bus σ τ → Prop) (report observer r) := by
  rcases observer with _ | verdict
  · exact keeps_pure _
  · exact keeps_bind (records_record r.isReport_event) fun _ ↦ keeps_ofExcept _

theorem outcome_of_report (observer : Observer) (r : Report) (bus : Bus σ τ) :
    ((report observer r).run bus).1 = observer.verdict r := by
  cases observer with
  | absent | present => rfl

variable [TimeScale τ]

theorem silent_bookkeeping : Bookkeeping (Silent : Bus σ τ → Bus σ τ → Prop) where
  note _ _ := ⟨rfl, rfl⟩
  pause _ _ bus := ⟨transfers_snoc_of_not bus.trace rfl, rfl⟩
  leave _ := ⟨rfl, rfl⟩
  remember _ _ := ⟨rfl, rfl⟩
  record _ bus := ⟨transfers_snoc_of_not bus.trace rfl, rfl⟩

/-- The line once the gap to the last transfer is kept. -/
def entered (bus : Bus σ τ) : Bus σ τ := (enter.run bus).2

theorem run_enter (bus : Bus σ τ) : enter.run bus = (.ok (), bus.entered) := by
  have hok : (enter.run bus).1 = .ok () := by
    rw [enter, run_bind_ok (run_get bus)]
    split <;> rfl
  rw [entered, ← hok]

/-- A gap that is due is one more entry. -/
theorem entered_cases (bus : Bus σ τ) :
    bus.spacing.remaining bus.clock = none ∧ bus.entered = bus ∨
      ∃ rest, bus.spacing.remaining bus.clock = some rest ∧ bus.entered = { bus with
        clock := bus.clock + rest
        trace := bus.trace ++ [⟨bus.clock, bus.clock + rest, .paused .spacing rest⟩] } := by
  rw [entered, enter, run_bind_ok (run_get bus)]
  split
  next rest hrest => exact .inr ⟨rest, hrest, rfl⟩
  next hnone => exact .inl ⟨hnone, rfl⟩

theorem entered_kept (bus : Bus σ τ) : bus.entered.device = bus.device ∧
    bus.entered.spacing = bus.spacing ∧ bus.entered.anomalyObserver = bus.anomalyObserver := by
  rcases bus.entered_cases with ⟨-, heq⟩ | ⟨rest, -, heq⟩
  · rw [heq]
    exact ⟨rfl, rfl, rfl⟩
  · rw [heq]
    exact ⟨rfl, rfl, rfl⟩

/-- Keeping the gap never fails, and neither does counting the next one. -/
theorem run_spaced (x : Action (Bus σ τ) α) (bus : Bus σ τ) :
    (spaced x).run bus = ((x.run bus.entered).1, (leave.run (x.run bus.entered).2).2) := by
  rw [spaced, run_bind_ok (run_enter bus)]
  rfl

/-- A spaced call of the transport adds one entry to what is said of transfers, and its outcome is
the outcome of the call. -/
theorem run_spaced_call (event : Except Fault α → Event τ) (step : σ → Reply σ τ α)
    (h : ∀ outcome, (event outcome).isTransfer = true) (bus : Bus σ τ) :
    let r := (spaced (call event step)).run bus
    transfers r.2.trace = transfers bus.trace ++ [event r.1] ∧
      r.2.anomalyObserver = bus.anomalyObserver := by
  intro r
  have hentered : Silent bus bus.entered := silent_bookkeeping.handling.enter bus
  have hrun : r = ((step bus.entered.device).outcome,
      (leave.run ((call event step).run bus.entered).2).2) := run_spaced _ bus
  rw [hrun]
  refine ⟨?_, hentered.observer_eq⟩
  rw [← hentered.transfers_eq]
  exact transfers_snoc_of_isTransfer bus.entered.trace (h _)

end Bus

/-! ### One transfer -/

namespace Channel

/-- What a write makes of the result of its transfer. -/
def wholly (request value : Int) (data : Bytes) : Except Fault Int → Except Fault Unit
  | .error fault => .error fault
  | .ok count =>
    if count = data.length then .ok ()
    else .error (Fault.shortWrite request value count data.length).worded

theorem wholly_eq_ok_iff {request value : Int} {data : Bytes} {result : Except Fault Int} :
    wholly request value data result = .ok () ↔ result = .ok (data.length : Int) := by
  rcases result with fault | count
  · simp [wholly]
  · simp [wholly]

theorem wholly_of_ne (request value : Int) {data : Bytes} {count : Int} (h : count ≠ data.length) :
    wholly request value data (.ok count) =
      .error (Fault.shortWrite request value count data.length).worded := if_neg h

/-- The fault of a write is that of its transfer, or tells of a wrong count. -/
theorem wholly_eq_error {request value : Int} {data : Bytes} {result : Except Fault Int}
    {fault : Fault} (h : wholly request value data result = .error fault) :
    result = .error fault ∨ ∃ count, result = .ok count ∧
      fault = (Fault.shortWrite request value count data.length).worded := by
  rcases result with own | count
  · cases h
    exact .inl rfl
  · rw [wholly] at h
    split at h
    · cases h
    · cases h
      exact .inr ⟨count, rfl, rfl⟩

/-- What one attempt to read makes of the result of its transfer. -/
def exactly (request value length : Int) : Except Fault Bytes → Except Fault Bytes
  | .error fault => .error fault
  | .ok data =>
    if (data.length : Int) = length then .ok data
    else .error (Fault.shortRead request value data.length length).worded

theorem exactly_eq_ok_iff {request value length : Int} {result : Except Fault Bytes}
    {data : Bytes} : exactly request value length result = .ok data ↔
      result = .ok data ∧ (data.length : Int) = length := by
  rcases result with fault | other
  · simp [exactly]
  · by_cases hlength : (other.length : Int) = length
    · rw [exactly, if_pos hlength]
      constructor
      · rintro ⟨⟩
        exact ⟨rfl, hlength⟩
      · exact And.left
    · rw [exactly, if_neg hlength]
      refine iff_of_false (by simp) ?_
      rintro ⟨hdata, hother⟩
      cases hdata
      exact hlength hother

theorem exactly_of_length_ne (request value : Int) {length : Int} {data : Bytes}
    (h : (data.length : Int) ≠ length) : exactly request value length (.ok data) =
      .error (Fault.shortRead request value data.length length).worded := if_neg h

/-- A wrong number of bytes is news if the right one can be written. -/
theorem exactly_of_isWritable (request value : Int) {length : Int} {data : Bytes}
    (h : (data.length : Int) ≠ length) (hwritable : isWritable length = true) :
    exactly request value length (.ok data) =
      .error (.shortRead request value data.length length) := by
  have hworded : (Fault.shortRead request value data.length length).isWritable = true := hwritable
  rw [exactly_of_length_ne _ _ h, Fault.worded_of_isWritable hworded]

theorem exactly_of_not_isWritable (request value : Int) {length : Int} {data : Bytes}
    (h : (data.length : Int) ≠ length) (hwritable : ¬isWritable length = true) :
    exactly request value length (.ok data) = .error .unwritable := by
  have hworded : ¬(Fault.shortRead request value data.length length).isWritable = true := hwritable
  rw [exactly_of_length_ne _ _ h, Fault.worded_of_not_isWritable hworded]

/-- The fault of an attempt is that of its transfer, or tells of a wrong number of bytes. -/
theorem exactly_eq_error {request value length : Int} {result : Except Fault Bytes}
    {fault : Fault} (h : exactly request value length result = .error fault) :
    result = .error fault ∨ ∃ data, result = .ok data ∧
      fault = (Fault.shortRead request value data.length length).worded := by
  rcases result with own | data
  · cases h
    exact .inl rfl
  · rw [exactly] at h
    split at h
    · cases h
    · cases h
      exact .inr ⟨data, rfl, rfl⟩

variable [TimeScale τ] (c : Channel σ τ)

/-- What an operation of a channel may write, is all that it hands to the device. -/
theorem movesAlong_hands (kind : Bytes → Prop) : c.MovesAlong kind (Bus.Hands kind) where
  note n := (Bus.silent_bookkeeping.note n).mono fun _ _ ↦ Bus.Silent.hands
  pause why span := (Bus.silent_bookkeeping.pause why span).mono fun _ _ ↦ Bus.Silent.hands
  leave := Bus.silent_bookkeeping.leave.mono fun _ _ ↦ Bus.Silent.hands
  remember a bus := (Bus.silent_bookkeeping.remember a bus).hands
  record a := (Bus.silent_bookkeeping.record a).mono fun _ _ ↦ Bus.Silent.hands
  write call hkind _ := ⟨[call.data], List.filterMap_append, List.forall_mem_singleton.mpr hkind⟩
  read _ _ := ⟨[], List.filterMap_append, List.forall_mem_nil _⟩

/-- A write ends as it has to after its transfer. -/
theorem outcome_write (request value : Int) (data : Bytes) (bus : Bus σ τ) :
    let raw := (c.rawWrite (c.writeCall request value data)).run bus
    let r := (c.write request value data).run bus
    r.1 = wholly request value data raw.1 ∧ Bus.Silent raw.2 r.2 := by
  dsimp only
  rw [write, run_bind]
  rcases (c.rawWrite (c.writeCall request value data)).run bus with ⟨fault | count, after⟩
  · exact ⟨rfl, refl_of Bus.Silent after⟩
  · by_cases hcount : count = data.length
    · simp only [ne_eq, hcount, not_true_eq_false, if_false, wholly, if_true]
      exact ⟨rfl, refl_of Bus.Silent after⟩
    · simp only [ne_eq, hcount, not_false_eq_true, if_true, wholly, if_false]
      exact ⟨rfl, ⟨rfl, rfl⟩⟩

/-- A write succeeds if its transfer took every byte. -/
theorem write_eq_ok_iff (request value : Int) (data : Bytes) (bus : Bus σ τ) :
    ((c.write request value data).run bus).1 = .ok () ↔
      ((c.rawWrite (c.writeCall request value data)).run bus).1 = .ok (data.length : Int) := by
  rw [(c.outcome_write request value data bus).1, wholly_eq_ok_iff]

/-- A write makes one transfer, whatever its outcome. -/
theorem exists_wrote (request value : Int) (data : Bytes) (bus : Bus σ τ) :
    let r := (c.write request value data).run bus
    ∃ result, transfers r.2.trace =
        transfers bus.trace ++ [.wrote (c.writeCall request value data) result] ∧
      r.2.anomalyObserver = bus.anomalyObserver ∧ r.1 = wholly request value data result := by
  intro r
  obtain ⟨htransfers, hobserver⟩ := Bus.run_spaced_call
    (.wrote (c.writeCall request value data)) (c.transport.write (c.writeCall request value data))
    (fun _ ↦ rfl) bus
  obtain ⟨houtcome, hsilent⟩ := c.outcome_write request value data bus
  exact ⟨_, hsilent.transfers_eq.trans htransfers, hsilent.observer_eq.trans hobserver, houtcome⟩

/-- A write succeeds when every byte of its one transfer was taken. -/
theorem transfers_write (request value : Int) (data : Bytes) (bus : Bus σ τ) :
    let r := (c.write request value data).run bus
    ∃ result, transfers r.2.trace =
        transfers bus.trace ++ [.wrote (c.writeCall request value data) result] ∧
      r.2.anomalyObserver = bus.anomalyObserver ∧
      (r.1 = .ok () ↔ result = .ok (data.length : Int)) := by
  intro r
  obtain ⟨result, htransfers, hobserver, hr⟩ := c.exists_wrote request value data bus
  refine ⟨result, htransfers, hobserver, ?_⟩
  rw [show r.1 = _ from hr, wholly_eq_ok_iff]

/-- An attempt to read ends as it has to after its transfer. -/
theorem outcome_readOnce (request value length : Int) (bus : Bus σ τ) :
    let raw := (c.rawRead (c.readCall request value length)).run bus
    (c.readOnce request value length).run bus = (exactly request value length raw.1, raw.2) := by
  dsimp only
  rw [readOnce, run_bind]
  rcases (c.rawRead (c.readCall request value length)).run bus with ⟨fault | data, after⟩
  · rfl
  · by_cases hlength : (data.length : Int) = length
    · simp only [ne_eq, hlength, not_true_eq_false, if_false, exactly, if_true]
      rfl
    · simp only [ne_eq, hlength, not_false_eq_true, if_true, exactly, if_false]
      rfl

/-- One attempt makes one transfer. -/
theorem transfers_readOnce (request value length : Int) (bus : Bus σ τ) :
    let r := (c.readOnce request value length).run bus
    ∃ result, transfers r.2.trace =
        transfers bus.trace ++ [.read (c.readCall request value length) result] ∧
      r.2.anomalyObserver = bus.anomalyObserver ∧ r.1 = exactly request value length result := by
  intro r
  obtain ⟨htransfers, hobserver⟩ := Bus.run_spaced_call
    (.read (c.readCall request value length)) (c.transport.read (c.readCall request value length))
    (fun _ ↦ rfl) bus
  have hr : r = _ := c.outcome_readOnce request value length bus
  rw [hr]
  exact ⟨_, htransfers, hobserver, rfl⟩

end Channel

/-! ### Attempts -/

/-- A transfer that brought exactly the bytes asked for. -/
def FullRead (length : Int) (result : Except Fault Bytes) : Prop :=
  ∃ data, result = .ok data ∧ (data.length : Int) = length

/-- How the results of some attempts make the outcome of a read: a read that succeeds ends with its
first full transfer, and one that fails has none. -/
structure ReadsTo (length : Int) (results : List (Except Fault Bytes))
    (outcome : Except Fault Bytes) : Prop where
  of_ok : ∀ data, outcome = .ok data → ∃ failed, results = failed ++ [.ok data] ∧
    (data.length : Int) = length ∧ ∀ result ∈ failed, ¬ FullRead length result
  of_error : ∀ fault, outcome = .error fault → ∀ result ∈ results, ¬ FullRead length result

theorem ReadsTo.cons {length : Int} {first : Except Fault Bytes}
    {rest : List (Except Fault Bytes)} {outcome : Except Fault Bytes}
    (hfirst : ¬ FullRead length first) (h : ReadsTo length rest outcome) :
    ReadsTo length (first :: rest) outcome where
  of_ok data hdata := by
    obtain ⟨failed, hrest, hlength, hfailed⟩ := h.of_ok data hdata
    refine ⟨first :: failed, by rw [hrest, List.cons_append], hlength, ?_⟩
    exact List.forall_mem_cons.mpr ⟨hfirst, hfailed⟩
  of_error fault hfault := List.forall_mem_cons.mpr ⟨hfirst, h.of_error fault hfault⟩

namespace RetryPolicy

/-- A transfer after which a policy lets a read try again: it failed in a way that the policy
covers, or brought another number of bytes. -/
def Repeats (policy : RetryPolicy) (length : Int) : Except Fault Bytes → Prop
  | .error fault => policy.covers fault = true
  | .ok data => (data.length : Int) ≠ length

/-- The results of the transfers that a read makes when so many attempts are left: one at least if
there are any, and after each but the last the policy let the read try again. -/
structure Attempted (policy : RetryPolicy) (length : Int) (left : Nat)
    (results : List (Except Fault Bytes)) : Prop where
  length_le : results.length ≤ left
  ne_nil : left ≠ 0 → results ≠ []
  repeats : ∀ result ∈ results.dropLast, policy.Repeats length result

theorem Attempted.single {policy : RetryPolicy} {length : Int} {left : Nat}
    {result : Except Fault Bytes} : policy.Attempted length (left + 1) [result] where
  length_le := Nat.le_add_left 1 left
  ne_nil _ := List.cons_ne_nil _ _
  repeats := List.forall_mem_nil _

theorem Attempted.cons {policy : RetryPolicy} {length : Int} {left : Nat}
    {first : Except Fault Bytes} {rest : List (Except Fault Bytes)}
    (hfirst : policy.Repeats length first) (h : policy.Attempted length left rest) :
    policy.Attempted length (left + 1) (first :: rest) where
  length_le := Nat.succ_le_succ h.length_le
  ne_nil _ := List.cons_ne_nil _ _
  repeats := by
    rcases rest with _ | ⟨next, rest⟩
    · exact List.forall_mem_nil _
    · exact List.forall_mem_cons.mpr ⟨hfirst, h.repeats⟩

variable [TimeScale τ] (policy : RetryPolicy)

/-- A wait of no time is none. -/
theorem run_wait_of_equalsInt (h : policy.delay.equalsInt 0 = true) (bus : Bus σ τ) :
    policy.wait.run bus = (.ok (), bus) := by
  rw [wait, if_pos h]
  rfl

/-- How retries go on after an attempt that settled nothing and left a fault. -/
def goOn (what : Text) (operation : Action (Bus σ τ) α)
    (accept : Option (α → Action (Bus σ τ) Bool)) (index left : Nat) (fault : Fault) :
    Action (Bus σ τ) α :=
  if left = 0 then throw fault
  else policy.wait >>= fun _ ↦ policy.attemptsFrom what operation accept (index + 1) left

section Attempt

variable {policy} {what : Text} {operation : Action (Bus σ τ) α}
  {accept : Option (α → Action (Bus σ τ) Bool)} {index left : Nat} {bus mid judged : Bus σ τ}
  {fault : Fault} {result : α}

/-- A fault that the policy does not cover is the outcome. -/
theorem run_of_foreign (h : operation.run bus = (.error fault, mid))
    (hcovers : ¬policy.covers fault = true) :
    (policy.attemptsFrom what operation accept index (left + 1)).run bus = (.error fault, mid) := by
  rw [attemptsFrom, run_bind_ok (run_outcome bus operation), h]
  dsimp only
  rw [if_neg hcovers, run_throw]

/-- A fault that the policy covers is left. -/
theorem run_of_covered (h : operation.run bus = (.error fault, mid))
    (hcovers : policy.covers fault = true) :
    ∃ log, (policy.attemptsFrom what operation accept index (left + 1)).run bus =
      (policy.goOn what operation accept index left fault).run { mid with log := log } := by
  refine ⟨mid.log ++ [.attemptFailed what index policy.attempts fault], ?_⟩
  rw [attemptsFrom, run_bind_ok (run_outcome bus operation), h]
  dsimp only
  rw [if_pos hcovers, goOn]
  by_cases hleft : left = 0
  · rw [if_pos hleft, if_pos hleft]
    rfl
  · rw [if_neg hleft, if_neg hleft]
    rfl

/-- A result that the check accepts is the outcome. -/
theorem run_of_accepted (h : operation.run bus = (.ok result, mid))
    (haccept : (accepts accept result).run mid = (.ok true, judged)) :
    (policy.attemptsFrom what operation accept index (left + 1)).run bus =
      (.ok result, judged) := by
  rw [attemptsFrom, run_bind_ok (run_outcome bus operation), h]
  dsimp only
  rw [run_bind_ok haccept]
  rfl

/-- A fault of the check is the outcome, whatever its kind. -/
theorem run_of_check_fault (h : operation.run bus = (.ok result, mid))
    (haccept : (accepts accept result).run mid = (.error fault, judged)) :
    (policy.attemptsFrom what operation accept index (left + 1)).run bus =
      (.error fault, judged) := by
  rw [attemptsFrom, run_bind_ok (run_outcome bus operation), h]
  dsimp only
  rw [run_bind_error haccept]

/-- Of a result that the check rejects, the news is left. -/
theorem run_of_rejected (h : operation.run bus = (.ok result, mid))
    (haccept : (accepts accept result).run mid = (.ok false, judged)) :
    ∃ log, (policy.attemptsFrom what operation accept index (left + 1)).run bus =
      (policy.goOn what operation accept index left
        (Fault.nothingAcceptable what policy.attempts).worded).run { judged with log := log } := by
  refine ⟨judged.log ++ [.attemptRejected what index policy.attempts], ?_⟩
  rw [attemptsFrom, run_bind_ok (run_outcome bus operation), h]
  dsimp only
  rw [run_bind_ok haccept, goOn]
  by_cases hleft : left = 0
  · rw [if_pos hleft, if_pos hleft]
    rfl
  · rw [if_neg hleft, if_neg hleft]
    rfl

end Attempt

/-- Without a check the first result is the outcome. After a fault the retries end in a fault, which
is that one unless a wait failed, or they go on with one attempt less if there is one and the policy
covers the fault, and make no transfer in between. -/
theorem run_attemptsFrom_succ (what : Text) (operation : Action (Bus σ τ) α) (index left : Nat)
    (bus : Bus σ τ) :
    let r := (policy.attemptsFrom what operation none index (left + 1)).run bus
    let first := operation.run bus
    (∃ result, first.1 = .ok result ∧ r = first) ∨
      ∃ fault, first.1 = .error fault ∧ ∃ between, Bus.Silent first.2 between ∧
        ((∃ last, r = (.error last, between) ∧
            (policy.delay.equalsInt 0 = true → last = fault)) ∨
          policy.covers fault = true ∧ left ≠ 0 ∧
            r = (policy.attemptsFrom what operation none (index + 1) left).run between) := by
  dsimp only
  rcases hrun : operation.run bus with ⟨fault | result, mid⟩
  · refine .inr ⟨fault, rfl, ?_⟩
    by_cases hcovers : policy.covers fault = true
    · obtain ⟨log, hgone⟩ : ∃ log, _ =
          (policy.goOn what operation none index left fault).run { mid with log := log } :=
        run_of_covered hrun hcovers
      rw [hgone, goOn]
      by_cases hleft : left = 0
      · rw [if_pos hleft]
        exact ⟨{ mid with log := log }, ⟨rfl, rfl⟩, .inl ⟨fault, rfl, fun _ ↦ rfl⟩⟩
      · rw [if_neg hleft, run_bind]
        have hwait : Bus.Silent mid (policy.wait.run { mid with log := log }).2 :=
          trans_of Bus.Silent (⟨rfl, rfl⟩ : Bus.Silent mid { mid with log := log })
            (Bus.silent_bookkeeping.handling.wait policy _)
        rcases hw : (policy.wait : Action (Bus σ τ) Unit).run { mid with log := log } with
          ⟨late | _, between⟩
        · rw [hw] at hwait
          refine ⟨between, hwait, .inl ⟨late, rfl, fun hdelay ↦ ?_⟩⟩
          rw [policy.run_wait_of_equalsInt hdelay] at hw
          cases hw
        · rw [hw] at hwait
          exact ⟨between, hwait, .inr ⟨hcovers, hleft, rfl⟩⟩
    · rw [run_of_foreign hrun hcovers]
      exact ⟨mid, refl_of Bus.Silent mid, .inl ⟨fault, rfl, fun _ ↦ rfl⟩⟩
  · exact .inl ⟨result, rfl, run_of_accepted hrun rfl⟩

variable {policy} {what : Text} {operation : Action (Bus σ τ) α}
  {accept : Option (α → Action (Bus σ τ) Bool)} {bus : Bus σ τ}

theorem run_of_counted {n : Int} (h : policy.attempts.toInt? = some n) :
    (policy.run what operation accept).run bus =
      (policy.attemptsFrom what operation accept 1 n.toNat).run bus := by
  rw [RetryPolicy.run, h]

/-- Attempts that cannot be counted are not made. -/
theorem run_of_uncounted (h : policy.attempts.toInt? = none) :
    (policy.run what operation accept).run bus = (.error .wrongType, bus) := by
  rw [RetryPolicy.run, h]
  rfl

end RetryPolicy

namespace Channel

variable [TimeScale τ] (c : Channel σ τ)

/-- Attempts make one transfer each, up to the first full one. -/
theorem transfers_attempts (policy : RetryPolicy) (what : Text) (request value length : Int)
    (left : Nat) : ∀ (index : Nat) (bus : Bus σ τ),
    let r := (policy.attemptsFrom what (c.readOnce request value length) none index left).run bus
    ∃ results, transfers r.2.trace =
        transfers bus.trace ++ results.map (.read (c.readCall request value length)) ∧
      r.2.anomalyObserver = bus.anomalyObserver ∧ policy.Attempted length left results ∧
      ReadsTo length results r.1 := by
  induction left with
  | zero =>
    intro index bus r
    refine ⟨[], (List.append_nil _).symm, rfl,
      ⟨Nat.le_refl _, fun h ↦ absurd rfl h, List.forall_mem_nil _⟩, ?_⟩
    exact ⟨fun data h ↦ (nomatch h), fun _ _ ↦ List.forall_mem_nil _⟩
  | succ left ih =>
    intro index bus r
    obtain ⟨result, htransfers, hobserver, houtcome⟩ :=
      c.transfers_readOnce request value length bus
    rcases policy.run_attemptsFrom_succ what (c.readOnce request value length) index left bus with
      ⟨data, hdata, hr⟩ | ⟨fault, hfault, between, hsilent, hnext⟩
    · have hr : r = _ := hr
      obtain ⟨rfl, hlength⟩ := exactly_eq_ok_iff.mp (houtcome.symm.trans hdata)
      refine ⟨[.ok data], by rw [hr]; exact htransfers, by rw [hr]; exact hobserver, .single, ?_⟩
      rw [hr, hdata]
      refine ⟨fun other h ↦ ⟨[], ?_, ?_, List.forall_mem_nil _⟩, fun _ h ↦ (nomatch h)⟩
      · rw [← h]
        rfl
      · cases h
        exact hlength
    · have hfirst : ¬ FullRead length result := by
        rintro ⟨data, hdata, hlength⟩
        rw [houtcome, exactly_eq_ok_iff.mpr ⟨hdata, hlength⟩] at hfault
        cases hfault
      rw [← hsilent.transfers_eq] at htransfers
      rw [← hsilent.observer_eq] at hobserver
      rcases hnext with ⟨last, hr, -⟩ | ⟨hcovers, -, hr⟩
      · have hr : r = _ := hr
        rw [hr]
        refine ⟨[result], htransfers, hobserver, .single, ?_⟩
        exact ⟨fun _ h ↦ (nomatch h), fun _ _ ↦ List.forall_mem_singleton.mpr hfirst⟩
      · have hr : r = _ := hr
        have hrepeats : policy.Repeats length result := by
          rcases result with other | data
          · cases houtcome.symm.trans hfault
            exact hcovers
          · exact fun hlength ↦ hfirst ⟨data, rfl, hlength⟩
        obtain ⟨results, hrest, hkept, hattempted, hreads⟩ := ih (index + 1) between
        rw [hr]
        refine ⟨result :: results, ?_, hkept.trans hobserver, hattempted.cons hrepeats,
          hreads.cons hfirst⟩
        rw [hrest, htransfers, List.append_assoc, List.map_cons, List.singleton_append]

/-- The attempts of a read, as its policy makes them. -/
def attempting (request value length : Int) : Action (Bus σ τ) Bytes :=
  c.readPolicy.run ("USB read " ++ Fault.requestText request value)
    (c.readOnce request value length) none

/-- A read ends as its attempts do. -/
theorem outcome_read (request value length : Int) (bus : Bus σ τ) :
    ((c.read request value length).run bus).1 =
        ((c.attempting request value length).run bus).1 ∧
      Bus.Silent ((c.attempting request value length).run bus).2
        ((c.read request value length).run bus).2 := by
  refine run_tryCatch_of_passesOn (fun fault after ↦ ?_) (fun fault after ↦ ?_) bus
  all_goals
    dsimp only
    split
  · rfl
  · rfl
  · exact ⟨rfl, rfl⟩
  · exact ⟨rfl, rfl⟩

/-- A read makes as many transfers as it needs and its policy lets it. -/
theorem transfers_read (request value length : Int) (bus : Bus σ τ) :
    let r := (c.read request value length).run bus
    ∃ results, transfers r.2.trace =
        transfers bus.trace ++ results.map (.read (c.readCall request value length)) ∧
      r.2.anomalyObserver = bus.anomalyObserver ∧
      (∀ n, c.readPolicy.attempts.toInt? = some n →
        c.readPolicy.Attempted length n.toNat results) ∧
      ReadsTo length results r.1 := by
  intro r
  obtain ⟨houtcome, hsilent⟩ := c.outcome_read request value length bus
  rw [houtcome, hsilent.transfers_eq, hsilent.observer_eq]
  rcases hcount : c.readPolicy.attempts.toInt? with _ | n
  · rw [attempting, RetryPolicy.run_of_uncounted hcount]
    refine ⟨[], (List.append_nil _).symm, rfl, fun _ h ↦ (nomatch h), ?_⟩
    exact ⟨fun _ h ↦ (nomatch h), fun _ _ ↦ List.forall_mem_nil _⟩
  · rw [attempting, RetryPolicy.run_of_counted hcount]
    obtain ⟨results, htransfers, hobserver, hattempted, hreads⟩ :=
      c.transfers_attempts c.readPolicy _ request value length n.toNat 1 bus
    refine ⟨results, htransfers, hobserver, ?_, hreads⟩
    rintro m ⟨⟩
    exact hattempted

end Channel

end MouseControl
