import MouseControl.Line.Replay
import MouseControl.Proofs.Line.Abreast
import MouseControl.Proofs.Line.Traffic
import MouseControl.Proofs.Wire.Frame

/-!
Two transports that differ in what they answer. `Transport.Alike` relates their states along the
calls made of them: every call has the same outcome on both, except that the bytes of a read may
differ where their number is the same. Two lines are alike (`Bus.Alike`) when their devices are and
their traces tell the same story once the bytes read and the anomalies reported are left out
(`outline`; `timeline` with the times). A write agrees on alike lines (`agree_write`), and so does a
read, retries included (`agree_read`).
-/

set_option autoImplicit false
set_option relaxedAutoImplicit false

namespace MouseControl

open MouseControl.Action

variable {σ σ' τ α α' : Type}

/-! ### What is told of a line -/

/-- An event without the bytes that a device answered, and nothing of an anomaly. -/
def Event.blurred : Event τ → Option (Event τ)
  | .read call outcome => some (.read call (outcome.map fun data ↦ List.replicate data.length 0))
  | .anomalyReported _ => none
  | event => some event

/-- The entries of a trace, blurred. -/
def timeline (trace : List (Entry τ)) : List (Entry τ) :=
  trace.filterMap fun entry ↦ entry.event.blurred.map fun event ↦ { entry with event := event }

/-- The same of an event that does not depend on the time, which the gap between transfers does. -/
def Event.outlined : Event τ → Option (Event τ)
  | .paused .spacing _ => none
  | event => event.blurred

/-- The events of a trace, blurred, without their times. -/
def outline (trace : List (Entry τ)) : List (Event τ) :=
  trace.filterMap fun entry ↦ entry.event.outlined

theorem timeline_concat (trace : List (Entry τ)) (entry : Entry τ) :
    timeline (trace ++ [entry]) = timeline trace ++ timeline [entry] := List.filterMap_append

theorem outline_concat (trace : List (Entry τ)) (entry : Entry τ) :
    outline (trace ++ [entry]) = outline trace ++ outline [entry] := List.filterMap_append

theorem Event.outlined_eq_of_blurred {event event' : Event τ}
    (h : event.blurred = event'.blurred) : event.outlined = event'.outlined := by
  have hdecide (e : Event τ) : e.outlined = e.blurred.bind fun seen ↦
      match seen with
      | .paused .spacing _ => none
      | other => some other := by
    cases e with
    | paused why => cases why <;> rfl
    | _ => rfl
  rw [hdecide, hdecide, h]

/-- An outline tells what was handed to the device. -/
theorem written_eq_outline (trace : List (Entry τ)) :
    written trace = (outline trace).filterMap Event.data? := by
  have hdata (event : Event τ) : event.data? = event.outlined.bind Event.data? := by
    cases event with
    | paused why => cases why <;> rfl
    | _ => rfl
  rw [outline, List.filterMap_filterMap]
  exact congrArg (List.filterMap · trace) (funext fun entry ↦ hdata entry.event)

/-! ### Transports and lines -/

/-- Whether what was last handed to a device is a firmware query. -/
def asksFirmware (last : Option Bytes) : Bool := last.any (Frame.isOf .firmwareVersion)

/-- Two reads brought the same number of bytes. Of two whole answers to a firmware query, if they
are `versioned`, bytes 8 and 9 are the same. -/
structure Answers (versioned : Prop) (last : Option Bytes) (data data' : Bytes) : Prop where
  length_eq : data.length = data'.length
  version_eq : versioned → asksFirmware last = true → data.length = Protocol.frameSize →
    (data.drop 8).take 2 = (data'.drop 8).take 2

/-- Two replies have matching outcomes and leave related states. If they are `timed`, they took the
same time. -/
structure Reply.Alike (timed : Prop) (same : α → α' → Prop) (next : σ → σ' → Prop)
    (reply : Reply σ τ α) (reply' : Reply σ' τ α') : Prop where
  outcome : Matching same reply.outcome reply'.outcome
  state : next reply.state reply'.state
  elapsed : timed → reply.elapsed = reply'.elapsed

/-- Two transports in states related by `alike`, which may depend on what was last written, reply
alike to every call. -/
structure Transport.Alike (timed versioned : Prop) (t : Transport σ τ) (t' : Transport σ' τ)
    (alike : Option Bytes → σ → σ' → Prop) : Prop where
  isOpen_eq : ∀ last device device', alike last device device' →
    t.isOpen device = t'.isOpen device'
  openDevice : ∀ last device device', alike last device device' →
    Reply.Alike timed Eq (alike last) (t.openDevice device) (t'.openDevice device')
  closeDevice : ∀ last device device', alike last device device' →
    Reply.Alike timed Eq (alike last) (t.closeDevice device) (t'.closeDevice device')
  write : ∀ last device device' call, alike last device device' →
    Reply.Alike timed Eq (alike (some call.data)) (t.write call device) (t'.write call device')
  read : ∀ last device device' call, alike last device device' →
    Reply.Alike timed (Answers versioned last) (alike last) (t.read call device)
      (t'.read call device')

/-- Two transports in related states brought such bytes when they were read from. -/
def Transport.Brought (t : Transport σ τ) (t' : Transport σ' τ)
    (alike : Option Bytes → σ → σ' → Prop) (last : Option Bytes) (data data' : Bytes) : Prop :=
  ∃ device device' call, alike last device device' ∧ (t.read call device).outcome = .ok data ∧
    (t'.read call device').outcome = .ok data'

/-- A recording with other contents of its reads. -/
def Replay.changed (device : Replay) (change : Bytes → Bytes) : Replay :=
  { device with reads := device.reads.map fun outcome ↦ outcome.map change }

/-- A recording replies alike when reads are changed in other bytes than 8 and 9. -/
theorem Replay.alike_changed [TimeScale τ] {timed versioned : Prop} {change : Bytes → Bytes}
    (hlength : ∀ data, (change data).length = data.length)
    (hversion : ∀ data, ((change data).drop 8).take 2 = (data.drop 8).take 2) :
    (transport : Transport Replay τ).Alike timed versioned transport
      fun _ device device' ↦ device' = device.changed change := by
  constructor
  · rintro last device _ rfl
    rfl
  · rintro last device _ rfl
    exact ⟨matching_eq_iff.mpr rfl, rfl, fun _ ↦ rfl⟩
  · rintro last device _ rfl
    exact ⟨matching_eq_iff.mpr rfl, rfl, fun _ ↦ rfl⟩
  · rintro last device _ call rfl
    exact ⟨matching_eq_iff.mpr rfl, rfl, fun _ ↦ rfl⟩
  · rintro last ⟨isOpen, opens, closes, writes, reads⟩ _ call rfl
    refine ⟨?_, ?_, fun _ ↦ rfl⟩
    · rcases reads with _ | ⟨fault | data, rest⟩
      · exact .ok ⟨rfl, fun _ _ _ ↦ rfl⟩
      · exact .error fault
      · exact .ok ⟨(hlength data).symm, fun _ _ _ ↦ (hversion data).symm⟩
    · rcases reads with _ | ⟨outcome, rest⟩
      · rfl
      · rfl

/-- Two lines with one observer of anomalies, whose devices are related and whose traces tell the
same. -/
structure Bus.Alike (observer : Observer) (timed : Prop) (devices : σ → σ' → Prop)
    (bus : Bus σ τ) (bus' : Bus σ' τ) : Prop where
  device : devices bus.device bus'.device
  observer_eq : bus.anomalyObserver = observer
  observer_eq' : bus'.anomalyObserver = observer
  outline_eq : outline bus'.trace = outline bus.trace
  clock_eq : timed → bus'.clock = bus.clock
  spacing_eq : timed → bus'.spacing = bus.spacing
  timeline_eq : timed → timeline bus'.trace = timeline bus.trace

/-- Two lines are alike, whatever was last written on them. -/
abbrev Bus.Alongside (observer : Observer) (timed : Prop)
    (alike : Option Bytes → σ → σ' → Prop) : Bus σ τ → Bus σ' τ → Prop :=
  Bus.Alike observer timed fun device device' ↦ ∃ last, alike last device device'

namespace Bus.Alike

variable {observer : Observer} {timed : Prop} {devices devices' : σ → σ' → Prop} {bus : Bus σ τ}
  {bus' : Bus σ' τ}

theorem alongside {alike : Option Bytes → σ → σ' → Prop} {last : Option Bytes}
    (h : Alike observer timed (alike last) bus bus') : Alongside observer timed alike bus bus' :=
  { h with device := ⟨last, h.device⟩ }

/-- One more entry on both lines, which tell the same, after which the devices may be related
otherwise. -/
theorem concat (h : Alike observer timed devices bus bus') {device : σ} {device' : σ'}
    (hdevice : devices' device device') {event event' : Event τ}
    (hevent : event.blurred = event'.blurred) {clock clock' : τ} (hclock : timed → clock' = clock) :
    Alike observer timed devices'
      { bus with
        device := device
        clock := clock
        trace := bus.trace ++ [⟨bus.clock, clock, event⟩] }
      { bus' with
        device := device'
        clock := clock'
        trace := bus'.trace ++ [⟨bus'.clock, clock', event'⟩] } where
  device := hdevice
  observer_eq := h.observer_eq
  observer_eq' := h.observer_eq'
  outline_eq := by
    rw [outline_concat, outline_concat, h.outline_eq]
    simp only [outline, List.filterMap_cons, Event.outlined_eq_of_blurred hevent]
  clock_eq := hclock
  spacing_eq := h.spacing_eq
  timeline_eq htimed := by
    rw [timeline_concat, timeline_concat, h.timeline_eq htimed, h.clock_eq htimed, hclock htimed]
    simp only [timeline, List.filterMap_cons, hevent]

end Bus.Alike

namespace Bus

variable {observer : Observer} {timed : Prop} {devices devices' : σ → σ' → Prop}

/-- Notices have no part in the likeness of lines. -/
theorem agree_note (n n' : Notice) :
    Agree (Alike observer timed devices) (Alike observer timed devices) Eq
      (note n : Action (Bus σ τ) Unit)
      (note n' : Action (Bus σ' τ) Unit) :=
  fun _ _ h ↦ ⟨.ok rfl, { h with }⟩

theorem agree_record (event : Event τ) :
    Agree (Alike observer timed devices) (Alike observer timed devices) Eq
      (record event : Action (Bus σ τ) Unit)
      (record event : Action (Bus σ' τ) Unit) :=
  fun _ _ h ↦ ⟨.ok rfl, h.concat h.device rfl h.clock_eq⟩

theorem agree_report (told : Observer) (r : Report) :
    Agree (Alike observer timed devices) (Alike observer timed devices) Eq
      (report told r : Action (Bus σ τ) Unit)
      (report told r : Action (Bus σ' τ) Unit) := by
  cases told with
  | absent => exact agree_pure rfl
  | present verdict =>
    exact (agree_record r.event).andThen (agree_ofExcept (matching_eq_iff.mpr rfl))

variable [TimeScale τ]

theorem agree_pause (why : Pause) (span : τ) :
    Agree (Alike observer timed devices) (Alike observer timed devices) Eq
      (pause why span : Action (Bus σ τ) Unit)
      (pause why span : Action (Bus σ' τ) Unit) :=
  fun _ _ h ↦ ⟨.ok rfl, h.concat h.device rfl fun htimed ↦ by rw [h.clock_eq htimed]⟩

/-- A call of the transport agrees if the replies do. -/
theorem agree_call {same : α → α' → Prop} {event : Except Fault α → Event τ}
    {event' : Except Fault α' → Event τ} {step : σ → Reply σ τ α} {step' : σ' → Reply σ' τ α'}
    (hstep : ∀ device device', devices device device' →
      Reply.Alike timed same devices' (step device) (step' device'))
    (hevent : ∀ outcome outcome', Matching same outcome outcome' →
      (event outcome).blurred = (event' outcome').blurred) :
    Agree (Alike observer timed devices) (Alike observer timed devices') same (call event step)
      (call event' step') := by
  intro bus bus' h
  have hreply := hstep _ _ h.device
  refine ⟨hreply.outcome, ?_⟩
  refine h.concat hreply.state (hevent _ _ hreply.outcome) fun htimed ↦ ?_
  rw [h.clock_eq htimed, hreply.elapsed htimed]

theorem outline_entered (bus : Bus σ τ) : outline bus.entered.trace = outline bus.trace := by
  rcases bus.entered_cases with ⟨-, heq⟩ | ⟨rest, -, heq⟩
  · rw [heq]
  · rw [heq]
    exact (outline_concat _ _).trans (List.append_nil _)

/-- Lines that keep the same time have the same gap to keep. -/
theorem Alike.entered_timed {bus : Bus σ τ} {bus' : Bus σ' τ}
    (h : Alike observer timed devices bus bus')
    (htimed : timed) : bus'.entered.clock = bus.entered.clock ∧
      timeline bus'.entered.trace = timeline bus.entered.trace := by
  have hclock := h.clock_eq htimed
  have hremaining : bus'.spacing.remaining bus'.clock = bus.spacing.remaining bus.clock := by
    rw [h.spacing_eq htimed, hclock]
  rcases bus.entered_cases with ⟨hnone, heq⟩ | ⟨rest, hrest, heq⟩
  · obtain ⟨-, heq'⟩ | ⟨rest', hrest', -⟩ := bus'.entered_cases
    · rw [heq, heq']
      exact ⟨hclock, h.timeline_eq htimed⟩
    · rw [hremaining, hnone] at hrest'
      cases hrest'
  · obtain ⟨hnone', -⟩ | ⟨rest', hrest', heq'⟩ := bus'.entered_cases
    · rw [hremaining, hrest] at hnone'
      cases hnone'
    · rw [hremaining, hrest] at hrest'
      cases hrest'
      rw [heq, heq']
      refine ⟨congrArg (· + rest) hclock, ?_⟩
      simp only [timeline_concat, h.timeline_eq htimed, hclock]

/-- The gap may have to be kept on one line only, unless they keep the same time. -/
theorem agree_enter :
    Agree (Alike observer timed devices) (Alike observer timed devices) Eq
      (enter : Action (Bus σ τ) Unit)
      (enter : Action (Bus σ' τ) Unit) := by
  intro bus bus' h
  rw [run_enter, run_enter]
  refine ⟨.ok rfl, ?_⟩
  obtain ⟨hdevice, hspacing, hobserver⟩ := bus.entered_kept
  obtain ⟨hdevice', hspacing', hobserver'⟩ := bus'.entered_kept
  constructor
  · rw [hdevice, hdevice']
    exact h.device
  · exact hobserver.trans h.observer_eq
  · exact hobserver'.trans h.observer_eq'
  · rw [outline_entered, outline_entered]
    exact h.outline_eq
  · exact fun htimed ↦ (h.entered_timed htimed).1
  · rw [hspacing, hspacing']
    exact h.spacing_eq
  · exact fun htimed ↦ (h.entered_timed htimed).2

omit [TimeScale τ] in
theorem agree_leave :
    Agree (Alike observer timed devices) (Alike observer timed devices) Eq
      (leave : Action (Bus σ τ) Unit)
      (leave : Action (Bus σ' τ) Unit) :=
  fun _ _ h ↦ ⟨.ok rfl, { h with
    spacing_eq := fun htimed ↦ by
      simp only [leave, run_of, h.spacing_eq htimed, h.clock_eq htimed] }⟩

theorem agree_spaced {same : α → α' → Prop} {x : Action (Bus σ τ) α} {y : Action (Bus σ' τ) α'}
    (h : Agree (Alike observer timed devices) (Alike observer timed devices') same x y) :
    Agree (Alike observer timed devices) (Alike observer timed devices')
      same (spaced x) (spaced y) := by
  intro bus bus' hbus
  obtain ⟨-, hentered⟩ := agree_enter bus bus' hbus
  rw [run_enter, run_enter] at hentered
  obtain ⟨hmatch, hend⟩ := h _ _ hentered
  rw [run_spaced, run_spaced]
  exact ⟨hmatch, (agree_leave _ _ hend).2⟩

end Bus

/-! ### Operations of a channel -/

theorem Bus.abreast_alike [TimeScale τ] {observer : Observer} {timed : Prop}
    {devices : σ → σ' → Prop} :
    Abreast (Alike observer timed devices : Bus σ τ → Bus σ' τ → Prop) where
  note := agree_note
  pause := agree_pause .retry

namespace Channel

variable (c : Channel σ τ)

/-- The channel over another transport. -/
def switched (t : Transport σ' τ) : Channel σ' τ := ⟨t, c.readPolicy, c.timeout⟩

variable [TimeScale τ] {observer : Observer} {timed versioned : Prop} {t' : Transport σ' τ}
  {alike : Option Bytes → σ → σ' → Prop} {c}

/-- A write agrees, and from then on what was written is known. -/
theorem agree_write (h : c.transport.Alike timed versioned t' alike) (request value : Int)
    (data : Bytes) :
    Agree (Bus.Alongside observer timed alike) (Bus.Alike observer timed (alike (some data))) Eq
      (c.write request value data)
      ((c.switched t').write request value data) := by
  have hraw : Agree (Bus.Alongside observer timed alike)
      (Bus.Alike observer timed (alike (some data))) Eq
      (c.rawWrite (c.writeCall request value data))
      ((c.switched t').rawWrite (c.writeCall request value data)) := by
    refine Bus.agree_spaced (Bus.agree_call ?_ ?_)
    · rintro device device' ⟨last, hdevice⟩
      exact h.write last device device' (c.writeCall request value data) hdevice
    · intro outcome outcome' hmatch
      rw [matching_eq_iff.mp hmatch]
  exact agree_write_of_raw Bus.abreast_alike hraw

/-- A read agrees, and two reads that succeed brought all the bytes that were asked for, as the
transports gave them. -/
theorem agree_read (h : c.transport.Alike timed versioned t' alike) (last : Option Bytes)
    (request value length : Int) :
    Agree (Bus.Alike observer timed (alike last)) (Bus.Alike observer timed (alike last))
      (fun data data' ↦ (Answers versioned last data data' ∧
        c.transport.Brought t' alike last data data') ∧ (data.length : Int) = length)
      (c.read request value length) ((c.switched t').read request value length) := by
  have hraw : Agree (Bus.Alike observer timed (alike last)) (Bus.Alike observer timed (alike last))
      (fun data data' ↦ Answers versioned last data data' ∧
        c.transport.Brought t' alike last data data') (c.rawRead (c.readCall request value length))
      ((c.switched t').rawRead (c.readCall request value length)) := by
    refine Bus.agree_spaced (Bus.agree_call (fun device device' hdevice ↦ ?_) ?_)
    · let call := c.readCall request value length
      obtain ⟨houtcome, hstate, helapsed⟩ := h.read last device device' call hdevice
      exact ⟨houtcome.and fun _ _ hread hread' ↦ ⟨device, device', call, hdevice, hread, hread'⟩,
        hstate, helapsed⟩
    · rintro _ _ (⟨hanswers, -⟩ | fault)
      · simp only [Event.blurred, Except.map, hanswers.length_eq]
      · rfl
  exact agree_read_of_raw Bus.abreast_alike hraw (fun _ _ hanswers ↦ hanswers.1.length_eq) rfl

end Channel

end MouseControl
