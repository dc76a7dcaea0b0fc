import MouseControl.Proofs.Command.Exchange
import MouseControl.Proofs.Device.Configuration
import MouseControl.Proofs.Line.Extract

/-!
What is said about answers. The transfers of a line make exchanges: a frame that was taken whole,
and then the first whole answer read after it (`dialogue`). Of each answer the library remarks that
its checksum is wrong and that its status is not an accepted one (`Response.remarks`), the latter
also as a report of an anomaly of the command that was sent. A line is candid if this is all that it
says of answers, in order (`Candid`); every exchange keeps it so (`candid_exchange`), and so do
pushes and probes.
-/

set_option autoImplicit false
set_option relaxedAutoImplicit false

namespace MouseControl

open MouseControl.Action

variable {σ τ : Type}

/-! ### Responses -/

/-- A frame that was sent and the answer to it. -/
structure Response where
  sent : Bytes
  answer : Bytes

namespace Response

/-- The byte of a buffer at an offset. -/
def byteAt (buffer : Bytes) (offset : Nat) : UInt8 := buffer.getD offset 0

/-- The id that stands in a frame at an offset, high byte first. -/
def idAt (frame : Bytes) (offset : Nat) : Int :=
  (byteAt frame offset).toNat * 0x100 + (byteAt frame (offset + 1)).toNat

variable (r : Response)

/-- The exclusive or of bytes 2 to 87 of the answer. -/
def computed : UInt8 := ((r.answer.drop 2).take 86).foldl (· ^^^ ·) 0

/-- The anomaly of an answer whose status is none of 0, 1 and 2, with the ids of the frame that was
sent. -/
def anomaly? : Option Anomaly :=
  if byteAt r.answer 0 = 0 ∨ byteAt r.answer 0 = 1 ∨ byteAt r.answer 0 = 2 then none
  else some ⟨idAt r.sent 4, idAt r.sent 6, (byteAt r.answer 0).toNat⟩

/-- The notice of an answer whose byte 88 is not its checksum. -/
def badChecksum? : Option Notice :=
  if byteAt r.answer 88 = r.computed then none
  else some (.badChecksum (idAt r.sent 4) (idAt r.sent 6) (byteAt r.answer 88).toNat
    r.computed.toNat)

/-- What there is to say about an answer. -/
def remarks : List Notice := r.badChecksum?.toList ++ (r.anomaly?.map Notice.anomaly).toList

end Response

/-- The exchanges of a line: the frame that an answer is awaited for, and what was answered. -/
structure Dialogue where
  awaiting : Option Bytes := none
  responses : List Response := []

namespace Dialogue

/-- A frame that was taken whole awaits its answer, and the first whole one is. -/
def next (d : Dialogue) : Event τ → Dialogue
  | .wrote call outcome =>
    match outcome with
    | .ok count => { d with awaiting := if count = call.data.length then some call.data else none }
    | .error _ => { d with awaiting := none }
  | .read call (.ok answer) =>
    match d.awaiting with
    | some sent =>
      if answer.length = call.length then ⟨none, d.responses ++ [⟨sent, answer⟩]⟩ else d
    | none => d
  | _ => d

theorem next_of_not_transfer (d : Dialogue) {event : Event τ} (h : event.isTransfer = false) :
    d.next event = d := by
  cases event with
  | wrote | read => cases h
  | _ => rfl

/-- No answer is given by a write. -/
theorem responses_next_wrote (d : Dialogue) (call : WriteCall) (outcome : Except Fault Int) :
    (d.next (.wrote call outcome : Event τ)).responses = d.responses := by
  rcases outcome with fault | count <;> rfl

end Dialogue

/-- The exchanges that a trace tells of. -/
def dialogue (trace : List (Entry τ)) : Dialogue :=
  trace.foldl (fun d entry ↦ d.next entry.event) {}

/-- Only transfers make exchanges. -/
theorem dialogue_eq (trace : List (Entry τ)) :
    dialogue trace = (transfers trace).foldl Dialogue.next {} := by
  have hfold (d : Dialogue) : trace.foldl (fun d entry ↦ d.next entry.event) d =
      (transfers trace).foldl Dialogue.next d := by
    induction trace generalizing d with
    | nil => rfl
    | cons entry rest ih =>
      by_cases htransfer : entry.event.isTransfer = true
      · simp [transfers, htransfer, ih]
      · have hsame := d.next_of_not_transfer (by simpa using htransfer)
        simp [transfers, htransfer, hsame, ih]
  exact hfold {}

theorem dialogue_append {trace trace' : List (Entry τ)} {new : List (Event τ)}
    (h : transfers trace' = transfers trace ++ new) :
    dialogue trace' = new.foldl Dialogue.next (dialogue trace) := by
  rw [dialogue_eq, h, List.foldl_append, ← dialogue_eq]

/-- Answers that are not whole leave an exchange open. -/
theorem Dialogue.foldl_reads (d : Dialogue) (call : ReadCall) {results : List (Except Fault Bytes)}
    (h : ∀ result ∈ results, ¬FullRead call.length result) :
    (results.map (Event.read call : _ → Event τ)).foldl Dialogue.next d = d := by
  induction results with
  | nil => rfl
  | cons result rest ih =>
    obtain ⟨hfirst, hrest⟩ := List.forall_mem_cons.mp h
    have hsame : d.next (.read call result : Event τ) = d := by
      rcases result with fault | answer
      · rfl
      · have hlength : ¬(answer.length : Int) = call.length := fun hlength ↦
          hfirst ⟨answer, rfl, hlength⟩
        rcases d with ⟨_ | sent, responses⟩
        · rfl
        · exact if_neg hlength
    rw [List.map_cons, List.foldl_cons, hsame]
    exact ih hrest

/-! ### Candour -/

/-- The anomaly that an event reports. -/
def Event.anomaly? : Event τ → Option Anomaly
  | .anomalyReported anomaly => some anomaly
  | _ => none

namespace Bus

/-- What a line has said of some answers: a report of each anomaly to an observer who is there, the
last anomaly, and the notices of each answer. -/
structure Told (observer : Observer) (responses : List Response) (bus : Bus σ τ) : Prop where
  observer_eq : bus.anomalyObserver = observer
  reports_eq : extract Event.anomaly? bus.trace =
    observer.hears (responses.filterMap Response.anomaly?)
  lastAnomaly_eq : bus.lastAnomaly = (responses.filterMap Response.anomaly?).getLast?
  remarks_eq : bus.log.filter Notice.isRemark = responses.flatMap Response.remarks

/-- A line has said of the answers of its exchanges what there is to say, and nothing else. -/
def Candid (observer : Observer) (bus : Bus σ τ) : Prop :=
  bus.Told observer (dialogue bus.trace).responses

/-- Nothing is said about answers. -/
structure Reticent (bus bus' : Bus σ τ) : Prop where
  observer_eq : bus'.anomalyObserver = bus.anomalyObserver
  reports_eq : extract Event.anomaly? bus'.trace = extract Event.anomaly? bus.trace
  lastAnomaly_eq : bus'.lastAnomaly = bus.lastAnomaly
  remarks_eq : bus'.log.filter Notice.isRemark = bus.log.filter Notice.isRemark

instance : IsPreorder (Bus σ τ) Reticent where
  refl _ := ⟨rfl, rfl, rfl, rfl⟩
  trans _ _ _ h h' :=
    ⟨h'.observer_eq.trans h.observer_eq, h'.reports_eq.trans h.reports_eq,
      h'.lastAnomaly_eq.trans h.lastAnomaly_eq, h'.remarks_eq.trans h.remarks_eq⟩

variable {observer : Observer} {responses : List Response} {bus bus' : Bus σ τ}

theorem Reticent.told (h : bus.Reticent bus') (htold : bus.Told observer responses) :
    bus'.Told observer responses where
  observer_eq := h.observer_eq.trans htold.observer_eq
  reports_eq := h.reports_eq.trans htold.reports_eq
  lastAnomaly_eq := h.lastAnomaly_eq.trans htold.lastAnomaly_eq
  remarks_eq := h.remarks_eq.trans htold.remarks_eq

/-- Silence about everything keeps a line candid. -/
theorem Reticent.candid (h : bus.Reticent bus') (hsilent : bus.Silent bus') :
    Retains (Candid observer) bus bus' := by
  intro hcandid
  have hsame : dialogue bus'.trace = dialogue bus.trace := by
    rw [dialogue_eq, hsilent.transfers_eq, ← dialogue_eq]
  rw [Candid, hsame]
  exact h.told hcandid

theorem reticent_note {n : Notice} (hn : n.isRemark = false) :
    Keeps (Reticent : Bus σ τ → Bus σ τ → Prop) (note n) :=
  fun bus ↦ ⟨rfl, rfl, rfl, by simp [note, hn]⟩

theorem reticent_record {event : Event τ} (hevent : event.anomaly? = none) :
    Keeps (Reticent : Bus σ τ → Bus σ τ → Prop) (record event) :=
  fun _ ↦ ⟨rfl, omits_of_concat rfl hevent, rfl, rfl⟩

end Bus

section Transfers

variable [TimeScale τ]

theorem Bus.waiting_reticent : Waiting (Reticent : Bus σ τ → Bus σ τ → Prop) where
  note _ hn := reticent_note hn
  pause _ _ _ _ := ⟨rfl, omits_of_concat rfl rfl, rfl, rfl⟩

theorem Bus.waiting_candid {observer : Observer} :
    Waiting (Retains (Candid observer) : Bus σ τ → Bus σ τ → Prop) where
  note n hn bus := (waiting_reticent.note n hn bus).candid (silent_bookkeeping.note n bus)
  pause n span hwait bus :=
    (waiting_reticent.pause n span hwait bus).candid (silent_bookkeeping.pause .retry span bus)

/-- No transfer says anything about answers. -/
theorem Channel.transfers_reticent (c : Channel σ τ) :
    c.Transfers (fun _ ↦ True) (Bus.Reticent : Bus σ τ → Bus σ τ → Prop) where
  toWaiting := Bus.waiting_reticent
  slot _ _ _ := ⟨rfl, Bus.omits_of_concat rfl rfl, rfl, rfl⟩
  leave _ := ⟨rfl, rfl, rfl, rfl⟩
  write _ _ _ := ⟨rfl, Bus.omits_of_concat rfl rfl, rfl, rfl⟩
  read _ _ := ⟨rfl, Bus.omits_of_concat rfl rfl, rfl, rfl⟩

end Transfers

/-! ### Assessing -/

namespace Response

variable {frame data : Bytes} {sent answer : CommandFrame}

/-- The ids of a frame, as it is taken apart. -/
theorem ids_of_decode (h : Frame.decode frame = .ok sent) :
    sent.command = idAt frame 4 ∧ sent.request = idAt frame 6 := by
  unfold Frame.decode at h
  split at h
  · cases h
    exact ⟨rfl, rfl⟩
  · cases h

/-- The status and the two checksums of an answer, as it is taken apart. -/
theorem sums_of_decode (frame : Bytes) (h : Frame.decode data = .ok answer) :
    answer.status = (byteAt data 0).toNat ∧ answer.checksum = (byteAt data 88).toNat ∧
      answer.computed = (⟨frame, data⟩ : Response).computed.toNat := by
  have hspan : (⟨frame, data⟩ : Response).computed = Frame.checksum data := by
    rw [computed, Frame.checksum, xorSum, Frame.protectedSpan, List.drop_take]
    rfl
  rw [hspan]
  unfold Frame.decode at h
  split at h
  · cases h
    exact ⟨rfl, rfl, rfl⟩
  · cases h

theorem badChecksum_of_decode (hsent : Frame.decode frame = .ok sent)
    (hanswer : Frame.decode data = .ok answer) :
    (⟨frame, data⟩ : Response).badChecksum? =
      if answer.checksumValid then none
      else some (.badChecksum sent.command sent.request answer.checksum answer.computed) := by
  obtain ⟨hcommand, hrequest⟩ := ids_of_decode hsent
  obtain ⟨-, hchecksum, hcomputed⟩ := sums_of_decode frame hanswer
  have hvalid : answer.checksumValid = true ↔
      byteAt data 88 = (⟨frame, data⟩ : Response).computed := by
    rw [CommandFrame.checksumValid, hchecksum, hcomputed, beq_iff_eq, Int.natCast_inj,
      UInt8.toNat_inj]
  rw [badChecksum?, hcommand, hrequest, hchecksum, hcomputed]
  by_cases hsum : answer.checksumValid = true
  · rw [if_pos (hvalid.mp hsum), if_pos hsum]
  · rw [if_neg (fun heq ↦ hsum (hvalid.mpr heq)), if_neg hsum]

theorem anomaly_of_decode (hsent : Frame.decode frame = .ok sent)
    (hanswer : Frame.decode data = .ok answer) :
    (⟨frame, data⟩ : Response).anomaly? =
      if answer.statusOk then none else some ⟨sent.command, sent.request, answer.status⟩ := by
  obtain ⟨hcommand, hrequest⟩ := ids_of_decode hsent
  obtain ⟨hstatus, -, -⟩ := sums_of_decode frame hanswer
  have hok : answer.statusOk = true ↔
      byteAt data 0 = 0 ∨ byteAt data 0 = 1 ∨ byteAt data 0 = 2 := by
    simp only [CommandFrame.statusOk, Protocol.acceptedStatus, hstatus, List.contains_iff_mem,
      List.mem_cons, List.not_mem_nil, or_false, ← UInt8.toNat_inj, UInt8.reduceToNat]
    omega
  rw [anomaly?, hcommand, hrequest, hstatus]
  by_cases haccepted : answer.statusOk = true
  · rw [if_pos (hok.mp haccepted), if_pos haccepted]
  · rw [if_neg (fun heq ↦ haccepted (hok.mpr heq)), if_neg haccepted]

end Response

namespace Bus

open Response

variable {observer : Observer} {responses : List Response} {frame data : Bytes}
  {sent answer : CommandFrame}

/-- A report of an anomaly is recorded for an observer who is there, and the anomaly is
remembered. -/
theorem state_of_reportAnomaly (a : Anomaly) (bus : Bus σ τ) :
    ((reportAnomaly a).run bus).2 =
      { bus with
        log := bus.log ++ [.anomaly a]
        lastAnomaly := some a
        trace := bus.trace ++
          bus.anomalyObserver.hears [⟨bus.clock, bus.clock, .anomalyReported a⟩] } := by
  rcases bus with ⟨device, clock, spacing, trace, log, last, _ | verdict⟩
  · simp [reportAnomaly, run_bind, note, report, Observer.hears]
  · rfl

/-- All that is said about an answer. -/
theorem state_of_assess (hsent : Frame.decode frame = .ok sent)
    (hanswer : Frame.decode data = .ok answer) (bus : Bus σ τ) :
    let r : Response := ⟨frame, data⟩
    ((Channel.assess sent answer).run bus).2 =
      { bus with
        log := bus.log ++ .answered sent.command sent.request answer.status :: r.remarks
        lastAnomaly := r.anomaly?.or bus.lastAnomaly
        trace := bus.trace ++ bus.anomalyObserver.hears
          (r.anomaly?.toList.map fun a ↦ ⟨bus.clock, bus.clock, .anomalyReported a⟩) } := by
  intro r
  have hsum : r.badChecksum? = _ := badChecksum_of_decode hsent hanswer
  have hstatus : r.anomaly? = _ := anomaly_of_decode hsent hanswer
  have hlast (noted : Bus σ τ) : ((if (!answer.statusOk) = true then
      reportAnomaly ⟨sent.command, sent.request, answer.status⟩
      else pure () : Action (Bus σ τ) Unit).run noted).2 =
        { noted with
          log := noted.log ++ (r.anomaly?.map Notice.anomaly).toList
          lastAnomaly := r.anomaly?.or noted.lastAnomaly
          trace := noted.trace ++ noted.anomalyObserver.hears
            (r.anomaly?.toList.map fun a ↦ ⟨noted.clock, noted.clock, .anomalyReported a⟩) } := by
    rw [hstatus]
    by_cases haccepted : answer.statusOk = true
    · simp [haccepted]
    · rw [if_pos (by simpa using haccepted), state_of_reportAnomaly]
      simp [haccepted]
  have hnote (n : Notice) (noted : Bus σ τ) :
      (note n).run noted = (.ok (), { noted with log := noted.log ++ [n] }) := rfl
  rw [Channel.assess, run_bind_ok (hnote _ bus)]
  by_cases hvalid : answer.checksumValid = true
  · rw [if_neg (by simp [hvalid]), hlast, remarks, hsum]
    simp [hvalid]
  · rw [if_pos (by simpa using hvalid), run_bind_ok (hnote _ _), hlast, remarks, hsum]
    simp [hvalid]

theorem filter_remarks (r : Response) : r.remarks.filter Notice.isRemark = r.remarks := by
  refine List.filter_eq_self.mpr fun n hn ↦ ?_
  rcases List.mem_append.mp hn with hbad | hanomaly
  · rw [badChecksum?] at hbad
    split at hbad
    · cases hbad
    · obtain rfl := List.mem_singleton.mp hbad
      rfl
  · obtain ⟨a, -, rfl⟩ := Option.map_eq_some_iff.mp (Option.mem_toList.mp hanomaly)
    rfl

/-- What is said of one more answer is what there is to say about it. -/
theorem Told.assess {bus : Bus σ τ} (h : bus.Told observer responses)
    (hsent : Frame.decode frame = .ok sent) (hanswer : Frame.decode data = .ok answer) :
    ((Channel.assess sent answer).run bus).2.Told observer (responses ++ [⟨frame, data⟩]) := by
  rw [state_of_assess hsent hanswer]
  generalize (⟨frame, data⟩ : Response) = r
  constructor
  · exact h.observer_eq
  · dsimp only
    rw [extract_append, h.reports_eq, h.observer_eq, List.filterMap_append]
    cases observer with
    | absent => rfl
    | present verdict =>
      cases hanomaly : r.anomaly? <;> simp [Observer.hears, extract, hanomaly, Event.anomaly?]
  · dsimp only
    rw [h.lastAnomaly_eq, List.filterMap_append, List.getLast?_append]
    cases hanomaly : r.anomaly? <;> simp [hanomaly]
  · dsimp only
    rw [List.filter_append, h.remarks_eq, List.flatMap_append]
    simp [filter_remarks, Notice.isRemark]

end Bus

/-! ### Exchanges -/

namespace Channel

variable {observer : Observer}

/-- What the library makes of a whole answer is what there is to say about it. -/
theorem told_understand {bus : Bus σ τ} {responses : List Response} {frame data : Bytes}
    {sent : CommandFrame} (h : bus.Told observer responses)
    (hsent : Frame.decode frame = .ok sent) (hdata : data.length = Protocol.frameSize) :
    ((understand sent data).run bus).2.Told observer (responses ++ [⟨frame, data⟩]) := by
  obtain ⟨answer, hanswer⟩ := Frame.decode_of_length hdata
  have hdecode : (ofExcept (Frame.decode data)).run bus = (.ok answer, bus) := by
    rw [run_ofExcept, hanswer]
  have htold := h.assess hsent hanswer
  rw [understand, run_bind_ok hdecode, run_bind]
  rcases hassess : (assess sent answer).run bus with ⟨fault | _, after⟩
  all_goals
    rw [hassess] at htold
    exact htold

variable [TimeScale τ] (c : Channel σ τ)

/-- Only a whole answer to a frame is spoken of. -/
theorem candid_answered {frame : Bytes} {sent : CommandFrame}
    (hsent : Frame.decode frame = .ok sent) {responses : List Response} {bus : Bus σ τ}
    (h : bus.Told observer responses)
    (hdialogue : dialogue bus.trace = ⟨some frame, responses⟩) :
    Bus.Candid observer ((do
      let data ← c.read Protocol.readRequest Protocol.commandValue Protocol.frameSize
      understand sent data : Action (Bus σ τ) CommandFrame).run bus).2 := by
  obtain ⟨results, htransfers, -, -, hreads⟩ :=
    c.transfers_read Protocol.readRequest Protocol.commandValue Protocol.frameSize bus
  have hread := (c.transfers_reticent.transferIn Protocol.readRequest Protocol.commandValue
    Protocol.frameSize bus).told h
  rw [run_bind]
  rcases hrun : (c.read Protocol.readRequest Protocol.commandValue Protocol.frameSize).run bus with
    ⟨fault | data, after⟩
  all_goals
    rw [hrun] at htransfers hread hreads
    dsimp only at htransfers hread ⊢
  · have hsame : dialogue after.trace = ⟨some frame, responses⟩ := by
      rw [dialogue_append htransfers, Dialogue.foldl_reads _ _ (hreads.of_error fault rfl),
        hdialogue]
    rw [Bus.Candid, hsame]
    exact hread
  · -- The attempts before the last one brought no whole answer and leave the exchange open.
    obtain ⟨failed, rfl, hlength, hfailed⟩ := hreads.of_ok data rfl
    have hsilent := (run_understand hsent (by exact_mod_cast hlength) after).1
    have hnext : dialogue ((understand sent data).run after).2.trace =
        ⟨none, responses ++ [⟨frame, data⟩]⟩ := by
      rw [dialogue_eq, hsilent.transfers_eq, ← dialogue_eq, dialogue_append htransfers,
        List.map_append, List.foldl_append,
        Dialogue.foldl_reads (dialogue bus.trace) (c.readCall _ _ _) hfailed, hdialogue]
      exact if_pos hlength
    rw [Bus.Candid, hnext]
    exact told_understand hread hsent (by exact_mod_cast hlength)

/-- A frame that was not taken whole gets no answer, and nothing is said of it. -/
theorem candid_exchange {frame : Bytes} (hframe : Frame.Sealed frame) :
    Keeps (Retains (Bus.Candid observer) : Bus σ τ → Bus σ τ → Prop) (c.exchange frame) := by
  intro bus hcandid
  obtain ⟨sent, hsent, hrun⟩ := c.run_exchange hframe bus
  obtain ⟨result, htransfers, -, hresult⟩ :=
    c.transfers_write Protocol.writeRequest Protocol.commandValue frame bus
  have hwritten : ((c.write Protocol.writeRequest Protocol.commandValue frame).run bus).2.Told
      observer (dialogue bus.trace).responses :=
    (c.transfers_reticent.transferOut _ _ trivial bus).told hcandid
  rw [hrun, run_bind]
  rcases hwrite : (c.write Protocol.writeRequest Protocol.commandValue frame).run bus with
    ⟨fault | _, mid⟩
  all_goals
    rw [hwrite] at htransfers hwritten hresult
    have hdialogue := dialogue_append htransfers
    rw [List.foldl_cons, List.foldl_nil] at hdialogue
  · have hsame : (dialogue mid.trace).responses = (dialogue bus.trace).responses := by
      rw [hdialogue, Dialogue.responses_next_wrote]
    rw [Bus.Candid, hsame]
    exact hwritten
  · obtain rfl := hresult.mp rfl
    have hawaiting : dialogue mid.trace = ⟨some frame, (dialogue bus.trace).responses⟩ := by
      rw [hdialogue]
      simp [Dialogue.next, writeCall]
    exact c.candid_answered hsent hwritten hawaiting

theorem candid_push (config : Configuration) :
    Keeps (Retains (Bus.Candid observer) : Bus σ τ → Bus σ τ → Prop) (c.push config) :=
  keeps_push fun _ hmem ↦ by
    obtain ⟨_, _, hencode⟩ := exists_encode_of_mem_framesOf hmem
    exact c.candid_exchange (Frame.sealed_of_encode hencode)

theorem candid_probe (policy : RetryPolicy) :
    Keeps (Retains (Bus.Candid observer) : Bus σ τ → Bus σ τ → Prop) (c.probe policy) :=
  keeps_probe Bus.waiting_candid policy fun _ hencode ↦
    c.candid_exchange (Frame.sealed_of_encode hencode)

end Channel

end MouseControl
