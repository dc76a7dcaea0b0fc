import MouseControl.Proofs.Line.Traffic
import MouseControl.Proofs.Wire.Frame

/-!
One exchange on the line. The exchange of a sealed frame writes that frame once and reads only after
every byte was taken. It gives an answer only if its write was full and one of its reads was, and if
they were, nothing but the observer of anomalies can make it fail, who is told of the answer's
status if that is not an accepted one (`transfers_exchange`).
-/

set_option autoImplicit false
set_option relaxedAutoImplicit false

namespace MouseControl

open MouseControl.Action

/-- An observer of anomalies objects to the answer to a frame: its status is not an accepted one,
and the observer, told so, fails. -/
def Observer.ObjectsTo (observer : Observer) (frame data : Bytes) (fault : Fault) : Prop :=
  ∃ sent answer, Frame.decode frame = .ok sent ∧ Frame.decode data = .ok answer ∧
    answer.statusOk = false ∧
      observer.verdict (.anomaly ⟨sent.command, sent.request, answer.status⟩) = .error fault

theorem Observer.Quiet.not_objectsTo {observer : Observer} (h : observer.Quiet) {frame data : Bytes}
    {fault : Fault} : ¬observer.ObjectsTo frame data fault := by
  rintro ⟨sent, answer, -, -, -, hverdict⟩
  cases (h _).symm.trans hverdict

namespace Channel

variable {σ τ : Type}

/-- All that can fail of what is said about a response is to tell the observer of its status. -/
theorem outcome_assess (sent answer : CommandFrame) (bus : Bus σ τ) :
    ((assess sent answer).run bus).1 =
      if answer.statusOk then .ok () else
        bus.anomalyObserver.verdict (.anomaly ⟨sent.command, sent.request, answer.status⟩) := by
  have hnote (n : Notice) (noted : Bus σ τ) :
      (Bus.note n).run noted = (.ok (), { noted with log := noted.log ++ [n] }) := rfl
  have hstatus (noted : Bus σ τ) :
      ((if (!answer.statusOk) = true then
        Bus.reportAnomaly ⟨sent.command, sent.request, answer.status⟩
      else pure () : Action (Bus σ τ) Unit).run noted).1 =
        if answer.statusOk then .ok () else
          noted.anomalyObserver.verdict (.anomaly ⟨sent.command, sent.request, answer.status⟩) := by
    cases answer.statusOk with
    | true => rfl
    | false => exact Bus.outcome_of_report noted.anomalyObserver _ _
  rw [assess, run_bind_ok (hnote _ bus)]
  by_cases hvalid : answer.checksumValid = true
  · rw [if_neg (by simp [hvalid])]
    exact hstatus _
  · rw [if_pos (by simpa using hvalid), run_bind_ok (hnote _ _)]
    exact hstatus _

/-- So it fails exactly if the observer objects to the response. -/
theorem assess_eq_error_iff {frame data : Bytes} {sent answer : CommandFrame}
    (hsent : Frame.decode frame = .ok sent) (hanswer : Frame.decode data = .ok answer)
    {fault : Fault} (bus : Bus σ τ) : ((assess sent answer).run bus).1 = .error fault ↔
      bus.anomalyObserver.ObjectsTo frame data fault := by
  rw [outcome_assess]
  constructor
  · intro h
    cases hstatus : answer.statusOk with
    | true => simp [hstatus] at h
    | false =>
      rw [hstatus, if_neg Bool.false_ne_true] at h
      exact ⟨sent, answer, hsent, hanswer, hstatus, h⟩
  · rintro ⟨_, _, hsent', hanswer', hstatus, hverdict⟩
    cases hsent.symm.trans hsent'
    cases hanswer.symm.trans hanswer'
    rw [hstatus, if_neg Bool.false_ne_true]
    exact hverdict

variable [TimeScale τ] (c : Channel σ τ)

/-- The raw write of a frame. -/
def frameWrite (frame : Bytes) : WriteCall :=
  c.writeCall Protocol.writeRequest Protocol.commandValue frame

/-- The raw read of a response. -/
def responseRead : ReadCall :=
  c.readCall Protocol.readRequest Protocol.commandValue Protocol.frameSize

/-- A transfer that brought a whole response. -/
abbrev FullResponse : Except Fault Bytes → Prop := FullRead Protocol.frameSize

/-- What the library makes of the data of a response. -/
def understand (sent : CommandFrame) (data : Bytes) : Action (Bus σ τ) CommandFrame := do
  let answer ← Action.ofExcept (Frame.decode data)
  assess sent answer
  return answer

omit [TimeScale τ] in
theorem run_understand_eq (sent : CommandFrame) {data : Bytes} {answer : CommandFrame}
    (h : Frame.decode data = .ok answer) (bus : Bus σ τ) :
    (understand sent data).run bus = (assess sent answer >>= fun _ ↦ pure answer).run bus := by
  have hdecode : (ofExcept (Frame.decode data)).run bus = (.ok answer, bus) := by
    rw [run_ofExcept, h]
  exact run_bind_ok hdecode

omit [TimeScale τ] in
/-- A response is given as it comes apart, unless what is said about it fails. -/
theorem outcome_understand (sent : CommandFrame) {data : Bytes} {answer : CommandFrame}
    (h : Frame.decode data = .ok answer) (bus : Bus σ τ) :
    ((understand sent data).run bus).1 = ((assess sent answer).run bus).1.map fun _ ↦ answer := by
  rw [run_understand_eq sent h, run_bind]
  rcases (assess sent answer).run bus with ⟨fault | _, after⟩ <;> rfl

/-- Of a whole response nothing is lost, unless the observer of anomalies objects to it. -/
theorem run_understand {frame : Bytes} {sent : CommandFrame} (hsent : Frame.decode frame = .ok sent)
    {data : Bytes} (hdata : data.length = Protocol.frameSize) (bus : Bus σ τ) :
    let r := (understand sent data).run bus
    Bus.Silent bus r.2 ∧
      ∀ fault, r.1 = .error fault → bus.anomalyObserver.ObjectsTo frame data fault := by
  intro r
  obtain ⟨answer, hanswer⟩ := Frame.decode_of_length hdata
  refine ⟨?_, fun fault hfault ↦ ?_⟩
  · have hr : r = _ := run_understand_eq sent hanswer bus
    rw [hr]
    exact keeps_bind (Bus.silent_bookkeeping.assess sent answer) (fun _ ↦ keeps_pure _) bus
  · have hgiven : r.1 = _ := outcome_understand sent hanswer bus
    rw [hgiven] at hfault
    rcases hassess : ((assess sent answer).run bus).1 with other | _
    · rw [hassess] at hfault
      obtain rfl : other = fault := Except.error.inj hfault
      exact (assess_eq_error_iff hsent hanswer bus).mp hassess
    · rw [hassess] at hfault
      cases hfault

omit [TimeScale τ] in
/-- The answer is the response taken apart, whatever is said about it. -/
theorem decode_of_understand {sent answer : CommandFrame} {data : Bytes} {bus : Bus σ τ}
    (h : ((understand sent data).run bus).1 = .ok answer) : Frame.decode data = .ok answer := by
  rw [understand, run_bind, run_ofExcept] at h
  rcases hdecode : Frame.decode data with fault | parts
  · rw [hdecode] at h
    cases h
  rw [hdecode] at h
  dsimp only at h
  rw [run_bind] at h
  rcases hassess : (assess sent parts).run bus with ⟨fault | _, after⟩
  · rw [hassess] at h
    cases h
  · rw [hassess] at h
    exact h

/-- A sealed frame is sent as it is. -/
theorem run_exchange {frame : Bytes} (hframe : Frame.Sealed frame) (bus : Bus σ τ) :
    ∃ sent, Frame.decode frame = .ok sent ∧ (c.exchange frame).run bus = (do
      c.write Protocol.writeRequest Protocol.commandValue frame
      let data ← c.read Protocol.readRequest Protocol.commandValue Protocol.frameSize
      understand sent data : Action (Bus σ τ) CommandFrame).run bus := by
  obtain ⟨sent, hsent⟩ := Frame.decode_of_length hframe.length_eq
  have hseal : (ofExcept (Frame.reseal frame)).run bus = (.ok frame, bus) := by
    rw [run_ofExcept, hframe.reseal_eq]
  have hdecode : (ofExcept (Frame.decode frame)).run bus = (.ok sent, bus) := by
    rw [run_ofExcept, hsent]
  refine ⟨sent, hsent, ?_⟩
  rw [exchange, run_bind_ok hseal, run_bind_ok hdecode]
  rfl

theorem transfers_exchange {frame : Bytes} (hframe : Frame.Sealed frame) (bus : Bus σ τ) :
    let r := (c.exchange frame).run bus
    ∃ result reads,
      transfers r.2.trace = transfers bus.trace ++
        .wrote (c.frameWrite frame) result :: reads.map (.read c.responseRead) ∧
      r.2.anomalyObserver = bus.anomalyObserver ∧
      (result ≠ .ok (frame.length : Int) → reads = []) ∧
      (result = .ok (frame.length : Int) → ∀ n, c.readPolicy.attempts.toInt? = some n →
        c.readPolicy.Attempted Protocol.frameSize n.toNat reads) ∧
      (∀ answer, r.1 = .ok answer →
        result = .ok (frame.length : Int) ∧ ∃ read ∈ reads, FullResponse read) ∧
      ∀ fault, r.1 = .error fault →
        result = .ok (frame.length : Int) → (∃ read ∈ reads, FullResponse read) →
          ∃ data, .ok data ∈ reads ∧ bus.anomalyObserver.ObjectsTo frame data fault := by
  intro r
  obtain ⟨sent, hsent, hr⟩ := c.run_exchange hframe bus
  have hr : r = _ := hr
  rw [run_bind] at hr
  obtain ⟨result, htransfers, hobserver, hresult⟩ :=
    c.transfers_write Protocol.writeRequest Protocol.commandValue frame bus
  refine ⟨result, ?_⟩
  rcases hwrite : (c.write Protocol.writeRequest Protocol.commandValue frame).run bus with
    ⟨fault | _, written⟩
  · rw [hwrite] at hr htransfers hobserver hresult
    have hshort : result ≠ .ok (frame.length : Int) := fun h ↦ nomatch hresult.mpr h
    rw [hr]
    refine ⟨[], htransfers, hobserver, fun _ ↦ rfl, fun h ↦ absurd h hshort, ?_, ?_⟩
    · exact fun _ h ↦ (nomatch h)
    · exact fun _ _ h ↦ absurd h hshort
  · rw [hwrite] at hr htransfers hobserver hresult
    have hfull : result = .ok (frame.length : Int) := hresult.mp rfl
    obtain ⟨reads, hreads, hkept, hcount, houtcome⟩ :=
      c.transfers_read Protocol.readRequest Protocol.commandValue Protocol.frameSize written
    have hall : transfers ((c.read Protocol.readRequest Protocol.commandValue
        Protocol.frameSize).run written).2.trace = transfers bus.trace ++
          .wrote (c.frameWrite frame) result :: reads.map (.read c.responseRead) := by
      rw [hreads, htransfers, List.append_assoc, List.singleton_append]
      rfl
    have hsame := hkept.trans hobserver
    refine ⟨reads, ?_⟩
    dsimp only at hr
    rw [run_bind] at hr
    rcases hread : (c.read Protocol.readRequest Protocol.commandValue
        Protocol.frameSize).run written with ⟨fault | data, after⟩
    · rw [hread] at hr hall hsame houtcome
      rw [hr]
      refine ⟨hall, hsame, fun h ↦ absurd hfull h, fun _ ↦ hcount, fun _ h ↦ (nomatch h), ?_⟩
      rintro _ - - ⟨read, hmem, hread⟩
      exact absurd hread (houtcome.of_error fault rfl read hmem)
    · rw [hread] at hr hall hsame houtcome
      obtain ⟨failed, rfl, hlength, -⟩ := houtcome.of_ok data rfl
      obtain ⟨hsilent, hrefused⟩ := run_understand hsent (by exact_mod_cast hlength) after
      rw [hr, hsilent.transfers_eq, hsilent.observer_eq]
      refine ⟨hall, hsame, fun h ↦ absurd hfull h, fun _ ↦ hcount, fun _ _ ↦ ?_,
        fun fault hfault _ _ ↦ ?_⟩
      · exact ⟨hfull, .ok data, by simp, data, rfl, hlength⟩
      · rw [← hsame]
        exact ⟨data, by simp, hrefused fault hfault⟩

/-- An answer is what was read last, taken apart. -/
theorem exists_data_of_exchange {frame : Bytes} (hframe : Frame.Sealed frame) {bus : Bus σ τ}
    {answer : CommandFrame} (h : ((c.exchange frame).run bus).1 = .ok answer) :
    ∃ front data, transfers ((c.exchange frame).run bus).2.trace =
        transfers bus.trace ++ (front ++ [.read c.responseRead (.ok data)]) ∧
      Frame.decode data = .ok answer := by
  obtain ⟨sent, hsent, hr⟩ := c.run_exchange hframe bus
  rw [run_bind] at hr
  obtain ⟨result, htransfers, -, -⟩ :=
    c.transfers_write Protocol.writeRequest Protocol.commandValue frame bus
  rcases hwrite : (c.write Protocol.writeRequest Protocol.commandValue frame).run bus with
    ⟨fault | _, written⟩
  · rw [hr, hwrite] at h
    cases h
  rw [hwrite] at hr htransfers
  obtain ⟨results, hreads, -, -, houtcome⟩ :=
    c.transfers_read Protocol.readRequest Protocol.commandValue Protocol.frameSize written
  dsimp only at hr
  rw [run_bind] at hr
  rcases hread : (c.read Protocol.readRequest Protocol.commandValue
      Protocol.frameSize).run written with ⟨fault | data, after⟩
  · rw [hr, hread] at h
    cases h
  rw [hread] at hr hreads houtcome
  obtain ⟨failed, rfl, hlength, -⟩ := houtcome.of_ok data rfl
  have hdata : data.length = Protocol.frameSize := by exact_mod_cast hlength
  obtain ⟨hsilent, -⟩ := run_understand hsent hdata after
  refine ⟨.wrote (c.frameWrite frame) result :: failed.map (.read c.responseRead), data, ?_, ?_⟩
  · rw [hr]
    dsimp only
    rw [hsilent.transfers_eq, hreads, htransfers, List.append_assoc, List.map_append]
    rfl
  · rw [hr] at h
    exact decode_of_understand h

end Channel

end MouseControl
