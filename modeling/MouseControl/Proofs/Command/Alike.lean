import MouseControl.Command.Probe
import MouseControl.Proofs.Command.Exchange
import MouseControl.Proofs.Line.Alike

/-!
Exchanges over two transports that differ in what they answer. What is said about an answer changes
nothing that lines have in common, as long as the observer of anomalies makes the same of both
answers (`agree_assess`). If that goes for all the answers (`Observer.Indifferent`), an exchange
agrees whatever they are (`agree_exchange`), and a push does (`agree_push`); a probe agrees if the
answers to the firmware query name the same version (`agree_probe`).
-/

set_option autoImplicit false
set_option relaxedAutoImplicit false

namespace MouseControl

open MouseControl.Action

variable {σ σ' τ : Type}

/-- Whatever is said on a line, its device, its times and what is told of it stay the same. -/
structure Bus.Hushed (bus bus' : Bus σ τ) : Prop where
  device_eq : bus'.device = bus.device
  clock_eq : bus'.clock = bus.clock
  spacing_eq : bus'.spacing = bus.spacing
  observer_eq : bus'.anomalyObserver = bus.anomalyObserver
  outline_eq : outline bus'.trace = outline bus.trace
  timeline_eq : timeline bus'.trace = timeline bus.trace

instance : IsPreorder (Bus σ τ) Bus.Hushed where
  refl _ := ⟨rfl, rfl, rfl, rfl, rfl, rfl⟩
  trans _ _ _ h h' :=
    ⟨h'.device_eq.trans h.device_eq, h'.clock_eq.trans h.clock_eq,
      h'.spacing_eq.trans h.spacing_eq, h'.observer_eq.trans h.observer_eq,
      h'.outline_eq.trans h.outline_eq, h'.timeline_eq.trans h.timeline_eq⟩

theorem Bus.hushed_telling : Telling (Hushed : Bus σ τ → Bus σ τ → Prop) where
  note _ _ := ⟨rfl, rfl, rfl, rfl, rfl, rfl⟩
  remember _ _ := ⟨rfl, rfl, rfl, rfl, rfl, rfl⟩
  record _ bus := ⟨rfl, rfl, rfl, rfl, (outline_concat bus.trace _).trans (List.append_nil _),
    (timeline_concat bus.trace _).trans (List.append_nil _)⟩

theorem Bus.Alike.hushed {observer : Observer} {timed : Prop} {devices : σ → σ' → Prop}
    {bus told : Bus σ τ} {bus' told' : Bus σ' τ} (h : Alike observer timed devices bus bus')
    (hbus : bus.Hushed told) (hbus' : bus'.Hushed told') :
    Alike observer timed devices told told' where
  device := by
    rw [hbus.device_eq, hbus'.device_eq]
    exact h.device
  observer_eq := hbus.observer_eq.trans h.observer_eq
  observer_eq' := hbus'.observer_eq.trans h.observer_eq'
  outline_eq := by
    rw [hbus.outline_eq, hbus'.outline_eq]
    exact h.outline_eq
  clock_eq := by
    rw [hbus.clock_eq, hbus'.clock_eq]
    exact h.clock_eq
  spacing_eq := by
    rw [hbus.spacing_eq, hbus'.spacing_eq]
    exact h.spacing_eq
  timeline_eq := by
    rw [hbus.timeline_eq, hbus'.timeline_eq]
    exact h.timeline_eq

theorem CommandFrame.valueBe16_take (frame : CommandFrame) :
    frame.valueBe16 0 = { frame with values := frame.values.take 2 }.valueBe16 0 := by
  rcases hvalues : frame.values with _ | ⟨high, _ | ⟨low, rest⟩⟩ <;> simp [valueBe16, hvalues]

theorem CommandFrame.valueBe16_congr {frame frame' : CommandFrame}
    (h : frame.values.take 2 = frame'.values.take 2) :
    frame.valueBe16 0 = frame'.valueBe16 0 := by
  rw [valueBe16_take frame, valueBe16_take frame']
  simp only [valueBe16, h]

/-- If they are `versioned`, two answers to a firmware query start with the same value. -/
def CommandFrame.SameVersion (versioned : Prop) (frame : Bytes) (answer answer' : CommandFrame) :
    Prop :=
  versioned → (∀ sealed, Frame.reseal frame = .ok sealed →
    Frame.isOf .firmwareVersion sealed = true) → answer.valueBe16 0 = answer'.valueBe16 0

/-- An observer of anomalies makes the same of the whole answers that two transports give to one
frame: it objects to neither, or to both alike. -/
def Observer.Indifferent (observer : Observer) (t : Transport σ τ) (t' : Transport σ' τ)
    (alike : Option Bytes → σ → σ' → Prop) : Prop :=
  ∀ frame data data', t.Brought t' alike (some frame) data data' →
    data.length = Protocol.frameSize → data'.length = Protocol.frameSize →
      ∀ fault, observer.ObjectsTo frame data' fault ↔ observer.ObjectsTo frame data fault

/-- One who never fails is. -/
theorem Observer.Quiet.indifferent {observer : Observer} (h : observer.Quiet) (t : Transport σ τ)
    (t' : Transport σ' τ) (alike : Option Bytes → σ → σ' → Prop) :
    observer.Indifferent t t' alike :=
  fun _ _ _ _ _ _ _ ↦ iff_of_false h.not_objectsTo h.not_objectsTo

namespace Channel

variable {observer : Observer} {timed versioned : Prop} {devices : σ → σ' → Prop}

/-- What is said about two answers may differ, and nothing else does if the observer makes the same
of them. -/
theorem agree_assess {frame data data' : Bytes} {sent answer answer' : CommandFrame}
    (hsent : Frame.decode frame = .ok sent) (hanswer : Frame.decode data = .ok answer)
    (hanswer' : Frame.decode data' = .ok answer')
    (hobserver : ∀ fault,
      observer.ObjectsTo frame data' fault ↔ observer.ObjectsTo frame data fault) :
    Agree (Bus.Alike observer timed devices) (Bus.Alike observer timed devices) Eq
      (assess sent answer : Action (Bus σ τ) Unit)
      (assess sent answer' : Action (Bus σ' τ) Unit) := by
  intro bus bus' h
  refine ⟨?_, h.hushed (Bus.hushed_telling.assess sent answer bus)
    (Bus.hushed_telling.assess sent answer' bus')⟩
  have hfails (fault : Fault) : ((assess sent answer').run bus').1 = .error fault ↔
      ((assess sent answer).run bus).1 = .error fault := by
    rw [assess_eq_error_iff hsent hanswer, assess_eq_error_iff hsent hanswer', h.observer_eq,
      h.observer_eq']
    exact hobserver fault
  rcases hassess : ((assess sent answer).run bus).1 with fault | _
  · rw [(hfails fault).mpr hassess]
    exact .error fault
  · rcases hassess' : ((assess sent answer').run bus').1 with fault | _
    · cases hassess.symm.trans ((hfails fault).mp hassess')
    · exact .ok rfl

variable [TimeScale τ] {c : Channel σ τ} {t' : Transport σ' τ}
  {alike : Option Bytes → σ → σ' → Prop} (h : c.transport.Alike timed versioned t' alike)
  (hobserver : observer.Indifferent c.transport t' alike)

include h hobserver

/-- An exchange agrees whatever is answered. -/
theorem agree_exchange (frame : Bytes) :
    Agree (Bus.Alongside observer timed alike) (Bus.Alongside observer timed alike)
      (CommandFrame.SameVersion versioned frame) (c.exchange frame)
      ((c.switched t').exchange frame) := by
  have hknown (data : Bytes) (bus : Bus σ τ) (bus' : Bus σ' τ)
      (hbus : Bus.Alike observer timed (alike (some data)) bus bus') :
      Bus.Alongside observer timed alike bus bus' :=
    hbus.alongside
  refine agree_ofExcept_bind fun sealed hsealed ↦ agree_ofExcept_bind fun sent hsent ↦ ?_
  refine agree_bind (agree_write h _ _ sealed) (hknown sealed) fun _ _ _ ↦ ?_
  refine agree_bind (agree_read h (some sealed) _ _ _) (hknown sealed) ?_
  rintro data data' ⟨⟨hanswers, hbrought⟩, hwhole⟩
  have hlength : data.length = Protocol.frameSize := by exact_mod_cast hwhole
  have hlength' : data'.length = Protocol.frameSize := hanswers.length_eq ▸ hlength
  obtain ⟨answer, hanswer⟩ := Frame.decode_of_length hlength
  obtain ⟨answer', hanswer'⟩ := Frame.decode_of_length hlength'
  have hassess : Agree (Bus.Alike observer timed (alike (some sealed)))
      (Bus.Alike observer timed (alike (some sealed))) Eq
      (assess sent answer : Action (Bus σ τ) Unit) (assess sent answer' : Action (Bus σ' τ) Unit) :=
    agree_assess hsent hanswer hanswer' (hobserver sealed data data' hbrought hlength hlength')
  have hvalue : CommandFrame.SameVersion versioned frame answer answer' := by
    intro hversioned hquery
    have hasks : asksFirmware (some sealed) = true := hquery sealed hsealed
    have hversion := hanswers.version_eq hversioned hasks hlength
    refine CommandFrame.valueBe16_congr ?_
    rw [Frame.values_of_decode hanswer, Frame.values_of_decode hanswer', List.take_take,
      List.take_take]
    exact hversion
  have hgiven : Agree (Bus.Alike observer timed (alike (some sealed)))
      (Bus.Alongside observer timed alike) (CommandFrame.SameVersion versioned frame)
      (do assess sent answer; return answer : Action (Bus σ τ) CommandFrame)
      (do assess sent answer'; return answer' : Action (Bus σ' τ) CommandFrame) := by
    refine agree_bind hassess (hknown sealed) fun _ _ _ ↦ ?_
    exact (agree_pure hvalue).mono (fun _ _ h ↦ h) (hknown sealed) fun _ _ h ↦ h
  rw [hanswer, hanswer']
  exact hgiven

/-- A push agrees whatever is answered. -/
theorem agree_push (config : Configuration) :
    Agree (Bus.Alongside observer timed alike) (Bus.Alongside observer timed alike) Eq
      (c.push config) ((c.switched t').push config) :=
  agree_push_of_exchange (agree_exchange h hobserver) config

/-- A probe agrees if whole answers to the firmware query name the same version. -/
theorem agree_probe (hversioned : versioned) (policy : RetryPolicy) :
    Agree (Bus.Alongside observer timed alike) (Bus.Alongside observer timed alike) Eq
      (c.probe policy) ((c.switched t').probe policy) := by
  refine agree_probe_of_exchange Bus.abreast_alike (fun query hquery ↦ ?_) policy
  refine (agree_exchange h hobserver query).mono (fun _ _ h ↦ h) (fun _ _ h ↦ h) ?_
  intro _ _ hvalue
  refine hvalue hversioned fun sealed hreseal ↦ ?_
  rw [(Frame.sealed_of_encode hquery).reseal_eq] at hreseal
  cases hreseal
  rw [Frame.isOf_encode hquery]
  exact BEq.rfl

end Channel

end MouseControl
