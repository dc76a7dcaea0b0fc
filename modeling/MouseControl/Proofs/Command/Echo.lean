import MouseControl.Proofs.Command.Exchange
import MouseControl.Proofs.Line.Alike
import MouseControl.Proofs.Line.Extract

/-!
Two lines whose devices answer transfers the same. `Transport.Echoes` relates states of two
transports in which equal transfers have equal outcomes. Two lines are paired (`Bus.Paired`) if
their devices are in such states, their observers of anomalies are of one mind, and the same data
was handed over on both since some earlier time; what was before, and the time, may differ. Pushes
and probes on paired lines agree (`Channel.agree_push_of_echoes`, `Channel.agree_probe_of_echoes`).
-/

set_option autoImplicit false
set_option relaxedAutoImplicit false

namespace MouseControl

open MouseControl.Action

variable {σ σ' τ α α' : Type}

/-- Two transports in states related by `same` give the same outcome to the same transfer. -/
structure Transport.Echoes (t : Transport σ τ) (t' : Transport σ' τ) (same : σ → σ' → Prop) :
    Prop where
  write : ∀ call device device', same device device' →
    Reply.Alike False Eq same (t.write call device) (t'.write call device')
  read : ∀ call device device', same device device' →
    Reply.Alike False Eq same (t.read call device) (t'.read call device')

/-! ### One line -/

namespace Bus

/-- Nothing is handed over and the device stays the same. -/
structure Still (bus bus' : Bus σ τ) : Prop extends bus.Silent bus' where
  device_eq : bus'.device = bus.device

instance : IsPreorder (Bus σ τ) Still where
  refl bus := ⟨refl_of Silent bus, rfl⟩
  trans _ _ _ h h' :=
    ⟨trans_of Silent h.toSilent h'.toSilent, h'.device_eq.trans h.device_eq⟩

theorem Records.still {bus bus' : Bus σ τ} (h : bus.Records bus') : bus.Still bus' :=
  ⟨h.silent, h.device_eq⟩

theorem still_bookkeeping [TimeScale τ] :
    Bookkeeping (Still : Bus σ τ → Bus σ τ → Prop) where
  note n bus := ⟨silent_bookkeeping.note n bus, rfl⟩
  pause why span bus := ⟨silent_bookkeeping.pause why span bus, rfl⟩
  leave bus := ⟨silent_bookkeeping.leave bus, rfl⟩
  remember a bus := ⟨silent_bookkeeping.remember a bus, rfl⟩
  record a bus := ⟨silent_bookkeeping.record a bus, rfl⟩

end Bus

/-! ### Paired lines -/

namespace Bus

/-- Two lines on which the same data was handed over since it was `before` on the one and `before'`
on the other, and whose devices and observers of anomalies are of one mind. -/
structure Paired (same : σ → σ' → Prop) (before before' : List Bytes) (bus : Bus σ τ)
    (bus' : Bus σ' τ) : Prop where
  device : same bus.device bus'.device
  verdict_eq : ∀ a, bus'.anomalyObserver.verdict (.anomaly a) =
    bus.anomalyObserver.verdict (.anomaly a)
  written_eq : ∃ handed, written bus.trace = before ++ handed ∧
    written bus'.trace = before' ++ handed

variable {same : σ → σ' → Prop} {before before' : List Bytes}

/-- What stills two lines leaves them paired. -/
theorem Paired.still {bus next : Bus σ τ} {bus' next' : Bus σ' τ}
    (h : Paired same before before' bus bus') (hnext : bus.Still next)
    (hnext' : bus'.Still next') : Paired same before before' next next' where
  device := by
    rw [hnext.device_eq, hnext'.device_eq]
    exact h.device
  verdict_eq := by
    rw [hnext.observer_eq, hnext'.observer_eq]
    exact h.verdict_eq
  written_eq := by
    rw [hnext.written_eq, hnext'.written_eq]
    exact h.written_eq

theorem agree_of_still {results : α → α' → Prop} {x : Action (Bus σ τ) α}
    {y : Action (Bus σ' τ) α'} (hx : Keeps Still x) (hy : Keeps Still y)
    (houtcome : ∀ bus bus', Matching results (x.run bus).1 (y.run bus').1) :
    Agree (Paired same before before') (Paired same before before') results x y :=
  fun bus bus' h ↦ ⟨houtcome bus bus', h.still (hx bus) (hy bus')⟩

/-- Observers of one mind about a report are told it to the same effect. -/
theorem agree_report_of_verdict {observer observer' : Observer} {r : Report}
    (h : observer'.verdict r = observer.verdict r) :
    Agree (Paired same before before') (Paired same before before') Eq
      (report observer r : Action (Bus σ τ) Unit)
      (report observer' r : Action (Bus σ' τ) Unit) := by
  refine agree_of_still ((records_report observer r).mono fun _ _ ↦ Records.still)
    ((records_report observer' r).mono fun _ _ ↦ Records.still) fun bus bus' ↦ ?_
  rw [outcome_of_report, outcome_of_report, h]
  exact matching_eq_iff.mpr rfl

variable [TimeScale τ]

theorem abreast_paired :
    Abreast (Paired same before before' : Bus σ τ → Bus σ' τ → Prop) where
  note n n' := agree_of_still (still_bookkeeping.note n) (still_bookkeeping.note n')
    fun _ _ ↦ .ok rfl
  pause span := agree_of_still (still_bookkeeping.pause .retry span)
    (still_bookkeeping.pause .retry span) fun _ _ ↦ .ok rfl

/-- The gaps before and after two actions that agree need not be the same. -/
theorem agree_spaced_of_still {results : α → α' → Prop} {x : Action (Bus σ τ) α}
    {y : Action (Bus σ' τ) α'}
    (h : Agree (Paired same before before') (Paired same before before') results x y) :
    Agree (Paired same before before') (Paired same before before') results (spaced x)
      (spaced y) := by
  intro bus bus' hbus
  have hentered := hbus.still (still_bookkeeping.handling.enter bus)
    (still_bookkeeping.handling.enter bus')
  obtain ⟨hmatch, hend⟩ := h bus.entered bus'.entered hentered
  rw [run_spaced, run_spaced]
  exact ⟨hmatch, hend.still (still_bookkeeping.leave _) (still_bookkeeping.leave _)⟩

/-- Transfers with one outcome hand over the same data. -/
theorem agree_transfer {event : Except Fault α → Event τ} {step : σ → Reply σ τ α}
    {step' : σ' → Reply σ' τ α}
    (hstep : ∀ device device', same device device' →
      Reply.Alike False Eq same (step device) (step' device')) :
    Agree (Paired same before before') (Paired same before before') Eq
      (spaced (call event step)) (spaced (call event step')) := by
  -- The pauses that the gaps cost may differ between the lines: the devices are not asked the time.
  refine agree_spaced_of_still fun bus bus' h ↦ ?_
  obtain ⟨hmatch, hstate, -⟩ := hstep _ _ h.device
  have houtcome := matching_eq_iff.mp hmatch
  refine ⟨hmatch, hstate, h.verdict_eq, ?_⟩
  obtain ⟨handed, hwritten, hwritten'⟩ := h.written_eq
  refine ⟨handed ++ (event (step bus.device).outcome).data?.toList, ?_, ?_⟩
  · rw [← List.append_assoc, ← hwritten]
    exact extract_concat Event.data? bus.trace _
  · rw [← List.append_assoc, ← hwritten', houtcome]
    exact extract_concat Event.data? bus'.trace _

end Bus

/-! ### Pushes and probes -/

namespace Channel

open Bus (Paired)

variable [TimeScale τ] {same : σ → σ' → Prop} {before before' : List Bytes}

/-- The same is said about one answer, to the same effect. -/
theorem agree_assess_of_verdict (sent answer : CommandFrame) :
    Agree (Paired same before before') (Paired same before before') Eq
      (assess sent answer : Action (Bus σ τ) Unit)
      (assess sent answer : Action (Bus σ' τ) Unit) := by
  have hnote (n : Notice) : Agree (Paired same before before') (Paired same before before') Eq
      (Bus.note n : Action (Bus σ τ) Unit) (Bus.note n : Action (Bus σ' τ) Unit) :=
    Bus.abreast_paired.note n n
  have hreport (a : Anomaly) : Agree (Paired same before before') (Paired same before before') Eq
      (Bus.reportAnomaly a : Action (Bus σ τ) Unit)
      (Bus.reportAnomaly a : Action (Bus σ' τ) Unit) := by
    refine (hnote _).andThen ?_
    refine Agree.andThen (agree_modify fun _ _ h ↦ { h with }) ?_
    exact agree_get_bind fun bus bus' h ↦
      Bus.agree_report_of_verdict (h.verdict_eq a) bus bus' h
  have hstatus : Agree (Paired same before before') (Paired same before before') Eq
      (if (!answer.statusOk) = true then
        Bus.reportAnomaly ⟨sent.command, sent.request, answer.status⟩
      else pure () : Action (Bus σ τ) Unit)
      (if (!answer.statusOk) = true then
        Bus.reportAnomaly ⟨sent.command, sent.request, answer.status⟩
      else pure () : Action (Bus σ' τ) Unit) :=
    agree_ite Iff.rfl (fun _ ↦ hreport _) fun _ ↦ agree_pure rfl
  refine (hnote _).andThen ?_
  refine agree_ite Iff.rfl (fun _ ↦ ?_) fun _ ↦ hstatus
  exact (hnote _).andThen hstatus

variable {c : Channel σ τ} {t' : Transport σ' τ}

theorem agree_write_of_echoes (h : c.transport.Echoes t' same) (request value : Int)
    (data : Bytes) :
    Agree (Paired same before before') (Paired same before before') Eq
      (c.write request value data) ((c.switched t').write request value data) :=
  agree_write_of_raw Bus.abreast_paired (Bus.agree_transfer (h.write _))

theorem agree_read_of_echoes (h : c.transport.Echoes t' same) (request value length : Int) :
    Agree (Paired same before before') (Paired same before before') Eq
      (c.read request value length) ((c.switched t').read request value length) := by
  have hraw : Agree (Paired same before before') (Paired same before before') Eq
      (c.rawRead (c.readCall request value length))
      ((c.switched t').rawRead (c.readCall request value length)) :=
    Bus.agree_transfer (h.read _)
  refine (agree_read_of_raw Bus.abreast_paired hraw ?_ rfl).mono (fun _ _ h ↦ h) (fun _ _ h ↦ h) ?_
  · exact fun _ _ ↦ congrArg List.length
  · exact fun _ _ ↦ And.left

theorem agree_exchange_of_echoes (h : c.transport.Echoes t' same) (frame : Bytes) :
    Agree (Paired same before before') (Paired same before before') Eq (c.exchange frame)
      ((c.switched t').exchange frame) := by
  refine agree_ofExcept_bind fun sealed _ ↦ agree_ofExcept_bind fun sent _ ↦ ?_
  refine (agree_write_of_echoes h _ _ sealed).andThen ?_
  refine agree_bind (agree_read_of_echoes h _ _ _) (fun _ _ h ↦ h) ?_
  rintro data _ rfl
  refine agree_ofExcept_bind fun answer _ ↦ ?_
  exact (agree_assess_of_verdict sent answer).andThen (agree_pure rfl)

theorem agree_push_of_echoes (h : c.transport.Echoes t' same) (config : Configuration) :
    Agree (Paired same before before') (Paired same before before') Eq (c.push config)
      ((c.switched t').push config) :=
  agree_push_of_exchange (agree_exchange_of_echoes h) config

theorem agree_probe_of_echoes (h : c.transport.Echoes t' same) (policy : RetryPolicy) :
    Agree (Paired same before before') (Paired same before before') Eq (c.probe policy)
      ((c.switched t').probe policy) :=
  agree_probe_of_exchange Bus.abreast_paired (fun query _ ↦
    (agree_exchange_of_echoes h query).mono (fun _ _ h ↦ h) (fun _ _ h ↦ h)
      fun _ _ ↦ congrArg (CommandFrame.valueBe16 · 0)) policy

end Channel

end MouseControl
