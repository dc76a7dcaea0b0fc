import MouseControl.Proofs.Command.Exchange
import MouseControl.Proofs.Device.Configuration

/-!
The order of a push and where it stops. A push is a chain of exchanges, one for each frame of the
configuration in turn, up to the first that fails (`exists_chain`). `PushAccount` says so of the
line: which frames were handed to the device, when the next one is, and what the push ends in. Every
push of a configuration that fits a model has such an account (`exists_pushAccount`).
-/

set_option autoImplicit false
set_option relaxedAutoImplicit false

namespace MouseControl

open MouseControl.Action

variable {σ τ : Type}

/-- One exchange of a push: the line before and after it, its outcome and its transfers. -/
structure Exchange (σ τ : Type) where
  frame : Bytes
  before : Bus σ τ
  outcome : Except Fault CommandFrame
  after : Bus σ τ
  transfers : List (Event τ)

namespace Exchange

/-- A write took every byte and a read brought every byte asked for. -/
def Completed (e : Exchange σ τ) : Prop :=
  (∃ call, .wrote call (.ok (call.data.length : Int)) ∈ e.transfers) ∧
    ∃ call data, .read call (.ok data) ∈ e.transfers ∧ (data.length : Int) = call.length

/-- The observer of anomalies objected to the answer, and the exchange failed with it. -/
def Refused (e : Exchange σ τ) : Prop :=
  ∃ call data fault, .read call (.ok data) ∈ e.transfers ∧
    e.before.anomalyObserver.ObjectsTo e.frame data fault ∧ e.outcome = .error fault

/-- An exchange was completed, and the observer of anomalies let it pass. -/
def Succeeded (e : Exchange σ τ) : Prop := e.Completed ∧ ¬ e.Refused

theorem not_succeeded_iff {e : Exchange σ τ} : ¬e.Succeeded ↔ ¬e.Completed ∨ e.Refused := by
  rw [Succeeded, not_and_or, not_not]

variable [TimeScale τ]

/-- An exchange took place on a channel as it is told: its frame was written once, after it came at
most as many reads as the policy of reads allows, and it succeeded if it gave an answer. -/
structure Took (c : Channel σ τ) (e : Exchange σ τ) : Prop where
  run_eq : (c.exchange e.frame).run e.before = (e.outcome, e.after)
  transfers_eq : MouseControl.transfers e.after.trace =
    MouseControl.transfers e.before.trace ++ e.transfers
  written_eq : e.transfers.filterMap Event.data? = [e.frame]
  reads_le : ∀ n, c.readPolicy.attempts.toInt? = some n → e.transfers.length ≤ n.toNat + 1
  observer_eq : e.after.anomalyObserver = e.before.anomalyObserver
  succeeded_iff : e.Succeeded ↔ ∃ answer, e.outcome = .ok answer

end Exchange

namespace Channel

variable [TimeScale τ] (c : Channel σ τ)

/-- Exchanges one after another, each on the line that the one before left. -/
def Chained : Bus σ τ → List (Exchange σ τ) → Bus σ τ → Prop
  | bus, [], last => last = bus
  | bus, e :: rest, last => e.before = bus ∧ e.Took c ∧ Chained e.after rest last

/-- The exchange of a frame, told by the result of its write and those of its reads. -/
def told (frame : Bytes) (bus : Bus σ τ) (result : Except Fault Int)
    (reads : List (Except Fault Bytes)) : Exchange σ τ where
  frame := frame
  before := bus
  outcome := ((c.exchange frame).run bus).1
  after := ((c.exchange frame).run bus).2
  transfers := .wrote (c.frameWrite frame) result :: reads.map (.read c.responseRead)

theorem completed_told {frame : Bytes} {bus : Bus σ τ} {result : Except Fault Int}
    {reads : List (Except Fault Bytes)} : (c.told frame bus result reads).Completed ↔
      result = .ok (frame.length : Int) ∧ ∃ read ∈ reads, FullResponse read := by
  constructor
  · rintro ⟨⟨call, hwrite⟩, readCall, data, hread, hlength⟩
    simp only [told, List.mem_cons, List.mem_map, Event.wrote.injEq, reduceCtorEq, and_false,
      exists_false, or_false, Event.read.injEq, false_or] at hwrite hread
    obtain ⟨rfl, rfl⟩ := hwrite
    obtain ⟨read, hmem, rfl, rfl⟩ := hread
    exact ⟨rfl, .ok data, hmem, data, rfl, hlength⟩
  · rintro ⟨rfl, read, hmem, data, rfl, hlength⟩
    exact ⟨⟨c.frameWrite frame, .head _⟩, c.responseRead, data,
      .tail _ (List.mem_map_of_mem hmem), hlength⟩

/-- What a told exchange hands to the device is its frame. -/
theorem data_told (frame : Bytes) (bus : Bus σ τ) (result : Except Fault Int)
    (reads : List (Except Fault Bytes)) :
    (c.told frame bus result reads).transfers.filterMap Event.data? = [frame] := by
  have hreads : (reads.map (Event.read (τ := τ) c.responseRead)).filterMap Event.data? = [] := by
    rw [List.filterMap_map]
    exact List.filterMap_eq_nil_iff.mpr fun _ _ ↦ rfl
  change frame :: (reads.map (.read c.responseRead)).filterMap Event.data? = _
  rw [hreads]

/-- Every exchange of a sealed frame can be told. -/
theorem exists_took {frame : Bytes} (hframe : Frame.Sealed frame) (bus : Bus σ τ) :
    ∃ e : Exchange σ τ, e.frame = frame ∧ e.before = bus ∧ e.Took c := by
  obtain ⟨result, reads, htransfers, hobserver, hnone, hcount, hok, herror⟩ :=
    c.transfers_exchange hframe bus
  refine ⟨c.told frame bus result reads, rfl, rfl, ?_⟩
  have hsucceeded : (c.told frame bus result reads).Succeeded ↔
      ∃ answer, ((c.exchange frame).run bus).1 = .ok answer := by
    constructor
    · rintro ⟨hcompleted, hpassed⟩
      rcases houtcome : ((c.exchange frame).run bus).1 with fault | answer
      · obtain ⟨hwrite, hread⟩ := c.completed_told.mp hcompleted
        obtain ⟨data, hdata, hobjects⟩ := herror fault houtcome hwrite hread
        refine absurd ⟨c.responseRead, data, fault, ?_, hobjects, houtcome⟩ hpassed
        exact .tail _ (List.mem_map_of_mem hdata)
      · exact ⟨answer, rfl⟩
    · rintro ⟨answer, houtcome⟩
      refine ⟨c.completed_told.mpr (hok answer houtcome), ?_⟩
      rintro ⟨_, _, fault, -, -, hfault⟩
      have hfault : ((c.exchange frame).run bus).1 = .error fault := hfault
      rw [houtcome] at hfault
      cases hfault
  have hreads (n : Int) (hn : c.readPolicy.attempts.toInt? = some n) :
      (c.told frame bus result reads).transfers.length ≤ n.toNat + 1 := by
    have hbound : reads.length ≤ n.toNat := by
      by_cases hfull : result = .ok (frame.length : Int)
      · exact (hcount hfull n hn).length_le
      · rw [hnone hfull]
        exact Nat.zero_le _
    simpa [told] using hbound
  exact ⟨rfl, htransfers, c.data_told frame bus result reads, hreads, hobserver, hsucceeded⟩

/-- Sealed frames are exchanged in turn until all are through, whereupon the rest follows, or until
one exchange fails, which is the end. -/
theorem exists_chain (rest : List (Except Fault Bytes)) (frames : List Bytes)
    (hframes : ∀ frame ∈ frames, Frame.Sealed frame) :
    ∀ bus : Bus σ τ,
      let r := ((frames.map Except.ok ++ rest).forM c.sendBuilt).run bus
      ∃ exchanges last, c.Chained bus exchanges last ∧
        exchanges.map Exchange.frame <+: frames ∧
        ((exchanges.length = frames.length ∧ (∀ e ∈ exchanges, e.Succeeded) ∧
            r = (rest.forM c.sendBuilt).run last) ∨
          ∃ first e fault, exchanges = first ++ [e] ∧ (∀ e ∈ first, e.Succeeded) ∧
            ¬ e.Succeeded ∧ e.outcome = .error fault ∧ r = (.error fault, last)) := by
  induction frames with
  | nil =>
    intro bus r
    exact ⟨[], bus, rfl, List.prefix_refl _, .inl ⟨rfl, List.forall_mem_nil _, rfl⟩⟩
  | cons frame frames ih =>
    intro bus r
    obtain ⟨e, rfl, rfl, htook⟩ := c.exists_took (hframes frame (.head _)) bus
    have hr : r = (c.exchange e.frame >>= (fun _ ↦ pure ()) >>= fun _ : Unit ↦
        (frames.map Except.ok ++ rest).forM c.sendBuilt).run e.before := rfl
    rw [bind_assoc, run_bind, htook.run_eq] at hr
    rcases houtcome : e.outcome with fault | answer
    · have hfailed : ¬ e.Succeeded := by
        rw [htook.succeeded_iff, houtcome]
        exact fun ⟨_, h⟩ ↦ nomatch h
      rw [houtcome] at hr
      refine ⟨[e], e.after, ⟨rfl, htook, rfl⟩, ?_, .inr ⟨[], e, fault, rfl,
        List.forall_mem_nil _, hfailed, houtcome, hr⟩⟩
      exact List.prefix_append [e.frame] frames
    · have hsucceeded : e.Succeeded := htook.succeeded_iff.mpr ⟨answer, houtcome⟩
      rw [houtcome] at hr
      obtain ⟨exchanges, last, hchained, hprefix, hend⟩ :=
        ih (fun other hother ↦ hframes other (.tail _ hother)) e.after
      have hr : r = ((frames.map Except.ok ++ rest).forM c.sendBuilt).run e.after := hr
      rw [← hr] at hend
      refine ⟨e :: exchanges, last, ⟨rfl, htook, hchained⟩, ?_, ?_⟩
      · rw [List.map_cons]
        exact List.cons_prefix_cons.mpr ⟨rfl, hprefix⟩
      · rcases hend with ⟨hlength, hall, hrest⟩ | ⟨first, f, fault, hsplit, hall, hfailed⟩
        · refine .inl ⟨by rw [List.length_cons, List.length_cons, hlength], ?_, hrest⟩
          exact List.forall_mem_cons.mpr ⟨hsucceeded, hall⟩
        · refine .inr ⟨e :: first, f, fault, by rw [hsplit, List.cons_append], ?_, hfailed⟩
          exact List.forall_mem_cons.mpr ⟨hsucceeded, hall⟩

/-- A chain hands the frames of its exchanges to the device, in their order, and nothing else. -/
theorem Chained.written_eq {exchanges : List (Exchange σ τ)} : ∀ {bus last : Bus σ τ},
    c.Chained bus exchanges last →
      written last.trace = written bus.trace ++ exchanges.map Exchange.frame := by
  induction exchanges with
  | nil =>
    rintro bus last rfl
    exact (List.append_nil _).symm
  | cons e rest ih =>
    rintro bus last ⟨rfl, htook, hrest⟩
    rw [ih hrest, MouseControl.written_eq e.after.trace, htook.transfers_eq,
      List.filterMap_append, htook.written_eq, ← MouseControl.written_eq, List.append_assoc]
    rfl

/-- Throughout a chain it is the same observer who can refuse an exchange. -/
theorem Chained.succeeded_iff {exchanges : List (Exchange σ τ)} : ∀ {bus last : Bus σ τ},
    c.Chained bus exchanges last → bus.anomalyObserver.Quiet →
      ∀ e ∈ exchanges, e.Succeeded ↔ e.Completed := by
  induction exchanges with
  | nil => exact fun _ _ ↦ List.forall_mem_nil _
  | cons e rest ih =>
    rintro bus last ⟨rfl, htook, hrest⟩ hquiet
    refine List.forall_mem_cons.mpr ⟨?_, ih hrest (htook.observer_eq ▸ hquiet)⟩
    exact and_iff_left fun ⟨_, _, _, _, hobjects, _⟩ ↦ hquiet.not_objectsTo hobjects

/-- How a push of a configuration went, told by its exchanges. -/
structure PushAccount (config : Configuration) (bus : Bus σ τ)
    (r : Except Fault Unit × Bus σ τ) (exchanges : List (Exchange σ τ)) : Prop where
  chained : c.Chained bus exchanges r.2
  /-- The frames of the exchanges, and no others, were handed to the device. -/
  written_eq : written r.2.trace = written bus.trace ++ exchanges.map Exchange.frame
  in_order : exchanges.map Exchange.frame <+: config.frames
  /-- If no observer can fail, an exchange succeeds as soon as it is completed. -/
  succeeded_iff : bus.anomalyObserver.Quiet → ∀ e ∈ exchanges, e.Succeeded ↔ e.Completed
  /-- A frame is reached exactly when every exchange before it was completed, and the observer of
  anomalies objected to none of their answers. -/
  reached_iff : ∀ k < config.frames.length,
    k < exchanges.length ↔ ∀ j < k, ∃ e, exchanges[j]? = some e ∧ e.Completed ∧ ¬e.Refused
  ok_iff : r.1 = .ok () ↔
    (exchanges.length = config.frames.length ∧ ∀ e ∈ exchanges, e.Completed ∧ ¬e.Refused) ∧
      ∃ code, frequencyCode config.frequency = .ok code
  /-- The push fails as its last exchange did, which was not completed or was refused, or with every
  frame sent for want of a code. -/
  error_iff : ∀ fault, r.1 = .error fault ↔
    (∃ e, exchanges.getLast? = some e ∧ (¬e.Completed ∨ e.Refused) ∧ e.outcome = .error fault) ∨
      (exchanges.length = config.frames.length ∧ ∀ e ∈ exchanges, e.Completed ∧ ¬e.Refused) ∧
        frequencyCode config.frequency = .error fault

/-- A push in which every frame went through: what is left to say is the frequency. -/
theorem PushAccount.of_all {config : Configuration} {bus last : Bus σ τ}
    {exchanges : List (Exchange σ τ)} {outcome : Except Fault Unit}
    (hchained : c.Chained bus exchanges last)
    (horder : exchanges.map Exchange.frame <+: config.frames)
    (hlength : exchanges.length = config.frames.length) (hall : ∀ e ∈ exchanges, e.Succeeded)
    (houtcome : outcome = (frequencyCode config.frequency).map fun _ ↦ ()) :
    c.PushAccount config bus (outcome, last) exchanges where
  chained := hchained
  written_eq := Chained.written_eq c hchained
  in_order := horder
  succeeded_iff := Chained.succeeded_iff c hchained
  reached_iff k hk := by
    refine ⟨fun _ j hj ↦ ?_, fun _ ↦ hlength ▸ hk⟩
    have hj : j < exchanges.length := by omega
    exact ⟨exchanges[j], List.getElem?_eq_getElem hj, hall _ (List.getElem_mem hj)⟩
  ok_iff := by
    subst houtcome
    rcases frequencyCode config.frequency with fault | code
    · exact ⟨fun h ↦ (nomatch h), fun ⟨_, _, h⟩ ↦ (nomatch h)⟩
    · exact ⟨fun _ ↦ ⟨⟨hlength, hall⟩, code, rfl⟩, fun _ ↦ rfl⟩
  error_iff fault := by
    have hlast : ¬ ∃ e, exchanges.getLast? = some e ∧ (¬e.Completed ∨ e.Refused) ∧
        e.outcome = .error fault := by
      rintro ⟨e, he, hfailed, -⟩
      exact Exchange.not_succeeded_iff.mpr hfailed (hall e (List.mem_of_getLast? he))
    rw [or_iff_right hlast, and_iff_right ⟨hlength, hall⟩]
    subst houtcome
    rcases frequencyCode config.frequency with other | code
    · simp [Except.map]
    · simp [Except.map]

/-- A push that an exchange has ended. -/
theorem PushAccount.of_failed {config : Configuration} {bus last : Bus σ τ}
    {first : List (Exchange σ τ)} {e : Exchange σ τ} {fault : Fault}
    (hchained : c.Chained bus (first ++ [e]) last)
    (horder : (first ++ [e]).map Exchange.frame <+: config.frames)
    (hall : ∀ other ∈ first, other.Succeeded) (hfailed : ¬ e.Succeeded)
    (houtcome : e.outcome = .error fault) :
    c.PushAccount config bus (.error fault, last) (first ++ [e]) where
  chained := hchained
  written_eq := Chained.written_eq c hchained
  in_order := horder
  succeeded_iff := Chained.succeeded_iff c hchained
  reached_iff k _ := by
    rw [List.length_append, List.length_singleton]
    constructor
    · intro hk j hj
      have hj : j < first.length := by omega
      refine ⟨first[j], ?_, hall _ (List.getElem_mem hj)⟩
      rw [List.getElem?_append_left hj, List.getElem?_eq_getElem hj]
    · intro hbefore
      by_contra hk
      obtain ⟨other, hother, hsucceeded⟩ := hbefore first.length (by omega)
      rw [List.getElem?_concat_length] at hother
      cases hother
      exact hfailed hsucceeded
  ok_iff := by
    refine ⟨fun h ↦ (nomatch h), fun ⟨⟨_, h⟩, _⟩ ↦ ?_⟩
    exact absurd (h e (List.mem_append_right _ (.head _))) hfailed
  error_iff other := by
    have hnotAll : ¬ ((first ++ [e]).length = config.frames.length ∧
        ∀ e' ∈ first ++ [e], e'.Succeeded) := fun h ↦
      hfailed (h.2 e (List.mem_append_right _ (.head _)))
    rw [or_iff_left fun h ↦ hnotAll h.1]
    simp only [List.getLast?_concat, Option.some.injEq]
    constructor
    · rintro ⟨⟩
      exact ⟨e, rfl, Exchange.not_succeeded_iff.mp hfailed, houtcome⟩
    · rintro ⟨_, rfl, -, h⟩
      rw [h] at houtcome
      cases houtcome
      rfl

variable {c} in
/-- The first frame is always reached. -/
theorem PushAccount.starts {config : Configuration} {bus : Bus σ τ}
    {r : Except Fault Unit × Bus σ τ} {exchanges : List (Exchange σ τ)}
    (h : c.PushAccount config bus r exchanges) {first : Bytes} {rest : List Bytes}
    (hframes : config.frames = first :: rest) :
    ∃ others, exchanges.map Exchange.frame = first :: others := by
  have hlength : 0 < config.frames.length := by
    rw [hframes]
    exact Nat.succ_pos _
  have hreached : 0 < exchanges.length :=
    (h.reached_iff 0 hlength).mpr fun j hj ↦ absurd hj (Nat.not_lt_zero j)
  obtain ⟨e, others, rfl⟩ := List.exists_cons_of_length_pos hreached
  have horder := h.in_order
  rw [hframes, List.map_cons, List.cons_prefix_cons] at horder
  exact ⟨others.map Exchange.frame, by rw [List.map_cons, horder.1]⟩

variable {c} in
/-- If every exchange succeeds, all frames are sent. -/
theorem PushAccount.completes {config : Configuration} {bus : Bus σ τ}
    {r : Except Fault Unit × Bus σ τ} {exchanges : List (Exchange σ τ)}
    (h : c.PushAccount config bus r exchanges) (hall : ∀ e ∈ exchanges, e.Succeeded) :
    exchanges.map Exchange.frame = config.frames := by
  refine h.in_order.eq_of_length_le ?_
  rw [List.length_map]
  by_contra hshort
  have hlt : exchanges.length < config.frames.length := Nat.lt_of_not_le hshort
  refine Nat.lt_irrefl _ ((h.reached_iff exchanges.length hlt).mpr fun j hj ↦ ?_)
  exact ⟨exchanges[j], List.getElem?_eq_getElem hj, hall _ (List.getElem_mem hj)⟩

/-- Every push of a configuration that fits a model has its account. -/
theorem exists_pushAccount {model : Model} {config : Configuration} (hfits : config.Fits model)
    (bus : Bus σ τ) :
    ∃ exchanges, c.PushAccount config bus ((c.push config).run bus) exchanges := by
  obtain ⟨first, hframesOf, hframes⟩ := hfits.framesOf_eq
  -- A frequency without a code ends the list of frames in a fault instead of a frame.
  obtain ⟨rest, hsplit, houtcome⟩ : ∃ rest : List (Except Fault Bytes),
      framesOf config = config.frames.map Except.ok ++ rest ∧
        ∀ last : Bus σ τ, (rest.forM c.sendBuilt).run last =
          ((frequencyCode config.frequency).map fun _ ↦ (), last) := by
    rcases frequencyFrame_cases config.frequency with ⟨code, frame, hcode, hframe⟩ | ⟨hcode, hframe⟩
    · have hall : config.frames = first ++ [frame] := by rw [hframes, hframe]; rfl
      exact ⟨[], by rw [hframesOf, hall, hframe]; simp, fun last ↦ by rw [hcode]; rfl⟩
    · have hall : config.frames = first := by rw [hframes, hframe]; exact List.append_nil _
      refine ⟨[.error (Fault.unsupportedFrequency config.frequency).worded],
        by rw [hframesOf, hall, hframe],
        fun last ↦ ?_⟩
      rw [hcode]
      rfl
  have hpush : (c.push config).run bus =
      ((config.frames.map Except.ok ++ rest).forM c.sendBuilt).run bus := by
    rw [push, hsplit]
  rw [hpush]
  obtain ⟨exchanges, last, hchained, horder, hend⟩ :=
    c.exists_chain rest config.frames (fun _ ↦ Configuration.sealed_of_mem_frames) bus
  refine ⟨exchanges, ?_⟩
  rcases hend with ⟨hlength, hsucceeded, hr⟩ |
    ⟨before, e, fault, rfl, hsucceeded, hfailed, hfault, hr⟩
  · rw [hr, houtcome last]
    exact PushAccount.of_all c hchained horder hlength hsucceeded rfl
  · rw [hr]
    exact PushAccount.of_failed c hchained horder hsucceeded hfailed hfault

end Channel

end MouseControl
