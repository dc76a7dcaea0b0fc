import MouseControl.Command.Probe
import MouseControl.Line.Replay
import MouseControl.Proofs.Command.Push
import MouseControl.Proofs.Line.Course
import MouseControl.Proofs.Wire.Codec

/-!
The firmware probe. Each attempt is one exchange of the same query, and names a version if its
response has a byte 8 that is not zero (`Exchange.Names`). The probe gives the version that is named
first and fails as its last attempt calls for if none is (`Channel.ProbeAccount`); every probe has
such an account (`Channel.exists_probeAccount`).
-/

set_option autoImplicit false
set_option relaxedAutoImplicit false

namespace MouseControl

open MouseControl.Action

variable {σ τ : Type}

/-! ### Versions -/

/-- The query for the firmware version. -/
def firmwareQuery : Bytes := Frame.withChecksum (Frame.unsealed .firmwareVersion [])

theorem encode_firmwareVersion : Frame.encode .firmwareVersion [] = .ok firmwareQuery := rfl

/-- The first two values of a whole response are its bytes 8 and 9. -/
theorem Frame.valueBe16_of_decode {data : Bytes} {answer : CommandFrame}
    (h : Frame.decode data = .ok answer) :
    answer.valueBe16 0 = .ok (join16 (data.getD 8 0) (data.getD 9 0)) := by
  have hlength : data.length = 90 := length_of_decode h
  have hhigh : 8 < data.length := by omega
  have hlow : 9 < data.length := by omega
  have hvalues : answer.values = data[8] :: data[9] :: (data.drop 10).take 3 := by
    rw [values_of_decode h, List.drop_eq_getElem_cons hhigh, List.drop_eq_getElem_cons hlow]
    rfl
  simp [CommandFrame.valueBe16, hvalues, hhigh, hlow]

/-- A version of two bytes is one if the high byte is not zero. -/
theorem isFirmware_join16 (high low : UInt8) :
    Channel.isFirmware (join16 high low) = true ↔ high ≠ 0 := by
  have hhigh := high.toNat_lt
  have hlow := low.toNat_lt
  have hmajor : Firmware.major (join16 high low) = high.toNat := by
    rw [Firmware.major, join16]
    omega
  have hzero : high.toNat = 0 ↔ high = 0 := by
    rw [← UInt8.toNat_inj]
    rfl
  rw [Channel.isFirmware, hmajor, bne_iff_ne, ne_eq, Int.natCast_eq_zero, hzero]

theorem le_join16 {high low : UInt8} (h : high ≠ 0) :
    256 ≤ join16 high low ∧ join16 high low ≤ 65535 := by
  have hhigh := high.toNat_lt
  have hlow := low.toNat_lt
  have hpos : high.toNat ≠ 0 := fun hzero ↦ h (UInt8.toNat_inj.mp hzero)
  rw [join16]
  omega

namespace Exchange

/-- The response that an exchange ended with: its last transfer, if that was a whole one. -/
def response? (e : Exchange σ τ) : Option Bytes :=
  match e.transfers.getLast? with
  | some (.read _ (.ok data)) => if data.length = Protocol.frameSize then some data else none
  | _ => none

/-- An exchange named a version: bytes 8 and 9 of its response, of which the first is not zero. -/
def Names (e : Exchange σ τ) (version : Int) : Prop :=
  e.Succeeded ∧ ∃ data, e.response? = some data ∧ data.getD 8 0 ≠ 0 ∧
    version = join16 (data.getD 8 0) (data.getD 9 0)

/-- An exchange that another may follow: it failed in a way of this library's own, or the byte 8 of
its response was zero. -/
def NamesNone (e : Exchange σ τ) : Prop :=
  (∃ fault, e.outcome = .error fault ∧ fault.isA .library = true) ∨
    e.Succeeded ∧ ∃ data, e.response? = some data ∧ data.getD 8 0 = 0

/-- What an attempt of the probe makes of its exchange. -/
def version (e : Exchange σ τ) : Except Fault Int := e.outcome >>= (·.valueBe16 0)

theorem version_of_error {e : Exchange σ τ} {fault : Fault} (h : e.outcome = .error fault) :
    e.version = .error fault := by
  rw [version, h]
  rfl

/-- How an exchange of the query ends: it fails, or it has a response with a version in it. -/
inductive Ends (e : Exchange σ τ) : Prop
  | failed (fault : Fault) (outcome_eq : e.outcome = .error fault)
      (version_eq : e.version = .error fault) (not_succeeded : ¬e.Succeeded)
  | answered (data : Bytes) (answer : CommandFrame) (outcome_eq : e.outcome = .ok answer)
      (version_eq : e.version = .ok (join16 (data.getD 8 0) (data.getD 9 0)))
      (response_eq : e.response? = some data) (succeeded : e.Succeeded)

end Exchange

namespace Channel

variable [TimeScale τ] (c : Channel σ τ)

/-- The query was exchanged. -/
structure Asks (bus : Bus σ τ) (e : Exchange σ τ) (after : Bus σ τ) : Prop
    extends e.Took c where
  frame_eq : e.frame = firmwareQuery
  before_eq : e.before = bus
  after_eq : e.after = after

/-- The attempts of a probe. -/
def asking (policy : RetryPolicy) : Action (Bus σ τ) Int :=
  policy.run "Firmware version probe" c.askFirmware (some fun version ↦ pure (isFirmware version))

/-- What the probe says of what its attempts came to. -/
def probed (policy : RetryPolicy) : Except Fault Int → Except Fault Int
  | .ok version => .ok version
  | .error fault =>
    .error (if fault.isA .transfer || fault.isA .exhausted then
      (Fault.notResponding policy.attempts).worded else fault)

/-- How a probe with so many attempts went, told by their exchanges: those of the failed attempts,
which named no version, and a last one. The probe gives the version that the last one named, if it
did. -/
structure ProbeAccount (policy : RetryPolicy) (n : Nat) (bus : Bus σ τ)
    (r : Except Fault Int × Bus σ τ) (failed : List (Exchange σ τ)) (last : Exchange σ τ) :
    Prop where
  course : Course c.Asks bus (failed ++ [last]) r.2
  transfers_eq : transfers r.2.trace =
    transfers bus.trace ++ (failed ++ [last]).flatMap Exchange.transfers
  written_eq : written r.2.trace =
    written bus.trace ++ List.replicate (failed.length + 1) firmwareQuery
  /-- If no observer can fail, an exchange succeeds as soon as it is completed. -/
  succeeded_iff : bus.anomalyObserver.Quiet →
    ∀ e ∈ failed ++ [last], e.Succeeded ↔ e.Completed
  /-- Whatever answers, there is a version in it. -/
  in_range : ∀ e ∈ failed ++ [last], ∀ answer, e.outcome = .ok answer →
    ∃ version, answer.valueBe16 0 = .ok version
  length_lt : failed.length < n
  namesNone : ∀ e ∈ failed, e.NamesNone
  ok_iff : ∀ version, r.1 = .ok version ↔ last.Names version
  bounds : ∀ version, r.1 = .ok version → 256 ≤ version ∧ version ≤ 65535
  /-- Any other fault than one of this library ends the probe. -/
  of_foreign : ∀ fault, last.outcome = .error fault → ¬fault.isA .library = true →
    r.1 = .error fault
  /-- If the last attempt named no version either, there was none left. -/
  of_namesNone : last.NamesNone → (2 ≤ n → policy.Waitable τ) →
    failed.length + 1 = n ∧
      (last.Succeeded → r.1 = .error (Fault.notResponding policy.attempts).worded) ∧
        ∀ fault, last.outcome = .error fault → r.1 =
          .error (if fault.isA .transfer || fault.isA .exhausted then
            (Fault.notResponding policy.attempts).worded else fault)
  /-- A wait that cannot be waited allows no second attempt. -/
  of_unwaited : ∀ fault, policy.Unwaited τ fault → failed = [] ∧
    (last.NamesNone → 2 ≤ n → r.1 = .error fault)

/-- An attempt asks once. -/
theorem exists_asks (bus : Bus σ τ) : ∃ e, c.Asks bus e (c.askFirmware.run bus).2 ∧
    (c.askFirmware.run bus).1 = e.version := by
  obtain ⟨e, hframe, rfl, htook⟩ :=
    c.exists_took (Frame.sealed_of_encode encode_firmwareVersion) bus
  have hquery : (ofExcept (Frame.encode .firmwareVersion [])).run e.before =
      (.ok e.frame, e.before) := by
    rw [run_ofExcept, encode_firmwareVersion, hframe]
  have hrun : c.askFirmware.run e.before = (e.version, e.after) := by
    rw [askFirmware, run_bind_ok hquery, run_bind, htook.run_eq, Exchange.version]
    rcases e.outcome with fault | answer
    · rfl
    · rfl
  rw [hrun]
  exact ⟨e, { htook with frame_eq := hframe, before_eq := rfl, after_eq := rfl }, rfl⟩

namespace Asks

variable {c : Channel σ τ} {bus after : Bus σ τ} {e : Exchange σ τ}

/-- A whole response is long enough to have a version in it. -/
theorem ends (h : c.Asks bus e after) : e.Ends := by
  rcases houtcome : e.outcome with fault | answer
  · refine .failed fault houtcome (Exchange.version_of_error houtcome) fun hsucceeded ↦ ?_
    obtain ⟨answer, hanswer⟩ := h.succeeded_iff.mp hsucceeded
    rw [houtcome] at hanswer
    cases hanswer
  · have hok : ((c.exchange e.frame).run e.before).1 = .ok answer := by
      rw [h.run_eq, houtcome]
    have hsealed : Frame.Sealed e.frame := by
      rw [h.frame_eq]
      exact Frame.sealed_of_encode encode_firmwareVersion
    obtain ⟨front, data, htransfers, hdecode⟩ := c.exists_data_of_exchange hsealed hok
    rw [h.run_eq, h.transfers_eq] at htransfers
    refine .answered data answer houtcome ?_ ?_ (h.succeeded_iff.mpr ⟨answer, houtcome⟩)
    · rw [Exchange.version, houtcome, ← Frame.valueBe16_of_decode hdecode]
      rfl
    · rw [Exchange.response?, List.append_cancel_left htransfers, List.getLast?_concat]
      exact if_pos (Frame.length_of_decode hdecode)

/-- An answer has a version in it. -/
theorem exists_value (h : c.Asks bus e after) {answer : CommandFrame}
    (hanswer : e.outcome = .ok answer) : ∃ version, answer.valueBe16 0 = .ok version := by
  cases h.ends with
  | failed fault houtcome =>
    rw [houtcome] at hanswer
    cases hanswer
  | answered data other _ hversion =>
    rw [Exchange.version, hanswer] at hversion
    exact ⟨_, hversion⟩

/-- A version is named if the attempt comes to it and it is one. -/
theorem names_iff (h : c.Asks bus e after) (version : Int) :
    e.Names version ↔ e.version = .ok version ∧ isFirmware version = true := by
  cases h.ends with
  | failed fault _ hversion hnot =>
    rw [hversion]
    exact iff_of_false (fun hnames ↦ hnot hnames.1) (by simp)
  | answered data answer _ hversion hresponse hsucceeded =>
    rw [hversion]
    constructor
    · rintro ⟨-, data', hdata', hhigh, rfl⟩
      rw [hresponse] at hdata'
      cases hdata'
      exact ⟨rfl, (isFirmware_join16 _ _).mpr hhigh⟩
    · rintro ⟨⟨⟩, hfirmware⟩
      exact ⟨hsucceeded, data, hresponse, (isFirmware_join16 _ _).mp hfirmware, rfl⟩

/-- The attempts that name no version are those that settle nothing. -/
theorem namesNone_iff {policy : RetryPolicy} (hpolicy : policy.Standard) (h : c.Asks bus e after) :
    e.NamesNone ↔ ¬policy.Settles isFirmware e.version := by
  cases h.ends with
  | failed fault houtcome hversion hnot =>
    rw [hversion, RetryPolicy.Settles, not_not, hpolicy.covers_iff]
    constructor
    · rintro (⟨other, hother, hown⟩ | ⟨hsucceeded, -⟩)
      · rw [houtcome] at hother
        cases hother
        exact hown
      · exact absurd hsucceeded hnot
    · exact fun hown ↦ .inl ⟨fault, houtcome, hown⟩
  | answered data answer houtcome hversion hresponse hsucceeded =>
    rw [hversion, RetryPolicy.Settles, isFirmware_join16, not_not]
    constructor
    · rintro (⟨other, hother, -⟩ | ⟨-, data', hdata', hzero⟩)
      · rw [houtcome] at hother
        cases hother
      · rw [hresponse] at hdata'
        cases hdata'
        exact hzero
    · exact fun hzero ↦ .inr ⟨hsucceeded, data, hresponse, hzero⟩

end Asks

/-- The probe ends as its attempts do, but for the words of some faults. -/
theorem outcome_probe (policy : RetryPolicy) (bus : Bus σ τ) :
    ((c.probe policy).run bus).1 = probed policy ((c.asking policy).run bus).1 ∧
      Bus.Silent ((c.asking policy).run bus).2 ((c.probe policy).run bus).2 := by
  rw [probe, ← asking, run_tryCatch]
  rcases (c.asking policy).run bus with ⟨fault | version, after⟩
  · dsimp only [probed]
    split
    · exact ⟨rfl, ⟨rfl, rfl⟩⟩
    · exact ⟨rfl, refl_of Bus.Silent after⟩
  · exact ⟨rfl, refl_of Bus.Silent after⟩

theorem probed_eq_ok_iff {policy : RetryPolicy} {outcome : Except Fault Int} {version : Int} :
    probed policy outcome = .ok version ↔ outcome = .ok version := by
  rcases outcome with fault | other
  · simp [probed]
  · simp [probed]

/-- A fault that is not one of this library keeps its words. -/
theorem probed_of_foreign (policy : RetryPolicy) {fault : Fault}
    (h : ¬fault.isA .library = true) : probed policy (.error fault) = .error fault := by
  have hkind (kind : FaultKind) (hkind : kind.isA .library = true) : fault.isA kind = false :=
    Bool.eq_false_iff.mpr fun hfault ↦ h (FaultKind.isA_trans hfault hkind)
  rw [probed, hkind .transfer rfl, hkind .exhausted rfl]
  rfl

/-- A fault of the last attempt that is not one of this library is passed on. -/
theorem probed_of_foreign_attempt {policy : RetryPolicy} (hpolicy : policy.Standard) {what : Text}
    {left : Nat} {failed : List (Except Fault Int)} {outcome : Except Fault Int} {e : Exchange σ τ}
    (htried : Tried τ policy what isFirmware left failed e.version outcome) {fault : Fault}
    (hfault : e.outcome = .error fault) (hforeign : ¬fault.isA .library = true) :
    probed policy outcome = .error fault := by
  have hversion : e.version = .error fault := Exchange.version_of_error hfault
  have hsettles : policy.Settles isFirmware e.version := by
    rw [hversion]
    exact (hpolicy.covers_iff fault).not.mpr hforeign
  rw [htried.of_settles hsettles, hversion, probed_of_foreign policy hforeign]

namespace Asks

variable {c : Channel σ τ} {bus after : Bus σ τ} {e : Exchange σ τ} {policy : RetryPolicy}
  {what : Text} {left : Nat} {failed : List (Except Fault Int)} {outcome : Except Fault Int}

/-- A version is given if the last attempt named it. -/
theorem probed_eq_ok_iff (h : c.Asks bus e after)
    (htried : Tried τ policy what isFirmware left failed e.version outcome) (version : Int) :
    probed policy outcome = .ok version ↔ e.Names version := by
  rw [h.names_iff, Channel.probed_eq_ok_iff]
  by_cases hsettles : policy.Settles isFirmware e.version
  · rw [htried.of_settles hsettles]
    refine (and_iff_left_of_imp fun hversion ↦ ?_).symm
    rwa [hversion] at hsettles
  · obtain ⟨fault, hfault⟩ := htried.exists_error hsettles
    rw [hfault]
    refine iff_of_false (by simp) fun ⟨hversion, hfirmware⟩ ↦ ?_
    rw [hversion] at hsettles
    exact hsettles hfirmware

/-- A version that was not one is told as the device not responding. -/
theorem probed_leftover (h : c.Asks bus e after) (hsucceeded : e.Succeeded) :
    probed policy (.error (policy.leftover what e.version)) =
      .error (Fault.notResponding policy.attempts).worded := by
  cases h.ends with
  | failed _ _ _ hnot => exact absurd hsucceeded hnot
  | answered _ _ _ hversion =>
    rw [hversion, RetryPolicy.leftover]
    -- Either message holds the number of attempts, and so neither can be written or both can.
    by_cases hwritable : (Fault.nothingAcceptable what policy.attempts).isWritable = true
    · rw [Fault.worded_of_isWritable hwritable]
      rfl
    · have hworded : (Fault.notResponding policy.attempts).worded = .unwritable :=
        Fault.worded_of_not_isWritable hwritable
      rw [Fault.worded_of_not_isWritable hwritable, hworded]
      rfl

end Asks

/-! ### Courses of exchanges -/

section Courses

variable {c} {exchanges : List (Exchange σ τ)} {bus last : Bus σ τ}

theorem exists_asks_of_mem (h : Course c.Asks bus exchanges last) :
    ∀ e ∈ exchanges, ∃ before after, c.Asks before e after :=
  h.forall_mem (fun _ _ _ hkept ↦ hkept)
    (fun before _ after _ hasks ↦ ⟨⟨before, after, hasks⟩, trivial⟩) trivial

/-- In a course of exchanges of the query, nothing else is written. -/
theorem written_of_course (h : Course c.Asks bus exchanges last) :
    written last.trace = written bus.trace ++ List.replicate exchanges.length firmwareQuery := by
  induction exchanges generalizing bus with
  | nil => rw [Bus.Silent.written_eq h, List.length_nil, List.replicate_zero, List.append_nil]
  | cons e rest ih =>
    obtain ⟨mid, between, hasks, hsilent, hrest⟩ := h
    rw [ih hrest, hsilent.written_eq, ← hasks.after_eq, written_eq e.after.trace,
      hasks.transfers_eq, List.filterMap_append, ← written_eq, hasks.written_eq, hasks.frame_eq,
      hasks.before_eq, List.append_assoc, List.length_cons, List.replicate_succ]
    rfl

/-- With a quiet observer on the line, every exchange that is completed succeeds. -/
theorem succeeded_iff_of_course (hquiet : bus.anomalyObserver.Quiet)
    (h : Course c.Asks bus exchanges last) : ∀ e ∈ exchanges, e.Succeeded ↔ e.Completed := by
  have hsilent (bus bus' : Bus σ τ) (h : bus.Silent bus') (hquiet : bus.anomalyObserver.Quiet) :
      bus'.anomalyObserver.Quiet := h.observer_eq ▸ hquiet
  have hasks (bus : Bus σ τ) (e : Exchange σ τ) (after : Bus σ τ)
      (hquiet : bus.anomalyObserver.Quiet) (h : c.Asks bus e after) :
      (e.Succeeded ↔ e.Completed) ∧ after.anomalyObserver.Quiet := by
    rw [← h.before_eq] at hquiet
    rw [← h.after_eq, h.observer_eq]
    exact ⟨and_iff_left fun ⟨_, _, _, _, hobjects, _⟩ ↦ hquiet.not_objectsTo hobjects, hquiet⟩
  exact h.forall_mem hsilent hasks hquiet

end Courses

omit [TimeScale τ] in
/-- The check of a probe only looks at the version. -/
theorem run_accepts_isFirmware (version : Int) (bus : Bus σ τ) :
    (RetryPolicy.accepts (some fun version ↦ pure (isFirmware version)) version).run bus =
      (.ok (isFirmware version), bus) := rfl

/-- A version that a probe gives was named by an exchange, whatever the policy. -/
theorem exists_names_of_probe {policy : RetryPolicy} {bus : Bus σ τ} {version : Int}
    (h : ((c.probe policy).run bus).1 = .ok version) : ∃ e : Exchange σ τ, e.Names version := by
  rw [(c.outcome_probe policy bus).1] at h
  cases hcount : policy.attempts.toInt? with
  | none =>
    rw [asking, RetryPolicy.run_of_uncounted hcount] at h
    cases h
  | some n =>
    rw [asking, RetryPolicy.run_of_counted hcount] at h
    cases hleft : n.toNat with
    | zero =>
      rw [hleft] at h
      cases h
    | succ left =>
      obtain ⟨failed, last, hcourse, htried⟩ :=
        RetryPolicy.exists_course run_accepts_isFirmware c.exists_asks "Firmware version probe"
          left 1 bus
      obtain ⟨before, after, hlast⟩ := exists_asks_of_mem hcourse last (by simp)
      rw [hleft, hlast.probed_eq_ok_iff htried] at h
      exact ⟨last, h⟩

/-- Every probe that makes attempts has its account. -/
theorem exists_probeAccount {policy : RetryPolicy} (hpolicy : policy.Standard) {n : Int}
    (hcount : policy.attempts.toInt? = some n) (bus : Bus σ τ) :
    ∃ failed last, c.ProbeAccount policy n.toNat bus ((c.probe policy).run bus) failed last := by
  obtain ⟨houtcome, hsilent⟩ := c.outcome_probe policy bus
  obtain ⟨failed, last, hcourse, htried⟩ :=
    hpolicy.exists_course hcount run_accepts_isFirmware c.exists_asks "Firmware version probe" bus
  rw [← asking] at hcourse htried
  have hcourse := hcourse.append_silent hsilent
  have hasked := exists_asks_of_mem hcourse
  obtain ⟨before, after, hlast⟩ := hasked last (by simp)
  generalize ((c.asking policy).run bus).1 = outcome at houtcome htried
  generalize (c.probe policy).run bus = r at houtcome hcourse ⊢
  have hok (version : Int) : r.1 = .ok version ↔ last.Names version := by
    rw [houtcome]
    exact hlast.probed_eq_ok_iff htried version
  have hunsettled (h : last.NamesNone) : ¬policy.Settles isFirmware last.version :=
    (hlast.namesNone_iff hpolicy).mp h
  refine ⟨failed, last, ?_⟩
  constructor
  case course => exact hcourse
  case transfers_eq =>
    refine Course.transfers_eq (fun bus e after h ↦ ?_) hcourse
    rw [← h.before_eq, ← h.after_eq]
    exact h.transfers_eq
  case written_eq =>
    rw [written_of_course hcourse, List.length_append, List.length_singleton]
  case succeeded_iff => exact fun hquiet ↦ succeeded_iff_of_course hquiet hcourse
  case in_range =>
    intro e he answer hanswer
    obtain ⟨before, after, hasks⟩ := hasked e he
    exact hasks.exists_value hanswer
  case length_lt => simpa using htried.length_lt
  case namesNone =>
    intro e he
    obtain ⟨before, after, hasks⟩ := hasked e (List.mem_append_left _ he)
    exact (hasks.namesNone_iff hpolicy).mpr (htried.not_settles _ (List.mem_map_of_mem he))
  case ok_iff => exact hok
  case bounds =>
    intro version hversion
    obtain ⟨-, data, -, hhigh, rfl⟩ := (hok version).mp hversion
    exact le_join16 hhigh
  case of_foreign =>
    intro fault hfault hforeign
    rw [houtcome]
    exact probed_of_foreign_attempt hpolicy htried hfault hforeign
  case of_namesNone =>
    intro h hwaitable
    obtain ⟨hlength, hleft⟩ := htried.exhausted hwaitable (hunsettled h)
    rw [hleft] at houtcome
    refine ⟨by simpa using hlength, fun hsucceeded ↦ ?_, fun fault hfault ↦ ?_⟩
    · rw [houtcome, hlast.probed_leftover hsucceeded]
    · rw [houtcome, Exchange.version_of_error hfault]
      rfl
  case of_unwaited =>
    intro fault hunwaited
    refine ⟨List.map_eq_nil_iff.mp (htried.eq_nil hunwaited), fun h htwo ↦ ?_⟩
    have hforeign : ¬fault.isA .library = true :=
      (TimeScale.wait_error hunwaited.wait_eq).not_library
    rw [houtcome, htried.unwaited hunwaited (hunsettled h) htwo, probed_of_foreign policy hforeign]

/-- A probe with the usual policy asks for the version up to the first attempt that names one or
ends in a fault that is not one of this library, and gives the version or fails as the last attempt
calls for. A policy whose attempts cannot be counted makes none, and one whose wait cannot be waited
makes one. -/
theorem firmware_probed {policy : RetryPolicy} (hpolicy : policy.Standard) (bus : Bus σ τ) :
    let r := (c.probe policy).run bus
    (∀ n, policy.attempts.toInt? = some n →
      ∃ failed last, c.ProbeAccount policy n.toNat bus r failed last) ∧
    (policy.attempts.toInt? = none →
      r.1 = .error .wrongType ∧ transfers r.2.trace = transfers bus.trace) := by
  intro r
  refine ⟨fun n hn ↦ c.exists_probeAccount hpolicy hn bus, fun hnone ↦ ?_⟩
  obtain ⟨houtcome, hsilent⟩ := c.outcome_probe policy bus
  rw [asking, RetryPolicy.run_of_uncounted hnone] at houtcome hsilent
  exact ⟨houtcome, hsilent.transfers_eq⟩

/-- A response with a status and a version. -/
def versionResponse (status high low : UInt8) : Bytes :=
  status :: List.replicate 7 0 ++ [high, low] ++ List.replicate 80 0

/-- The second of two attempts names version 2.03. -/
theorem probed_after_zero :
    let policy : RetryPolicy := ⟨.int 2, .int 1, RetryPolicy.ownFaults⟩
    let c : Channel Replay Rat :=
      ⟨Replay.transport, ⟨.int 1, .int 0, RetryPolicy.ownFaults⟩, 3000⟩
    let device : Replay := { reads := [.ok (versionResponse 2 0 3), .ok (versionResponse 2 2 3)] }
    let bus : Bus Replay Rat := { device := device, clock := 0, spacing := ⟨0, none⟩ }
    let r := (c.probe policy).run bus
    (∃ failed last, c.ProbeAccount policy 2 bus r failed last) ∧ r.1.toOption = some 515 := by
  intro policy c device bus r
  have hpolicy : policy.Standard := ⟨.int 2, .int 1, rfl⟩
  refine ⟨(c.firmware_probed hpolicy bus).1 2 rfl, ?_⟩
  decide +kernel

/-- No wait can be made of an overlong delay before an attempt that would name a version, nor of
centuries on the system's clock, and an observer of anomalies that fails makes a version worthless
that came with a status that is not an accepted one. -/
theorem version_lost_to_delay_or_observer :
    let c : Channel Replay Float :=
      ⟨Replay.transport, ⟨.int 1, .int 0, RetryPolicy.ownFaults⟩, 3000⟩
    let device : Replay := { reads := [.ok (versionResponse 2 0 3), .ok (versionResponse 2 2 3)] }
    let bus : Bus Replay Float :=
      { device := device, clock := Zero.zero, spacing := ⟨Zero.zero, none⟩ }
    let r := (c.probe Rehearsal.overlong).run bus
    let device' : Replay := { reads := [.ok (versionResponse 3 2 3)] }
    let r' := (c.probe Rehearsal.overlong).run
      { bus with device := device', anomalyObserver := .failing (.reported .lookup "observer") }
    let system : Bus Replay SystemTime :=
      { device := device, clock := Zero.zero, spacing := ⟨Zero.zero, none⟩ }
    let r'' := ((⟨Replay.transport, c.readPolicy, 3000⟩ : Channel Replay SystemTime).probe
      Rehearsal.centuries).run system
    Rehearsal.overlong.Standard ∧ Rehearsal.overlong.attempts.toInt? = some 3 ∧
      r.1.mapError Fault.kind = .error .overflow ∧ (written r.2.trace).length = 1 ∧
      r'.1.mapError Fault.kind = .error .lookup ∧
      r''.1.mapError Fault.kind = .error .overflow ∧ (written r''.2.trace).length = 1 := by
  refine ⟨⟨Rehearsal.overlong.attempts, Rehearsal.overlong.delay, rfl⟩, rfl, ?_⟩
  decide +kernel

end Channel

end MouseControl
