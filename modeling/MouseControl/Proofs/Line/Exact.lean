import MouseControl.Line.Replay
import MouseControl.Proofs.Line.Course

/-!
Exact transfers. A channel reads exactly the bytes it is asked for or fails: which transfers it
makes, and what it makes of them, is told by the results of the raw reads, all but the last of which
were inexact (`Channel.ReadAccount`). A write is one raw write, whatever comes of it
(`Channel.WriteAccount`). Both accounts hold on every transport (`Channel.transfers_exact`).
-/

set_option autoImplicit false
set_option relaxedAutoImplicit false

namespace MouseControl

open MouseControl.Action

variable {σ τ : Type}

/-- A transfer that did not bring what was asked for: it failed in a way of this library's own, or
brought another number of bytes, and the number asked for can be written in the news of that. -/
def Inexact (length : Int) : Except Fault Bytes → Prop
  | .error fault => fault.isA .library = true
  | .ok data => (data.length : Int) ≠ length ∧ isWritable length = true

namespace Channel

/-- After an inexact transfer, and no other, a read is not settled. -/
theorem settles_exactly_iff {policy : RetryPolicy} (hpolicy : policy.Standard)
    (request value length : Int) (result : Except Fault Bytes) :
    policy.Settles (fun _ ↦ true) (exactly request value length result) ↔
      ¬Inexact length result := by
  rcases result with fault | data
  · exact not_congr (hpolicy.covers_iff fault)
  · by_cases hlength : (data.length : Int) = length
    · rw [exactly, if_pos hlength]
      exact iff_of_true rfl fun h ↦ h.1 hlength
    · by_cases hwritable : isWritable length = true
      · rw [exactly_of_isWritable _ _ hlength hwritable]
        refine iff_of_false (not_not.mpr ?_) (not_not.mpr ⟨hlength, hwritable⟩)
        exact (hpolicy.covers_iff _).mpr rfl
      · rw [exactly_of_not_isWritable _ _ hlength hwritable]
        refine iff_of_true (fun hcovers ↦ ?_) fun h ↦ hwritable h.2
        cases (hpolicy.covers_iff _).mp hcovers

/-- The fault that an inexact transfer leaves is the outcome of its attempt. -/
theorem leftover_exactly (policy : RetryPolicy) (what : Text) {request value length : Int}
    {result : Except Fault Bytes} (h : Inexact length result) :
    .error (policy.leftover what (exactly request value length result)) =
      exactly request value length result := by
  rcases result with fault | data
  · rfl
  · rw [exactly_of_isWritable _ _ h.1 h.2]
    rfl

variable [TimeScale τ] (c : Channel σ τ)

/-- How a read with so many attempts went. The results of its raw reads are those of the failed
attempts and a last one. It gives the bytes of the last one if they are as many as were asked for,
and has no others to give. -/
structure ReadAccount (request value length : Int) (n : Nat) (bus : Bus σ τ)
    (r : Except Fault Bytes × Bus σ τ) (failed : List (Except Fault Bytes))
    (last : Except Fault Bytes) : Prop where
  transfers_eq : transfers r.2.trace =
    transfers bus.trace ++ (failed ++ [last]).map (.read (c.readCall request value length))
  length_lt : failed.length < n
  inexact : ∀ result ∈ failed, Inexact length result
  ok_iff : ∀ data, r.1 = .ok data ↔ last = .ok data ∧ (data.length : Int) = length
  /-- Any other fault than one of this library ends the read. -/
  of_foreign : ∀ fault, last = .error fault → ¬fault.isA .library = true → r.1 = .error fault
  /-- If the last transfer was inexact as well, there was no attempt left, and the read fails as
  that one did, with its fault or for its wrong size. -/
  of_inexact : Inexact length last → (2 ≤ n → c.readPolicy.Waitable τ) →
    failed.length + 1 = n ∧ (∀ fault, last = .error fault → r.1 = .error fault) ∧
      ∀ data, last = .ok data → r.1 = .error (.shortRead request value data.length length)
  /-- A wait that cannot be waited allows no second attempt. -/
  of_unwaited : ∀ fault, c.readPolicy.Unwaited τ fault → failed = [] ∧
    (Inexact length last → 2 ≤ n → r.1 = .error fault)
  /-- Bytes of a wrong size end the read when the news cannot be written. -/
  of_unwritable : ∀ data, last = .ok data → (data.length : Int) ≠ length →
    ¬isWritable length = true → r.1 = .error .unwritable

/-- How a write went: with one raw write, all of whose bytes had to be taken. -/
structure WriteAccount (request value : Int) (data : Bytes) (bus : Bus σ τ)
    (r : Except Fault Unit × Bus σ τ) (result : Except Fault Int) : Prop where
  transfers_eq : transfers r.2.trace =
    transfers bus.trace ++ [.wrote (c.writeCall request value data) result]
  ok_iff : r.1 = .ok () ↔ result = .ok (data.length : Int)
  /-- Any other count than that of the bytes is a fault, also a larger one; its news has to be
  worded. -/
  of_count : ∀ count, result = .ok count → count ≠ data.length →
    r.1 = .error (Fault.shortWrite request value count data.length).worded
  of_fault : ∀ fault, result = .error fault → r.1 = .error fault

/-- One transfer was made, a raw read with this result. -/
def Brought (request value length : Int) (bus : Bus σ τ) (result : Except Fault Bytes)
    (after : Bus σ τ) : Prop :=
  transfers after.trace =
    transfers bus.trace ++ [.read (c.readCall request value length) result]

/-- One attempt to read makes one transfer and comes to what it makes of its result. -/
theorem exists_brought (request value length : Int) (bus : Bus σ τ) :
    ∃ result, c.Brought request value length bus result
        ((c.readOnce request value length).run bus).2 ∧
      ((c.readOnce request value length).run bus).1 = exactly request value length result := by
  obtain ⟨result, htransfers, -, houtcome⟩ := c.transfers_readOnce request value length bus
  exact ⟨result, htransfers, houtcome⟩

/-- Every read that makes attempts has its account. -/
theorem exists_readAccount (hpolicy : c.readPolicy.Standard) (request value length : Int) {n : Int}
    (hcount : c.readPolicy.attempts.toInt? = some n) (bus : Bus σ τ) :
    ∃ failed last, c.ReadAccount request value length n.toNat bus
      ((c.read request value length).run bus) failed last := by
  obtain ⟨houtcome, hsilent⟩ := c.outcome_read request value length bus
  have haccept (data : Bytes) (bus : Bus σ τ) :
      (RetryPolicy.accepts none data).run bus = (.ok true, bus) := rfl
  obtain ⟨failed, last, hcourse, htried⟩ := hpolicy.exists_course hcount haccept
    (c.exists_brought request value length) ("USB read " ++ Fault.requestText request value) bus
  rw [← attempting] at hcourse htried
  rw [← houtcome] at htried
  generalize (c.read request value length).run bus = r at hsilent htried ⊢
  have hsettles := settles_exactly_iff hpolicy request value length
  have hexact (h : ¬Inexact length last) : r.1 = exactly request value length last :=
    htried.of_settles ((hsettles last).mpr h)
  have hinexact (h : Inexact length last) :
      ¬c.readPolicy.Settles (fun _ ↦ true) (exactly request value length last) := fun hsettled ↦
    (hsettles last).mp hsettled h
  refine ⟨failed, last, ?_⟩
  constructor
  case transfers_eq =>
    rw [hsilent.transfers_eq, Course.transfers_eq (fun _ _ _ h ↦ h) hcourse,
      List.map_eq_flatMap]
  case length_lt => simpa using htried.length_lt
  case inexact =>
    intro result hresult
    by_contra hexact
    exact htried.not_settles _ (List.mem_map_of_mem hresult) ((hsettles result).mpr hexact)
  case ok_iff =>
    intro data
    by_cases h : Inexact length last
    · obtain ⟨fault, hfault⟩ := htried.exists_error (hinexact h)
      rw [hfault]
      refine iff_of_false (by simp) ?_
      rintro ⟨rfl, hlength⟩
      exact h.1 hlength
    · rw [hexact h, exactly_eq_ok_iff]
  case of_foreign =>
    rintro fault rfl hforeign
    exact hexact hforeign
  case of_inexact =>
    intro h hwaitable
    obtain ⟨hlength, hr⟩ := htried.exhausted hwaitable (hinexact h)
    rw [leftover_exactly _ _ h] at hr
    refine ⟨by simpa using hlength, ?_, ?_⟩
    · rintro fault rfl
      exact hr
    · rintro data rfl
      rw [hr, exactly_of_isWritable _ _ h.1 h.2]
  case of_unwaited =>
    intro fault hunwaited
    exact ⟨List.map_eq_nil_iff.mp (htried.eq_nil hunwaited), fun h ↦
      htried.unwaited hunwaited (hinexact h)⟩
  case of_unwritable =>
    rintro data rfl hlength hwritable
    rw [hexact fun h ↦ hwritable h.2, exactly_of_not_isWritable _ _ hlength hwritable]

/-- A write makes its one transfer and comes to what that one came to. -/
theorem exists_writeAccount (request value : Int) (data : Bytes) (bus : Bus σ τ) :
    ∃ result, c.WriteAccount request value data bus ((c.write request value data).run bus)
      result := by
  obtain ⟨result, htransfers, -, houtcome⟩ := c.exists_wrote request value data bus
  generalize (c.write request value data).run bus = r at htransfers houtcome ⊢
  refine ⟨result, htransfers, by rw [houtcome, wholly_eq_ok_iff], ?_, ?_⟩
  · rintro count rfl hcount
    rw [houtcome, wholly_of_ne _ _ hcount]
  · rintro fault rfl
    exact houtcome

/-- A read that the usual policy repeats gives exactly the bytes of its first exact transfer, if it
makes one, and fails as its last transfer did if it makes none; a write is one transfer, and
succeeds if that one took every byte. No transfer follows a fault that is not one of this library or
bytes whose wrong size cannot be told, a policy whose attempts cannot be counted makes none, and one
whose wait cannot be waited makes one. -/
theorem transfers_exact (hpolicy : c.readPolicy.Standard) (bus : Bus σ τ) :
    (∀ request value length,
      let r := (c.read request value length).run bus
      (∀ n, c.readPolicy.attempts.toInt? = some n →
        ∃ failed last, c.ReadAccount request value length n.toNat bus r failed last) ∧
      (c.readPolicy.attempts.toInt? = none →
        r.1 = .error .wrongType ∧ transfers r.2.trace = transfers bus.trace)) ∧
    ∀ request value data, ∃ result,
      c.WriteAccount request value data bus ((c.write request value data).run bus) result := by
  refine ⟨fun request value length ↦ ⟨fun n hn ↦ ?_, fun hnone ↦ ?_⟩, fun request value data ↦ ?_⟩
  · exact c.exists_readAccount hpolicy request value length hn bus
  · obtain ⟨houtcome, hsilent⟩ := c.outcome_read request value length bus
    rw [attempting, RetryPolicy.run_of_uncounted hnone] at houtcome hsilent
    exact ⟨houtcome, hsilent.transfers_eq⟩
  · exact c.exists_writeAccount request value data bus

/-- Of three attempts, a second apart, the first brings a byte too few and the second both. -/
theorem read_after_short :
    let c : Channel Replay Rat :=
      ⟨Replay.transport, ⟨.int 3, .int 1, RetryPolicy.ownFaults⟩, 3000⟩
    let device : Replay := { reads := [.ok [7], .ok [7, 8]] }
    let bus : Bus Replay Rat := { device := device, clock := 0, spacing := ⟨0, none⟩ }
    let r := (c.read 1 768 2).run bus
    (∃ failed last, c.ReadAccount 1 768 2 3 bus r failed last) ∧
      r.1.toOption = some [7, 8] ∧ (transfers r.2.trace).length = 2 := by
  intro c device bus r
  have hpolicy : c.readPolicy.Standard := ⟨.int 3, .int 1, rfl⟩
  refine ⟨((c.transfers_exact hpolicy bus).1 1 768 2).1 3 rfl, ?_⟩
  decide +kernel

/-- The second attempt would bring the byte, but no wait can be made of the delay before it: on a
played clock of one that no double holds, on the system's of three centuries. And where a length is
asked for that cannot be written, the news that the byte is not as much cannot be worded. -/
theorem unread_for_overlong_delay :
    let c : Channel Replay Float := ⟨Replay.transport, Rehearsal.overlong, 3000⟩
    let device : Replay := { reads := [.error (.reported .transfer "lost"), .ok [7]] }
    let bus : Bus Replay Float :=
      { device := device, clock := Zero.zero, spacing := ⟨Zero.zero, none⟩ }
    let r := (c.read 1 768 1).run bus
    let c' : Channel Replay SystemTime := ⟨Replay.transport, Rehearsal.centuries, 3000⟩
    let bus' : Bus Replay SystemTime :=
      { device := device, clock := Zero.zero, spacing := ⟨Zero.zero, none⟩ }
    let r' := (c'.read 1 768 1).run bus'
    let long := (c.read 1 768 (Nat.pow 10 4300)).run { bus with device := { reads := [.ok [7]] } }
    c.readPolicy.Standard ∧ c.readPolicy.attempts.toInt? = some 3 ∧
      r.1.mapError Fault.kind = .error .overflow ∧ (transfers r.2.trace).length = 1 ∧
      r'.1.mapError Fault.kind = .error .overflow ∧ (transfers r'.2.trace).length = 1 ∧
      long.1.mapError Fault.kind = .error .value := by
  refine ⟨⟨Rehearsal.overlong.attempts, Rehearsal.overlong.delay, rfl⟩, rfl, ?_⟩
  decide +kernel

end Channel

end MouseControl
