import Mathlib.Algebra.Ring.Int.Defs
import MouseControl.Proofs.Line.Time
import MouseControl.Proofs.Line.Twin

/-!
What retries come to. A `Rehearsal` says what each call of an operation comes to and what a check
says of each result. The first call that settles the retries is the last one and decides the outcome
(`Rehearsal.ended_of_settled`). If none does, all are made, and the last one leaves its own fault or
the news that its result was not acceptable (`Rehearsal.ended_of_unsettled`). Between two calls
there is one pause, unless none can be made of the delay, and then there is no second call. All this
is `Rehearsal.ended_after`; which delays can be waited on the system's clock, and how the others
fail, is told by `RetryPolicy.waitable_systemTime_iff` and `RetryPolicy.unwaited_systemTime_iff`.
-/

set_option autoImplicit false
set_option relaxedAutoImplicit false

namespace MouseControl

open MouseControl.Action

variable {σ τ α : Type} [TimeScale τ]

/-! ### Between two attempts -/

namespace RetryPolicy

/-- The wait that a policy asks for between two attempts can be waited, if it asks for one. -/
def Waitable (τ : Type) [TimeScale τ] (policy : RetryPolicy) : Prop :=
  policy.delay.equalsInt 0 = true ∨
    ∃ span, (TimeScale.wait policy.delay : Except Fault τ) = .ok span

/-- A wait that cannot be waited is one that fails. -/
theorem waitable_or_unwaited (τ : Type) [TimeScale τ] (policy : RetryPolicy) :
    policy.Waitable τ ∨ ∃ fault, policy.Unwaited τ fault := by
  by_cases hzero : policy.delay.equalsInt 0 = true
  · exact .inl (.inl hzero)
  · rcases hwait : (TimeScale.wait policy.delay : Except Fault τ) with fault | span
    · exact .inr ⟨fault, hzero, hwait⟩
    · exact .inl (.inr ⟨span, hwait⟩)

theorem Unwaited.not_waitable {policy : RetryPolicy} {fault : Fault}
    (h : policy.Unwaited τ fault) : ¬policy.Waitable τ := by
  rintro (hzero | ⟨span, hspan⟩)
  · exact h.delay hzero
  · cases h.wait_eq.symm.trans hspan

/-- A wait fails for one reason. -/
theorem Unwaited.unique {policy : RetryPolicy} {fault other : Fault}
    (h : policy.Unwaited τ fault) (hother : policy.Unwaited τ other) : other = fault :=
  Except.error.inj (hother.wait_eq.symm.trans h.wait_eq)

/-- On the system's clock a delay can be waited if none is asked for or its length is in range. -/
theorem waitable_systemTime_iff {policy : RetryPolicy} :
    policy.Waitable SystemTime ↔
      policy.delay.equalsInt 0 = true ∨ policy.delay.InWaitRange := by
  obtain ⟨time, htime⟩ := SystemTime.exists_wait_eq policy.delay
  rw [Waitable, htime, ← Number.exists_waited_iff]
  rcases policy.delay.waited with fault | span
  · simp [Except.map]
  · simp [Except.map]

/-- There, a delay that is not negative fails as too large, and a NaN as no length. -/
theorem unwaited_systemTime_iff {policy : RetryPolicy}
    (hdelay : policy.delay.AtLeast 0 ∨ policy.delay.IsNaN) {fault : Fault} :
    policy.Unwaited SystemTime fault ↔ ¬policy.Waitable SystemTime ∧
      (policy.delay.IsNaN ∧ fault = .waitOfNaN ∨ ¬policy.delay.IsNaN ∧ fault = .tooLarge) := by
  obtain ⟨time, htime⟩ := SystemTime.exists_wait_eq policy.delay
  have hfails : (TimeScale.wait policy.delay : Except Fault SystemTime) = .error fault ↔
      policy.delay.waited = .error fault := by
    rw [htime]
    rcases policy.delay.waited with other | span
    · simp [Except.map]
    · simp [Except.map]
  rw [Number.waited_eq_error_iff hdelay] at hfails
  rw [waitable_systemTime_iff, not_or, and_assoc, ← hfails]
  exact ⟨fun h ↦ ⟨h.delay, h.wait_eq⟩, fun h ↦ ⟨h.1, h.2⟩⟩

/-- The pauses of so many failed attempts; a delay of zero asks for none. -/
def rests (policy : RetryPolicy) (count : Nat) : List (Pause × τ) :=
  if policy.delay.equalsInt 0 then [] else
    match TimeScale.wait policy.delay with
    | .ok span => List.replicate count (.retry, span)
    | .error _ => []

theorem rests_zero (policy : RetryPolicy) : policy.rests 0 = ([] : List (Pause × τ)) := by
  unfold rests
  split
  · rfl
  · split <;> rfl

theorem rests_append (policy : RetryPolicy) (j k : Nat) :
    policy.rests j ++ policy.rests k = (policy.rests (j + k) : List (Pause × τ)) := by
  unfold rests
  split
  · rfl
  · split
    · exact List.replicate_append_replicate
    · rfl

/-- The wait leaves the device alone and makes one pause, or none for a delay of zero. -/
theorem run_wait {policy : RetryPolicy} (h : policy.Waitable τ) (bus : Bus σ τ) :
    ∃ bus', policy.wait.run bus = (.ok (), bus') ∧ bus'.device = bus.device ∧
      pauses bus'.trace = pauses bus.trace ++ policy.rests 1 := by
  by_cases hzero : policy.delay.equalsInt 0 = true
  · refine ⟨bus, policy.run_wait_of_equalsInt hzero bus, rfl, ?_⟩
    rw [rests, if_pos hzero, List.append_nil]
  · obtain ⟨span, hspan⟩ := h.resolve_left hzero
    rw [wait, rests, if_neg hzero, if_neg hzero, hspan]
    exact ⟨_, rfl, rfl, extract_concat ..⟩

/-- A delay that cannot be waited fails in place of the pause. -/
theorem run_wait_of_unwaited {policy : RetryPolicy} {fault : Fault}
    (h : policy.Unwaited τ fault) (bus : Bus σ τ) :
    policy.wait.run bus = (.error fault, bus) := by
  rw [wait, if_neg h.delay, h.wait_eq]
  rfl

end RetryPolicy

/-! ### Rehearsals -/

/-- What the calls of an operation come to, by their number from one on, and what a check, if there
is one, says of the result of each. -/
structure Rehearsal (α : Type) where
  outcome : Nat → Except Fault α
  verdict? : Option (Nat → Except Fault Bool)

namespace Rehearsal

variable (r : Rehearsal α)

/-- What is said of the result of a call; without a check it is acceptable. -/
def verdict (k : Nat) : Except Fault Bool :=
  match r.verdict? with
  | none => .ok true
  | some verdict => verdict k

/-- The operation. The device is the number of its calls so far. -/
def operation : Action (Bus Nat τ) α :=
  .of fun bus ↦ (r.outcome (bus.device + 1), { bus with device := bus.device + 1 })

/-- The check, which judges the result of the latest call. -/
def accept : Option (α → Action (Bus Nat τ) Bool) :=
  r.verdict?.map fun verdict _ ↦ .of fun bus ↦ (verdict bus.device, bus)

/-- What a call settles, if anything: its fault if the policy does not cover that, its result if
that is acceptable, and a fault of the check, whatever its kind. -/
def settled (policy : RetryPolicy) (k : Nat) : Option (Except Fault α) :=
  match r.outcome k with
  | .error fault => if policy.covers fault then none else some (.error fault)
  | .ok result =>
    match r.verdict k with
    | .ok true => some (.ok result)
    | .ok false => none
    | .error fault => some (.error fault)

/-- What a call that settles nothing leaves: its own fault, or the news that its result was not
acceptable, if that can be worded. -/
def remnant (policy : RetryPolicy) (what : Text) (k : Nat) : Fault :=
  match r.outcome k with
  | .error fault => fault
  | .ok _ => (Fault.nothingAcceptable what policy.attempts).worded

/-- The retries of the operation under a policy. -/
def retried (policy : RetryPolicy) (what : Text) (bus : Bus Nat τ) : Except Fault α × Bus Nat τ :=
  (policy.run what r.operation r.accept).run bus

/-- From a line, retries came to an outcome after so many calls, with one pause between two. -/
structure Ended (policy : RetryPolicy) (bus : Bus Nat τ) (ending : Except Fault α × Bus Nat τ)
    (outcome : Except Fault α) (calls : Nat) : Prop where
  outcome_eq : ending.1 = outcome
  calls_eq : ending.2.device = bus.device + calls
  pauses_eq : pauses ending.2.trace = pauses bus.trace ++ policy.rests (calls - 1)

section Runs

variable {r} {policy : RetryPolicy} {bus : Bus Nat τ} (what : Text) (index left : Nat)

omit [TimeScale τ] in
theorem run_operation {outcome : Except Fault α} (h : r.outcome (bus.device + 1) = outcome) :
    r.operation.run bus = (outcome, { bus with device := bus.device + 1 }) := by
  rw [operation, run_of, h]

omit [TimeScale τ] in
theorem run_accepts (result : α) {verdict : Except Fault Bool}
    (h : r.verdict bus.device = verdict) :
    (RetryPolicy.accepts r.accept result).run bus = (verdict, bus) := by
  subst h
  unfold accept verdict
  cases r.verdict? <;> rfl

/-- A call that settles the retries is the last one. -/
theorem run_of_settled {outcome : Except Fault α}
    (h : r.settled policy (bus.device + 1) = some outcome) :
    (policy.attemptsFrom what r.operation r.accept index (left + 1)).run bus =
      (outcome, { bus with device := bus.device + 1 }) := by
  unfold settled at h
  rcases hcall : r.outcome (bus.device + 1) with fault | result
  · obtain ⟨hcovers, rfl⟩ : ¬policy.covers fault = true ∧ .error fault = outcome := by
      simpa [hcall] using h
    exact RetryPolicy.run_of_foreign (run_operation hcall) hcovers
  · rcases hverdict : r.verdict (bus.device + 1) with fault | _ | _
    · obtain rfl : .error fault = outcome := by simpa [hcall, hverdict] using h
      exact RetryPolicy.run_of_check_fault (run_operation hcall) (run_accepts result hverdict)
    · simp [hcall, hverdict] at h
    · obtain rfl : .ok result = outcome := by simpa [hcall, hverdict] using h
      exact RetryPolicy.run_of_accepted (run_operation hcall) (run_accepts result hverdict)

/-- A call that settles nothing leaves a fault to go on with. -/
theorem run_of_unsettled (h : r.settled policy (bus.device + 1) = none) :
    ∃ log, (policy.attemptsFrom what r.operation r.accept index (left + 1)).run bus =
      (policy.goOn what r.operation r.accept index left
        (r.remnant policy what (bus.device + 1))).run
          { bus with device := bus.device + 1, log := log } := by
  unfold settled at h
  unfold remnant
  rcases hcall : r.outcome (bus.device + 1) with fault | result
  · have hcovers : policy.covers fault = true := by simpa [hcall] using h
    exact RetryPolicy.run_of_covered (run_operation hcall) hcovers
  · rcases hverdict : r.verdict (bus.device + 1) with fault | _ | _
    · simp [hcall, hverdict] at h
    · exact RetryPolicy.run_of_rejected (run_operation hcall) (run_accepts result hverdict)
    · simp [hcall, hverdict] at h

/-- After a call that settled nothing, and a pause, the retries go on. -/
theorem exists_onward (hpolicy : policy.Waitable τ)
    (h : r.settled policy (bus.device + 1) = none) (hleft : left ≠ 0) :
    ∃ bus' : Bus Nat τ,
      (policy.attemptsFrom what r.operation r.accept index (left + 1)).run bus =
        (policy.attemptsFrom what r.operation r.accept (index + 1) left).run bus' ∧
      bus'.device = bus.device + 1 ∧
      pauses bus'.trace = pauses bus.trace ++ policy.rests 1 := by
  obtain ⟨log, hrun⟩ := run_of_unsettled what index left h
  obtain ⟨bus', hwait, hdevice, hpauses⟩ :=
    RetryPolicy.run_wait hpolicy { bus with device := bus.device + 1, log := log }
  refine ⟨bus', ?_, hdevice, hpauses⟩
  rw [hrun, RetryPolicy.goOn, if_neg hleft, run_bind_ok hwait]

/-- After `k` calls that settled nothing, each with its pause, the retries go on. -/
theorem exists_onward_after (k : Nat) (hpolicy : k ≠ 0 → policy.Waitable τ)
    (h : ∀ i < k, r.settled policy (bus.device + i + 1) = none) (hleft : left ≠ 0) :
    ∃ bus' : Bus Nat τ,
      (policy.attemptsFrom what r.operation r.accept index (left + k)).run bus =
        (policy.attemptsFrom what r.operation r.accept (index + k) left).run bus' ∧
      bus'.device = bus.device + k ∧
      pauses bus'.trace = pauses bus.trace ++ policy.rests k := by
  induction k generalizing left with
  | zero => exact ⟨bus, rfl, rfl, by rw [RetryPolicy.rests_zero, List.append_nil]⟩
  | succ k ih =>
    have hwaitable := hpolicy (Nat.succ_ne_zero k)
    obtain ⟨mid, hbefore, hmid, hpauses⟩ := ih (left + 1) (fun _ ↦ hwaitable)
      (fun i hi ↦ h i (Nat.lt_succ_of_lt hi)) (Nat.succ_ne_zero left)
    have hnone : r.settled policy (mid.device + 1) = none := by
      rw [hmid]
      exact h k (Nat.lt_succ_self k)
    obtain ⟨bus', hrun, hdevice, hpauses'⟩ :=
      exists_onward what (index + k) left hwaitable hnone hleft
    refine ⟨bus', ?_, by rw [hdevice, hmid, Nat.add_assoc], ?_⟩
    · rw [← Nat.add_assoc index, ← hrun, ← hbefore, Nat.add_assoc left, Nat.add_comm 1 k]
    · rw [hpauses', hpauses, List.append_assoc, RetryPolicy.rests_append]

/-- One call more is the last one if no pause follows it. -/
theorem Ended.of_last {bus' last : Bus Nat τ} {outcome : Except Fault α} {k : Nat}
    (hdevice : bus'.device = bus.device + k)
    (hpauses : pauses bus'.trace = pauses bus.trace ++ policy.rests k)
    (hlast : last.device = bus'.device + 1) (htrace : last.trace = bus'.trace) :
    Ended policy bus (outcome, last) outcome (k + 1) where
  outcome_eq := rfl
  calls_eq := by rw [hlast, hdevice, Nat.add_assoc]
  pauses_eq := by rw [htrace, hpauses, Nat.add_sub_cancel]

/-- The first call that settles the retries is the last one. -/
theorem ended_of_settled {k : Nat} (hpolicy : k ≠ 0 → policy.Waitable τ)
    (hbefore : ∀ i < k, r.settled policy (bus.device + i + 1) = none) {outcome : Except Fault α}
    (h : r.settled policy (bus.device + k + 1) = some outcome) :
    Ended policy bus
      ((policy.attemptsFrom what r.operation r.accept index (left + 1 + k)).run bus)
      outcome (k + 1) := by
  obtain ⟨bus', hrun, hdevice, hpauses⟩ :=
    exists_onward_after what index (left + 1) k hpolicy hbefore (Nat.succ_ne_zero left)
  rw [← hdevice] at h
  rw [hrun, run_of_settled what _ left h]
  exact .of_last hdevice hpauses rfl rfl

/-- If no call settles them, all are made, and the last one leaves its fault. -/
theorem ended_of_unsettled {k : Nat} (hpolicy : k ≠ 0 → policy.Waitable τ)
    (h : ∀ i ≤ k, r.settled policy (bus.device + i + 1) = none) :
    Ended policy bus ((policy.attemptsFrom what r.operation r.accept index (1 + k)).run bus)
      (.error (r.remnant policy what (bus.device + k + 1))) (k + 1) := by
  obtain ⟨bus', hrun, hdevice, hpauses⟩ :=
    exists_onward_after what index 1 k hpolicy (fun i hi ↦ h i (Nat.le_of_lt hi)) Nat.one_ne_zero
  have hlast := h k (Nat.le_refl k)
  rw [← hdevice] at hlast
  obtain ⟨log, hrun'⟩ := run_of_unsettled what (index + k) 0 hlast
  rw [hrun, hrun', RetryPolicy.goOn, if_pos rfl, run_throw, ← hdevice]
  exact .of_last hdevice hpauses rfl rfl

/-- Where a pause is due that cannot be waited, there is no second call. -/
theorem ended_of_unwaited {fault : Fault} (hpolicy : policy.Unwaited τ fault)
    (h : r.settled policy (bus.device + 1) = none) (hleft : left ≠ 0) :
    Ended policy bus ((policy.attemptsFrom what r.operation r.accept index (left + 1)).run bus)
      (.error fault) 1 := by
  obtain ⟨log, hrun⟩ := run_of_unsettled what index left h
  rw [hrun, RetryPolicy.goOn, if_neg hleft,
    run_bind_error (RetryPolicy.run_wait_of_unwaited hpolicy _)]
  exact .of_last rfl (by rw [RetryPolicy.rests_zero, List.append_nil]) rfl rfl

end Runs

/-- What retries of at most `n` calls come to. The first call that settles them is the last; if none
does, all are made and the last one leaves its fault, whatever came of the ones before. The pauses
are one fewer than the calls. Only where a pause is due that cannot be waited, that is the end after
one call, with the fault of the wait. -/
theorem ended_after (policy : RetryPolicy) (what : Text) {n : Nat}
    (hattempts : policy.attempts.toInt? = some (n : Int)) (hn : 1 ≤ n) {bus : Bus Nat τ}
    (hbus : bus.device = 0) :
    (∀ k, 1 ≤ k → k ≤ n → (2 ≤ k → policy.Waitable τ) →
      (∀ i, 1 ≤ i → i < k → r.settled policy i = none) →
      ∀ outcome, r.settled policy k = some outcome →
        Ended policy bus (r.retried policy what bus) outcome k) ∧
    ((2 ≤ n → policy.Waitable τ) → (∀ i, 1 ≤ i → i ≤ n → r.settled policy i = none) →
      Ended policy bus (r.retried policy what bus) (.error (r.remnant policy what n)) n) ∧
    (∀ fault, policy.Unwaited τ fault → 2 ≤ n → r.settled policy 1 = none →
      Ended policy bus (r.retried policy what bus) (.error fault) 1) := by
  have hrun : r.retried policy what bus =
      (policy.attemptsFrom what r.operation r.accept 1 n).run bus := by
    rw [retried, RetryPolicy.run, hattempts]
    rfl
  have hcall : ∀ i, bus.device + i + 1 = i + 1 := fun i ↦ by rw [hbus, Nat.zero_add]
  rw [hrun]
  refine ⟨?_, ?_, ?_⟩
  · intro k hk hkn hpolicy hbefore outcome h
    obtain ⟨k, rfl⟩ := Nat.exists_eq_add_of_le' hk
    obtain ⟨left, rfl⟩ : ∃ left, n = left + 1 + k := ⟨n - (k + 1), by omega⟩
    refine ended_of_settled what 1 left (fun hk ↦ hpolicy (by omega)) (fun i hi ↦ ?_) ?_
    · rw [hcall]
      exact hbefore (i + 1) (by omega) (by omega)
    · rw [hcall]
      exact h
  · intro hpolicy h
    obtain ⟨k, rfl⟩ := Nat.exists_eq_add_of_le hn
    have hended : Ended policy bus
        ((policy.attemptsFrom what r.operation r.accept 1 (1 + k)).run bus)
        (.error (r.remnant policy what (bus.device + k + 1))) (k + 1) := by
      refine ended_of_unsettled what 1 (fun hk ↦ hpolicy (by omega)) fun i hi ↦ ?_
      rw [hcall]
      exact h (i + 1) (by omega) (by omega)
    rwa [hcall, Nat.add_comm k 1] at hended
  · intro fault hpolicy htwo h
    obtain ⟨left, rfl⟩ := Nat.exists_eq_add_of_le' hn
    refine ended_of_unwaited what 1 left hpolicy ?_ (by omega)
    rw [hbus]
    exact h

/-- Three calls: the first is lost, the second gives a result that is not acceptable. -/
def thirdTime : Rehearsal Nat where
  outcome k := if k = 1 then .error (.reported .transfer "lost") else .ok k
  verdict? := some fun k ↦ .ok (k == 3)

/-- A line on which nothing has happened yet. -/
def start : Bus Nat τ where
  device := 0
  clock := Zero.zero
  spacing := ⟨Zero.zero, none⟩

/-- With a delay of a second, the third of three attempts gives the result after two pauses. -/
theorem ended_after_rejection :
    Ended ⟨.int 3, .int 1, RetryPolicy.ownFaults⟩ (start : Bus Nat Rat)
      (thirdTime.retried ⟨.int 3, .int 1, RetryPolicy.ownFaults⟩ "operation" start) (.ok 3) 3 := by
  have hwaitable : RetryPolicy.Waitable Rat ⟨.int 3, .int 1, RetryPolicy.ownFaults⟩ :=
    .inr ⟨1, Number.waited_int (by decide) (by decide)⟩
  refine (thirdTime.ended_after _ "operation" (n := 3) rfl (by decide) rfl).1 3 (by decide)
    (by decide) (fun _ ↦ hwaitable) (fun i hi hlt ↦ ?_) _ rfl
  obtain rfl | rfl : i = 1 ∨ i = 2 := by omega
  · rfl
  · rfl

/-- Three attempts with a delay that no double holds. -/
def overlong : RetryPolicy :=
  ⟨.int 3, .int (10 ^ 200 * 10 ^ 200), RetryPolicy.ownFaults⟩

/-- Three attempts with a delay that doubles hold, and that is more than three centuries. -/
def centuries : RetryPolicy := ⟨.int 3, .int 10000000000, RetryPolicy.ownFaults⟩

/-- Such a delay cannot be waited even on a played clock. -/
theorem unwaited_overlong : overlong.Unwaited Float .tooLarge where
  delay := by decide
  wait_eq := by
    have hnone : overlong.delay.toFloat? = none :=
      Option.isNone_iff_eq_none.mp (by decide +kernel)
    show Number.toSeconds _ = _
    rw [Number.toSeconds, hnone]

theorem unwaited_centuries : centuries.Unwaited SystemTime .tooLarge where
  delay := by decide
  wait_eq := by
    show (Number.waited _).bind _ = _
    rw [centuries, Number.waited_int_of_le (by decide)]
    rfl

/-- No pause can be made of such a delay: the first failed attempt is the last, although the third
would have given a result. -/
theorem ended_by_overlong_delay :
    RetryPolicy.ofNumbers overlong.attempts overlong.delay overlong.retryOn = .ok overlong ∧
    thirdTime.settled overlong 1 = none ∧ thirdTime.settled overlong 2 = none ∧
    thirdTime.settled overlong 3 = some (.ok 3) ∧
    ¬Ended overlong (start : Bus Nat Float) (thirdTime.retried overlong "operation" start)
      (.ok 3) 3 ∧
    Ended overlong (start : Bus Nat Float) (thirdTime.retried overlong "operation" start)
      (.error .tooLarge) 1 ∧
    Ended centuries (start : Bus Nat SystemTime) (thirdTime.retried centuries "operation" start)
      (.error .tooLarge) 1 := by
  have hended : Ended overlong (start : Bus Nat Float)
      (thirdTime.retried overlong "operation" start) (.error .tooLarge) 1 :=
    ended_of_unwaited "operation" 1 2 unwaited_overlong rfl (by decide)
  have hcenturies : Ended centuries (start : Bus Nat SystemTime)
      (thirdTime.retried centuries "operation" start) (.error .tooLarge) 1 :=
    ended_of_unwaited "operation" 1 2 unwaited_centuries rfl (by decide)
  refine ⟨rfl, rfl, rfl, rfl, fun h ↦ ?_, hended, hcenturies⟩
  have hcalls := h.calls_eq.symm.trans hended.calls_eq
  exact absurd hcalls (by decide)

end Rehearsal

end MouseControl
