import MouseControl.Proofs.Line.Course
import MouseControl.Session.Create

/-!
What settings make of a session. A number becomes part of a retry policy only after it has passed
the checks of the policy (`RetryPolicy.ofNumbers_eq_ok_iff`), so whatever settings say, a session
that could be set up reads with at least one attempt, does not wait between two of them and repeats
what failed in a way of this library's own (`Settings.readPolicy_of_tuning`).
-/

set_option autoImplicit false
set_option relaxedAutoImplicit false

namespace MouseControl

open MouseControl.Action

variable {S τ α β : Type}

/-- A result of two actions in a row is a result of the second that follows one of the first. -/
theorem Action.exists_of_run_bind_ok {x : Action S α} {next : α → Action S β} {s : S} {b : β}
    (h : ((x >>= next).run s).1 = .ok b) :
    ∃ a, (x.run s).1 = .ok a ∧ ((next a).run (x.run s).2).1 = .ok b := by
  rw [run_bind] at h
  rcases hx : x.run s with ⟨fault | a, t⟩
  · rw [hx] at h
    cases h
  · rw [hx] at h
    exact ⟨a, rfl, h⟩

/-- The policies of a tuning are built from numbers that the settings are read as. -/
theorem Settings.exists_of_tuning [TimeScale τ] {settings : Settings} {notices : List Notice}
    {tuning : Tuning τ} (h : (settings.tuning.run notices).1 = .ok tuning) :
    ∃ (reads probes : Int) (delay : Float),
      (∃ before, (settings.probeDelay.run before).1 = .ok delay) ∧
        RetryPolicy.ofNumbers (.int reads) (.float Protocol.readDelay) RetryPolicy.ownFaults =
          .ok tuning.readPolicy ∧
        RetryPolicy.ofNumbers (.int probes) (.float delay) RetryPolicy.ownFaults =
          .ok tuning.probePolicy := by
  obtain ⟨gap, -, h⟩ := exists_of_run_bind_ok h
  obtain ⟨spacing, -, h⟩ := exists_of_run_bind_ok h
  obtain ⟨reads, -, h⟩ := exists_of_run_bind_ok h
  obtain ⟨readPolicy, hread, h⟩ := exists_of_run_bind_ok h
  obtain ⟨timeout, -, h⟩ := exists_of_run_bind_ok h
  obtain ⟨probes, -, h⟩ := exists_of_run_bind_ok h
  obtain ⟨delay, hdelay, h⟩ := exists_of_run_bind_ok h
  obtain ⟨probePolicy, hprobe, h⟩ := exists_of_run_bind_ok h
  cases h
  exact ⟨reads, probes, delay, ⟨_, hdelay⟩, hread, hprobe⟩

/-- An integer number of attempts passes the check of a policy if there is one at least. -/
theorem RetryPolicy.attempts_of_ofNumbers {attempts : Int} {delay : Number}
    {retryOn : List FaultKind} {policy : RetryPolicy}
    (h : ofNumbers (.int attempts) delay retryOn = .ok policy) :
    1 ≤ attempts ∧ policy = ⟨.int attempts, delay, retryOn⟩ := by
  obtain ⟨hattempts, -, hpolicy⟩ := ofNumbers_eq_ok_iff.mp h
  exact ⟨by simpa [Number.below] using hattempts, hpolicy⟩

/-- The policy of reads of a session that was set up from settings. -/
theorem Settings.readPolicy_of_tuning [TimeScale τ] {settings : Settings} {notices : List Notice}
    {tuning : Tuning τ} (h : (settings.tuning.run notices).1 = .ok tuning) :
    ∃ attempts : Int, 1 ≤ attempts ∧
      tuning.readPolicy = ⟨.int attempts, .float Protocol.readDelay, RetryPolicy.ownFaults⟩ := by
  obtain ⟨reads, probes, delay, -, hread, -⟩ := exists_of_tuning h
  exact ⟨reads, RetryPolicy.attempts_of_ofNumbers hread⟩

/-- The attempts at a probe of such a session. -/
theorem Settings.attempts_of_tuning [TimeScale τ] {settings : Settings} {notices : List Notice}
    {tuning : Tuning τ} (h : (settings.tuning.run notices).1 = .ok tuning) :
    ∃ attempts : Int, 1 ≤ attempts ∧ tuning.probePolicy.attempts = .int attempts := by
  obtain ⟨reads, probes, delay, -, -, hprobe⟩ := exists_of_tuning h
  obtain ⟨hattempts, hpolicy⟩ := RetryPolicy.attempts_of_ofNumbers hprobe
  exact ⟨probes, hattempts, congrArg RetryPolicy.attempts hpolicy⟩

end MouseControl
