import MouseControl.Line.Replay
import MouseControl.Proofs.Number.Order
import MouseControl.Proofs.Session.Tuning
import MouseControl.Proofs.Settings.Reading

/-!
The retry policies of a session. A policy is built of two numbers unless one of them lies below its
bound, so each of them reaches its bound or is a NaN (`RetryPolicy.ofValues_eq_ok_iff`). Attempts
are read as integers and reads are repeated at once, so of all that settings say only the pause
between two probes can be a NaN. Setting up a session reads the settings and leaves the transport
alone, whether it succeeds or not (`Session.policies_of_settings`).
-/

set_option autoImplicit false
set_option relaxedAutoImplicit false

namespace MouseControl

open MouseControl.Action

namespace RetryPolicy

variable {policy : RetryPolicy}

/-- A policy tries at least once and does not wait a negative time. -/
structure Sound (policy : RetryPolicy) : Prop where
  one_le_attempts : policy.attempts.AtLeast 1
  zero_le_delay : policy.delay.AtLeast 0

/-- The numbers of a policy reach their bounds, or cannot be compared with them. -/
structure Unrefuted (policy : RetryPolicy) : Prop where
  attempts : policy.attempts.AtLeast 1 ∨ policy.attempts.IsNaN
  delay : policy.delay.AtLeast 0 ∨ policy.delay.IsNaN

theorem Unrefuted.sound_iff (h : policy.Unrefuted) :
    policy.Sound ↔ ¬policy.attempts.IsNaN ∧ ¬policy.delay.IsNaN := by
  constructor
  · rintro ⟨hattempts, hdelay⟩
    exact ⟨hattempts.not_isNaN, hdelay.not_isNaN⟩
  · rintro ⟨hattempts, hdelay⟩
    exact ⟨h.attempts.resolve_right hattempts, h.delay.resolve_right hdelay⟩

/-- The checks of a policy are those two comparisons. -/
theorem ofNumbers_eq_ok_iff_unrefuted {attempts delay : Number} {retryOn : List FaultKind} :
    ofNumbers attempts delay retryOn = .ok policy ↔
      policy = ⟨attempts, delay, retryOn⟩ ∧ policy.Unrefuted := by
  rw [ofNumbers_eq_ok_iff, Number.below_eq_false_iff (.inr rfl),
    Number.below_eq_false_iff (.inl rfl)]
  constructor
  · rintro ⟨hattempts, hdelay, rfl⟩
    exact ⟨rfl, hattempts, hdelay⟩
  · rintro ⟨rfl, hattempts, hdelay⟩
    exact ⟨hattempts, hdelay, rfl⟩

/-- Values make a policy if they are numbers that do. -/
theorem ofValues_eq_ok_iff {attempts delay : Value} {retryOn : List FaultKind} :
    ofValues attempts delay retryOn = .ok policy ↔
      attempts.toNumber? = some policy.attempts ∧ delay.toNumber? = some policy.delay ∧
        policy.retryOn = retryOn ∧ policy.Unrefuted := by
  unfold ofValues
  rcases attempts.toNumber? with _ | n
  · simp
  rcases delay.toNumber? with _ | x
  · simp only [reduceCtorEq, false_and, and_false, iff_false]
    split <;> simp
  · dsimp only
    rw [ofNumbers_eq_ok_iff_unrefuted]
    constructor
    · rintro ⟨rfl, h⟩
      exact ⟨rfl, rfl, rfl, h⟩
    · rintro ⟨hattempts, hdelay, rfl, h⟩
      cases hattempts
      cases hdelay
      exact ⟨rfl, h⟩

end RetryPolicy

/-- Reads are repeated at once. -/
theorem Number.not_isNaN_readDelay : ¬(Number.float Protocol.readDelay).IsNaN := by
  rintro ⟨y, h, hnan⟩
  cases h
  revert hnan
  decide +kernel

/-- Whatever notices there are, a setting is read as its value says. -/
theorem Settings.Yields.exists_reads {α : Type} {s : Settings} {reading : Reading α}
    {c : Conversion α} {key : String} {default a : α} (h : s.Yields reading c key default)
    {notices : List Notice} (hread : (reading.run notices).1 = .ok a) :
    ∃ new, Reads c key default (Value.lookup key s.usb) (.ok a) new := by
  obtain ⟨outcome, new, hcomes, hreads⟩ := h
  rw [hcomes.run_eq] at hread
  exact ⟨new, hread ▸ hreads⟩

/-- A tuning reads by a sound policy, and probes by one if the pause it was given is no NaN. -/
theorem Settings.policies_of_tuning {τ : Type} [TimeScale τ] {s : Settings}
    {notices : List Notice} {tuning : Tuning τ} (h : (s.tuning.run notices).1 = .ok tuning) :
    tuning.readPolicy.Sound ∧ tuning.probePolicy.Unrefuted ∧
      (tuning.probePolicy.Sound ↔ ¬tuning.probePolicy.delay.IsNaN) ∧
      ∃ delay new, tuning.probePolicy.delay = .float delay ∧
        Reads .real "probe_delay_s" Protocol.probeDelay (Value.lookup "probe_delay_s" s.usb)
          (.ok delay) new := by
  obtain ⟨reads, probes, delay, ⟨before, hdelay⟩, hread, hprobe⟩ := exists_of_tuning h
  obtain ⟨new, hsetting⟩ :=
    (s.yields_number "probe_delay_s" _ Value.ends_realNumber).exists_reads hdelay
  obtain ⟨hreadPolicy, hreads⟩ := RetryPolicy.ofNumbers_eq_ok_iff_unrefuted.mp hread
  obtain ⟨hprobePolicy, hprobes⟩ := RetryPolicy.ofNumbers_eq_ok_iff_unrefuted.mp hprobe
  rw [hreads.sound_iff, hprobes.sound_iff, hreadPolicy, hprobePolicy]
  exact ⟨⟨Number.not_isNaN_int reads, Number.not_isNaN_readDelay⟩, hprobePolicy ▸ hprobes,
    and_iff_right (Number.not_isNaN_int probes), delay, new, rfl, hsetting⟩

namespace Session

variable {σ τ : Type} [TimeScale τ]

/-- A session is created as the settings tune it. -/
theorem run_create (model : Model) (transport : Transport σ τ) (device : σ) (clock : τ)
    (s : Settings) (notices : List Notice) :
    ((create model transport device clock s).run notices).1 =
      (s.tuning.run notices).1.map fun tuning ↦ (mouseOf model transport tuning,
        start model { device := device, clock := clock, spacing := tuning.spacing }) := by
  rw [create, run_bind]
  rcases s.tuning.run notices with ⟨fault | tuning, after⟩ <;> rfl

/-- A policy is built exactly of numbers that reach their bounds or are NaNs. So every session that
settings make reads by a sound policy; it probes by one as well unless the pause between two probes
is read as a NaN. To create a session is to read the settings, which decide alone whether it fails,
and one that was created has made no call. -/
theorem policies_of_settings (model : Model) (transport : Transport σ τ) (device : σ) (clock : τ)
    (s : Settings) (notices : List Notice) :
    let created := ((create model transport device clock s).run notices).1
    (∀ (attempts delay : Value) (retryOn : List FaultKind) (policy : RetryPolicy),
      RetryPolicy.ofValues attempts delay retryOn = .ok policy ↔
        attempts.toNumber? = some policy.attempts ∧ delay.toNumber? = some policy.delay ∧
          policy.retryOn = retryOn ∧ policy.Unrefuted) ∧
      (∀ mouse session, created = .ok (mouse, session) →
        mouse.channel.readPolicy.Sound ∧ mouse.probePolicy.Unrefuted ∧
          (mouse.probePolicy.Sound ↔ ¬mouse.probePolicy.delay.IsNaN) ∧
          (∃ delay new, mouse.probePolicy.delay = .float delay ∧
            Settings.Reads .real "probe_delay_s" Protocol.probeDelay
              (Value.lookup "probe_delay_s" s.usb) (.ok delay) new) ∧
          session.bus.device = device ∧ session.bus.clock = clock ∧ session.bus.trace = []) ∧
      ∀ fault, created = .error fault ↔ (s.tuning (τ := τ).run notices).1 = .error fault := by
  intro created
  have hcreated : created = _ := run_create model transport device clock s notices
  refine ⟨fun _ _ _ _ ↦ RetryPolicy.ofValues_eq_ok_iff, fun mouse session h ↦ ?_, fun fault ↦ ?_⟩
  · rw [hcreated] at h
    rcases htuning : (s.tuning (τ := τ).run notices).1 with fault | tuning
    · rw [htuning] at h
      cases h
    rw [htuning] at h
    cases h
    obtain ⟨hread, hprobe, hsound, hdelay⟩ := Settings.policies_of_tuning htuning
    exact ⟨hread, hprobe, hsound, hdelay, rfl, rfl, rfl⟩
  · rw [hcreated]
    rcases (s.tuning.run notices).1 with _ | _ <;> simp [Except.map]

/-- A pause that is a NaN is not refused, though it is no pause of zero seconds or more. -/
theorem policies_of_unordered_delay :
    let s := Settings.ofMembers [("usb", .object [("probe_delay_s", .float (0.0 / 0.0))])] {}
    let created := ((create (Model.forPid Model.known Protocol.classicPid)
      (Replay.transport (τ := Float)) {} 0 s).run []).1
    (∃ mouse session, created = .ok (mouse, session) ∧ ¬mouse.probePolicy.delay.AtLeast 0) ∧
      ¬∀ (attempts delay : Number) (policy : RetryPolicy),
        RetryPolicy.ofNumbers attempts delay RetryPolicy.ownFaults = .ok policy →
          attempts.AtLeast 1 ∧ delay.AtLeast 0 := by
  intro s created
  have hnan : (Number.float (0.0 / 0.0)).IsNaN := ⟨_, rfl, rfl⟩
  refine ⟨⟨_, _, rfl, fun hreached ↦ hreached.not_isNaN hnan⟩, fun hsound ↦ ?_⟩
  exact (hsound (.int 1) (.float (0.0 / 0.0)) _ rfl).2.not_isNaN hnan

end Session

end MouseControl
