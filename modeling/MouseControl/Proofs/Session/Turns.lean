import MouseControl.Proofs.Command.Turn
import MouseControl.Proofs.Session.OnLine
import MouseControl.Proofs.Session.Tuning

/-!
What a session says on the wire. Whatever is done with a session and whatever its transport makes of
it, the raw transfers of a run are turns, one after another (`turnByTurn_after`).
-/

set_option autoImplicit false
set_option relaxedAutoImplicit false

namespace MouseControl.Session

variable {σ τ : Type} [TimeScale τ]

/-- The transfers of every run of a session that was set up from settings are turns: no write is
made twice in one, and nothing is read without a write of its own that was taken whole. -/
theorem turnByTurn_after {settings : Settings} {notices : List Notice} {tuning : Tuning τ}
    (htuning : (settings.tuning.run notices).1 = .ok tuning) (model : Model)
    (transport : Transport σ τ) (bus : Bus σ τ) (steps : List (Step τ)) :
    let s := after (mouseOf model transport tuning) (start model { bus with trace := [] }) steps
    ∃ attempts : Nat, tuning.readPolicy.attempts = .int attempts ∧ 1 ≤ attempts ∧
      TurnByTurn tuning.timeout attempts (transfers s.bus.trace) := by
  intro s
  obtain ⟨n, hpos, hpolicy⟩ := Settings.readPolicy_of_tuning htuning
  obtain ⟨attempts, rfl⟩ := Int.eq_ofNat_of_zero_le (by omega : 0 ≤ n)
  have hone : 1 ≤ attempts := by exact_mod_cast hpos
  refine ⟨attempts, by rw [hpolicy], hone, ?_⟩
  let mouse := mouseOf model transport tuning
  have hown : mouse.channel.readPolicy.retryOn = RetryPolicy.ownFaults :=
    congrArg RetryPolicy.retryOn hpolicy
  have hattempts : mouse.channel.readPolicy.attempts.toInt? = some (attempts : Int) :=
    congrArg (fun policy ↦ policy.attempts.toInt?) hpolicy
  have hline : Bus.TakesTurns mouse.channel.timeout attempts { bus with trace := [] } s.bus :=
    onLine_after (fun _ _ ↦ Bus.Silent.takesTurns) mouse
      (Channel.takesTurns_push hown hattempts hone)
      (Channel.takesTurns_probe hown hattempts hone mouse.probePolicy)
      (start model { bus with trace := [] }) steps
  obtain ⟨new, htrace, hturns⟩ := hline
  rw [htrace]
  exact hturns

/-- Of two reads allowed, the first of the frequency's response comes short, and the session goes on
under another claim after a write that was not taken whole. -/
theorem turnByTurn_after_faults :
    let settings := Settings.ofMembers [("usb", .object [("read_attempts", .int 2)])] {}
    let tuning : Tuning Rat :=
      { spacing := ⟨(25 : Int) / 1000, none⟩
        readPolicy := ⟨.int 2, .float Protocol.readDelay, RetryPolicy.ownFaults⟩
        timeout := 3000
        probePolicy := ⟨.int 5, .float Protocol.probeDelay, RetryPolicy.ownFaults⟩ }
    let model := Model.forPid Model.known Protocol.thirdEditionPid
    let bus := recorded { writes := [.ok 90, .ok 7], reads := [.error (.reported .transfer "")] }
    let steps : List (Step Rat) := [.claimed [.commit false], .setUp]
    (settings.tuning.run []).1 = .ok tuning ∧
      let s :=
        after (mouseOf model Replay.transport tuning) (start model { bus with trace := [] }) steps
      ∃ attempts : Nat, tuning.readPolicy.attempts = .int attempts ∧ 1 ≤ attempts ∧
        TurnByTurn tuning.timeout attempts (transfers s.bus.trace) := by
  intro settings tuning model bus steps
  have htuning : (settings.tuning.run []).1 = .ok tuning := rfl
  exact ⟨htuning, turnByTurn_after htuning model Replay.transport bus steps⟩

end MouseControl.Session
