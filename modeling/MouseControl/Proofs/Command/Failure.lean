import MouseControl.Proofs.Command.Push

/-!
What an exchange can fail with. Over a transport that only ever fails to transfer, a write fails in
no other way, unless it is answered with a count too long to be written (`fault_of_write`), and
neither does a read, as long as the policy of reads makes an attempt at all and does not wait
between two (`kind_of_read`). So does an exchange, unless the observer of anomalies objects to the
answer (`fault_of_took`), and every exchange of a push (`fault_of_chained`).
-/

set_option autoImplicit false
set_option relaxedAutoImplicit false

namespace MouseControl

open MouseControl.Action

variable {σ τ : Type}

/-- The transfers of a transport fail in one way only. -/
structure Transport.OnlyFailsToTransfer (t : Transport σ τ) : Prop where
  write : ∀ call device fault, (t.write call device).outcome = .error fault →
    fault.kind = .transfer
  read : ∀ call device fault, (t.read call device).outcome = .error fault →
    fault.kind = .transfer

/-- A policy that makes at least one attempt and does not wait between two. -/
structure RetryPolicy.Immediate (policy : RetryPolicy) : Prop where
  attempts : ∃ n : Int, policy.attempts.toInt? = some n ∧ 1 ≤ n
  delay : policy.delay.equalsInt 0 = true

variable [TimeScale τ]

/-- Attempts without a wait between them fail as one of them does. -/
theorem RetryPolicy.attemptsFrom_eq_error {α : Type} {policy : RetryPolicy} {what : Text}
    {operation : Action (Bus σ τ) α} {allowed : Fault → Prop}
    (hdelay : policy.delay.equalsInt 0 = true)
    (hoperation : ∀ bus fault, (operation.run bus).1 = .error fault → allowed fault)
    {left : Nat} (hleft : left ≠ 0) {index : Nat} {bus : Bus σ τ} {fault : Fault}
    (h : ((policy.attemptsFrom what operation none index left).run bus).1 = .error fault) :
    allowed fault := by
  induction left generalizing index bus with
  | zero => exact absurd rfl hleft
  | succ left ih =>
    rcases policy.run_attemptsFrom_succ what operation index left bus with
      ⟨result, -, hrun⟩ | ⟨own, hown, between, -, hnext⟩
    · rw [hrun] at h
      exact hoperation bus fault h
    rcases hnext with ⟨last, hrun, hlast⟩ | ⟨-, hmore, hrun⟩
    · rw [hrun] at h
      obtain rfl : last = fault := Except.error.inj h
      rw [hlast hdelay]
      exact hoperation bus own hown
    · rw [hrun] at h
      exact ih hmore h

/-- The write of an exchange was answered with a count too long to be written. -/
def Exchange.Overcounted (e : Exchange σ τ) : Prop :=
  ∃ call count, .wrote call (.ok count) ∈ e.transfers ∧ ¬isWritable count = true

namespace Channel

variable {c : Channel σ τ} (htransport : c.transport.OnlyFailsToTransfer)

include htransport

theorem fault_of_write {request value : Int} {data : Bytes} {bus : Bus σ τ} {fault : Fault}
    (h : ((c.write request value data).run bus).1 = .error fault) :
    fault.kind = .transfer ∨ fault = .unwritable ∧ ∃ count, ¬isWritable count = true ∧
      transfers ((c.write request value data).run bus).2.trace =
        transfers bus.trace ++ [.wrote (c.writeCall request value data) (.ok count)] := by
  obtain ⟨houtcome, hsilent⟩ := c.outcome_write request value data bus
  obtain ⟨htransfers, -⟩ := Bus.run_spaced_call (.wrote (c.writeCall request value data))
    (c.transport.write (c.writeCall request value data)) (fun _ ↦ rfl) bus
  rw [← rawWrite, ← hsilent.transfers_eq] at htransfers
  obtain hfault | ⟨count, hcount, hworded⟩ := wholly_eq_error (houtcome.symm.trans h)
  · rw [rawWrite, Bus.run_spaced] at hfault
    exact .inl (htransport.write _ _ _ hfault)
  · rw [hcount] at htransfers
    have hkind : (Fault.shortWrite request value count data.length).kind = .transfer := rfl
    by_cases hwritable : (Fault.shortWrite request value count data.length).isWritable = true
    · rw [hworded, Fault.worded_of_isWritable hwritable]
      exact .inl hkind
    · rw [hworded, Fault.worded_of_not_isWritable hwritable]
      exact .inr ⟨rfl, count, hwritable, htransfers⟩

theorem kind_of_readOnce {request value length : Int} (hlength : isWritable length = true)
    {bus : Bus σ τ} {fault : Fault}
    (h : ((c.readOnce request value length).run bus).1 = .error fault) :
    fault.kind = .transfer := by
  rw [c.outcome_readOnce request value length bus, rawRead, Bus.run_spaced] at h
  obtain hfault | ⟨data, -, hworded⟩ := exactly_eq_error h
  · exact htransport.read _ _ _ hfault
  · have hwritable : (Fault.shortRead request value data.length length).isWritable = true := hlength
    rw [hworded, Fault.worded_of_isWritable hwritable]
    rfl

theorem kind_of_read (hpolicy : c.readPolicy.Immediate) {request value length : Int}
    (hlength : isWritable length = true) {bus : Bus σ τ} {fault : Fault}
    (h : ((c.read request value length).run bus).1 = .error fault) : fault.kind = .transfer := by
  obtain ⟨n, hcount, hpos⟩ := hpolicy.attempts
  have hleft : n.toNat ≠ 0 := by omega
  rw [(c.outcome_read request value length bus).1, attempting,
    RetryPolicy.run_of_counted hcount] at h
  exact RetryPolicy.attemptsFrom_eq_error hpolicy.delay
    (fun _ _ hattempt ↦ kind_of_readOnce htransport hlength hattempt) hleft h

/-- An exchange of a sealed frame fails in a transfer, because the observer of anomalies objects to
the answer, or for want of the words for a count. -/
theorem fault_of_took (hpolicy : c.readPolicy.Immediate) {e : Exchange σ τ}
    (hframe : Frame.Sealed e.frame) (htook : e.Took c) {fault : Fault}
    (h : e.outcome = .error fault) :
    fault.kind = .transfer ∨ (∃ data, e.before.anomalyObserver.ObjectsTo e.frame data fault) ∨
      fault = .unwritable ∧ e.Overcounted := by
  obtain ⟨sent, hsent, hrun⟩ := c.run_exchange hframe e.before
  rw [htook.run_eq, h, run_bind] at hrun
  obtain ⟨_, -, hwritten, -⟩ :=
    c.transfers_write Protocol.writeRequest Protocol.commandValue e.frame e.before
  rcases hwrite : (c.write Protocol.writeRequest Protocol.commandValue e.frame).run e.before with
    ⟨own | _, written⟩
  · rw [hwrite] at hrun
    cases hrun
    obtain hkind | ⟨rfl, count, hcount, htransfers⟩ :=
      fault_of_write htransport (congrArg Prod.fst hwrite)
    · exact .inl hkind
    · rw [hwrite, htook.transfers_eq] at htransfers
      have hnew := List.append_cancel_left htransfers
      refine .inr (.inr ⟨rfl, c.frameWrite e.frame, count, ?_, hcount⟩)
      rw [hnew]
      exact .head _
  rw [hwrite] at hrun hwritten
  dsimp only at hrun
  rw [run_bind] at hrun
  obtain ⟨_, -, hread, -, houtcome⟩ :=
    c.transfers_read Protocol.readRequest Protocol.commandValue Protocol.frameSize written
  rcases hreading : (c.read Protocol.readRequest Protocol.commandValue
      Protocol.frameSize).run written with ⟨own | data, after⟩
  · rw [hreading] at hrun
    cases hrun
    exact .inl (kind_of_read htransport hpolicy (by decide) (congrArg Prod.fst hreading))
  · rw [hreading] at hrun hread houtcome
    obtain ⟨_, -, hlength, -⟩ := houtcome.of_ok data rfl
    have hdata : data.length = Protocol.frameSize := by exact_mod_cast hlength
    rw [← hwritten, ← hread]
    have hunderstood := (run_understand hsent hdata after).2 fault (congrArg Prod.fst hrun).symm
    exact .inr (.inl ⟨data, hunderstood⟩)

/-- Throughout a chain the exchanges fail so, and it is the same observer who can object. -/
theorem fault_of_chained (hpolicy : c.readPolicy.Immediate) {exchanges : List (Exchange σ τ)} :
    ∀ {bus last : Bus σ τ}, c.Chained bus exchanges last →
      (∀ e ∈ exchanges, Frame.Sealed e.frame) → ∀ e ∈ exchanges, ∀ fault,
        e.outcome = .error fault → fault.kind = .transfer ∨
          (∃ data, bus.anomalyObserver.ObjectsTo e.frame data fault) ∨
            fault = .unwritable ∧ e.Overcounted := by
  induction exchanges with
  | nil => exact fun _ _ ↦ List.forall_mem_nil _
  | cons e rest ih =>
    rintro bus last ⟨rfl, htook, hrest⟩ hsealed
    obtain ⟨hframe, hsealed⟩ := List.forall_mem_cons.mp hsealed
    refine List.forall_mem_cons.mpr ⟨fun fault houtcome ↦ ?_, ?_⟩
    · exact fault_of_took htransport hpolicy hframe htook houtcome
    · rw [← htook.observer_eq]
      exact ih hrest hsealed

end Channel

end MouseControl
