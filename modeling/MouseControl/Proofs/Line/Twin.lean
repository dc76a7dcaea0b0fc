import Mathlib.Data.List.Forall2
import MouseControl.Proofs.Line.Extract
import MouseControl.Proofs.Line.Transaction

/-!
Two channels on transports of different make. Their transfers give the same results or both fail,
each in its own words (`Action.Equivalent`). Two actions are in step if from related states they
come to equivalent outcomes and related states (`Action.InStep`), which is closed under the ways of
building actions. Two lines are twins if they keep the same time and made the same pauses, whatever
became of their devices (`Bus.Twin`). Then channels with one policy of reads carry out every
transaction alike (`Channel.twin_carryOut`), and with it every run (`Channel.twin_trail`); what can
end a transaction besides a failure to transfer is the same fault on both (`Transaction.Excepted`).
-/

set_option autoImplicit false
set_option relaxedAutoImplicit false

namespace MouseControl

variable {σ σ' τ α β : Type}

namespace Action

variable {S S' : Type}

/-- The same result, two failures to transfer, or one and the same of the faults that are
excepted. -/
inductive Equivalent (excepted : Fault → Prop) : Except Fault α → Except Fault α → Prop where
  | ok (a : α) : Equivalent excepted (.ok a) (.ok a)
  | failed {fault fault' : Fault} (h : fault.kind = .transfer) (h' : fault'.kind = .transfer) :
      Equivalent excepted (.error fault) (.error fault')
  | same {fault : Fault} (h : excepted fault) : Equivalent excepted (.error fault) (.error fault)

theorem Equivalent.kind_eq {excepted : Fault → Prop} {fault fault' : Fault}
    (h : Equivalent excepted (.error fault : Except Fault α) (.error fault')) :
    fault'.kind = fault.kind := by
  cases h with
  | failed h h' => rw [h, h']
  | same => rfl

/-- Only of the faults that occur does it matter whether they are excepted. -/
theorem Equivalent.mono {excepted excepted' : Fault → Prop} {outcome outcome' : Except Fault α}
    (h : Equivalent excepted outcome outcome')
    (himp : ∀ fault, outcome = .error fault → excepted fault → excepted' fault) :
    Equivalent excepted' outcome outcome' := by
  cases h with
  | ok a => exact .ok a
  | failed h h' => exact .failed h h'
  | same h => exact .same (himp _ rfl h)

theorem Equivalent.kind_of_error {fault : Fault} {outcome' : Except Fault α}
    (h : Equivalent (fun _ ↦ False) (.error fault) outcome') : fault.kind = .transfer := by
  cases h with
  | failed h => exact h
  | same h => exact h.elim

/-- A failure to transfer whose words may be too long. -/
theorem equivalent_worded {excepted : Fault → Prop} {fault : Fault} (hkind : fault.kind = .transfer)
    (hexcepted : ¬fault.isWritable = true → excepted .unwritable) :
    Equivalent excepted (.error fault.worded : Except Fault α) (.error fault.worded) := by
  by_cases hwritable : fault.isWritable = true
  · rw [Fault.worded_of_isWritable hwritable]
    exact .failed hkind hkind
  · rw [Fault.worded_of_not_isWritable hwritable]
    exact .same (hexcepted hwritable)

/-- From related states, two actions come to equivalent outcomes and related states. -/
def InStep (excepted : Fault → Prop) (rel : S → S' → Prop) (x : Action S α) (y : Action S' α) :
    Prop :=
  ∀ s s', rel s s' → Equivalent excepted (x.run s).1 (y.run s').1 ∧ rel (x.run s).2 (y.run s').2

section InStep

variable {excepted : Fault → Prop} {rel : S → S' → Prop}

theorem inStep_pure (a : α) : InStep excepted rel (pure a) (pure a) :=
  fun _ _ h ↦ ⟨.ok a, h⟩

theorem inStep_throw {fault fault' : Fault}
    (h : Equivalent excepted (.error fault : Except Fault α) (.error fault')) :
    InStep excepted rel (throw fault : Action S α) (throw fault') :=
  fun _ _ hs ↦ ⟨h, hs⟩

theorem inStep_ite {c : Prop} [Decidable c] {x y : Action S α} {x' y' : Action S' α}
    (hx : c → InStep excepted rel x x') (hy : ¬c → InStep excepted rel y y') :
    InStep excepted rel (if c then x else y) (if c then x' else y') := by
  by_cases h : c
  · rw [if_pos h, if_pos h]
    exact hx h
  · rw [if_neg h, if_neg h]
    exact hy h

theorem inStep_bind {x : Action S α} {x' : Action S' α} {next : α → Action S β}
    {next' : α → Action S' β} (hx : InStep excepted rel x x')
    (hnext : ∀ a, InStep excepted rel (next a) (next' a)) :
    InStep excepted rel (x >>= next) (x' >>= next') := by
  intro s s' hs
  obtain ⟨hequivalent, hend⟩ := hx s s' hs
  rw [run_bind, run_bind]
  rcases hrun : x.run s with ⟨outcome, t⟩
  rcases hrun' : x'.run s' with ⟨outcome', t'⟩
  rw [hrun, hrun'] at hequivalent hend
  cases hequivalent with
  | ok a => exact hnext a t t' hend
  | failed h h' => exact ⟨.failed h h', hend⟩
  | same h => exact ⟨.same h, hend⟩

/-- What would follow a failure does not matter. -/
theorem inStep_throw_bind {fault fault' : Fault}
    (h : Equivalent excepted (.error fault : Except Fault β) (.error fault'))
    (next : α → Action S β) (next' : α → Action S' β) :
    InStep excepted rel (throw fault >>= next) (throw fault' >>= next') := by
  intro s s' hs
  rw [run_bind_error (run_throw s fault), run_bind_error (run_throw s' fault')]
  exact ⟨h, hs⟩

/-- What follows two outcomes may take up that they are equivalent. -/
theorem inStep_outcome_bind {x : Action S α} {x' : Action S' α}
    {next : Except Fault α → Action S β} {next' : Except Fault α → Action S' β}
    (hx : InStep excepted rel x x')
    (hnext : ∀ outcome outcome', Equivalent excepted outcome outcome' →
      InStep excepted rel (next outcome) (next' outcome')) :
    InStep excepted rel (x.outcome >>= next) (x'.outcome >>= next') := by
  intro s s' hs
  obtain ⟨hequivalent, hend⟩ := hx s s' hs
  rw [run_bind_ok (run_outcome s x), run_bind_ok (run_outcome s' x')]
  exact hnext _ _ hequivalent _ _ hend

theorem inStep_tryCatch {x : Action S α} {x' : Action S' α} {handle : Fault → Action S α}
    {handle' : Fault → Action S' α} (hx : InStep excepted rel x x')
    (hhandle : ∀ fault fault', Equivalent excepted (.error fault : Except Fault α) (.error fault') →
      InStep excepted rel (handle fault) (handle' fault')) :
    InStep excepted rel (tryCatch x handle) (tryCatch x' handle') := by
  intro s s' hs
  obtain ⟨hequivalent, hend⟩ := hx s s' hs
  rw [run_tryCatch, run_tryCatch]
  rcases hrun : x.run s with ⟨outcome, t⟩
  rcases hrun' : x'.run s' with ⟨outcome', t'⟩
  rw [hrun, hrun'] at hequivalent hend
  cases hequivalent with
  | ok a => exact ⟨.ok a, hend⟩
  | failed h h' => exact hhandle _ _ (.failed h h') t t' hend
  | same h => exact hhandle _ _ (.same h) t t' hend

end InStep

end Action

open MouseControl.Action

/-! ### Lines -/

/-- What an event tells of a pause: why there was one, and how long. -/
def Event.pause? : Event τ → Option (Pause × τ)
  | .paused why span => some (why, span)
  | _ => none

/-- The pauses of a trace, in order. -/
def pauses (trace : List (Entry τ)) : List (Pause × τ) := extract Event.pause? trace

/-- Two lines that keep the same time, with related devices. -/
structure Bus.Twin (devices : σ → σ' → Prop) (bus : Bus σ τ) (bus' : Bus σ' τ) : Prop where
  device : devices bus.device bus'.device
  clock_eq : bus'.clock = bus.clock
  spacing_eq : bus'.spacing = bus.spacing
  pauses_eq : pauses bus'.trace = pauses bus.trace

/-- Replies that took the same time, with equivalent outcomes. -/
structure Reply.Twin (devices : σ → σ' → Prop) (reply : Reply σ τ α) (reply' : Reply σ' τ α) :
    Prop where
  outcome : Equivalent (fun _ ↦ False) reply.outcome reply'.outcome
  state : devices reply.state reply'.state
  elapsed_eq : reply'.elapsed = reply.elapsed

/-- Transports whose transfers are equivalent, whatever timeout each of them is given. -/
structure Transport.Twin (devices : σ → σ' → Prop) (t : Transport σ τ) (t' : Transport σ' τ) :
    Prop where
  write : ∀ call timeout device device', devices device device' →
    Reply.Twin devices (t.write call device) (t'.write { call with timeout := timeout } device')
  read : ∀ call timeout device device', devices device device' →
    Reply.Twin devices (t.read call device) (t'.read { call with timeout := timeout } device')

/-- The wait that a policy asks for between two attempts cannot be waited, for this fault. -/
structure RetryPolicy.Unwaited (τ : Type) [TimeScale τ] (policy : RetryPolicy) (fault : Fault) :
    Prop where
  delay : ¬policy.delay.equalsInt 0 = true
  wait_eq : (TimeScale.wait policy.delay : Except Fault τ) = .error fault

/-- What may end a transaction besides a failure to transfer, after which the line is as told. -/
inductive Transaction.Excepted [TimeScale τ] (policy : RetryPolicy) (after : Bus σ τ) :
    Transaction → Fault → Prop where
  /-- The count of bytes taken is too long to be written. -/
  | count {request value : Int} {data : Bytes} {call : WriteCall} {count : Int}
      (hlast : (transfers after.trace).getLast? = some (.wrote call (.ok count)))
      (h : ¬isWritable count = true) :
      Excepted policy after (.write request value data) .unwritable
  /-- The length asked for is too long to be written. -/
  | length {request value length : Int} (h : ¬isWritable length = true) :
      Excepted policy after (.read request value length) .unwritable
  /-- The number of attempts is no integer. -/
  | uncounted {request value length : Int} (h : policy.attempts.toInt? = none) :
      Excepted policy after (.read request value length) .wrongType
  /-- There are no attempts. -/
  | untried {request value length n : Int} (h : policy.attempts.toInt? = some n) (hn : n < 1)
      (what : Text) : Excepted policy after (.read request value length)
        (Fault.nothingAcceptable what policy.attempts).worded
  | unwaited {request value length : Int} {fault : Fault} (h : policy.Unwaited τ fault) :
      Excepted policy after (.read request value length) fault

namespace Bus

variable {excepted : Fault → Prop} {devices : σ → σ' → Prop}

/-- One more entry on both lines, of the same time, which tells the same of a pause. -/
theorem Twin.concat {bus : Bus σ τ} {bus' : Bus σ' τ} (h : bus.Twin devices bus') {device : σ}
    {device' : σ'} (hdevice : devices device device') {event event' : Event τ}
    (hevent : event'.pause? = event.pause?) {clock clock' : τ} (hclock : clock' = clock) :
    Twin devices
      { bus with
        device := device
        clock := clock
        trace := bus.trace ++ [⟨bus.clock, clock, event⟩] }
      { bus' with
        device := device'
        clock := clock'
        trace := bus'.trace ++ [⟨bus'.clock, clock', event'⟩] } where
  device := hdevice
  clock_eq := hclock
  spacing_eq := h.spacing_eq
  pauses_eq := by
    show extract _ _ = extract _ _
    rw [extract_concat, extract_concat, hevent]
    exact congrArg (· ++ _) h.pauses_eq

theorem inStep_note (n n' : Notice) :
    InStep excepted (Twin devices) (note n : Action (Bus σ τ) Unit)
      (note n' : Action (Bus σ' τ) Unit) :=
  fun _ _ h ↦ ⟨.ok (), { h with }⟩

variable [TimeScale τ]

theorem inStep_pause (why : Pause) (span : τ) :
    InStep excepted (Twin devices) (pause why span : Action (Bus σ τ) Unit)
      (pause why span : Action (Bus σ' τ) Unit) :=
  fun _ _ h ↦ ⟨.ok (), h.concat h.device rfl (congrArg (· + span) h.clock_eq)⟩

theorem inStep_enter :
    InStep excepted (Twin devices) (enter : Action (Bus σ τ) Unit)
      (enter : Action (Bus σ' τ) Unit) := by
  intro bus bus' h
  rw [enter, enter, run_bind_ok (run_get bus), run_bind_ok (run_get bus'), h.spacing_eq, h.clock_eq]
  rcases bus.spacing.remaining bus.clock with _ | rest
  · exact inStep_pure () bus bus' h
  · exact inStep_pause .spacing rest bus bus' h

theorem inStep_spaced {x : Action (Bus σ τ) α} {x' : Action (Bus σ' τ) α}
    (hx : InStep excepted (Twin devices) x x') :
    InStep excepted (Twin devices) (spaced x) (spaced x') := by
  refine inStep_bind inStep_enter fun _ bus bus' h ↦ ?_
  obtain ⟨hequivalent, hend⟩ := hx bus bus' h
  refine ⟨hequivalent, { hend with spacing_eq := ?_ }⟩
  show Spacing.mk _ _ = Spacing.mk _ _
  rw [hend.spacing_eq, hend.clock_eq]

theorem inStep_call {event event' : Except Fault α → Event τ} {step : σ → Reply σ τ α}
    {step' : σ' → Reply σ' τ α}
    (hstep : ∀ device device', devices device device' →
      Reply.Twin devices (step device) (step' device'))
    (hevent : ∀ outcome outcome', (event' outcome').pause? = (event outcome).pause?) :
    InStep excepted (Twin devices) (call event step) (call event' step') := by
  intro bus bus' h
  obtain ⟨houtcome, hstate, helapsed⟩ := hstep _ _ h.device
  refine ⟨?_, h.concat hstate (hevent _ _) ?_⟩
  · exact houtcome.mono fun _ _ ↦ False.elim
  · rw [h.clock_eq, helapsed]

end Bus

/-! ### Transactions -/

variable [TimeScale τ] {devices : σ → σ' → Prop}

namespace RetryPolicy

variable (policy : RetryPolicy)

theorem covers_eq {excepted : Fault → Prop} {fault fault' : Fault}
    (h : Equivalent excepted (.error fault : Except Fault α) (.error fault')) :
    policy.covers fault' = policy.covers fault := by
  have hkind : fault'.isA = fault.isA := by
    funext above
    rw [Fault.isA, Fault.isA, h.kind_eq]
  rw [covers, covers, hkind]

theorem inStep_wait {excepted : Fault → Prop}
    (hexcepted : ∀ fault, policy.Unwaited τ fault → excepted fault) :
    InStep excepted (Bus.Twin devices) (policy.wait : Action (Bus σ τ) Unit)
      (policy.wait : Action (Bus σ' τ) Unit) := by
  unfold wait
  refine inStep_ite (fun _ ↦ inStep_pure ()) fun hdelay ↦ ?_
  rcases hwait : (TimeScale.wait policy.delay : Except Fault τ) with fault | span
  · exact inStep_throw (.same (hexcepted fault ⟨hdelay, hwait⟩))
  · exact Bus.inStep_pause .retry span

/-- Attempts are in step if the operation is. -/
theorem inStep_attempts {excepted : Fault → Prop} (what : Text) {operation : Action (Bus σ τ) α}
    {operation' : Action (Bus σ' τ) α}
    (hoperation : InStep excepted (Bus.Twin devices) operation operation')
    (hwait : InStep excepted (Bus.Twin devices) (policy.wait : Action (Bus σ τ) Unit)
      (policy.wait : Action (Bus σ' τ) Unit))
    {left : Nat} (hleft : left = 0 → excepted (Fault.nothingAcceptable what policy.attempts).worded)
    (index : Nat) :
    InStep excepted (Bus.Twin devices) (policy.attemptsFrom what operation none index left)
      (policy.attemptsFrom what operation' none index left) := by
  induction left generalizing index with
  | zero => exact inStep_throw (.same (hleft rfl))
  | succ left ih =>
    unfold attemptsFrom
    refine inStep_outcome_bind hoperation fun outcome outcome' hequivalent ↦ ?_
    rcases outcome with fault | a
    · rcases outcome' with fault' | a'
      · dsimp only
        rw [policy.covers_eq hequivalent]
        refine inStep_ite (fun _ ↦ ?_) fun _ ↦ inStep_throw hequivalent
        refine inStep_bind (Bus.inStep_note _ _) fun _ ↦ inStep_ite (fun _ ↦ ?_) fun hmore ↦ ?_
        · exact inStep_throw_bind hequivalent _ _
        · exact inStep_bind hwait fun _ ↦ ih (fun hnone ↦ absurd hnone hmore) (index + 1)
      · cases hequivalent
    · cases hequivalent
      exact inStep_pure a

end RetryPolicy

namespace Channel

variable (c : Channel σ τ) (c' : Channel σ' τ) (htransport : c.transport.Twin devices c'.transport)

include htransport

theorem inStep_rawWrite {excepted : Fault → Prop} (request value : Int) (data : Bytes) :
    InStep excepted (Bus.Twin devices) (c.rawWrite (c.writeCall request value data))
      (c'.rawWrite (c'.writeCall request value data)) :=
  Bus.inStep_spaced (Bus.inStep_call (fun _ _ ↦ htransport.write _ _ _ _) fun _ _ ↦ rfl)

theorem inStep_rawRead {excepted : Fault → Prop} (request value length : Int) :
    InStep excepted (Bus.Twin devices) (c.rawRead (c.readCall request value length))
      (c'.rawRead (c'.readCall request value length)) :=
  Bus.inStep_spaced (Bus.inStep_call (fun _ _ ↦ htransport.read _ _ _ _) fun _ _ ↦ rfl)

theorem inStep_write {excepted : Fault → Prop} (request value : Int) (data : Bytes)
    (hexcepted : ∀ count, ¬isWritable count = true → excepted .unwritable) :
    InStep excepted (Bus.Twin devices) (c.write request value data)
      (c'.write request value data) := by
  refine inStep_bind (c.inStep_rawWrite c' htransport request value data) fun transferred ↦ ?_
  refine inStep_ite (fun _ ↦ ?_) fun _ ↦ inStep_pure _
  refine inStep_bind (Bus.inStep_note _ _) fun _ ↦ inStep_throw ?_
  exact equivalent_worded rfl (hexcepted transferred)

theorem inStep_readOnce {excepted : Fault → Prop} (request value length : Int)
    (hexcepted : ¬isWritable length = true → excepted .unwritable) :
    InStep excepted (Bus.Twin devices) (c.readOnce request value length)
      (c'.readOnce request value length) := by
  refine inStep_bind (c.inStep_rawRead c' htransport request value length) fun data ↦ ?_
  refine inStep_ite (fun _ ↦ inStep_throw_bind ?_ _ _) fun _ ↦ inStep_pure _
  exact equivalent_worded rfl hexcepted

/-- Reads are in step if they follow one policy. -/
theorem inStep_read (hpolicy : c'.readPolicy = c.readPolicy) (request value length : Int)
    (after : Bus σ τ) :
    InStep (Transaction.Excepted c.readPolicy after (.read request value length))
      (Bus.Twin devices) (c.read request value length) (c'.read request value length) := by
  unfold read
  refine inStep_tryCatch ?_ fun fault fault' hequivalent ↦ ?_
  · rw [hpolicy, RetryPolicy.run, RetryPolicy.run]
    rcases hcount : c.readPolicy.attempts.toInt? with _ | n
    · exact inStep_throw (.same (.uncounted hcount))
    · exact c.readPolicy.inStep_attempts _
        (c.inStep_readOnce c' htransport request value length .length)
        (c.readPolicy.inStep_wait fun _ ↦ .unwaited) (fun hnone ↦ .untried hcount (by omega) _) 1
  · have hkind : fault'.isA .transfer = fault.isA .transfer := by
      rw [Fault.isA, Fault.isA, hequivalent.kind_eq]
    rw [hkind]
    refine inStep_ite (fun _ ↦ ?_) fun _ ↦ inStep_throw hequivalent
    exact inStep_bind (Bus.inStep_note _ _) fun _ ↦ inStep_throw hequivalent

omit htransport in
/-- A write that is taken but cannot say so, ended with a count that is too long. -/
theorem excepted_of_write {bus : Bus σ τ} {request value : Int} {data : Bytes}
    (hraw : ((c.rawWrite (c.writeCall request value data)).run bus).1 ≠ .error .unwritable)
    (h : ((c.write request value data).run bus).1 = .error .unwritable) :
    Transaction.Excepted c.readPolicy ((c.write request value data).run bus).2
      (.write request value data) .unwritable := by
  obtain ⟨houtcome, hsilent⟩ := c.outcome_write request value data bus
  obtain hfault | ⟨count, hcount, hworded⟩ := wholly_eq_error (houtcome.symm.trans h)
  · exact absurd hfault hraw
  · have hlast := (Bus.run_spaced_call (.wrote (c.writeCall request value data))
      (c.transport.write (c.writeCall request value data)) (fun _ ↦ rfl) bus).1
    rw [← rawWrite, hcount] at hlast
    refine .count (by rw [hsilent.transfers_eq, hlast, List.getLast?_concat]) fun hwritable ↦ ?_
    have hsame : (Fault.shortWrite request value count data.length).worded = _ :=
      Fault.worded_of_isWritable hwritable
    cases hworded.trans hsame

/-- Channels on twin transports carry out every transaction alike. -/
theorem twin_carryOut (hpolicy : c'.readPolicy = c.readPolicy) (t : Transaction) {bus : Bus σ τ}
    {bus' : Bus σ' τ} (h : bus.Twin devices bus') :
    let r := (c.carryOut t).run bus
    let r' := (c'.carryOut t).run bus'
    Equivalent (t.Excepted c.readPolicy r.2) r.1 r'.1 ∧ r.2.Twin devices r'.2 := by
  cases t with
  | write request value data =>
    obtain ⟨hraw, -⟩ : Equivalent (fun _ ↦ False) _ _ ∧ _ :=
      c.inStep_rawWrite c' htransport request value data bus bus' h
    obtain ⟨hequivalent, hend⟩ : Equivalent (Fault.unwritable = ·) _ _ ∧ _ :=
      c.inStep_write c' htransport request value data (fun _ _ ↦ rfl) bus bus' h
    have hexcepted := hequivalent.mono fun fault hfault hunwritable ↦ by
      subst hunwritable
      refine c.excepted_of_write (fun hsame ↦ ?_) hfault
      rw [hsame] at hraw
      cases hraw.kind_of_error
    simp only [carryOut, run_bind]
    generalize (c.write request value data).run bus = r at hexcepted hend ⊢
    generalize (c'.write request value data).run bus' = r' at hexcepted hend ⊢
    obtain ⟨outcome, after⟩ := r
    obtain ⟨outcome', after'⟩ := r'
    cases hexcepted with
    | ok => exact ⟨.ok [], hend⟩
    | failed hkind hkind' => exact ⟨.failed hkind hkind', hend⟩
    | same hsame => exact ⟨.same hsame, hend⟩
  | read request value length =>
    exact c.inStep_read c' htransport hpolicy request value length _ bus bus' h

/-- Channels on twin transports carry out every run alike. -/
theorem twin_trail (hpolicy : c'.readPolicy = c.readPolicy) (transactions : List Transaction) :
    ∀ {bus : Bus σ τ} {bus' : Bus σ' τ}, bus.Twin devices bus' →
      List.Forall₂
        (fun t r' ↦ Equivalent (t.1.Excepted c.readPolicy t.2.2) t.2.1 r'.1 ∧
          t.2.2.Twin devices r'.2)
        (transactions.zip (c.trail bus transactions)) (c'.trail bus' transactions) := by
  induction transactions with
  | nil => exact fun _ ↦ .nil
  | cons t rest ih =>
    intro bus bus' h
    have hstep := c.twin_carryOut c' htransport hpolicy t h
    exact .cons hstep (ih hstep.2)

end Channel

end MouseControl
