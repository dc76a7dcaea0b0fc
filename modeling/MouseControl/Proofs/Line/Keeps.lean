import Mathlib.Order.Defs.Unbundled
import MouseControl.Command.Probe
import MouseControl.Command.Push

/-!
How an action may change its state, whatever its outcome. `Action.Keeps rel` says that an action
moves every state along the relation `rel`. For a preorder it is closed under the ways of building
actions, so that a whole operation keeps what its elementary steps keep. `Bus.Handling` lists the
steps around a transfer and `Channel.Transfers` adds the raw transfers; from them follow exact
writes and reads (`Transfers.transferOut`, `Transfers.transferIn`). `Bus.Bookkeeping` lists all the
steps on a line that leave the device alone and `Channel.MovesAlong` adds the raw transfers; from
them follow an exchange (`MovesAlong.exchange`), a push (`MovesAlong.push`) and a probe
(`MovesAlong.probe`).
-/

set_option autoImplicit false
set_option relaxedAutoImplicit false

namespace MouseControl

namespace Action

variable {S T α β : Type}

/-- An action moves every state along `rel`, be its outcome a result or a fault. -/
def Keeps (rel : S → S → Prop) (x : Action S α) : Prop := ∀ s, rel s (x.run s).2

/-- A property is not lost. -/
def Retains (property : S → Prop) (s s' : S) : Prop := property s → property s'

instance (property : S → Prop) : IsPreorder S (Retains property) where
  refl _ h := h
  trans _ _ _ h h' := h' ∘ h

section AnyRelation

variable {rel : S → S → Prop}

/-- A relation that is implied is kept as well. -/
theorem Keeps.mono {rel' : S → S → Prop} {x : Action S α} (hx : Keeps rel x)
    (h : ∀ s s', rel s s' → rel' s s') : Keeps rel' x :=
  fun s ↦ h s _ (hx s)

theorem keeps_modify {f : S → S} (h : ∀ s, rel s (f s)) :
    Keeps rel (modify f : Action S PUnit) := h

/-- What follows a look at the state may use the state that was seen. -/
theorem keeps_get_bind {next : S → Action S β} (h : ∀ s, rel s ((next s).run s).2) :
    Keeps rel (get >>= next) := by
  intro s
  rw [run_bind_ok (run_get s)]
  exact h s

theorem keeps_ite {c : Prop} [Decidable c] {x y : Action S α} (hx : c → Keeps rel x)
    (hy : ¬c → Keeps rel y) : Keeps rel (if c then x else y) := by
  by_cases h : c
  · rw [if_pos h]
    exact hx h
  · rw [if_neg h]
    exact hy h

/-- An action on a part keeps what follows from how it changes the part. -/
theorem keeps_onPart {part : S → T} {replace : S → T → S} {inner : T → T → Prop}
    {x : Action T α} (hx : Keeps inner x) (h : ∀ s t, inner (part s) t → rel s (replace s t)) :
    Keeps rel (x.onPart part replace) :=
  fun s ↦ h s _ (hx (part s))

end AnyRelation

section Preorder

variable {rel : S → S → Prop} [IsPreorder S rel]

theorem keeps_of_run_eq {x : Action S α} (h : ∀ s, (x.run s).2 = s) : Keeps rel x := by
  intro s
  rw [h]
  exact refl_of rel s

theorem keeps_pure (a : α) : Keeps rel (pure a : Action S α) := keeps_of_run_eq fun _ ↦ rfl

theorem keeps_throw (fault : Fault) : Keeps rel (throw fault : Action S α) :=
  keeps_of_run_eq fun _ ↦ rfl

theorem keeps_get : Keeps rel (get : Action S S) := keeps_of_run_eq fun _ ↦ rfl

theorem keeps_ofExcept (outcome : Except Fault α) : Keeps rel (ofExcept outcome) :=
  keeps_of_run_eq fun _ ↦ rfl

/-- What follows a settled outcome follows a result. -/
theorem keeps_ofExcept_bind {outcome : Except Fault α} {next : α → Action S β}
    (h : ∀ a, outcome = .ok a → Keeps rel (next a)) : Keeps rel (ofExcept outcome >>= next) := by
  rcases outcome with fault | a
  · exact keeps_throw fault
  · exact h a rfl

/-- What comes after an action leads on from the state that this one leaves. -/
theorem leads_bind (x : Action S α) {next : α → Action S β} (hnext : ∀ a, Keeps rel (next a))
    (s : S) : rel (x.run s).2 ((x >>= next).run s).2 := by
  rw [run_bind]
  rcases x.run s with ⟨fault | a, t⟩
  · exact refl_of rel t
  · exact hnext a t

theorem leads_tryCatch (x : Action S α) {handle : Fault → Action S α}
    (hhandle : ∀ fault, Keeps rel (handle fault)) (s : S) :
    rel (x.run s).2 ((tryCatch x handle).run s).2 := by
  rw [run_tryCatch]
  rcases x.run s with ⟨fault | a, t⟩
  · exact hhandle fault t
  · exact refl_of rel t

omit [IsPreorder S rel] in
theorem leads_ensuring (x : Action S α) {cleanup : Action S Unit} (hcleanup : Keeps rel cleanup)
    (s : S) : rel (x.run s).2 ((x.ensuring cleanup).run s).2 := by
  have hafter := hcleanup (x.run s).2
  rw [run_ensuring]
  rcases h : cleanup.run (x.run s).2 with ⟨_ | _, t⟩ <;> rwa [h] at hafter

theorem keeps_bind {x : Action S α} {next : α → Action S β} (hx : Keeps rel x)
    (hnext : ∀ a, Keeps rel (next a)) : Keeps rel (x >>= next) :=
  fun s ↦ trans_of rel (hx s) (leads_bind x hnext s)

/-- A loop keeps what it keeps at each member of its list. -/
theorem keeps_forM {body : α → Action S PUnit} {list : List α}
    (hbody : ∀ a ∈ list, Keeps rel (body a)) : Keeps rel (list.forM body) := by
  induction list with
  | nil => exact keeps_pure _
  | cons a rest ih =>
    obtain ⟨hfirst, hrest⟩ := List.forall_mem_cons.mp hbody
    rw [List.forM_eq_forM, List.forM_cons]
    exact keeps_bind hfirst fun _ ↦ ih hrest

theorem keeps_tryCatch {x : Action S α} {handle : Fault → Action S α} (hx : Keeps rel x)
    (hhandle : ∀ fault, Keeps rel (handle fault)) : Keeps rel (tryCatch x handle) :=
  fun s ↦ trans_of rel (hx s) (leads_tryCatch x hhandle s)

theorem keeps_ensuring {x : Action S α} {cleanup : Action S Unit} (hx : Keeps rel x)
    (hcleanup : Keeps rel cleanup) : Keeps rel (x.ensuring cleanup) :=
  fun s ↦ trans_of rel (hx s) (leads_ensuring x hcleanup s)

/-- A handler that passes every fault on changes the state and nothing else. -/
theorem run_tryCatch_of_passesOn {x : Action S α} {handle : Fault → Action S α}
    (hpass : ∀ fault s, ((handle fault).run s).1 = .error fault)
    (hkeeps : ∀ fault, Keeps rel (handle fault)) (s : S) :
    ((tryCatch x handle).run s).1 = (x.run s).1 ∧
      rel (x.run s).2 ((tryCatch x handle).run s).2 := by
  refine ⟨?_, leads_tryCatch x hkeeps s⟩
  rw [run_tryCatch]
  rcases x.run s with ⟨fault | a, t⟩
  · exact hpass fault t
  · rfl

end Preorder

end Action

open MouseControl.Action

/-- Someone who lets every report pass, or nobody. -/
def Observer.Quiet (observer : Observer) : Prop := ∀ report, observer.verdict report = .ok ()

/-- What the library says on a line moves the line along `rel`. -/
structure Bus.Telling {σ τ : Type} (rel : Bus σ τ → Bus σ τ → Prop) : Prop where
  note : ∀ n, Keeps rel (Bus.note n)
  remember : ∀ a bus, rel bus { bus with lastAnomaly := some a }
  record : ∀ a, Keeps rel (Bus.record (.anomalyReported a))

/-- A notice about an answer of the device: that its checksum is wrong, or that it is an anomaly. -/
def Notice.isRemark : Notice → Bool
  | badChecksum .. | anomaly _ => true
  | _ => false

/-- What the library does between two attempts moves a line along `rel`. -/
structure Bus.Waiting {σ τ : Type} [TimeScale τ] (rel : Bus σ τ → Bus σ τ → Prop) : Prop where
  note : ∀ n, n.isRemark = false → Keeps rel (Bus.note n)
  pause : ∀ n span, TimeScale.wait n = .ok span → Keeps rel (Bus.pause .retry span)

/-- What the library does around a transfer, and between two attempts at one, moves a line along
`rel`. -/
structure Bus.Handling {σ τ : Type} [TimeScale τ] (rel : Bus σ τ → Bus σ τ → Prop) : Prop
    extends Bus.Waiting rel where
  slot : ∀ bus rest, bus.spacing.remaining bus.clock = some rest →
    rel bus ((Bus.pause .spacing rest).run bus).2
  leave : Keeps rel Bus.leave

/-- Whatever the library does on a line without the device moves the line along `rel`. -/
structure Bus.Bookkeeping {σ τ : Type} [TimeScale τ] (rel : Bus σ τ → Bus σ τ → Prop) : Prop
    extends Bus.Telling rel where
  pause : ∀ why span, Keeps rel (Bus.pause why span)
  leave : Keeps rel Bus.leave

theorem Bus.Telling.assess {σ τ : Type} {rel : Bus σ τ → Bus σ τ → Prop}
    [IsPreorder (Bus σ τ) rel] (h : Telling rel) (sent answer : CommandFrame) :
    Keeps rel (Channel.assess sent answer) := by
  have hreport (a : Anomaly) : Keeps rel (Bus.reportAnomaly a) := by
    refine keeps_bind (h.note _) fun _ ↦ keeps_bind (keeps_modify (h.remember a)) fun _ ↦
      keeps_get_bind fun bus ↦ ?_
    rcases bus.anomalyObserver with _ | verdict
    · exact refl_of rel bus
    · exact keeps_bind (h.record a) (fun _ ↦ keeps_ofExcept _) bus
  have hstatus : Keeps rel (if (!answer.statusOk) = true then
      Bus.reportAnomaly ⟨sent.command, sent.request, answer.status⟩ else pure ()) :=
    keeps_ite (fun _ ↦ hreport _) fun _ ↦ keeps_pure _
  refine keeps_bind (h.note _) fun _ ↦ keeps_ite (fun _ ↦ ?_) fun _ ↦ hstatus
  exact keeps_bind (h.note _) fun _ ↦ hstatus

namespace Bus.Waiting

variable {σ τ α : Type} [TimeScale τ] {rel : Bus σ τ → Bus σ τ → Prop}
  [IsPreorder (Bus σ τ) rel]

theorem wait (h : Waiting rel) (policy : RetryPolicy) : Keeps rel policy.wait := by
  unfold RetryPolicy.wait
  exact keeps_ite (fun _ ↦ keeps_pure _) fun _ ↦ keeps_ofExcept_bind fun span ↦ h.pause _ span

/-- What a failed attempt leads to: a fault after the last one, and the next one otherwise. -/
theorem failed (h : Waiting rel) {left : Nat} {n : Notice} (hn : n.isRemark = false)
    {fault : Fault} {again : Action (Bus σ τ) α} (hagain : Keeps rel again) :
    Keeps rel
      (Bus.note n >>= fun _ ↦
        if left = 0 then throw fault >>= fun _ : Unit ↦ again else again) := by
  refine keeps_bind (h.note n hn) fun _ ↦ keeps_ite (fun _ ↦ ?_) fun _ ↦ hagain
  exact keeps_bind (keeps_throw fault) fun _ ↦ hagain

/-- What comes after the operation leads on from the state that this one leaves. -/
theorem leads_attempts (h : Waiting rel) (policy : RetryPolicy) (what : Text)
    (operation : Action (Bus σ τ) α) (accept : Option (α → Action (Bus σ τ) Bool))
    (haccept : ∀ result, Keeps rel (RetryPolicy.accepts accept result)) {index left : Nat}
    (hnext : Keeps rel (policy.attemptsFrom what operation accept (index + 1) left))
    (bus : Bus σ τ) : rel (operation.run bus).2
      ((policy.attemptsFrom what operation accept index (left + 1)).run bus).2 := by
  have hagain : Keeps rel (do
      policy.wait
      policy.attemptsFrom what operation accept (index + 1) left) :=
    keeps_bind (h.wait policy) fun _ ↦ hnext
  unfold RetryPolicy.attemptsFrom
  refine leads_bind operation.outcome (fun outcome ↦ ?_) bus
  rcases outcome with fault | result
  · exact keeps_ite (fun _ ↦ h.failed rfl hagain) fun _ ↦ keeps_throw _
  · refine keeps_bind (haccept result) fun accepted ↦ ?_
    exact keeps_ite (fun _ ↦ keeps_pure _) fun _ ↦ h.failed rfl hagain

theorem attempts (h : Waiting rel) (policy : RetryPolicy) (what : Text)
    {operation : Action (Bus σ τ) α} (accept : Option (α → Action (Bus σ τ) Bool))
    (hoperation : Keeps rel operation)
    (haccept : ∀ result, Keeps rel (RetryPolicy.accepts accept result)) (left : Nat) :
    ∀ index, Keeps rel (policy.attemptsFrom what operation accept index left) := by
  induction left with
  | zero => exact fun _ ↦ keeps_throw _
  | succ left ih =>
    intro index bus
    exact trans_of rel (hoperation bus)
      (h.leads_attempts policy what operation accept haccept (ih (index + 1)) bus)

theorem retried (h : Waiting rel) (policy : RetryPolicy) (what : Text)
    {operation : Action (Bus σ τ) α} (accept : Option (α → Action (Bus σ τ) Bool))
    (hoperation : Keeps rel operation)
    (haccept : ∀ result, Keeps rel (RetryPolicy.accepts accept result)) :
    Keeps rel (policy.run what operation accept) := by
  unfold RetryPolicy.run
  split
  · exact h.attempts policy what accept hoperation haccept _ 1
  · exact keeps_throw _

end Bus.Waiting

namespace Bus.Handling

variable {σ τ α : Type} [TimeScale τ] {rel : Bus σ τ → Bus σ τ → Prop}
  [IsPreorder (Bus σ τ) rel]

theorem enter (h : Handling rel) : Keeps rel Bus.enter := by
  refine keeps_get_bind fun bus ↦ ?_
  split
  next rest hrest => exact h.slot bus rest hrest
  next => exact refl_of rel bus

theorem spaced (h : Handling rel) {x : Action (Bus σ τ) α} (hx : Keeps rel x) :
    Keeps rel (Bus.spaced x) :=
  keeps_bind h.enter fun _ ↦ keeps_ensuring hx h.leave

end Bus.Handling

theorem Bus.Bookkeeping.handling {σ τ : Type} [TimeScale τ] {rel : Bus σ τ → Bus σ τ → Prop}
    (h : Bookkeeping rel) : Handling rel where
  note n _ := h.note n
  pause _ span _ := h.pause .retry span
  slot bus rest _ := h.pause .spacing rest bus
  leave := h.leave

namespace Channel

variable {σ τ : Type} [TimeScale τ] {c : Channel σ τ} {rel : Bus σ τ → Bus σ τ → Prop}
  [IsPreorder (Bus σ τ) rel]

/-- A push keeps what each of its exchanges keeps. -/
theorem keeps_push {config : Configuration}
    (hexchange : ∀ frame, .ok frame ∈ framesOf config → Keeps rel (c.exchange frame)) :
    Keeps rel (c.push config) := by
  refine keeps_forM fun built hmem ↦ keeps_ofExcept_bind fun frame hbuilt ↦ ?_
  subst hbuilt
  exact keeps_bind (hexchange frame hmem) fun _ ↦ keeps_pure _

/-- A probe keeps what its exchanges and the waiting between them keep. -/
theorem keeps_probe (h : Bus.Waiting rel) (policy : RetryPolicy)
    (hexchange : ∀ query, Frame.encode .firmwareVersion [] = .ok query →
      Keeps rel (c.exchange query)) : Keeps rel (c.probe policy) := by
  have hask : Keeps rel c.askFirmware := by
    refine keeps_ofExcept_bind fun query hencode ↦ ?_
    exact keeps_bind (hexchange query hencode) fun _ ↦ keeps_ofExcept _
  refine keeps_tryCatch (h.retried _ _ _ hask fun _ ↦ keeps_pure _) fun fault ↦ ?_
  exact keeps_ite (fun _ ↦ keeps_bind (h.note _ rfl) fun _ ↦ keeps_throw _) fun _ ↦ keeps_throw _

end Channel

/-- The steps of a channel in its transfers move its line along `rel`, provided that what it writes
satisfies `sent`. -/
structure Channel.Transfers {σ τ : Type} [TimeScale τ] (c : Channel σ τ) (sent : Bytes → Prop)
    (rel : Bus σ τ → Bus σ τ → Prop) : Prop extends Bus.Handling rel where
  write : ∀ call, sent call.data → Keeps rel (Bus.call (.wrote call) (c.transport.write call))
  read : ∀ call, Keeps rel (Bus.call (.read call) (c.transport.read call))

namespace Channel.Transfers

variable {σ τ : Type} [TimeScale τ] {c : Channel σ τ} {sent : Bytes → Prop}
  {rel : Bus σ τ → Bus σ τ → Prop} [IsPreorder (Bus σ τ) rel]

theorem transferOut (h : c.Transfers sent rel) (request value : Int) {data : Bytes}
    (hdata : sent data) : Keeps rel (c.write request value data) := by
  refine keeps_bind (h.spaced (h.write _ hdata)) fun transferred ↦ keeps_ite ?_ ?_
  · exact fun _ ↦ keeps_bind (h.note _ rfl) fun _ ↦ keeps_throw _
  · exact fun _ ↦ keeps_pure _

theorem transferIn (h : c.Transfers sent rel) (request value length : Int) :
    Keeps rel (c.read request value length) := by
  have honce : Keeps rel (c.readOnce request value length) := by
    refine keeps_bind (h.spaced (h.read _)) fun data ↦ keeps_ite ?_ fun _ ↦ keeps_pure _
    exact fun _ ↦ keeps_bind (keeps_throw _) fun _ ↦ keeps_pure _
  refine keeps_tryCatch (h.retried _ _ none honce fun _ ↦ keeps_pure _) fun fault ↦ ?_
  exact keeps_ite (fun _ ↦ keeps_bind (h.note _ rfl) fun _ ↦ keeps_throw _) fun _ ↦ keeps_throw _

end Channel.Transfers

/-- The elementary steps of a channel move its line along `rel`, provided that what it writes
satisfies `sent`. -/
structure Channel.MovesAlong {σ τ : Type} [TimeScale τ] (c : Channel σ τ) (sent : Bytes → Prop)
    (rel : Bus σ τ → Bus σ τ → Prop) : Prop extends Bus.Bookkeeping rel where
  write : ∀ call, sent call.data → Keeps rel (Bus.call (.wrote call) (c.transport.write call))
  read : ∀ call, Keeps rel (Bus.call (.read call) (c.transport.read call))

namespace Channel.MovesAlong

variable {σ τ α : Type} [TimeScale τ] {c : Channel σ τ} {sent : Bytes → Prop}
  {rel : Bus σ τ → Bus σ τ → Prop} [IsPreorder (Bus σ τ) rel]

omit [IsPreorder (Bus σ τ) rel] in
theorem transfers (h : c.MovesAlong sent rel) : c.Transfers sent rel where
  toHandling := h.handling
  write := h.write
  read := h.read

/-- Only the sealed form of a frame is written in its exchange. -/
theorem exchange (h : c.MovesAlong sent rel) {frame : Bytes}
    (hframe : ∀ sealed, Frame.reseal frame = .ok sealed → sent sealed) :
    Keeps rel (c.exchange frame) := by
  refine keeps_ofExcept_bind fun sealed hsealed ↦ keeps_ofExcept_bind fun request _ ↦ ?_
  refine keeps_bind (h.transfers.transferOut _ _ (hframe _ hsealed)) fun _ ↦
    keeps_bind (h.transfers.transferIn _ _ _) fun data ↦ keeps_ofExcept_bind fun answer _ ↦ ?_
  exact keeps_bind (h.assess request answer) fun _ ↦ keeps_pure _

theorem push (h : c.MovesAlong sent rel) (config : Configuration)
    (hframes : ∀ frame sealed, .ok frame ∈ framesOf config → Frame.reseal frame = .ok sealed →
      sent sealed) : Keeps rel (c.push config) :=
  keeps_push fun frame hmem ↦ h.exchange fun sealed ↦ hframes frame sealed hmem

theorem probe (h : c.MovesAlong sent rel) (policy : RetryPolicy)
    (hquery : ∀ frame sealed, Frame.encode .firmwareVersion [] = .ok frame →
      Frame.reseal frame = .ok sealed → sent sealed) : Keeps rel (c.probe policy) :=
  keeps_probe h.handling.toWaiting policy fun frame hencode ↦
    h.exchange fun sealed ↦ hquery frame sealed hencode

/-- If nothing is asked of what is written, every push moves the line along `rel`. -/
theorem pushes (h : c.MovesAlong (fun _ ↦ True) rel) (config : Configuration) :
    Keeps rel (c.push config) :=
  h.push config fun _ _ _ _ ↦ trivial

theorem probes (h : c.MovesAlong (fun _ ↦ True) rel) (policy : RetryPolicy) :
    Keeps rel (c.probe policy) :=
  h.probe policy fun _ _ _ _ ↦ trivial

end Channel.MovesAlong

end MouseControl
