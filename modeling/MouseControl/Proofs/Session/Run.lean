import MouseControl.Line.Replay
import MouseControl.Proofs.Line.Keeps
import MouseControl.Proofs.Session.Claiming
import MouseControl.Session.Step

/-!
Runs of a session. `after` is the state that a list of steps leads to, in which a failing step does
not keep the next from being carried out. `Operates` lists the operations of a session, and a
relation that all of them keep is kept by every step, nested ones included, and by every run
(`Operates.perform`, `Operates.after`), provided that the observers put in place and what is done to
the transport behind the session's back keep it too. `MovesAlong` is for relations that no observer
breaks.
-/

set_option autoImplicit false
set_option relaxedAutoImplicit false

namespace MouseControl.Session

open MouseControl.Action

/-! ### Steps -/

section Steps

variable {τ : Type}

mutual

/-- Whether a step, or one inside it, works on the transport behind the back of the session. -/
def Step.bypasses : Step τ → Bool
  | .openTransport | .closeTransport => true
  | .claimed steps | .scoped steps => anyBypasses steps
  | _ => false

/-- Whether one of some steps works on the transport behind the back of the session. -/
def anyBypasses : List (Step τ) → Bool
  | [] => false
  | step :: rest => step.bypasses || anyBypasses rest

end

mutual

/-- The observers that a step, or one inside it, puts in place. -/
def Step.observers : Step τ → List Observer
  | .observe observer => [observer]
  | .claimed steps | .scoped steps => observersIn steps
  | _ => []

/-- The observers that some steps put in place. -/
def observersIn : List (Step τ) → List Observer
  | [] => []
  | step :: rest => step.observers ++ observersIn rest

end

end Steps

variable {σ τ α : Type} [TimeScale τ]

/-- The state that steps lead to, whatever their outcomes. -/
def after (mouse : Mouse σ τ) : Session σ τ → List (Step τ) → Session σ τ
  | s, [] => s
  | s, step :: rest => after mouse ((step.perform mouse).run s).2 rest

/-- A mouse whose transport replays a recording. Reads and probes are tried once. -/
def replayed (model : Model) : Mouse Replay Rat where
  model := model
  channel := ⟨Replay.transport, ⟨.int 1, .int 0, RetryPolicy.ownFaults⟩, 1000⟩
  probePolicy := ⟨.int 1, .int 0, RetryPolicy.ownFaults⟩

/-- A fresh line on a recording. -/
def recorded (device : Replay) : Bus Replay Rat :=
  { device := device, clock := 0, spacing := ⟨0, none⟩ }

/-- The operations of a session, and time, move it along `rel`. -/
structure Operates (mouse : Mouse σ τ) (rel : Session σ τ → Session σ τ → Prop) : Prop where
  claim : Keeps rel (claim mouse)
  release : Keeps rel (release mouse)
  setUp : Keeps rel (setUp mouse)
  commit : ∀ force, Keeps rel (commit mouse force)
  setLed : ∀ led state, Keeps rel (setLed mouse led state)
  setFrequency : ∀ frequency, Keeps rel (setFrequency frequency)
  setMapping : ∀ mapping axis, Keeps rel (setMapping mouse mapping axis)
  elapse : ∀ span, Keeps rel (elapse span)

/-- What the owner of a session can do with it moves it along `rel`. -/
structure MovesAlong (mouse : Mouse σ τ) (rel : Session σ τ → Session σ τ → Prop) : Prop
    extends Operates mouse rel where
  observe : ∀ observer (s : Session σ τ), rel s { s with observer := observer }

/-- What the transport does when it is used past the session, which only some steps do. -/
def MovesAlong.Bypassed (mouse : Mouse σ τ) (rel : Session σ τ → Session σ τ → Prop) : Prop :=
  Keeps rel (onBus (opening mouse)) ∧ Keeps rel (onBus (closing mouse))

open MovesAlong (Bypassed)

/-- Putting some observers in place moves a session along `rel`. -/
def Admits (rel : Session σ τ → Session σ τ → Prop) (observers : List Observer) : Prop :=
  ∀ observer ∈ observers, ∀ s, rel s { s with observer := observer }

variable {mouse : Mouse σ τ} {rel : Session σ τ → Session σ τ → Prop}
  [IsPreorder (Session σ τ) rel]

theorem keeps_close (h : Keeps rel (release mouse)) : Keeps rel (close mouse) := by
  have htimes (n : Nat) : Keeps rel (releaseTimes mouse n) := by
    induction n with
    | zero => exact keeps_pure _
    | succ n ih => exact keeps_bind h fun _ ↦ ih
  exact keeps_get_bind fun s ↦ htimes s.claims s

omit [TimeScale τ] in
theorem keeps_andDone {x : Action (Session σ τ) Unit} (hx : Keeps rel x) : Keeps rel (andDone x) :=
  keeps_bind hx fun _ ↦ keeps_pure _

namespace Operates

theorem setResolution (h : Operates mouse rel) (resolution axis : Value) :
    Keeps rel (setResolution mouse resolution axis) := by
  refine keeps_get_bind fun s ↦ ?_
  split
  · exact h.setMapping _ axis s
  · exact keeps_throw _ s

theorem claimed (h : Operates mouse rel) {body : Action (Session σ τ) α}
    (hbody : Keeps rel body) : Keeps rel (claimed mouse body) :=
  keeps_bind h.claim fun _ ↦ keeps_ensuring hbody h.release

mutual

/-- A step keeps what the operations keep, and a block what the steps inside it keep. -/
theorem perform (h : Operates mouse rel) :
    ∀ step : Step τ, Admits rel step.observers → (step.bypasses = true → Bypassed mouse rel) →
      Keeps rel (step.perform mouse)
  | .claim, _, _ => keeps_andDone h.claim
  | .release, _, _ => keeps_andDone h.release
  | .close, _, _ => keeps_andDone (keeps_close h.release)
  | .setUp, _, _ => keeps_andDone h.setUp
  | .commit force, _, _ => keeps_andDone (h.commit force)
  | .setLed led state, _, _ => keeps_andDone (h.setLed led state)
  | .setFrequency frequency, _, _ => keeps_andDone (h.setFrequency frequency)
  | .setMapping mapping axis, _, _ => keeps_andDone (h.setMapping mapping axis)
  | .setResolution resolution axis, _, _ => keeps_andDone (h.setResolution resolution axis)
  | .leds, _, _ | .frequency, _, _ | .resolutions, _, _ | .mappings, _, _ | .mapping _, _, _
  | .describe, _, _ => keeps_bind keeps_get fun _ ↦ keeps_pure _
  | .frequencies, _, _ | .axes, _, _ => keeps_pure _
  | .claimed steps, hobservers, hbypass =>
    keeps_bind (h.claimed (performAll h steps hobservers hbypass)) fun _ ↦ keeps_pure _
  | .scoped steps, hobservers, hbypass =>
    keeps_bind (keeps_ensuring (performAll h steps hobservers hbypass) (keeps_close h.release))
      fun _ ↦ keeps_pure _
  | .fail fault, _, _ => keeps_throw fault
  | .observe observer, hobservers, _ =>
    keeps_bind (keeps_modify (hobservers observer List.mem_cons_self)) fun _ ↦ keeps_pure _
  | .elapse span, _, _ => keeps_andDone (h.elapse span)
  | .openTransport, _, hbypass => keeps_andDone (hbypass rfl).1
  | .closeTransport, _, hbypass => keeps_andDone (hbypass rfl).2

theorem performAll (h : Operates mouse rel) :
    ∀ steps : List (Step τ), Admits rel (observersIn steps) →
      (anyBypasses steps = true → Bypassed mouse rel) → Keeps rel (Session.performAll mouse steps)
  | [], _, _ => keeps_pure _
  | step :: rest, hobservers, hbypass => by
    obtain ⟨hfirst, hlast⟩ := List.forall_mem_append.mp hobservers
    refine keeps_bind (perform h step hfirst fun hb ↦ ?_) fun _ ↦
      performAll h rest hlast fun hb ↦ ?_
    · exact hbypass (Bool.or_eq_true_iff.mpr (.inl hb))
    · exact hbypass (Bool.or_eq_true_iff.mpr (.inr hb))

end

/-- A run moves along what its steps keep, also when some of them fail. -/
theorem after (h : Operates mouse rel) (steps : List (Step τ)) :
    ∀ s, Admits rel (observersIn steps) → (anyBypasses steps = true → Bypassed mouse rel) →
      rel s (Session.after mouse s steps) := by
  induction steps with
  | nil => exact fun s _ _ ↦ refl_of rel s
  | cons step rest ih =>
    intro s hobservers hbypass
    obtain ⟨hfirst, hlast⟩ := List.forall_mem_append.mp hobservers
    have hstep : rel s ((step.perform mouse).run s).2 :=
      h.perform step hfirst (fun hb ↦ hbypass (Bool.or_eq_true_iff.mpr (.inl hb))) s
    have hrest := ih ((step.perform mouse).run s).2 hlast fun hb ↦
      hbypass (Bool.or_eq_true_iff.mpr (.inr hb))
    exact trans_of rel hstep hrest

end Operates

/-- The same for a relation that no observer breaks. -/
theorem MovesAlong.after {mouse : Mouse σ τ} {rel : Session σ τ → Session σ τ → Prop}
    [IsPreorder (Session σ τ) rel] (h : MovesAlong mouse rel) (steps : List (Step τ))
    (s : Session σ τ) (hbypass : anyBypasses steps = true → Bypassed mouse rel) :
    rel s (Session.after mouse s steps) :=
  h.toOperates.after steps s (fun observer _ ↦ h.observe observer) hbypass

end MouseControl.Session
