import MouseControl.Session.Setters

/-!
What the owner of a session can do with it, step by step. Besides the operations of the session
these are blocks, which run further steps under a claim or up to a close, steps that fail by
themselves, and what happens around a session: time passes, an observer is put in place, or the
transport is opened or closed behind the session's back.
-/

set_option autoImplicit false
set_option relaxedAutoImplicit false

namespace MouseControl.Session

/-- A step of a run. -/
inductive Step (τ : Type) where
  | claim
  | release
  | close
  | setUp
  | commit (force : Bool)
  | setLed (led state : Value)
  | setFrequency (frequency : Value)
  | setMapping (mapping axis : Value)
  | setResolution (resolution axis : Value)
  | leds
  | frequency
  | frequencies
  | axes
  | resolutions
  | mappings
  | mapping (axis : Value)
  | describe
  /-- Steps under a claim of their own. -/
  | claimed (steps : List (Step τ))
  /-- Steps after which every claim is dropped. -/
  | scoped (steps : List (Step τ))
  | fail (fault : Fault)
  | observe (observer : Observer)
  | elapse (span : τ)
  | openTransport
  | closeTransport
  deriving Inhabited

/-- What a step gives. -/
inductive Answer where
  | done
  | completed
  | leds (leds : List Led)
  | value (v : Value)
  | frequencies (frequencies : List Frequency)
  | axes (axes : List Axis)
  | resolutions (resolutions : List Int)
  | mappings (mappings : List ResolutionMapping)
  | mapping (m : Option ResolutionMapping)
  | text (t : Text)

variable {σ τ : Type} [TimeScale τ]

/-- Time passes. -/
def elapse (span : τ) : Action (Session σ τ) Unit :=
  modify fun s ↦ { s with bus := { s.bus with clock := s.bus.clock + span } }

/-- Gives an answer after an action that gives none. -/
def andDone (x : Action (Session σ τ) Unit) : Action (Session σ τ) Answer := do
  x
  return .done

mutual

/-- Carries out a step. -/
def Step.perform (mouse : Mouse σ τ) : Step τ → Action (Session σ τ) Answer
  | .claim => andDone (Session.claim mouse)
  | .release => andDone (Session.release mouse)
  | .close => andDone (Session.close mouse)
  | .setUp => andDone (Session.setUp mouse)
  | .commit force => andDone (Session.commit mouse force)
  | .setLed led state => andDone (Session.setLed mouse led state)
  | .setFrequency frequency => andDone (Session.setFrequency frequency)
  | .setMapping mapping axis => andDone (Session.setMapping mouse mapping axis)
  | .setResolution resolution axis => andDone (Session.setResolution mouse resolution axis)
  | .leds => do return .leds (← get).config.supportedLeds
  | .frequency => do return .value (← get).config.frequency
  | .frequencies => return .frequencies Frequency.supported
  | .axes => return .axes Axis.all
  | .resolutions => do
    return .resolutions ((← get).config.generation.table.map ResolutionMapping.resolution)
  | .mappings => do return .mappings (← get).config.generation.table
  | .mapping axis => do return .mapping (mappingOn (← get).config axis)
  | .describe => do return .text (shown mouse.model (← get))
  | .claimed steps => do
    Session.claimed mouse (performAll mouse steps)
    return .completed
  | .scoped steps => do
    (performAll mouse steps).ensuring (Session.close mouse)
    return .completed
  | .fail fault => throw fault
  | .observe observer => do
    modify fun s ↦ { s with observer := observer }
    return .done
  | .elapse span => andDone (Session.elapse span)
  | .openTransport => andDone (onBus (Bus.call .opened mouse.channel.transport.openDevice))
  | .closeTransport => andDone (onBus (Bus.call .closed mouse.channel.transport.closeDevice))

/-- Carries out steps in order, up to the first that fails. -/
def performAll (mouse : Mouse σ τ) : List (Step τ) → Action (Session σ τ) Unit
  | [] => pure ()
  | step :: rest => do
    let _ ← step.perform mouse
    performAll mouse rest

end

/-- The run of steps from a state, in which a failing step does not keep the next from being
carried out: the outcome of each step and the state after it. -/
def trail (mouse : Mouse σ τ) (s : Session σ τ) :
    List (Step τ) → List (Except Fault Answer × Session σ τ)
  | [] => []
  | step :: rest =>
    let r := (step.perform mouse).run s
    r :: trail mouse r.2 rest

end MouseControl.Session
