import MouseControl.Line.Action
import MouseControl.Line.Notice
import MouseControl.Line.Spacing
import MouseControl.Line.Trace

/-!
The line to a device: the state of its transport, the clock, the spacing of transfers, and the
record of what happened. The actions here are the only ones that move the clock or add to the
record.
-/

set_option autoImplicit false
set_option relaxedAutoImplicit false

namespace MouseControl

/-- The line to a device whose transport has states `σ`. -/
structure Bus (σ τ : Type) where
  device : σ
  clock : τ
  spacing : Spacing τ
  trace : List (Entry τ) := []
  log : List Notice := []
  /-- The latest anomaly reported. -/
  lastAnomaly : Option Anomaly := none
  anomalyObserver : Observer := .absent

namespace Bus

variable {σ τ α : Type}

/-- Adds a notice to the log. -/
def note (n : Notice) : Action (Bus σ τ) Unit :=
  .of fun bus ↦ (.ok (), { bus with log := bus.log ++ [n] })

/-- Records an event that takes no time. -/
def record (event : Event τ) : Action (Bus σ τ) Unit :=
  .of fun bus ↦ (.ok (), { bus with trace := bus.trace ++ [⟨bus.clock, bus.clock, event⟩] })

/-- Records a milestone. -/
def mark (m : Milestone) : Action (Bus σ τ) Unit := record (.reached m)

/-- Makes a report to an observer, if there is one. -/
def report (observer : Observer) (report : Report) : Action (Bus σ τ) Unit :=
  match observer with
  | .absent => pure ()
  | .present verdict => do
    record report.event
    Action.ofExcept (verdict report)

variable [TimeScale τ]

/-- Waits for a span, one that can be waited. -/
def pause (why : Pause) (span : τ) : Action (Bus σ τ) Unit :=
  .of fun bus ↦
    (.ok (), { bus with
      clock := bus.clock + span
      trace := bus.trace ++ [⟨bus.clock, bus.clock + span, .paused why span⟩] })

/-- Calls the transport and records the call with its outcome. -/
def call (event : Except Fault α → Event τ) (step : σ → Reply σ τ α) : Action (Bus σ τ) α :=
  .of fun bus ↦
    let reply := step bus.device
    (reply.outcome, { bus with
      device := reply.state
      clock := bus.clock + reply.elapsed
      trace := bus.trace ++ [⟨bus.clock, bus.clock + reply.elapsed, event reply.outcome⟩] })

/-- Waits until the gap to the last transfer is kept. -/
def enter : Action (Bus σ τ) Unit := do
  let bus ← get
  match bus.spacing.remaining bus.clock with
  | some rest => pause .spacing rest
  | none => pure ()

/-- Marks the end of a transfer. -/
def leave : Action (Bus σ τ) Unit :=
  .of fun bus ↦ (.ok (), { bus with spacing := { bus.spacing with lastLeave := some bus.clock } })

/-- Keeps the gap before an action, and counts the next one from its end, however it ends. -/
def spaced (x : Action (Bus σ τ) α) : Action (Bus σ τ) α := do
  enter
  x.ensuring leave

end Bus

end MouseControl
