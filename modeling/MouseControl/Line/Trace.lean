import MouseControl.Line.Transport

/-!
What happens on a line, in order: calls of the raw transport with their outcomes, pauses, reports to
observers, and the milestones of a session between them. Every entry carries the time it began and
the time it ended.
-/

set_option autoImplicit false
set_option relaxedAutoImplicit false

namespace MouseControl

/-- Why the line was left idle. -/
inductive Pause where
  /-- To keep the least gap between two transfers. -/
  | spacing
  /-- Between two attempts of a retried operation. -/
  | retry
  deriving DecidableEq, Repr

/-- A point that a session passes, unseen by the device. -/
inductive Milestone where
  | claimed
  | released
  | firmwareRead (version : Int)
  /-- A setter changed the pending configuration. -/
  | amended
  /-- Every frame of the pending configuration was exchanged. -/
  | pushed
  deriving DecidableEq, Repr

/-- Something that happens on a line. -/
inductive Event (τ : Type) where
  | paused (why : Pause) (span : τ)
  | opened (outcome : Except Fault Unit)
  | closed (outcome : Except Fault Unit)
  | wrote (call : WriteCall) (outcome : Except Fault Int)
  | read (call : ReadCall) (outcome : Except Fault Bytes)
  | anomalyReported (anomaly : Anomaly)
  | dirtyReported (dirty : Bool)
  | initializedReported
  | reached (milestone : Milestone)

/-- An event with its time. -/
structure Entry (τ : Type) where
  start : τ
  stop : τ
  event : Event τ

/-- What an observer is told. -/
inductive Report where
  | anomaly (anomaly : Anomaly)
  | dirty (flag : Bool)
  | initialized

/-- The event of a report. -/
def Report.event {τ : Type} : Report → Event τ
  | anomaly a => .anomalyReported a
  | dirty flag => .dirtyReported flag
  | initialized => .initializedReported

/-- Who stands ready to hear reports: nobody, or someone who, having heard one, lets it pass or
fails over it. -/
inductive Observer where
  | absent
  | present (verdict : Report → Except Fault Unit)

namespace Observer

/-- Someone who only listens. -/
def listening : Observer := .present fun _ ↦ .ok ()

/-- Someone who fails over every report. -/
def failing (fault : Fault) : Observer := .present fun _ ↦ .error fault

/-- What becomes of a report. One that nobody hears passes. -/
def verdict : Observer → Report → Except Fault Unit
  | absent, _ => .ok ()
  | present verdict, report => verdict report

end Observer

end MouseControl
