import MouseControl.Command.Probe
import MouseControl.Command.Push

/-!
A session with one mouse. Claims nest; the first one opens the transport unless it was open
already, and the last release closes a transport that the session opened. Setters and commits need
a claim. The pending configuration is dirty while the mouse may lack a part of it, and a commit of
a clean one does nothing unless it is forced.
-/

set_option autoImplicit false
set_option relaxedAutoImplicit false

namespace MouseControl

/-- What stays the same throughout a session. -/
structure Mouse (σ τ : Type) where
  model : Model
  channel : Channel σ τ
  probePolicy : RetryPolicy

/-- The state of a session. -/
structure Session (σ τ : Type) where
  bus : Bus σ τ
  config : Configuration
  claims : Nat := 0
  /-- Whether the session opened the transport and so has to close it. -/
  ownsTransport : Bool := false
  firmware : Int := 0
  suggestUpgrade : Bool := false
  initialized : Bool := false
  /-- Who hears of changes of the dirty flag and of initializations. -/
  observer : Observer := .absent

namespace Session

variable {σ τ α : Type}

/-- A fresh session on a line. -/
def start (model : Model) (bus : Bus σ τ) : Session σ τ :=
  { bus := bus, config := .defaults model }

/-- An action on the line, as an action of the session. -/
def onBus (x : Action (Bus σ τ) α) : Action (Session σ τ) α :=
  x.onPart Session.bus fun s bus ↦ { s with bus := bus }

/-- Tells the observer. -/
def notify (report : Report) : Action (Session σ τ) Unit := do
  onBus (Bus.report (← get).observer report)

/-- Sets the dirty flag, and tells the observer if it changed. -/
def setDirty (dirty : Bool) : Action (Session σ τ) Unit := do
  let s ← get
  if s.config.dirty != dirty then
    set { s with config := { s.config with dirty := dirty } }
    notify (.dirty dirty)

/-- Changes the pending configuration, which is dirty from then on. -/
def amend (change : Configuration → Configuration) : Action (Session σ τ) Unit := do
  modify fun s ↦ { s with config := change s.config }
  onBus (Bus.mark .amended)
  setDirty true

/-- Fails unless the session holds a claim. -/
def requireClaim : Action (Session σ τ) Unit := do
  if (← get).claims = 0 then
    throw .notClaimed

variable [TimeScale τ]

/-- Takes a claim. -/
def claim (mouse : Mouse σ τ) : Action (Session σ τ) Unit := do
  let s ← get
  if s.claims = 0 ∧ !mouse.channel.transport.isOpen s.bus.device then
    onBus (Bus.call .opened mouse.channel.transport.openDevice)
    modify fun s ↦ { s with ownsTransport := true }
  modify fun s ↦ { s with claims := s.claims + 1 }
  onBus (Bus.mark .claimed)

/-- Drops a claim. The claim is gone even if the transport then fails to close. -/
def release (mouse : Mouse σ τ) : Action (Session σ τ) Unit := do
  let s ← get
  if s.claims = 0 then
    throw .releasedUnclaimed
  set { s with claims := s.claims - 1 }
  onBus (Bus.mark .released)
  if s.claims = 1 ∧ s.ownsTransport then
    onBus (Bus.call .closed mouse.channel.transport.closeDevice)
    modify fun s ↦ { s with ownsTransport := false }

/-- Drops so many claims, as long as none fails. -/
def releaseTimes (mouse : Mouse σ τ) : Nat → Action (Session σ τ) Unit
  | 0 => pure ()
  | n + 1 => do
    release mouse
    releaseTimes mouse n

/-- Drops every claim. -/
def close (mouse : Mouse σ τ) : Action (Session σ τ) Unit := do
  releaseTimes mouse (← get).claims

/-- Runs an action under a claim of its own, which is dropped however the action ends. -/
def claimed (mouse : Mouse σ τ) (body : Action (Session σ τ) α) : Action (Session σ τ) α := do
  claim mouse
  body.ensuring (release mouse)

/-- Sends the pending configuration if it is dirty, or in any case if forced. -/
def commit (mouse : Mouse σ τ) (force : Bool) : Action (Session σ τ) Unit := do
  requireClaim
  let s ← get
  if s.config.dirty || force then
    onBus (mouse.channel.push s.config)
    onBus (Bus.mark .pushed)
    setDirty false

/-- Notes a firmware with known faults. -/
def checkFirmware (mouse : Mouse σ τ) : Action (Session σ τ) Unit := do
  let s ← get
  if mouse.model.hasOldFirmware s.firmware then
    onBus (Bus.note (.oldFirmware mouse.model.name s.firmware mouse.model.goodFirmware))
    modify fun s ↦ { s with suggestUpgrade := true }

/-- The first commit, whose failure is noted. -/
def initialCommit (mouse : Mouse σ τ) : Action (Session σ τ) Unit :=
  tryCatch (commit mouse true) fun fault ↦ do
    if fault.isA .library then
      onBus (Bus.note (.initialCommitFailed fault))
    throw fault

/-- Probes the firmware and sends the defaults of the model. -/
def setUp (mouse : Mouse σ τ) : Action (Session σ τ) Unit := do
  claimed mouse do
    let version ← onBus (mouse.channel.probe mouse.probePolicy)
    modify fun s ↦ { s with firmware := version }
    onBus (Bus.mark (.firmwareRead version))
    checkFirmware mouse
    modify fun s ↦ { s with config := .defaults mouse.model }
    initialCommit mouse
  modify fun s ↦ { s with initialized := true }
  onBus (Bus.note
    (.initialized mouse.model.name (← get).firmware mouse.model.generation))
  notify .initialized

end Session

end MouseControl
