import MouseControl.Backend.Choice
import MouseControl.Session.Basic

/-!
Setting up a session from settings. The settings are read in a fixed order (spacing, read
attempts, timeout, probe attempts, probe delay), and the first that makes no policy or spacing
stops the setup before the transport is touched.
-/

set_option autoImplicit false
set_option relaxedAutoImplicit false

namespace MouseControl

/-- What the settings fix for a session. -/
structure Tuning (τ : Type) where
  spacing : Spacing τ
  readPolicy : RetryPolicy
  timeout : Int
  probePolicy : RetryPolicy

namespace Settings

variable {τ : Type} [TimeScale τ]

/-- The tuning that settings give. -/
def tuning (s : Settings) : Reading (Tuning τ) := do
  let spacing ← Action.ofExcept (Spacing.ofMilliseconds (.int (← s.packetSpacing)))
  let readPolicy ← Action.ofExcept (RetryPolicy.ofNumbers (.int (← s.readAttempts))
    (.float Protocol.readDelay) RetryPolicy.ownFaults)
  let timeout ← s.timeout
  let attempts ← s.probeAttempts
  let probePolicy ← Action.ofExcept (RetryPolicy.ofNumbers (.int attempts)
    (.float (← s.probeDelay)) RetryPolicy.ownFaults)
  return ⟨spacing, readPolicy, timeout, probePolicy⟩

end Settings

namespace Session

variable {σ τ : Type} [TimeScale τ]

/-- The mouse of a model, reached by a transport. -/
def mouseOf (model : Model) (transport : Transport σ τ) (tuning : Tuning τ) : Mouse σ τ :=
  ⟨model, ⟨transport, tuning.readPolicy, tuning.timeout⟩, tuning.probePolicy⟩

/-- A fresh session over a transport in a state, at a time. -/
def create (model : Model) (transport : Transport σ τ) (device : σ) (clock : τ)
    (s : Settings) : Settings.Reading (Mouse σ τ × Session σ τ) := do
  let tuning ← s.tuning
  return (mouseOf model transport tuning,
    start model { device := device, clock := clock, spacing := tuning.spacing })

/-- What opening a mouse by its product id settles before any transfer: the backend, the model and
the tuning. A backend named by the caller comes before the one in the settings, unless it is
empty. -/
def prepare (a : Availability) (registered : List Model) (pid : Int) (requested : Value)
    (s : Settings) : Settings.Reading (Backend × Model × Tuning τ) := do
  let backend ←
    if requested.truthy then Backend.chooseNamed a Protocol.vendorId pid requested
    else do Backend.choose a Protocol.vendorId pid (← s.backend)
  return (backend, Model.forPid registered pid, ← s.tuning)

end Session

end MouseControl
