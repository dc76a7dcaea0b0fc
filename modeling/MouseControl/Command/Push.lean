import MouseControl.Command.Exchange
import MouseControl.Device.Configuration

/-!
Pushing a configuration: the resolutions, then each LED that the model has, then the scan
frequency, one exchange each, up to the first that fails. Nothing is taken back.
-/

set_option autoImplicit false
set_option relaxedAutoImplicit false

namespace MouseControl.Channel

variable {σ τ : Type} [TimeScale τ]

/-- One exchange of a frame that may not exist. -/
def sendBuilt (c : Channel σ τ) (frame : Except Fault Bytes) : Action (Bus σ τ) Unit := do
  let _ ← c.exchange (← Action.ofExcept frame)

/-- The frames of a configuration in the order in which they are sent, each one or why there is
none. -/
def framesOf (config : Configuration) : List (Except Fault Bytes) :=
  config.generation.encode config.x config.y ::
    (config.supportedLeds.map Led.frame ++ [frequencyFrame config.frequency])

/-- Pushes a configuration. -/
def push (c : Channel σ τ) (config : Configuration) : Action (Bus σ τ) Unit :=
  (framesOf config).forM c.sendBuilt

end MouseControl.Channel
