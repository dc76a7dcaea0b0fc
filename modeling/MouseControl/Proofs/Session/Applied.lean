import MouseControl.Proofs.Device.Setting
import MouseControl.Proofs.Session.Commit

/-!
What a clean session has handed to its device. In every state of a run the configuration is dirty
or in force (`Applied`): for each of its settings, the last frame that addresses the setting is the
one that the configuration builds. A revision leaves it dirty or as it was, a probe hands over
queries only, and a push that fails on the way hands over frames that agree with the configuration
(`applied_commit`). Spelled out for the resolutions, each LED and the frequency this is
`lastWritten_of_clean`.
-/

set_option autoImplicit false
set_option relaxedAutoImplicit false

namespace MouseControl

/-- The last data of a kind that was handed to the device. -/
def lastWritten {τ : Type} (kind : Bytes → Bool) (trace : List (Entry τ)) : Option Bytes :=
  ((written trace).filter kind).getLast?

/-- For the resolutions, every LED that the model has and the frequency, a frame was handed to the
device, and the last one, be it transferred or not, is what the configuration builds. -/
structure Configuration.LastWritten {τ : Type} (c : Configuration) (model : Model)
    (trace : List (Entry τ)) : Prop where
  resolution : ∃ frame, c.generation.encode c.x c.y = .ok frame ∧
    lastWritten (Frame.isOf model.generation.opcode) trace = some frame
  led : ∀ led ∈ c.leds, led.state ≠ LedState.unsupported.code →
    ∃ frame, led.frame = .ok frame ∧
      lastWritten (fun data ↦ Frame.isOf .led data && Frame.selects led.selector data) trace =
        some frame
  frequency : ∃ frame, frequencyFrame c.frequency = .ok frame ∧
    lastWritten (Frame.isOf .frequency) trace = some frame

namespace Session

open MouseControl.Action

variable {σ τ : Type}

/-- The configuration fits the model, and unless it is dirty it is in force. -/
def Applied (model : Model) (s : Session σ τ) : Prop :=
  s.config.Fits model ∧ (s.config.dirty = false → s.config.InForce (written s.bus.trace))

theorem Revises.applied {model : Model} {s s' : Session σ τ} (h : Revises model s s')
    (hs : Applied model s) : Applied model s' := by
  refine ⟨h.fits hs.1, fun hclean ↦ ?_⟩
  rcases h.config_eq_or with heq | hdirty
  · rw [heq] at hclean ⊢
    rw [h.written_eq]
    exact hs.2 hclean
  · rw [hdirty] at hclean
    cases hclean

/-- Frames that agree with the configuration may follow. -/
theorem Applied.hands {model : Model} {s : Session σ τ} (hs : Applied model s) {bus : Bus σ τ}
    (h : s.bus.Hands s.config.Agrees bus) : Applied model { s with bus := bus } := by
  refine ⟨hs.1, fun hclean ↦ ?_⟩
  obtain ⟨handed, hwritten, hagrees⟩ := h
  have hforce := (hs.2 hclean).append hagrees
  rw [← hwritten] at hforce
  exact hforce

variable [TimeScale τ] (mouse : Mouse σ τ)

theorem applied_probe :
    Keeps (Retains (Applied mouse.model)) (onBus (mouse.channel.probe mouse.probePolicy)) := by
  intro s hs
  have hquery : ∀ frame sealed, Frame.encode .firmwareVersion [] = .ok frame →
      Frame.reseal frame = .ok sealed → s.config.Agrees sealed := by
    intro frame sealed hencode hreseal
    rw [(Frame.sealed_of_encode hencode).reseal_eq] at hreseal
    cases hreseal
    exact Configuration.agrees_of_query hencode
  exact hs.hands ((mouse.channel.movesAlong_hands s.config.Agrees).probe mouse.probePolicy hquery
    s.bus)

/-- What a push hands over agrees with the configuration, and a push that comes to its end brings it
in force. -/
theorem hands_push {model : Model} {config : Configuration} (hfits : config.Fits model)
    (c : Channel σ τ) (bus : Bus σ τ) :
    let r := (c.push config).run bus
    bus.Hands config.Agrees r.2 ∧ (r.1 = .ok () → config.InForce (written r.2.trace)) := by
  intro r
  obtain ⟨exchanges, haccount⟩ := c.exists_pushAccount hfits bus
  refine ⟨⟨_, haccount.written_eq, fun frame hframe ↦ ?_⟩, fun hok ↦ ?_⟩
  · exact hfits.agrees_of_mem (haccount.in_order.subset hframe)
  · obtain ⟨⟨hlength, -⟩, code, hcode⟩ := haccount.ok_iff.mp hok
    have hall : exchanges.map Exchange.frame = config.frames :=
      haccount.in_order.eq_of_length (by rw [List.length_map, hlength])
    have hforce := hfits.inForce_append_frames hcode (written bus.trace)
    rw [← hall, ← haccount.written_eq] at hforce
    exact hforce

/-- A commit that fails leaves a dirty configuration dirty, and takes nothing of a clean one out of
force. -/
theorem applied_commit (force : Bool) :
    Keeps (Retains (Applied mouse.model)) (commit mouse force) := by
  intro s hs
  rw [run_commit]
  split
  · exact hs
  split
  · obtain ⟨hhands, hforce⟩ := hands_push hs.1 mouse.channel s.bus
    rcases h : (mouse.channel.push s.config).run s.bus with ⟨fault | _, bus⟩ <;>
      rw [h] at hhands hforce
    · exact hs.hands hhands
    · have hclean : Applied mouse.model
          { s with bus := bus, config := { s.config with dirty := false } } :=
        ⟨hs.1.withDirty false, fun _ ↦ (hforce rfl).withDirty false⟩
      have hmark : Revises mouse.model
          { s with bus := bus, config := { s.config with dirty := false } }
          { s with bus := ((Bus.mark .pushed).run bus).2
                   config := { s.config with dirty := false } } :=
        .of_silent (Bus.silent_record rfl bus) rfl
      exact (Revises.of_quietly (quietly_setDirty false _)).applied (hmark.applied hclean)
  · exact hs

theorem applied_after (bus : Bus σ τ) (steps : List (Step τ)) :
    Applied mouse.model (after mouse (start mouse.model bus) steps) := by
  have hrevises : ∀ s s' : Session σ τ, Revises mouse.model s s' →
      Retains (Applied mouse.model) s s' := fun _ _ h ↦ h.applied
  have hmoves : MovesAlong mouse (Retains (Applied mouse.model)) :=
    MovesAlong.of_revises hrevises (applied_commit mouse) (applied_probe mouse)
  refine hmoves.after steps _ (fun _ ↦ bypassed_of_revises hrevises)
    ⟨Configuration.fits_defaults mouse.model, fun hclean ↦ ?_⟩
  cases hclean

/-- Whenever a run on a fresh line has left the configuration clean, the configuration is what was
last written. -/
theorem lastWritten_of_clean (bus : Bus σ τ) (steps : List (Step τ))
    (hclean : (after mouse (start mouse.model { bus with trace := [] }) steps).config.dirty =
      false) :
    let s := after mouse (start mouse.model { bus with trace := [] }) steps
    s.config.LastWritten mouse.model s.bus.trace := by
  intro s
  obtain ⟨hfits, happlied⟩ := applied_after mouse { bus with trace := [] } steps
  have hforce : s.config.InForce (written s.bus.trace) := happlied hclean
  constructor
  · have hresolution := hforce _ (Configuration.mem_settings.mpr (.inl rfl))
    rw [← hfits.generation_eq]
    exact hresolution
  · intro led hled hstate
    have hsupported : led ∈ s.config.supportedLeds :=
      List.mem_filter.mpr ⟨hled, bne_iff_ne.mpr hstate⟩
    exact hforce _ (Configuration.mem_settings.mpr (.inr (.inl ⟨led, hsupported, rfl⟩)))
  · exact hforce _ (Configuration.mem_settings.mpr (.inr (.inr rfl)))

/-- An LED is switched off, the commit of that fails at its second frame, and a further one comes
through. -/
theorem lastWritten_of_recommit :
    let model := Model.forPid Model.known Protocol.thirdEditionPid
    let steps : List (Step Rat) :=
      [.claim, .setLed (.int 0) (.int 0), .commit false, .commit false]
    let bus := recorded { writes := [.ok 90, .ok 7] }
    let s := after (replayed model) (start model { bus with trace := [] }) steps
    s.config.dirty = false ∧ s.config.LastWritten model s.bus.trace :=
  ⟨by decide +kernel, lastWritten_of_clean (replayed _) _ _ (by decide +kernel)⟩

end Session

end MouseControl
