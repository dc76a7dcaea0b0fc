import MouseControl.Proofs.Device.Configuration

/-!
What the frames of a commit set. A frame addresses the resolutions, one LED or the frequency, by its
opcode and for an LED by the selector as well; `Configuration.settings` lists these with the frame
that a configuration builds for each. No frame of a fitting configuration addresses a setting that
it was not built for (`Fits.agrees_of_mem`). Hence, among the frames handed to a device, the last
that addresses a setting is the configuration's own once all its frames were handed over
(`Fits.inForce_append_frames`), and stays so as long as only agreeing frames follow
(`InForce.append`).
-/

set_option autoImplicit false
set_option relaxedAutoImplicit false

namespace MouseControl

/-- Something that a frame can set: which frames do, and the frame that is to do it. -/
structure Setting where
  addressedBy : Bytes → Bool
  built : Except Fault Bytes

/-- Whether a frame switches an LED. -/
def Led.addressedBy (led : Led) (frame : Bytes) : Bool :=
  Frame.isOf .led frame && Frame.selects led.selector frame

namespace Configuration

/-- The settings of a configuration, in the order in which they are sent. -/
def settings (c : Configuration) : List Setting :=
  ⟨Frame.isOf c.generation.opcode, c.generation.encode c.x c.y⟩ ::
    (c.supportedLeds.map fun led ↦ ⟨led.addressedBy, led.frame⟩) ++
      [⟨Frame.isOf .frequency, frequencyFrame c.frequency⟩]

/-- A frame sets nothing that the configuration would set otherwise. -/
def Agrees (c : Configuration) (frame : Bytes) : Prop :=
  ∀ setting ∈ c.settings, setting.addressedBy frame = true → setting.built = .ok frame

/-- For each setting, the last of some frames that addresses it is the one that the configuration
builds. -/
def InForce (c : Configuration) (frames : List Bytes) : Prop :=
  ∀ setting ∈ c.settings, ∃ frame, setting.built = .ok frame ∧
    (frames.filter setting.addressedBy).getLast? = some frame

theorem InForce.append {c : Configuration} {old new : List Bytes} (h : c.InForce old)
    (hnew : ∀ frame ∈ new, c.Agrees frame) : c.InForce (old ++ new) := by
  intro setting hsetting
  obtain ⟨frame, hbuilt, hlast⟩ := h setting hsetting
  refine ⟨frame, hbuilt, ?_⟩
  rw [List.filter_append, List.getLast?_append, hlast]
  rcases hnewest : (new.filter setting.addressedBy).getLast? with _ | newest
  · rfl
  · have hmem := List.mem_filter.mp (List.mem_of_getLast? hnewest)
    have hsame := hnew newest hmem.1 setting hsetting hmem.2
    rw [hbuilt] at hsame
    cases hsame
    rfl

/-- Only the frames of the settings matter, not the dirty flag. -/
theorem InForce.withDirty {c : Configuration} {frames : List Bytes} (h : c.InForce frames)
    (dirty : Bool) : { c with dirty := dirty }.InForce frames := h

theorem mem_settings {c : Configuration} {setting : Setting} :
    setting ∈ c.settings ↔
      setting = ⟨Frame.isOf c.generation.opcode, c.generation.encode c.x c.y⟩ ∨
        (∃ led ∈ c.supportedLeds, setting = ⟨led.addressedBy, led.frame⟩) ∨
          setting = ⟨Frame.isOf .frequency, frequencyFrame c.frequency⟩ := by
  simp only [settings, List.cons_append, List.mem_cons, List.mem_append, List.mem_map,
    List.not_mem_nil, or_false, eq_comm (a := setting)]

theorem map_built_settings (c : Configuration) :
    c.settings.map Setting.built = Channel.framesOf c := by
  simp only [settings, Channel.framesOf, List.cons_append, List.map_cons, List.map_append,
    List.map_map, List.map_nil, Function.comp_def]

end Configuration

theorem Generation.isOf_encode {g : Generation} {x y : ResolutionMapping} {frame : Bytes}
    (h : g.encode x y = .ok frame) (other : Opcode) :
    Frame.isOf other frame = (Frame.opcodeBytes g.opcode == Frame.opcodeBytes other) := by
  obtain ⟨values, -, hencode⟩ := Generation.encode_eq_ok_iff.mp h
  exact Frame.isOf_encode hencode other

theorem isOf_frequencyFrame {frequency : Value} {frame : Bytes}
    (h : frequencyFrame frequency = .ok frame) (other : Opcode) :
    Frame.isOf other frame = (Frame.opcodeBytes .frequency == Frame.opcodeBytes other) := by
  obtain ⟨code, -, hencode⟩ := frequencyFrame_eq_ok_iff.mp h
  exact Frame.isOf_encode hencode other

theorem Led.isOf_frame {led : Led} {frame : Bytes} (h : led.frame = .ok frame) (other : Opcode) :
    Frame.isOf other frame = (Frame.opcodeBytes .led == Frame.opcodeBytes other) :=
  Frame.isOf_encode h other

theorem Led.selects_frame {led : Led} {frame : Bytes} (h : led.frame = .ok frame)
    (hselector : led.selector.length = 2) (selector : Bytes) :
    Frame.selects selector frame = (led.selector == selector) := by
  have hvalues : 2 ≤ (led.selector ++ [if led.state = LedState.on.code then 1 else 0]).length := by
    rw [List.length_append, hselector]
    exact Nat.le_succ 2
  rw [Frame.selects_encode h hvalues, ← hselector, List.take_left]

/-- The opcodes of resolutions, LEDs, the frequency and the firmware query differ. -/
theorem Generation.opcodeBytes_ne (g : Generation) :
    Frame.opcodeBytes g.opcode ≠ Frame.opcodeBytes .led ∧
      Frame.opcodeBytes g.opcode ≠ Frame.opcodeBytes .frequency ∧
        Frame.opcodeBytes .firmwareVersion ≠ Frame.opcodeBytes g.opcode := by
  cases g <;> decide

namespace Configuration

variable {model : Model} {c : Configuration}

/-- A firmware query sets nothing. -/
theorem agrees_of_query {query : Bytes} (h : Frame.encode .firmwareVersion [] = .ok query) :
    c.Agrees query := by
  have hother (opcode : Opcode)
      (hne : Frame.opcodeBytes .firmwareVersion ≠ Frame.opcodeBytes opcode) :
      Frame.isOf opcode query = false := by
    rw [Frame.isOf_encode h]
    exact beq_false_of_ne hne
  intro setting hsetting haddressed
  rcases mem_settings.mp hsetting with rfl | ⟨led, -, rfl⟩ | rfl
  · simp [hother _ c.generation.opcodeBytes_ne.2.2] at haddressed
  · have hled := hother .led (by decide)
    simp [Led.addressedBy, hled] at haddressed
  · have hfrequency := hother .frequency (by decide)
    simp [hfrequency] at haddressed

namespace Fits

/-- A frame that is built for one setting addresses no other. -/
theorem agrees_of_built (h : c.Fits model) {own : Setting} (hown : own ∈ c.settings)
    {frame : Bytes} (hframe : own.built = .ok frame) : c.Agrees frame := by
  obtain ⟨hled, hfrequency, -⟩ := c.generation.opcodeBytes_ne
  have hledFrequency : Frame.opcodeBytes .led ≠ Frame.opcodeBytes .frequency := by decide
  intro setting hsetting haddressed
  rcases mem_settings.mp hown with rfl | ⟨led, hmem, rfl⟩ | rfl
  · have hopcode := Generation.isOf_encode hframe
    rcases mem_settings.mp hsetting with rfl | ⟨other, -, rfl⟩ | rfl
    · exact hframe
    · simp [Led.addressedBy, hopcode, hled] at haddressed
    · simp [hopcode, hfrequency] at haddressed
  · have hopcode := Led.isOf_frame hframe
    rcases mem_settings.mp hsetting with rfl | ⟨other, hother, rfl⟩ | rfl
    · simp [hopcode, hled.symm] at haddressed
    · have hleds := List.mem_of_mem_filter hmem
      have hselector : led.selector = other.selector := by
        have hselects := (Bool.and_eq_true_iff.mp haddressed).2
        rw [Led.selects_frame hframe (h.length_selector hleds)] at hselects
        exact eq_of_beq hselects
      rw [← h.eq_of_selector_eq hleds (List.mem_of_mem_filter hother) hselector]
      exact hframe
    · simp [hopcode, hledFrequency] at haddressed
  · have hopcode := isOf_frequencyFrame hframe
    rcases mem_settings.mp hsetting with rfl | ⟨other, -, rfl⟩ | rfl
    · simp [hopcode, hfrequency.symm] at haddressed
    · simp [Led.addressedBy, hopcode, hledFrequency.symm] at haddressed
    · exact hframe

/-- Every setting is addressed by its own frame. -/
theorem addressedBy_built (h : c.Fits model) {own : Setting} (hown : own ∈ c.settings)
    {frame : Bytes} (hframe : own.built = .ok frame) : own.addressedBy frame = true := by
  rcases mem_settings.mp hown with rfl | ⟨led, hmem, rfl⟩ | rfl
  · simp [Generation.isOf_encode hframe]
  · have hselector := h.length_selector (List.mem_of_mem_filter hmem)
    simp [Led.addressedBy, Led.isOf_frame hframe, Led.selects_frame hframe hselector]
  · simp [isOf_frequencyFrame hframe]

theorem exists_setting_of_mem (h : c.Fits model) {frame : Bytes} (hframe : frame ∈ c.frames) :
    ∃ own ∈ c.settings, own.built = .ok frame := by
  obtain ⟨first, hframesOf, hframes⟩ := h.framesOf_eq
  have hmem : Except.ok frame ∈ c.settings.map Setting.built := by
    rw [map_built_settings, hframesOf]
    rw [hframes] at hframe
    rcases List.mem_append.mp hframe with hfirst | hlast
    · exact List.mem_append_left _ (List.mem_map_of_mem hfirst)
    · refine List.mem_append_right _ (List.mem_singleton.mpr ?_)
      rcases hfrequency : frequencyFrame c.frequency with fault | last
      · rw [hfrequency] at hlast
        cases hlast
      · rw [hfrequency] at hlast
        rw [List.mem_singleton.mp hlast]
  obtain ⟨own, hown, hbuilt⟩ := List.mem_map.mp hmem
  exact ⟨own, hown, hbuilt⟩

theorem agrees_of_mem (h : c.Fits model) {frame : Bytes} (hframe : frame ∈ c.frames) :
    c.Agrees frame := by
  obtain ⟨own, hown, hbuilt⟩ := h.exists_setting_of_mem hframe
  exact h.agrees_of_built hown hbuilt

/-- Once all its frames were handed over, a configuration is in force. -/
theorem inForce_append_frames (h : c.Fits model) {code : UInt8}
    (hcode : frequencyCode c.frequency = .ok code) (old : List Bytes) :
    c.InForce (old ++ c.frames) := by
  intro setting hsetting
  obtain ⟨frame, hbuilt, hmem⟩ : ∃ frame, setting.built = .ok frame ∧ frame ∈ c.frames := by
    obtain ⟨first, hframesOf, hframes⟩ := h.framesOf_eq
    have hin : setting.built ∈ c.settings.map Setting.built := List.mem_map_of_mem hsetting
    rw [map_built_settings, hframesOf] at hin
    rw [hframes]
    rcases List.mem_append.mp hin with hfirst | hlast
    · obtain ⟨frame, hframe, hbuilt⟩ := List.mem_map.mp hfirst
      exact ⟨frame, hbuilt.symm, List.mem_append_left _ hframe⟩
    · rcases frequencyFrame_cases c.frequency with ⟨_, frame, -, hframe⟩ | ⟨hnone, -⟩
      · rw [hframe] at hlast ⊢
        exact ⟨frame, List.mem_singleton.mp hlast, List.mem_append_right _ (.head _)⟩
      · rw [hcode] at hnone
        cases hnone
  refine ⟨frame, hbuilt, ?_⟩
  have haddressed : frame ∈ c.frames.filter setting.addressedBy :=
    List.mem_filter.mpr ⟨hmem, h.addressedBy_built hsetting hbuilt⟩
  rw [List.filter_append, List.getLast?_append_of_ne_nil _ (List.ne_nil_of_mem haddressed)]
  obtain ⟨last, hlast⟩ := Option.isSome_iff_exists.mp
    (List.getLast?_isSome.mpr (List.ne_nil_of_mem haddressed))
  have hlastMem := List.mem_filter.mp (List.mem_of_getLast? hlast)
  have hsame := h.agrees_of_mem hlastMem.1 setting hsetting hlastMem.2
  rw [hbuilt] at hsame
  cases hsame
  exact hlast

end Fits

end Configuration

end MouseControl
