import Mathlib.Data.List.Nodup
import MouseControl.Command.Push
import MouseControl.Proofs.Wire.Codec

/-!
What holds of every configuration that a session can have (`Configuration.Fits`), and the frames
that such a configuration is sent as. `Configuration.frames` names them by what they set: the
resolutions, the LEDs in the order of their ids, and the frequency if it has a code. Of a fitting
configuration every frame but the last exists (`Fits.framesOf_eq`).
-/

set_option autoImplicit false
set_option relaxedAutoImplicit false

namespace MouseControl

/-- What of an LED never changes: its id, its name and its selector. -/
def Led.fixture (led : Led) : Int × Text × Bytes := (led.id, led.name, led.selector)

namespace Configuration

/-- The LEDs that the model has, in the order of their ids. -/
def ledsById (c : Configuration) : List Led :=
  (c.leds.filter Led.supported).mergeSort fun first second ↦ first.id ≤ second.id

/-- The frames of a commit, as far as they exist. -/
def frames (c : Configuration) : List Bytes :=
  (c.generation.encode c.x c.y :: c.ledsById.map Led.frame ++
    [frequencyFrame c.frequency]).filterMap Except.toOption

/-- The configurations of sessions with a model: the resolutions are in the model's own table, the
LEDs are those of the LED table, an LED is unsupported when it is a thumb grid that the model lacks
and otherwise on or off, and the frequency is an integer. -/
structure Fits (model : Model) (c : Configuration) : Prop where
  generation_eq : c.generation = model.generation
  x_mem : c.x ∈ model.generation.table
  y_mem : c.y ∈ model.generation.table
  fixtures_eq : c.leds.map Led.fixture = (Led.defaults model.hasThumbGrid).map Led.fixture
  state : ∀ led ∈ c.leds,
    if led.id = Led.thumbGrid ∧ model.hasThumbGrid = false then
      led.state = LedState.unsupported.code
    else led.state = LedState.on.code ∨ led.state = LedState.off.code
  frequency : ∃ n, c.frequency.toInt? = some n

/-- The default resolution is in both tables. -/
theorem defaults_x_mem (model : Model) : (defaults model).x ∈ model.generation.table := by
  have hstart (generation : Generation) :
      (generation.table.find? fun m ↦ m.resolution == defaultResolution).getD
        ⟨0, defaultResolution⟩ ∈ generation.table := by
    cases generation <;> decide
  exact hstart model.generation

theorem fits_defaults (model : Model) : (defaults model).Fits model where
  generation_eq := rfl
  x_mem := defaults_x_mem model
  y_mem := defaults_x_mem model
  fixtures_eq := rfl
  state := by
    have hstate (hasThumbGrid : Bool) : ∀ led ∈ Led.defaults hasThumbGrid,
        if led.id = Led.thumbGrid ∧ hasThumbGrid = false then
          led.state = LedState.unsupported.code
        else led.state = LedState.on.code ∨ led.state = LedState.off.code := by
      cases hasThumbGrid <;> decide
    exact hstate model.hasThumbGrid
  frequency := ⟨1000, rfl⟩

namespace Fits

variable {model : Model} {c : Configuration}

theorem withResolutions (h : c.Fits model) {x y : ResolutionMapping}
    (hx : x ∈ model.generation.table) (hy : y ∈ model.generation.table) :
    { c with x := x, y := y }.Fits model :=
  { h with x_mem := hx, y_mem := hy }

theorem withFrequency (h : c.Fits model) {frequency : Value} {n : Int}
    (hn : frequency.toInt? = some n) : { c with frequency := frequency }.Fits model :=
  { h with frequency := ⟨n, hn⟩ }

theorem withDirty (h : c.Fits model) (dirty : Bool) : { c with dirty := dirty }.Fits model :=
  { h with }

/-- Switching an LED that the model has keeps the configuration fitting. -/
theorem setLed (h : c.Fits model) {index : Nat} {target : Led} {next : LedState}
    (htarget : c.leds[index]? = some target) (hsupported : target.supported = true)
    (hnext : next = .on ∨ next = .off) : (c.setLed index next.code).Fits model where
  generation_eq := h.generation_eq
  x_mem := h.x_mem
  y_mem := h.y_mem
  fixtures_eq := by
    rw [← h.fixtures_eq]
    refine List.ext_getElem? fun i ↦ ?_
    simp only [Configuration.setLed, List.getElem?_map, List.getElem?_modify]
    rcases c.leds[i]? with _ | led
    · rfl
    · by_cases hi : index = i <;> simp [hi, Led.fixture]
  state := by
    intro led hled
    obtain ⟨i, hi⟩ := List.mem_iff_getElem?.mp hled
    simp only [Configuration.setLed, List.getElem?_modify, Option.map_eq_map,
      Option.map_eq_some_iff] at hi
    obtain ⟨old, hold, rfl⟩ := hi
    have hstate := h.state old (List.mem_iff_getElem?.mpr ⟨i, hold⟩)
    by_cases hindex : index = i
    · subst hindex
      obtain rfl : old = target := Option.some.inj (hold.symm.trans htarget)
      have hpresent : ¬(old.id = Led.thumbGrid ∧ model.hasThumbGrid = false) := by
        intro habsent
        rw [if_pos habsent] at hstate
        simp [Led.supported, hstate] at hsupported
      simp only [if_true]
      rw [if_neg hpresent]
      rcases hnext with rfl | rfl
      · exact .inl rfl
      · exact .inr rfl
    · simpa only [hindex, if_false] using hstate
  frequency := h.frequency

/-- The LEDs stand in the order of their ids. -/
theorem ids_eq (h : c.Fits model) : c.leds.map Led.id = [0, 1, 2] := by
  have hids := congrArg (List.map Prod.fst) h.fixtures_eq
  rw [List.map_map, List.map_map] at hids
  exact hids

theorem selectors_eq (h : c.Fits model) : c.leds.map Led.selector = [[1, 1], [1, 4], [1, 5]] := by
  have hselectors := congrArg (List.map fun fixture ↦ fixture.2.2) h.fixtures_eq
  rw [List.map_map, List.map_map] at hselectors
  exact hselectors

theorem length_selector (h : c.Fits model) {led : Led} (hled : led ∈ c.leds) :
    led.selector.length = 2 := by
  have hmem : led.selector ∈ c.leds.map Led.selector := List.mem_map_of_mem hled
  rw [h.selectors_eq] at hmem
  have hlength : ∀ selector ∈ ([[1, 1], [1, 4], [1, 5]] : List Bytes), selector.length = 2 := by
    decide
  exact hlength _ hmem

theorem selector_mem (h : c.Fits model) {led : Led} (hled : led ∈ c.leds) :
    (led.id, led.selector) ∈ [(0, [1, 1]), (1, [1, 4]), (2, [1, 5])] := by
  have hpairs := congrArg (List.map fun fixture ↦ (fixture.1, fixture.2.2)) h.fixtures_eq
  rw [List.map_map, List.map_map] at hpairs
  have hmem : (led.id, led.selector) ∈ c.leds.map fun led ↦ (led.id, led.selector) :=
    List.mem_map_of_mem hled
  have htable : c.leds.map (fun led ↦ (led.id, led.selector)) =
      [(0, [1, 1]), (1, [1, 4]), (2, [1, 5])] := hpairs
  rwa [htable] at hmem

theorem eq_of_selector_eq (h : c.Fits model) {first second : Led} (hfirst : first ∈ c.leds)
    (hsecond : second ∈ c.leds) (heq : first.selector = second.selector) : first = second := by
  have hnodup : (c.leds.map Led.selector).Nodup := by
    rw [h.selectors_eq]
    decide
  exact List.inj_on_of_nodup_map hnodup hfirst hsecond heq

theorem ledsById_eq (h : c.Fits model) : c.ledsById = c.supportedLeds := by
  have hsorted : c.leds.Pairwise fun first second ↦ decide (first.id ≤ second.id) = true := by
    have hids : (c.leds.map Led.id).Pairwise fun i j ↦ decide (i ≤ j) = true := by
      rw [h.ids_eq]
      decide
    exact List.pairwise_map.mp hids
  exact List.mergeSort_of_pairwise (hsorted.sublist List.filter_sublist)

end Fits

end Configuration

/-! ### The frames of a configuration -/

theorem Generation.encode_eq_ok_iff {g : Generation} {x y : ResolutionMapping} {frame : Bytes} :
    g.encode x y = .ok frame ↔
      ∃ values, g.encodeValues x y = .ok values ∧ Frame.encode g.opcode values = .ok frame := by
  rw [encode]
  rcases g.encodeValues x y with fault | values
  · exact ⟨fun h ↦ (nomatch h), fun ⟨_, h, _⟩ ↦ (nomatch h)⟩
  · refine ⟨fun h ↦ ⟨values, rfl, h⟩, ?_⟩
    rintro ⟨_, ⟨⟩, h⟩
    exact h

/-- Every resolution of a table can be sent to a sensor of its generation. -/
theorem Generation.exists_encode {g : Generation} {x y : ResolutionMapping} (hx : x ∈ g.table)
    (hy : y ∈ g.table) : ∃ frame, g.encode x y = .ok frame := by
  have hfits : ∀ m ∈ g.table, fits16 m.resolution = true := by
    cases g <;> decide
  simp only [encode_eq_ok_iff, Frame.encode_eq_ok_iff]
  cases g with
  | legacy => exact ⟨_, _, rfl, by simp [Protocol.frameValuesSize], rfl⟩
  | extended =>
    refine ⟨_, 0 :: bigEndian16 x.resolution ++ bigEndian16 y.resolution, ?_, ?_, rfl⟩
    · rw [encodeValues, hfits x hx, hfits y hy]
      rfl
    · simp [bigEndian16, Protocol.frameValuesSize]

theorem Led.exists_frame {led : Led} (h : led.selector.length = 2) :
    ∃ frame, led.frame = .ok frame := by
  refine ⟨_, Frame.encode_eq_ok_iff.mpr ⟨?_, rfl⟩⟩
  simp [h, Protocol.frameValuesSize]

/-- A frame for an LED carries its command, its selector and whether it is on. -/
structure Led.SentAs (led : Led) (frame : Bytes) : Prop where
  selector_mem : (led.id, led.selector) ∈ [(0, [1, 1]), (1, [1, 4]), (2, [1, 5])]
  conveys : Frame.Conveys [0x00, 0x03, 0x03, 0x00]
    (led.selector ++ [if led.state = 1 then 1 else 0, 0, 0]) frame

theorem Led.sentAs_of_frame {led : Led} {frame : Bytes}
    (hselector : (led.id, led.selector) ∈ [(0, [1, 1]), (1, [1, 4]), (2, [1, 5])])
    (h : led.frame = .ok frame) : led.SentAs frame := by
  refine ⟨hselector, ?_⟩
  have hconveys := Frame.conveys_of_encode h
  obtain ⟨first, second, hpair⟩ : ∃ first second, led.selector = [first, second] := by
    simp only [List.mem_cons, Prod.mk.injEq, List.not_mem_nil, or_false] at hselector
    rcases hselector with ⟨-, h⟩ | ⟨-, h⟩ | ⟨-, h⟩ <;> exact ⟨_, _, h⟩
  rw [hpair] at hconveys ⊢
  exact hconveys

theorem frequencyFrame_eq_ok_iff {frequency : Value} {frame : Bytes} :
    frequencyFrame frequency = .ok frame ↔ ∃ code, frequencyCode frequency = .ok code ∧
      Frame.encode .frequency [code] = .ok frame := by
  rw [frequencyFrame]
  rcases frequencyCode frequency with fault | code
  · exact ⟨fun h ↦ (nomatch h), fun ⟨_, h, _⟩ ↦ (nomatch h)⟩
  · refine ⟨fun h ↦ ⟨code, rfl, h⟩, ?_⟩
    rintro ⟨_, ⟨⟩, h⟩
    exact h

/-- A value that is an integer equals that integer and no other. -/
theorem Value.equalsInt_eq {v : Value} {n : Int} (h : v.toInt? = some n) (m : Int) :
    v.equalsInt m = (n == m) := by
  obtain ⟨number, hnumber, hn⟩ := Option.bind_eq_some_iff.mp h
  rw [equalsInt, hnumber]
  rcases number with b | k | x
  · cases hn
    rfl
  · cases hn
    rfl
  · cases hn

/-- A value that is an integer can be written if that integer can. -/
theorem Value.isWritable_of_toInt {v : Value} {n : Int} (h : v.toInt? = some n) :
    v.isWritable = MouseControl.isWritable n := by
  cases v with
  | number x =>
    have hx : x.toInt? = some n := h
    rw [isWritable, Number.isWritable, hx]
    rfl
  | ledState s =>
    cases h
    cases s <;> decide
  | frequency f =>
    cases h
    cases f <;> decide
  | _ => cases h

/-- A mapping that is looked up is an entry of the table. -/
theorem Configuration.mem_of_mappingFor {c : Configuration} {given : Value} {m : ResolutionMapping}
    (h : c.mappingFor given = some m) :
    m ∈ c.generation.table ∧ given.equalsInt m.resolution = true :=
  ⟨List.mem_of_find?_eq_some h, by simpa using List.find?_some h⟩

/-- Looking up the resolution of some entry finds such an entry. -/
theorem Configuration.exists_mappingFor {c : Configuration} {given : Value} {n : Int}
    (hgiven : given.toInt? = some n) (hentry : ∃ m ∈ c.generation.table, m.resolution = n) :
    ∃ m ∈ c.generation.table, m.resolution = n ∧ c.mappingFor given = some m := by
  have hequals (m : ResolutionMapping) :
      given.equalsInt m.resolution = true ↔ m.resolution = n := by
    rw [Value.equalsInt_eq hgiven, beq_iff_eq, eq_comm]
  obtain ⟨entry, hentry, hresolution⟩ := hentry
  obtain ⟨m, hfind⟩ : ∃ m, c.mappingFor given = some m :=
    Option.isSome_iff_exists.mp
      (List.find?_isSome.mpr ⟨entry, hentry, (hequals entry).mpr hresolution⟩)
  obtain ⟨hm, hequal⟩ := mem_of_mappingFor hfind
  exact ⟨m, hm, (hequals m).mp hequal, hfind⟩

/-- The integers without a code. -/
theorem frequencyCode_eq_error_iff {frequency : Value} {n : Int} (h : frequency.toInt? = some n) :
    frequencyCode frequency = .error (Fault.unsupportedFrequency frequency).worded ↔
      n ∉ [0, 125, 500, 1000] := by
  have hcode (f : Frequency) : frequency.equalsInt f.hertz = (n == f.hertz) :=
    Value.equalsInt_eq h f.hertz
  rw [frequencyCode]
  simp only [hcode]
  split
  next f hfind =>
    have hn : n = f.hertz := by simpa using List.find?_some hfind
    refine ⟨fun h ↦ (nomatch h), fun hnot ↦ absurd ?_ hnot⟩
    rw [hn]
    cases f <;> decide
  next hnone =>
    refine ⟨fun _ hmem ↦ ?_, fun _ ↦ rfl⟩
    have hmem : n ∈ Frequency.all.map Frequency.hertz := hmem
    obtain ⟨f, hf, rfl⟩ := List.mem_map.mp hmem
    exact absurd (beq_self_eq_true f.hertz) (List.find?_eq_none.mp hnone f hf)

/-- The integers with a code; 0, the unknown frequency, has that of 1000. -/
theorem mem_of_frequencyCode {frequency : Value} {n : Int} {code : UInt8}
    (h : frequency.toInt? = some n) (hcode : frequencyCode frequency = .ok code) :
    (n, code) ∈ [(0, 1), (125, 8), (500, 2), (1000, 1)] := by
  rw [frequencyCode] at hcode
  split at hcode
  next f hfind =>
    cases hcode
    have hequals : frequency.equalsInt f.hertz = true := by simpa using List.find?_some hfind
    rw [Value.equalsInt_eq h, beq_iff_eq] at hequals
    subst hequals
    cases f <;> decide
  next => cases hcode

theorem eq_of_frequencyCode_eq_error {frequency : Value} {fault : Fault}
    (h : frequencyCode frequency = .error fault) :
    fault = (Fault.unsupportedFrequency frequency).worded := by
  rw [frequencyCode] at h
  split at h <;> cases h
  rfl

/-- The frame of a frequency carries its command and the code. -/
theorem conveys_of_frequencyFrame {frequency : Value} {code : UInt8} {frame : Bytes}
    (hcode : frequencyCode frequency = .ok code) (h : frequencyFrame frequency = .ok frame) :
    Frame.Conveys [0x00, 0x01, 0x00, 0x05] [code, 0, 0, 0, 0] frame := by
  obtain ⟨other, hother, hencode⟩ := frequencyFrame_eq_ok_iff.mp h
  cases hcode.symm.trans hother
  exact Frame.conveys_of_encode hencode

/-- A frequency without a code is the only reason for its frame not to exist. -/
theorem frequencyFrame_cases (frequency : Value) :
    (∃ code frame, frequencyCode frequency = .ok code ∧ frequencyFrame frequency = .ok frame) ∨
      frequencyCode frequency = .error (Fault.unsupportedFrequency frequency).worded ∧
        frequencyFrame frequency = .error (Fault.unsupportedFrequency frequency).worded := by
  rcases hcode : frequencyCode frequency with fault | code
  · right
    rw [frequencyFrame, hcode, eq_of_frequencyCode_eq_error hcode]
    exact ⟨rfl, rfl⟩
  · left
    have hframe : Frame.encode .frequency [code] = .ok _ :=
      Frame.encode_eq_ok_iff.mpr ⟨by simp [Protocol.frameValuesSize], rfl⟩
    exact ⟨code, _, rfl, frequencyFrame_eq_ok_iff.mpr ⟨code, hcode, hframe⟩⟩

/-- Whatever a configuration is, the frames that there are were built as frames of commands. -/
theorem exists_encode_of_mem_framesOf {c : Configuration} {frame : Bytes}
    (h : .ok frame ∈ Channel.framesOf c) :
    ∃ opcode values, Frame.encode opcode values = .ok frame := by
  simp only [Channel.framesOf, List.mem_cons, List.mem_append, List.mem_map,
    List.not_mem_nil, or_false] at h
  rcases h with hresolution | ⟨led, -, hled⟩ | hfrequency
  · obtain ⟨values, -, hframe⟩ := Generation.encode_eq_ok_iff.mp hresolution.symm
    exact ⟨_, values, hframe⟩
  · exact ⟨_, _, hled⟩
  · obtain ⟨code, -, hframe⟩ := frequencyFrame_eq_ok_iff.mp hfrequency.symm
    exact ⟨_, _, hframe⟩

/-- The frames of a configuration are among what is sent of it. -/
theorem Configuration.mem_framesOf {c : Configuration} {frame : Bytes} (h : frame ∈ c.frames) :
    .ok frame ∈ Channel.framesOf c := by
  obtain ⟨built, hbuilt, hframe⟩ := List.mem_filterMap.mp h
  obtain rfl : built = .ok frame := by
    rcases built with fault | other
    · cases hframe
    · cases hframe
      rfl
  simpa [Channel.framesOf, supportedLeds, ledsById] using hbuilt

theorem Configuration.sealed_of_mem_frames {c : Configuration} {frame : Bytes}
    (h : frame ∈ c.frames) : Frame.Sealed frame := by
  obtain ⟨_, _, hframe⟩ := exists_encode_of_mem_framesOf (mem_framesOf h)
  exact Frame.sealed_of_encode hframe

namespace Configuration.Fits

variable {model : Model} {c : Configuration}

theorem exists_resolutionFrame (h : c.Fits model) :
    ∃ frame, c.generation.encode c.x c.y = .ok frame := by
  rw [h.generation_eq]
  exact Generation.exists_encode h.x_mem h.y_mem

theorem exists_ledFrames (h : c.Fits model) : ∃ frames : List Bytes,
    c.ledsById.map Led.frame = frames.map .ok ∧ List.Forall₂ Led.SentAs c.ledsById frames := by
  have hall : ∀ led ∈ c.supportedLeds, ∃ frame, led.frame = .ok frame ∧ led.SentAs frame := by
    intro led hled
    have hmem := List.mem_of_mem_filter hled
    obtain ⟨frame, hframe⟩ := Led.exists_frame (h.length_selector hmem)
    exact ⟨frame, hframe, Led.sentAs_of_frame (h.selector_mem hmem) hframe⟩
  rw [h.ledsById_eq]
  generalize c.supportedLeds = leds at hall
  induction leds with
  | nil => exact ⟨[], rfl, .nil⟩
  | cons led rest ih =>
    obtain ⟨frame, hframe, hsent⟩ := hall led (.head _)
    obtain ⟨frames, hrest, hall⟩ := ih fun other hother ↦ hall other (.tail _ hother)
    exact ⟨frame :: frames, by rw [List.map_cons, hframe, hrest, List.map_cons], .cons hsent hall⟩

/-- The resolutions and every LED have their frame; only the one of the frequency may be lacking. -/
theorem frames_eq (h : c.Fits model) : ∃ resolution leds,
    c.generation.encode c.x c.y = .ok resolution ∧ c.ledsById.map Led.frame = leds.map .ok ∧
      List.Forall₂ Led.SentAs c.ledsById leds ∧
      c.frames = resolution :: leds ++ (frequencyFrame c.frequency).toOption.toList := by
  obtain ⟨resolution, hresolution⟩ := h.exists_resolutionFrame
  obtain ⟨leds, hleds, hsent⟩ := h.exists_ledFrames
  refine ⟨resolution, leds, hresolution, hleds, hsent, ?_⟩
  have htoOption : (leds.map (Except.ok : Bytes → Except Fault Bytes)).filterMap
      Except.toOption = leds := by
    rw [List.filterMap_map]
    exact List.filterMap_some
  rw [frames, hresolution, hleds, List.filterMap_append, List.filterMap_cons]
  simp only [Except.toOption, htoOption]
  rcases frequencyFrame c.frequency with fault | frame <;> rfl

/-- Every frame before the last exists. -/
theorem framesOf_eq (h : c.Fits model) : ∃ first : List Bytes,
    Channel.framesOf c = first.map .ok ++ [frequencyFrame c.frequency] ∧
      c.frames = first ++ (frequencyFrame c.frequency).toOption.toList := by
  obtain ⟨resolution, leds, hresolution, hleds, -, hframes⟩ := h.frames_eq
  refine ⟨resolution :: leds, ?_, hframes⟩
  rw [Channel.framesOf, hresolution, ← h.ledsById_eq, hleds]
  rfl

end Configuration.Fits

end MouseControl
