import MouseControl.Proofs.Device.Configuration
import MouseControl.Proofs.Wire.Codec

/-!
Resolutions on the wire. A table holds the multiples of 100 up to its highest, each once
(`Generation.exists_entry_iff`). The frame that sets two of them can be read back: it names the
resolutions of both axes in the way of its generation (`Generation.sets_of_encode`).
-/

set_option autoImplicit false
set_option relaxedAutoImplicit false

namespace MouseControl

theorem ResolutionMapping.resolution_ofIndex (i : Nat) :
    (ResolutionMapping.ofIndex i).resolution = (i + 1) * 100 := rfl

namespace Generation

/-! ### Tables -/

theorem mem_table_iff {g : Generation} {m : ResolutionMapping} :
    m ∈ g.table ↔ ∃ i < g.size, m = .ofIndex i := by
  simp only [table, List.mem_map, List.mem_range, eq_comm (a := m)]

/-- The resolutions of a table are the multiples of 100 up to its highest. -/
theorem exists_entry_iff (g : Generation) (n : Int) :
    (∃ m ∈ g.table, m.resolution = n) ↔ 100 ∣ n ∧ 100 ≤ n ∧ n ≤ 100 * g.size := by
  constructor
  · rintro ⟨m, hm, rfl⟩
    obtain ⟨i, hi, rfl⟩ := mem_table_iff.mp hm
    rw [ResolutionMapping.resolution_ofIndex]
    omega
  · rintro ⟨⟨k, rfl⟩, hlow, hhigh⟩
    obtain ⟨i, hi⟩ : ∃ i : Nat, k = i + 1 := ⟨(k - 1).toNat, by omega⟩
    refine ⟨.ofIndex i, mem_table_iff.mpr ⟨i, by omega, rfl⟩, ?_⟩
    rw [ResolutionMapping.resolution_ofIndex, hi]
    exact Int.mul_comm _ _

/-! ### Frames -/

/-- The values of a command name the resolutions of both axes: for the legacy generation by one byte
each, which is four times the number of steps above the first; for the extended one by two bytes
each, the high one first, after a zero. All other values are zero. -/
def Names : Generation → Bytes → Int → Int → Prop
  | legacy, values, x, y => ∃ first second : UInt8, values = [first, second, 0, 0, 0] ∧
      100 * ((first.toNat : Int) / 4 + 1) = x ∧ 100 * ((second.toNat : Int) / 4 + 1) = y
  | extended, values, x, y => ∃ xHigh xLow yHigh yLow : UInt8,
      values = [0, xHigh, xLow, yHigh, yLow] ∧ join16 xHigh xLow = x ∧ join16 yHigh yLow = y

/-- A frame sets the resolutions of both axes: it carries the opcode of its generation and values
that name them. -/
def Sets (g : Generation) (frame : Bytes) (x y : Int) : Prop :=
  ∃ parts, Frame.decode frame = .ok parts ∧ parts.command = g.opcode.command ∧
    parts.request = g.opcode.request ∧ g.Names parts.values x y

theorem ids_opcode (g : Generation) : g.opcode.command % 0x10000 = g.opcode.command ∧
    g.opcode.request % 0x10000 = g.opcode.request := by
  cases g <;> decide

/-- The byte of a legacy table entry does not overflow. -/
theorem toNat_legacyByte {m : ResolutionMapping} (h : m ∈ legacy.table) :
    100 * (((legacyByte m.resolution).toNat : Int) / 4 + 1) = m.resolution := by
  obtain ⟨i, hi, rfl⟩ := mem_table_iff.mp h
  have hsize : i < 56 := hi
  have hbyte : (legacyByte (ResolutionMapping.ofIndex i).resolution).toNat = i * 4 := by
    simp only [legacyByte, ResolutionMapping.resolution_ofIndex, resolutionStep,
      UInt8.toNat_ofNat']
    omega
  rw [hbyte, ResolutionMapping.resolution_ofIndex]
  omega

/-- An extended table entry fits in 16 bits. -/
theorem exists_bytes_of_mem {m : ResolutionMapping} (h : m ∈ extended.table) :
    ∃ high low, bigEndian16 m.resolution = [high, low] ∧ join16 high low = m.resolution := by
  obtain ⟨i, hi, rfl⟩ := mem_table_iff.mp h
  have hsize : i < 82 := hi
  refine ⟨_, _, rfl, ?_⟩
  rw [join16_bigEndian16 rfl, ResolutionMapping.resolution_ofIndex]
  omega

theorem names_of_encodeValues {g : Generation} {x y : ResolutionMapping} {values : Bytes}
    (hx : x ∈ g.table) (hy : y ∈ g.table) (h : g.encodeValues x y = .ok values) :
    g.Names (Frame.padded values) x.resolution y.resolution := by
  cases g with
  | legacy =>
    cases h
    exact ⟨_, _, rfl, toNat_legacyByte hx, toNat_legacyByte hy⟩
  | extended =>
    obtain ⟨xHigh, xLow, hxBytes, hxJoin⟩ := exists_bytes_of_mem hx
    obtain ⟨yHigh, yLow, hyBytes, hyJoin⟩ := exists_bytes_of_mem hy
    rw [encodeValues, hxBytes, hyBytes] at h
    split at h
    · cases h
      exact ⟨xHigh, xLow, yHigh, yLow, rfl, hxJoin, hyJoin⟩
    · cases h

/-- What the frame of two table entries sets is these. -/
theorem sets_of_encode {g : Generation} {x y : ResolutionMapping} {frame : Bytes}
    (hx : x ∈ g.table) (hy : y ∈ g.table) (h : g.encode x y = .ok frame) :
    g.Sets frame x.resolution y.resolution := by
  obtain ⟨values, hvalues, hframe⟩ := encode_eq_ok_iff.mp h
  obtain ⟨parts, hparts, hcarries⟩ := Frame.carries_of_encode hframe
  obtain ⟨hcommand, hrequest⟩ := g.ids_opcode
  refine ⟨parts, hparts, hcarries.command_eq.trans hcommand, hcarries.request_eq.trans hrequest, ?_⟩
  rw [hcarries.values_eq]
  exact names_of_encodeValues hx hy hvalues

end Generation

end MouseControl
