import MouseControl.Proofs.Json.Reading
import MouseControl.Settings.Basic

/-!
What the configuration file comes to, whatever stands in its place. A file counts as an empty
object unless it spells an object. Two kinds of files are faults all the same, and with them the
settings that are made when the library is loaded: bytes that are not UTF-8, and a text that is as
a document up to an integer of too many digits. `ConfigFile.Loads` says so of the file without
saying how it is read.
-/

set_option autoImplicit false
set_option relaxedAutoImplicit false

namespace MouseControl

open Json

/-- A text in UTF-8. -/
def encoded (s : List Char) : Bytes := s.flatMap String.utf8EncodeChar

/-- Bytes are read as the text that they encode. -/
theorem fromUTF8?_eq_some {bytes : Bytes} {s : String} :
    String.fromUTF8? (ByteArray.mk bytes.toArray) = some s ↔ bytes = encoded s.toList := by
  have hbytes : ByteArray.mk bytes.toArray = bytes.toByteArray :=
    ByteArray.ext List.data_toByteArray.symm
  have hencoded : (encoded s.toList).toByteArray = s.toByteArray :=
    String.toByteArray_ofList.symm.trans (congrArg _ String.ofList_toList)
  rw [hbytes, String.fromUTF8?, ← List.toByteArray_inj, hencoded]
  constructor
  · intro h
    split at h
    · cases h
      rfl
    · cases h
  · intro h
    rw [h, dif_pos s.isValidUTF8]
    rfl

/-- Bytes that encode no text are not read. -/
theorem fromUTF8?_eq_none {bytes : Bytes} :
    String.fromUTF8? (ByteArray.mk bytes.toArray) = none ↔ ∀ s, bytes ≠ encoded s := by
  constructor
  · rintro h s rfl
    have hread : String.fromUTF8? (ByteArray.mk (encoded s).toArray) = some (String.ofList s) :=
      fromUTF8?_eq_some.mpr (by rw [String.toList_ofList])
    rw [h] at hread
    cases hread
  · intro h
    rcases hread : String.fromUTF8? (ByteArray.mk bytes.toArray) with _ | s
    · rfl
    · exact absurd (fromUTF8?_eq_some.mp hread) (h s.toList)

namespace ConfigFile

/-- What a file comes to: its members or a fault. -/
inductive Loads : ConfigFile → Except Fault (List (Text × Value)) → Prop
  | missing : Loads missing (.ok [])
  | directory : Loads directory (.ok [])
  | object {s : List Char} {members : List (Text × Value)} :
      SpellsDocument s (.object members) → Loads (content (encoded s)) (.ok members)
  | corrupt {s : List Char} : (∀ members, ¬SpellsDocument s (.object members)) →
      (∀ digits, ¬BreaksDocument digits s) → Loads (content (encoded s)) (.ok [])
  | longInteger {s : List Char} {digits : Nat} : BreaksDocument digits s →
      Loads (content (encoded s)) (.error (.longInteger digits))
  | undecodable {bytes : Bytes} : (∀ s, bytes ≠ encoded s) →
      Loads (content bytes) (.error .undecodable)

theorem load_encoded (s : List Char) :
    (content (encoded s)).load = membersIn (String.ofList s) := by
  have hread : String.fromUTF8? (ByteArray.mk (encoded s).toArray) = some (String.ofList s) :=
    fromUTF8?_eq_some.mpr (by rw [String.toList_ofList])
  rw [load, hread]

/-- Only an object has members. -/
theorem membersOf_eq_nil {v : Value} (h : ∀ members, v ≠ .object members) : membersOf v = [] := by
  cases v with
  | object members => exact absurd rfl (h members)
  | _ => rfl

/-- What a file comes to is what it loads. -/
theorem Loads.load_eq {f : ConfigFile} {outcome : Except Fault (List (Text × Value))}
    (h : f.Loads outcome) : f.load = outcome := by
  have hdocument (s : List Char) (v : Value) :
      document (String.ofList s) = .ok v ↔ SpellsDocument s v := by
    simpa using document_eq_ok_iff (String.ofList s) v
  have hlong (s : List Char) (digits : Nat) :
      document (String.ofList s) = .error (.longInteger digits) ↔ BreaksDocument digits s := by
    simpa using document_eq_longInteger_iff (String.ofList s) digits
  cases h with
  | missing | directory => rfl
  | @object s members hspells =>
    rw [load_encoded, membersIn, (hdocument s _).mpr hspells]
    rfl
  | @corrupt s hobject hbreaks =>
    rw [load_encoded]
    rcases hread : document (String.ofList s) with (_ | digits) | v
    · rw [membersIn, hread]
    · exact absurd ((hlong s digits).mp hread) (hbreaks digits)
    · have hnone : membersOf v = [] := membersOf_eq_nil fun members hv ↦
        hobject members (hv ▸ (hdocument s v).mp hread)
      rw [membersIn, hread]
      exact congrArg _ hnone
  | @longInteger s digits hbreaks =>
    rw [load_encoded, membersIn, (hlong s digits).mpr hbreaks]
  | @undecodable bytes hbytes =>
    rw [load, fromUTF8?_eq_none.mpr hbytes]

/-- Every file comes to something. -/
theorem exists_loads (f : ConfigFile) : ∃ outcome, f.Loads outcome := by
  cases f with
  | missing => exact ⟨_, .missing⟩
  | directory => exact ⟨_, .directory⟩
  | content bytes =>
    by_cases hencoded : ∃ s, bytes = encoded s
    · obtain ⟨s, rfl⟩ := hencoded
      by_cases hbreaks : ∃ digits, BreaksDocument digits s
      · exact ⟨_, .longInteger hbreaks.choose_spec⟩
      · by_cases hobject : ∃ members, SpellsDocument s (.object members)
        · exact ⟨_, .object hobject.choose_spec⟩
        · exact ⟨_, .corrupt (not_exists.mp hobject) (not_exists.mp hbreaks)⟩
    · exact ⟨_, .undecodable (not_exists.mp hencoded)⟩

theorem load_eq_iff {f : ConfigFile} {outcome : Except Fault (List (Text × Value))} :
    f.load = outcome ↔ f.Loads outcome := by
  refine ⟨?_, Loads.load_eq⟩
  rintro rfl
  obtain ⟨outcome, h⟩ := f.exists_loads
  rwa [h.load_eq]

/-- The files that are faults. -/
theorem loads_error_iff {f : ConfigFile} {fault : Fault} :
    f.Loads (.error fault) ↔
      (fault = .undecodable ∧ ∃ bytes, f = content bytes ∧ ∀ s, bytes ≠ encoded s) ∨
        ∃ digits s, fault = .longInteger digits ∧ f = content (encoded s) ∧
          BreaksDocument digits s := by
  constructor
  · intro h
    cases h with
    | longInteger hbreaks => exact .inr ⟨_, _, rfl, rfl, hbreaks⟩
    | undecodable hbytes => exact .inl ⟨rfl, _, rfl, hbytes⟩
  · rintro (⟨rfl, bytes, rfl, hbytes⟩ | ⟨digits, s, rfl, rfl, hbreaks⟩)
    · exact .undecodable hbytes
    · exact .longInteger hbreaks

/-- The settings that are made when the library is loaded. -/
def settings (f : ConfigFile) (overrides : Overrides) : Except Fault Settings :=
  f.load.map fun members ↦ .ofMembers members overrides

/-- A file that spells an object is loaded with its members and any other with none, and the
library has settings made of them. Two kinds of files are faults: bytes that are not UTF-8, and an
integer of too many digits where a document could go on. -/
theorem settings_of_file (f : ConfigFile) (overrides : Overrides) :
    (∀ outcome, f.load = outcome ↔ f.Loads outcome) ∧
      (∀ settings, f.settings overrides = .ok settings ↔
        ∃ members, f.Loads (.ok members) ∧ settings = .ofMembers members overrides) ∧
      ∀ fault, f.settings overrides = .error fault ↔
        (fault = .undecodable ∧ ∃ bytes, f = content bytes ∧ ∀ s, bytes ≠ encoded s) ∨
          ∃ digits s, fault = .longInteger digits ∧ f = content (encoded s) ∧
            BreaksDocument digits s := by
  refine ⟨fun outcome ↦ load_eq_iff, fun settings ↦ ?_, fun fault ↦ ?_⟩
  · simp only [← load_eq_iff, ConfigFile.settings]
    rcases f.load with fault | members
    · simp [Except.map]
    · simp [Except.map, eq_comm]
  · rw [← loads_error_iff, ← load_eq_iff, ConfigFile.settings]
    rcases f.load with fault' | members
    · simp [Except.map]
    · simp [Except.map]

/-- A byte that begins no character is enough. -/
theorem settings_of_lone_byte :
    (content [0xff]).load = .error .undecodable ∧
      ¬∀ (f : ConfigFile) (overrides : Overrides),
        ∃ settings, f.settings overrides = .ok settings := by
  have hload : (content [0xff]).load = .error .undecodable := rfl
  refine ⟨hload, fun hsettings ↦ ?_⟩
  obtain ⟨settings, h⟩ := hsettings (content [0xff]) {}
  rw [ConfigFile.settings, hload] at h
  cases h

end ConfigFile

end MouseControl
