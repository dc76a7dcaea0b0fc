import MouseControl.Proofs.Number.Nearest
import MouseControl.Settings.Basic

/-!
What a setting is read as. The environment goes before the configuration and the configuration
before the default; a value in which no number can be read is left out, with a warning. The one way
to fail is a number beyond those asked for: an infinity where an integer is needed, or an integer
beyond the doubles. What each setting comes to, and the notices that it adds, are given by `Reads`,
`Waits` and `Chooses` (`Settings.outcomes`).
-/

set_option autoImplicit false
set_option relaxedAutoImplicit false

namespace MouseControl

open MouseControl.Action

variable {α : Type}

/-! ### Numbers in values -/

namespace Number

/-- The integer that a number is read as. A double loses its fraction. -/
def whole? : Number → Option Int
  | float x => (Binary.ofFloat x).truncate?
  | x => x.toInt?

def Infinite (x : Number) : Prop :=
  ∃ y negative, x = float y ∧ Binary.ofFloat y = .infinite negative

/-- An integer that is half a step above the largest double, or more, or as far below zero. -/
def Huge (x : Number) : Prop := ∃ n, x = int n ∧ 2 ^ 1024 - 2 ^ 970 ≤ n.natAbs

end Number

/-- How numbers of one kind are read: from a number, which may be beyond them, and from a text. -/
structure Conversion (α : Type) where
  ofNumber? : Number → Option α
  Beyond : Number → Prop
  ofText? : Text → Option α

namespace Conversion

def whole : Conversion Int := ⟨Number.whole?, Number.Infinite, Reader.int?⟩

def real : Conversion Float := ⟨Number.toFloat?, Number.Huge, Reader.float?⟩

variable (c : Conversion α)

/-- A value that is read as a number. -/
inductive Reads : Value → α → Prop
  | number {v : Value} {x : Number} {a : α} : v.toNumber? = some x → c.ofNumber? x = some a →
      Reads v a
  | text {t : Text} {a : α} : c.ofText? t = some a → Reads (.text t) a

/-- A value that is a number beyond those asked for. -/
def Exceeds (v : Value) : Prop := ∃ x, v.toNumber? = some x ∧ c.Beyond x

/-- The ends of a conversion. -/
inductive Ends (v : Value) : Except Fault α → Prop
  | number {a : α} : c.Reads v a → Ends v (.ok a)
  | tooLarge : c.Exceeds v → Ends v (.error .tooLarge)
  | unreadable {fault : Fault} : (∀ a, ¬c.Reads v a) → ¬c.Exceeds v →
      (fault.isA .type || fault.isA .value) = true → Ends v (.error fault)

variable {c}

theorem reads_text {t : Text} {a : α} : c.Reads (.text t) a ↔ c.ofText? t = some a := by
  constructor
  · rintro (h | h)
    · cases h
    · exact h
  · exact .text

/-- A text ends as its reading does. -/
theorem ends_text (t : Text) :
    c.Ends (.text t) ((c.ofText? t).elim (.error .unreadableNumber) .ok) := by
  rcases hread : c.ofText? t with _ | a
  · refine .unreadable (fun a h ↦ ?_) (fun h ↦ ?_) rfl
    · rw [reads_text, hread] at h
      cases h
    · obtain ⟨x, h, -⟩ := h
      cases h
  · exact .number (.text hread)

/-- A value that is neither a number nor a text is of the wrong type. -/
theorem ends_wrongType {v : Value} (hnumber : v.toNumber? = none) (htext : ∀ t, v ≠ .text t) :
    c.Ends v (.error .wrongType) := by
  refine .unreadable (fun a h ↦ ?_) (fun h ↦ ?_) rfl
  · cases h with
    | number hx =>
      rw [hnumber] at hx
      cases hx
    | text => exact htext _ rfl
  · obtain ⟨x, hx, -⟩ := h
    rw [hnumber] at hx
    cases hx

/-- A number that is neither read nor beyond those asked for. -/
theorem ends_unreadable {v : Value} {x : Number} (hv : v.toNumber? = some x)
    (hnone : c.ofNumber? x = none) (hbeyond : ¬c.Beyond x) :
    c.Ends v (.error .unreadableNumber) := by
  refine .unreadable (fun a h ↦ ?_) (fun h ↦ ?_) rfl
  · cases h with
    | number hx ha =>
      obtain rfl := Option.some.inj (hv.symm.trans hx)
      rw [hnone] at ha
      cases ha
    | text => cases hv
  · obtain ⟨y, hy, h⟩ := h
    obtain rfl := Option.some.inj (hv.symm.trans hy)
    exact hbeyond h

end Conversion

namespace Value

open Conversion

theorem ends_wholeNumber (v : Value) : whole.Ends v v.wholeNumber := by
  cases v with
  | number n =>
    cases n with
    | bool b => exact .number (.number rfl rfl)
    | int n => exact .number (.number rfl rfl)
    | float x =>
      rcases hx : Binary.ofFloat x with ⟨negative, significand, exponent⟩ | negative | _
      · simp only [wholeNumber, toNumber?, hx, Binary.truncate?]
        exact .number (.number rfl (congrArg Binary.truncate? hx))
      · simp only [wholeNumber, toNumber?, hx, Binary.truncate?]
        exact .tooLarge ⟨_, rfl, x, negative, rfl, hx⟩
      · simp only [wholeNumber, toNumber?, hx]
        refine ends_unreadable rfl (congrArg Binary.truncate? hx) ?_
        rintro ⟨y, negative, h, hy⟩
        cases h
        rw [hx] at hy
        cases hy
  | text t =>
    have hread := ends_text (c := whole) t
    rcases h : Reader.int? t with _ | n <;> simpa [wholeNumber, h, whole] using hread
  | ledState state => exact .number (.number rfl rfl)
  | frequency f => exact .number (.number rfl rfl)
  | null | list | object | mapping | axis | led => exact ends_wrongType rfl nofun

/-- An integer is rounded unless it is too large for a double. -/
theorem ends_rounded {v : Value} {n : Int} (hv : v.toNumber? = some (.int n))
    (hread : v.realNumber =
      match nearestFloat? n with
      | some x => .ok x
      | none => .error .tooLarge) :
    real.Ends v v.realNumber := by
  rcases h : nearestFloat? n with _ | x
  · rw [hread, h]
    exact .tooLarge ⟨_, hv, n, rfl, (nearestFloat?_eq_none_iff n).mp h⟩
  · rw [hread, h]
    exact .number (.number hv h)

theorem ends_realNumber (v : Value) : real.Ends v v.realNumber := by
  cases v with
  | number n =>
    cases n with
    | bool b => exact .number (.number rfl rfl)
    | int n => exact ends_rounded rfl rfl
    | float x => exact .number (.number rfl rfl)
  | text t =>
    have hread := ends_text (c := real) t
    rcases h : Reader.float? t with _ | x <;> simpa [realNumber, h, real] using hread
  | ledState state => exact ends_rounded rfl rfl
  | frequency f => exact ends_rounded rfl rfl
  | null | list | object | mapping | axis | led => exact ends_wrongType rfl nofun

end Value

/-! ### Settings -/

theorem Value.isString_iff {v : Value} {s : String} : v.isString s = true ↔ v = .string s := by
  cases v <;> simp [isString, string]

namespace BackendChoice

/-- A value names a choice if it is the name of it. -/
theorem ofValue?_eq_some {v : Value} {choice : BackendChoice} :
    ofValue? v = some choice ↔ v = .string choice.name := by
  constructor
  · intro h
    have hnamed := List.find?_some (p := fun c : BackendChoice ↦ v.isString c.name) h
    exact Value.isString_iff.mp hnamed
  · rintro rfl
    rcases choice with _ | (_ | _) <;> rfl

end BackendChoice

namespace Settings

/-- A reading ends in an outcome, and adds notices to those before it, each a warning. -/
structure Comes (reading : Reading α) (outcome : Except Fault α) (new : List Notice) : Prop where
  run_eq : ∀ notices, reading.run notices = (outcome, notices ++ new)
  level_eq : ∀ n ∈ new, n.level = .warning

theorem comes_pure (a : α) : Comes (pure a) (.ok a) [] := ⟨by simp, by simp⟩

theorem comes_throw (fault : Fault) : Comes (throw fault : Reading α) (.error fault) [] :=
  ⟨by simp, by simp⟩

/-- A warning goes before those of the rest. -/
theorem Comes.warn {n : Notice} (hn : n.level = .warning) {rest : Reading α}
    {outcome : Except Fault α} {new : List Notice} (h : Comes rest outcome new) :
    Comes (do Settings.warn n; rest) outcome (n :: new) where
  run_eq notices := by
    have hwarn : (Settings.warn n).run notices = (.ok (), notices ++ [n]) := rfl
    rw [run_bind_ok hwarn, h.run_eq, List.append_assoc, List.singleton_append]
  level_eq := List.forall_mem_cons.mpr ⟨hn, h.level_eq⟩

/-- What a setting comes to that is a number, from the value that the configuration has for it. -/
inductive Reads (c : Conversion α) (key : String) (default : α) :
    Option Value → Except Fault α → List Notice → Prop
  | default : Reads c key default none (.ok default) []
  | number {v : Value} {a : α} : c.Reads v a → Reads c key default (some v) (.ok a) []
  | ignored {v : Value} : (∀ a, ¬c.Reads v a) → ¬c.Exceeds v →
      Reads c key default (some v) (.ok default) [.invalidSetting key v]
  | tooLarge {v : Value} : c.Exceeds v → Reads c key default (some v) (.error .tooLarge) []

/-- A reading comes to what a number comes to that is given under a key. -/
def Yields (s : Settings) (reading : Reading α) (c : Conversion α) (key : String) (default : α) :
    Prop :=
  ∃ outcome new, Comes reading outcome new ∧
    Reads c key default (Value.lookup key s.usb) outcome new

theorem yields_number (s : Settings) (key : String) {read : Value → Except Fault α}
    {c : Conversion α} (default : α) (hread : ∀ v, c.Ends v (read v)) :
    s.Yields (s.number key read default) c key default := by
  rw [Yields]
  rcases hlookup : Value.lookup key s.usb with _ | v
  · refine ⟨_, _, ?_, .default⟩
    rw [number, hlookup]
    exact comes_pure default
  · have hends := hread v
    generalize hresult : read v = result at hends
    cases hends with
    | number h =>
      refine ⟨_, _, ?_, .number h⟩
      simp only [number, hlookup, hresult]
      exact comes_pure _
    | tooLarge h =>
      refine ⟨_, _, ?_, .tooLarge h⟩
      simp only [number, hlookup, hresult]
      exact comes_throw _
    | unreadable h h' hkind =>
      refine ⟨_, _, ?_, .ignored h h'⟩
      simp only [number, hlookup, hresult, hkind, if_true]
      exact .warn rfl (comes_pure default)

/-- What the timeout comes to. -/
inductive Waits (s : Settings) : Except Fault Int → List Notice → Prop
  | override {spelled : Text} {n : Int} : given s.overrides.timeout = some spelled →
      Reader.int? spelled = some n → Waits s (.ok n) []
  | ignored {spelled : Text} {outcome : Except Fault Int} {new : List Notice} :
      given s.overrides.timeout = some spelled → Reader.int? spelled = none →
      Reads .whole "usb_timeout_ms" Protocol.defaultTimeout (Value.lookup "usb_timeout_ms" s.usb)
        outcome new →
      Waits s outcome (.invalidTimeout spelled :: new)
  | configured {outcome : Except Fault Int} {new : List Notice} :
      given s.overrides.timeout = none →
      Reads .whole "usb_timeout_ms" Protocol.defaultTimeout (Value.lookup "usb_timeout_ms" s.usb)
        outcome new →
      Waits s outcome new

theorem exists_comes_timeout (s : Settings) :
    ∃ outcome new, Comes s.timeout outcome new ∧ s.Waits outcome new := by
  obtain ⟨outcome, new, hcomes, hreads⟩ := yields_number s "usb_timeout_ms"
    Protocol.defaultTimeout Value.ends_wholeNumber
  rcases hgiven : given s.overrides.timeout with _ | spelled
  · refine ⟨outcome, new, ?_, .configured hgiven hreads⟩
    simp only [timeout, hgiven]
    exact hcomes
  · rcases hint : Reader.int? spelled with _ | n
    · refine ⟨outcome, _, ?_, .ignored hgiven hint hreads⟩
      simp only [timeout, hgiven, hint]
      exact .warn rfl hcomes
    · refine ⟨_, _, ?_, .override hgiven hint⟩
      simp only [timeout, hgiven, hint]
      exact comes_pure n

/-- The value that names the backend. -/
def backendName (s : Settings) : Value :=
  match given s.overrides.backend with
  | some name => .text name
  | none => (Value.lookup "backend" s.usb).getD (.string BackendChoice.auto.name)

/-- What the choice of the backend comes to. -/
inductive Chooses (s : Settings) : BackendChoice → List Notice → Prop
  | named {choice : BackendChoice} : s.backendName = .string choice.name → Chooses s choice []
  | unknown : (∀ choice : BackendChoice, s.backendName ≠ .string choice.name) →
      Chooses s .auto [.unknownBackend s.backendName]

theorem backend_eq (s : Settings) :
    s.backend = (BackendChoice.ofValue? s.backendName).elim
      (do warn (.unknownBackend s.backendName); pure .auto) pure := by
  unfold backend backendName
  rcases given s.overrides.backend with _ | name
  · rcases h : BackendChoice.ofValue? ((Value.lookup "backend" s.usb).getD
      (.string BackendChoice.auto.name)) with _ | choice <;> simp only [h, Option.elim]
  · rcases h : BackendChoice.ofValue? (.text name) with _ | choice <;> simp only [h, Option.elim]

theorem exists_comes_backend (s : Settings) :
    ∃ choice new, Comes s.backend (.ok choice) new ∧ s.Chooses choice new := by
  rw [backend_eq]
  rcases h : BackendChoice.ofValue? s.backendName with _ | choice
  · refine ⟨_, _, .warn rfl (comes_pure _), .unknown fun choice hname ↦ ?_⟩
    rw [BackendChoice.ofValue?_eq_some.mpr hname] at h
    cases h
  · exact ⟨choice, [], comes_pure choice, .named (BackendChoice.ofValue?_eq_some.mp h)⟩

/-- Every setting is read off its value, whatever that is, with a warning for each value that is
left out. The choice of the backend never fails, and a timeout that the environment spells goes
before the others. A number beyond those asked for is a fault. -/
theorem outcomes (s : Settings) :
    (∃ choice new, Comes s.backend (.ok choice) new ∧ s.Chooses choice new) ∧
      (∃ outcome new, Comes s.timeout outcome new ∧ s.Waits outcome new) ∧
      s.Yields s.packetSpacing .whole "packet_spacing_ms" Protocol.packetSpacing ∧
      s.Yields s.probeAttempts .whole "probe_attempts" Protocol.probeAttempts ∧
      s.Yields s.probeDelay .real "probe_delay_s" Protocol.probeDelay ∧
      s.Yields s.readAttempts .whole "read_attempts" Protocol.readAttempts :=
  ⟨s.exists_comes_backend, s.exists_comes_timeout,
    s.yields_number _ _ Value.ends_wholeNumber, s.yields_number _ _ Value.ends_wholeNumber,
    s.yields_number _ _ Value.ends_realNumber, s.yields_number _ _ Value.ends_wholeNumber⟩

/-- An infinite number of attempts is not left out. -/
theorem infinite_attempts :
    let s := Settings.ofMembers [("usb", .object [("read_attempts", .float (1.0 / 0.0))])] {}
    (∀ notices, s.readAttempts.run notices = (.error .tooLarge, notices)) ∧
      ¬∀ (s : Settings) (notices : List Notice), ∃ n, (s.readAttempts.run notices).1 = .ok n := by
  intro s
  have hrun (notices : List Notice) :
      s.readAttempts.run notices = (.error .tooLarge, notices) := rfl
  refine ⟨hrun, fun hresult ↦ ?_⟩
  obtain ⟨n, h⟩ := hresult s []
  rw [hrun] at h
  cases h

end Settings

end MouseControl
