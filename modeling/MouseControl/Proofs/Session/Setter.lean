import MouseControl.Proofs.Device.Configuration
import MouseControl.Proofs.Session.Claiming
import MouseControl.Session.Setters

/-!
What a setter does with arguments of any kind. Whether they are acceptable is a matter of the
configuration alone (`Setter.Acceptable`), and so is which of them a refusal names (`Setter.named`);
on that one it depends whether the refusal can be put into words (`Fault.Refuses`). A setter refuses
arguments that are not acceptable, asks for a claim, or amends the configuration, and there is
nothing else it can do (`Setter.verdict`).
-/

set_option autoImplicit false
set_option relaxedAutoImplicit false

namespace MouseControl

/-- The refusal of a value that its words name: an invalid argument, unless the value holds an
integer with too many digits. Then it is the fault of writing that. -/
structure Fault.Refuses (fault : Fault) (named : Value) : Prop where
  invalid : named.isWritable = true → fault.kind = .invalidArgument
  unwritable : named.isWritable = false → fault = .unwritable

/-- Only the integers in the value matter. -/
theorem Fault.Refuses.congr {fault : Fault} {named other : Value} (h : fault.Refuses named)
    (hwritable : named.isWritable = other.isWritable) : fault.Refuses other where
  invalid hother := h.invalid (hwritable.trans hother)
  unwritable hother := h.unwritable (hwritable.trans hother)

/-- The words of a refusal name nothing else that might be too long. -/
theorem Fault.refuses_worded {fault : Fault} {named : Value}
    (hkind : fault.kind = .invalidArgument) (hwritable : fault.isWritable = named.isWritable) :
    fault.worded.Refuses named where
  invalid h := by rwa [worded_of_isWritable (hwritable.trans h)]
  unwritable h := worded_of_not_isWritable (Bool.eq_false_iff.mp (hwritable.trans h))

/-- A number that equals an integer can be written if that integer can. -/
theorem Number.isWritable_of_equalsInt {x : Number} {n : Int} (h : x.equalsInt n = true)
    (hn : MouseControl.isWritable n = true) : x.isWritable = true := by
  cases x with
  | bool b => cases b <;> decide
  | int m =>
    obtain rfl : m = n := eq_of_beq h
    exact hn
  | float y => rfl

theorem Value.isWritable_of_equalsInt {v : Value} {n : Int} (h : v.equalsInt n = true)
    (hn : MouseControl.isWritable n = true) : v.isWritable = true := by
  cases v with
  | number x => exact Number.isWritable_of_equalsInt h hn
  | ledState s => rfl
  | frequency f => rfl
  | _ => cases h

namespace Session

open MouseControl.Action

variable {σ τ : Type}

/-! ### Arguments -/

/-- A value that names an LED which the model has. -/
def NamesLed (config : Configuration) (given : Value) (index : Nat) (led : Led) : Prop :=
  given.ledId.toInt? = some (index : Int) ∧ config.leds[index]? = some led ∧ led.supported = true

/-- A value that equals an LED state which is on or off. -/
def NamesState (given : Value) : Prop :=
  given.equalsInt LedState.off.code = true ∨ given.equalsInt LedState.on.code = true

/-- A value that names one of the axes with a mapping, or no axis. -/
def NamesAxis (given : Value) : Prop :=
  given = .null ∨ given.idOf.equalsInt Axis.idX = true ∨ given.idOf.equalsInt Axis.idY = true

theorem findLed_eq_ok {config : Configuration} {given : Value} {index : Nat} {led : Led}
    (h : findLed config given = .ok (index, led)) :
    given.ledId.toInt? = some (index : Int) ∧ config.leds[index]? = some led := by
  unfold findLed at h
  dsimp only at h
  split at h
  next n hid =>
    split at h
    · cases h
    next hn =>
      split at h
      next hled =>
        cases h
        exact ⟨by rw [hid, Int.toNat_of_nonneg (Int.not_lt.mp hn)], hled⟩
      next => cases h
  next => cases h

theorem findLed_of_names {config : Configuration} {given : Value} {index : Nat} {led : Led}
    (h : NamesLed config given index led) : findLed config given = .ok (index, led) := by
  obtain ⟨hid, hled, -⟩ := h
  have hindex : ¬ ((index : Int) < 0) := Int.not_lt.mpr (Int.natCast_nonneg index)
  simp only [findLed, hid, hindex, if_false, Int.toNat_natCast, hled]

theorem refuses_of_findLed {config : Configuration} {given : Value} {fault : Fault}
    (h : findLed config given = .error fault) : fault.Refuses given.ledId := by
  have hrefuses : (Fault.unknownLed given.ledId).worded.Refuses given.ledId :=
    Fault.refuses_worded rfl rfl
  unfold findLed at h
  dsimp only at h
  split at h
  · split at h
    · cases h
      exact hrefuses
    · split at h
      · cases h
      · cases h
        exact hrefuses
  · cases h
    exact hrefuses

theorem switchState_eq_ok {given : Value} {next : LedState} (h : switchState given = .ok next) :
    NamesState given ∧ (next = .on ∨ next = .off) := by
  unfold switchState at h
  split at h
  next hoff =>
    cases h
    exact ⟨.inl hoff, .inr rfl⟩
  next =>
    split at h
    next hon =>
      cases h
      exact ⟨.inr hon, .inl rfl⟩
    next => cases h

theorem isWritable_of_namesState {given : Value} (h : NamesState given) :
    given.isWritable = true :=
  h.elim (fun hoff ↦ Value.isWritable_of_equalsInt hoff (by decide))
    fun hon ↦ Value.isWritable_of_equalsInt hon (by decide)

theorem switchState_eq_error {given : Value} {fault : Fault}
    (h : switchState given = .error fault) :
    fault.Refuses given ∧ ¬ NamesState given := by
  unfold switchState at h
  split at h
  · cases h
  next hoff =>
    split at h
    · cases h
    next hon =>
      cases h
      exact ⟨Fault.refuses_worded rfl rfl, fun hstate ↦ hstate.elim hoff hon⟩

theorem properInt_eq_some {given : Value} {n : Int} (h : properInt? given = some n) :
    given.toInt? = some n := by
  unfold properInt? at h
  split at h
  · cases h
  · exact h

theorem toInt_namedFrequency {given : Value} {n : Int} (h : given.toInt? = some n) :
    ∃ m, (namedFrequency given n).toInt? = some m := by
  unfold namedFrequency
  split
  next f _ => exact ⟨f.hertz, rfl⟩
  next => exact ⟨n, h⟩

theorem ownMapping_eq_ok {mouse : Mouse σ τ} {config : Configuration} {given : Value}
    {m : ResolutionMapping} (h : ownMapping mouse config given = .ok m) :
    given = .mapping m ∧ m ∈ config.generation.table := by
  unfold ownMapping at h
  split at h
  · split at h
    next hmem =>
      cases h
      exact ⟨rfl, hmem⟩
    next => cases h
  · cases h

theorem ownMapping_eq_error {mouse : Mouse σ τ} {config : Configuration} {given : Value}
    {fault : Fault} (h : ownMapping mouse config given = .error fault) :
    fault.Refuses given ∧ ¬ ∃ m ∈ config.generation.table, given = .mapping m := by
  unfold ownMapping at h
  split at h
  next m =>
    split at h
    · cases h
    next hmem =>
      cases h
      refine ⟨Fault.refuses_worded rfl rfl, ?_⟩
      rintro ⟨_, hother, ⟨⟩⟩
      exact hmem hother
  next hother =>
    cases h
    refine ⟨Fault.refuses_worded rfl rfl, ?_⟩
    rintro ⟨m, -, rfl⟩
    exact hother m rfl

theorem withMapping_eq_error {m : ResolutionMapping} {axis : Value} {fault : Fault}
    (h : withMapping m axis = .error fault) :
    fault.Refuses axis.idOf ∧ ¬ NamesAxis axis := by
  unfold withMapping at h
  split at h
  · cases h
  next hnull =>
    split at h
    · cases h
    next hx =>
      split at h
      · cases h
      next hy =>
        cases h
        exact ⟨Fault.refuses_worded rfl rfl,
          fun haxis ↦ haxis.elim hnull fun haxis ↦ haxis.elim hx hy⟩

/-- Whatever axis is named, a table entry in its place keeps the configuration fitting, and what was
dirty dirty. -/
theorem withMapping_eq_ok {m : ResolutionMapping} {axis : Value}
    {change : Configuration → Configuration} (h : withMapping m axis = .ok change) :
    NamesAxis axis ∧ (∀ config, (change config).dirty = config.dirty) ∧
      ∀ {model : Model} {config : Configuration}, config.Fits model →
        m ∈ config.generation.table → (change config).Fits model := by
  unfold withMapping at h
  split at h
  · cases h
    refine ⟨.inl rfl, fun _ ↦ rfl, fun hfits hm ↦ ?_⟩
    rw [hfits.generation_eq] at hm
    exact hfits.withResolutions hm hm
  · split at h
    next hx =>
      cases h
      refine ⟨.inr (.inl hx), fun _ ↦ rfl, fun hfits hm ↦ ?_⟩
      rw [hfits.generation_eq] at hm
      exact hfits.withResolutions hm hfits.y_mem
    next =>
      split at h
      next hy =>
        cases h
        refine ⟨.inr (.inr hy), fun _ ↦ rfl, fun hfits hm ↦ ?_⟩
        rw [hfits.generation_eq] at hm
        exact hfits.withResolutions hfits.x_mem hm
      next => cases h

/-! ### Verdicts -/

/-- A setter with its arguments. -/
inductive Setter where
  | led (given state : Value)
  | frequency (given : Value)
  | mapping (given axis : Value)
  | resolution (given axis : Value)

/-- The operation that a setter stands for. -/
def Setter.call (mouse : Mouse σ τ) : Setter → Action (Session σ τ) Unit
  | .led given state => setLed mouse given state
  | .frequency given => setFrequency given
  | .mapping given axis => setMapping mouse given axis
  | .resolution given axis => setResolution mouse given axis

/-- The arguments that a setter accepts. -/
def Setter.Acceptable (config : Configuration) : Setter → Prop
  | .led given state => (∃ index target, NamesLed config given index target) ∧ NamesState state
  | .frequency given => ∃ n, properInt? given = some n
  | .mapping given axis => (∃ m ∈ config.generation.table, given = .mapping m) ∧ NamesAxis axis
  | .resolution given axis =>
    (∃ m ∈ config.generation.table, given.equalsInt m.resolution = true) ∧ NamesAxis axis

/-- The argument that a refusal names: the first that is not acceptable. Of an axis or an LED it
names the id. -/
def Setter.named (config : Configuration) : Setter → Value
  | .led given state => if (findLed config given).isOk then state else given.ledId
  | .frequency given => given
  | .mapping given axis =>
    match given with
    | .mapping m => if m ∈ config.generation.table then axis.idOf else given
    | _ => given
  | .resolution given axis => if (config.mappingFor given).isSome then axis.idOf else given

/-- What a setter that accepts some arguments and no others comes to in a state: it refuses them in
words that name one of them, or asks for a claim that is not there, and leaves the state as it was;
or it amends the configuration, to one that still fits the model. -/
inductive Verdict (model : Model) (acceptable : Prop) (named : Value) (s : Session σ τ) :
    Except Fault Unit × Session σ τ → Prop
  | refused {fault : Fault} (hrefuses : fault.Refuses named) (hnot : ¬ acceptable) :
      Verdict model acceptable named s (.error fault, s)
  | unclaimed (hclaims : s.claims = 0) :
      Verdict model acceptable named s (.error .notClaimed, s)
  | amended (hclaims : 0 < s.claims) (hacceptable : acceptable)
      (change : Configuration → Configuration)
      (hdirty : (change s.config).dirty = s.config.dirty)
      (hfits : s.config.Fits model → (change s.config).Fits model) :
      Verdict model acceptable named s ((amend change).run s)

/-- Where a claim is asked for first, the rest is judged under a claim. -/
theorem Verdict.of_claimed {model : Model} {acceptable : Prop} {named : Value} {s : Session σ τ}
    {x : Action (Session σ τ) Unit}
    (h : 0 < s.claims → Verdict model acceptable named s (x.run s)) :
    Verdict model acceptable named s ((requireClaim >>= fun _ ↦ x).run s) := by
  rw [run_bind, run_requireClaim]
  by_cases hclaims : s.claims = 0
  · rw [if_pos hclaims]
    exact .unclaimed hclaims
  · rw [if_neg hclaims]
    exact h (Nat.pos_of_ne_zero hclaims)

variable (mouse : Mouse σ τ) (s : Session σ τ)

/-- An LED that was found is switched if the model has it. -/
theorem verdict_setLed_of_found {given state : Value} {index : Nat} {target : Led}
    {next : LedState} (hfind : findLed s.config given = .ok (index, target))
    (hswitch : switchState state = .ok next) :
    Verdict mouse.model (Setter.Acceptable s.config (.led given state)) state s
      ((setLed mouse given state).run s) := by
  obtain ⟨hid, hled⟩ := findLed_eq_ok hfind
  obtain ⟨hstate, hnext⟩ := switchState_eq_ok hswitch
  by_cases hsupported : target.supported = true
  · have hrun : (setLed mouse given state).run s =
        (requireClaim >>= fun _ ↦ amend fun c ↦ c.setLed index next.code).run s := by
      simp [setLed, run_bind, hfind, hswitch, hsupported]
    rw [hrun]
    refine .of_claimed fun hclaims ↦ .amended hclaims ?_ _ rfl fun hfits ↦ ?_
    · exact ⟨⟨index, target, hid, hled, hsupported⟩, hstate⟩
    · exact hfits.setLed hled hsupported hnext
  · have hrun : (setLed mouse given state).run s =
        (.error (.absentLed target.name mouse.model.name), s) := by
      simp [setLed, run_bind, hfind, hswitch, hsupported]
    rw [hrun]
    have hwritable : state.isWritable = true := isWritable_of_namesState hstate
    refine .refused ⟨fun _ ↦ rfl, fun h ↦ Bool.noConfusion (hwritable.symm.trans h)⟩ ?_
    rintro ⟨⟨other, led', hid', hled', hsupported'⟩, -⟩
    rw [hid] at hid'
    obtain rfl : index = other := by exact_mod_cast Option.some.inj hid'
    rw [hled] at hled'
    cases hled'
    exact hsupported hsupported'

theorem verdict_setLed (given state : Value) :
    Verdict mouse.model (Setter.Acceptable s.config (.led given state))
      (Setter.named s.config (.led given state)) s
      ((setLed mouse given state).run s) := by
  rcases hfind : findLed s.config given with fault | ⟨index, target⟩
  · have hrun : (setLed mouse given state).run s = (.error fault, s) := by
      simp only [setLed, run_bind, run_get, run_ofExcept, hfind]
    have hnamed : Setter.named s.config (.led given state) = given.ledId := by
      simp [Setter.named, hfind, Except.isOk, Except.toBool]
    rw [hrun, hnamed]
    refine .refused (refuses_of_findLed hfind) ?_
    rintro ⟨⟨index, target, hled⟩, -⟩
    rw [findLed_of_names hled] at hfind
    cases hfind
  have hnamed : Setter.named s.config (.led given state) = state := by
    simp [Setter.named, hfind, Except.isOk, Except.toBool]
  rw [hnamed]
  rcases hswitch : switchState state with fault | next
  · have hrun : (setLed mouse given state).run s = (.error fault, s) := by
      simp only [setLed, run_bind, run_get, run_ofExcept, hfind, hswitch]
    obtain ⟨hrefuses, hstate⟩ := switchState_eq_error hswitch
    rw [hrun]
    exact .refused hrefuses fun h ↦ hstate h.2
  · exact verdict_setLed_of_found mouse s hfind hswitch

theorem verdict_setFrequency (given : Value) :
    Verdict mouse.model (Setter.Acceptable s.config (.frequency given))
      (Setter.named s.config (.frequency given)) s
      ((setFrequency given).run s) := by
  refine .of_claimed fun hclaims ↦ ?_
  rcases hn : properInt? given with _ | n
  · refine .refused (Fault.refuses_worded rfl rfl) ?_
    rintro ⟨n, h⟩
    rw [hn] at h
    cases h
  · refine .amended hclaims ⟨n, hn⟩ _ rfl fun hfits ↦ ?_
    obtain ⟨m, hm⟩ := toInt_namedFrequency (properInt_eq_some hn)
    exact hfits.withFrequency hm

/-- What is no entry of the table is what the refusal names. -/
theorem named_mapping_of_foreign {config : Configuration} {given axis : Value}
    (h : ¬ ∃ m ∈ config.generation.table, given = .mapping m) :
    Setter.named config (.mapping given axis) = given := by
  cases given with
  | mapping m => exact if_neg fun hm ↦ h ⟨m, hm, rfl⟩
  | _ => rfl

theorem verdict_setMapping (given axis : Value) :
    Verdict mouse.model (Setter.Acceptable s.config (.mapping given axis))
      (Setter.named s.config (.mapping given axis)) s
      ((setMapping mouse given axis).run s) := by
  refine .of_claimed fun hclaims ↦ ?_
  rw [run_bind_ok (run_get s)]
  rcases hm : ownMapping mouse s.config given with fault | m
  · obtain ⟨hrefuses, hforeign⟩ := ownMapping_eq_error hm
    rw [named_mapping_of_foreign hforeign]
    exact .refused hrefuses fun h ↦ hforeign h.1
  obtain ⟨rfl, hmem⟩ := ownMapping_eq_ok hm
  have hnamed : Setter.named s.config (.mapping (.mapping m) axis) = axis.idOf := if_pos hmem
  rw [hnamed, run_bind_ok (run_ofExcept s (.ok m))]
  rcases hchange : withMapping m axis with fault | change
  · obtain ⟨hrefuses, haxis⟩ := withMapping_eq_error hchange
    exact .refused hrefuses fun h ↦ haxis h.2
  · obtain ⟨haxis, hdirty, hfits⟩ := withMapping_eq_ok hchange
    rw [run_bind_ok (run_ofExcept s (.ok change))]
    exact .amended hclaims ⟨⟨m, hmem, rfl⟩, haxis⟩ change
      (hdirty s.config) fun h ↦ hfits h hmem

theorem verdict_setResolution (given axis : Value) :
    Verdict mouse.model (Setter.Acceptable s.config (.resolution given axis))
      (Setter.named s.config (.resolution given axis)) s
      ((setResolution mouse given axis).run s) := by
  rw [setResolution, run_bind_ok (run_get s)]
  rcases hfind : s.config.mappingFor given with _ | m
  · have hnamed : Setter.named s.config (.resolution given axis) = given := by
      rw [Setter.named, hfind]
      rfl
    rw [hnamed]
    refine .refused (Fault.refuses_worded rfl rfl) ?_
    rintro ⟨⟨m, hmem, hresolution⟩, -⟩
    exact List.find?_eq_none.mp hfind m hmem hresolution
  · obtain ⟨hmem, hresolution⟩ := Configuration.mem_of_mappingFor hfind
    have hiff : Setter.Acceptable s.config (.mapping (.mapping m) axis) ↔
        Setter.Acceptable s.config (.resolution given axis) :=
      and_congr_left fun _ ↦ ⟨fun _ ↦ ⟨m, hmem, hresolution⟩, fun _ ↦ ⟨m, hmem, rfl⟩⟩
    have hnamed : Setter.named s.config (.resolution given axis) =
        Setter.named s.config (.mapping (.mapping m) axis) := by
      have hown : Setter.named s.config (.mapping (.mapping m) axis) = axis.idOf := if_pos hmem
      rw [hown, Setter.named, hfind]
      rfl
    rw [← hiff, hnamed]
    exact verdict_setMapping mouse s (.mapping m) axis

/-- Of every setter, whatever its arguments are. -/
theorem Setter.verdict (setter : Setter) :
    Verdict mouse.model (setter.Acceptable s.config) (setter.named s.config) s
      ((setter.call mouse).run s) :=
  match setter with
  | .led given state => verdict_setLed mouse s given state
  | .frequency given => verdict_setFrequency mouse s given
  | .mapping given axis => verdict_setMapping mouse s given axis
  | .resolution given axis => verdict_setResolution mouse s given axis

end Session

end MouseControl
