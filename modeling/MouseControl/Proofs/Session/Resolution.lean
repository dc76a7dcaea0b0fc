import MouseControl.Proofs.Device.Resolution
import MouseControl.Proofs.Session.Recommit

/-!
Resolutions from the setter to the wire. An integer that is the resolution of a table entry selects
that entry on the axes that are named and leaves the other as it was
(`Session.exists_run_setResolution`). A commit of any configuration that a session can have begins
with the frame that sets its two resolutions (`Session.sets_of_commit`). Together: the frame sets
what was asked for, if it was accepted at all, which is a matter of arithmetic
(`Session.resolution_set`).
-/

set_option autoImplicit false
set_option relaxedAutoImplicit false

namespace MouseControl

open MouseControl.Action

/-! ### Axes -/

namespace Number

/-- A number equals one integer at most. -/
theorem eq_of_equalsInt {x : Number} {m n : Int} (hm : x.equalsInt m = true)
    (hn : x.equalsInt n = true) : m = n := by
  cases x with
  | bool b => exact (eq_of_beq hm).symm.trans (eq_of_beq hn)
  | int k => exact (eq_of_beq hm).symm.trans (eq_of_beq hn)
  | float y =>
    rw [equalsInt] at hm hn
    cases hy : Binary.ofFloat y with
    | finite negative significand exponent =>
      rw [hy] at hm hn
      have hscale : (Nat.pow 2 (-exponent).toNat : Int) ≠ 0 :=
        Int.natCast_ne_zero.mpr (Nat.ne_of_gt (Nat.two_pow_pos _))
      exact Int.eq_of_mul_eq_mul_right hscale ((eq_of_beq hm).symm.trans (eq_of_beq hn))
    | infinite negative =>
      rw [hy] at hm
      cases hm
    | nan =>
      rw [hy] at hm
      cases hm

end Number

namespace Value

theorem eq_of_equalsInt {v : Value} {m n : Int} (hm : v.equalsInt m = true)
    (hn : v.equalsInt n = true) : m = n := by
  rw [equalsInt, Option.any_eq_true] at hm hn
  obtain ⟨x, hx, hm⟩ := hm
  obtain ⟨y, hy, hn⟩ := hn
  rw [hx] at hy
  cases hy
  exact Number.eq_of_equalsInt hm hn

/-- Whether a value names the axis with an id, or no axis, which stands for both. -/
def namesAxis (axis : Value) (id : Int) : Bool :=
  match axis with
  | .null => true
  | _ => axis.idOf.equalsInt id

theorem namesAxis_of_ne {axis : Value} (h : axis ≠ .null) (id : Int) :
    axis.namesAxis id = axis.idOf.equalsInt id := by
  cases axis with
  | null => exact absurd rfl h
  | _ => rfl

end Value

namespace Session

variable {σ τ : Type}

/-- A mapping selected on the axes that are named. -/
def selecting (m : ResolutionMapping) (axis : Value) (c : Configuration) : Configuration :=
  { c with
    x := if axis.namesAxis Axis.idX then m else c.x
    y := if axis.namesAxis Axis.idY then m else c.y }

theorem namesAxis_iff {axis : Value} :
    NamesAxis axis ↔ axis.namesAxis Axis.idX = true ∨ axis.namesAxis Axis.idY = true := by
  rcases eq_or_ne axis .null with rfl | hnull
  · exact iff_of_true (.inl rfl) (.inl rfl)
  · rw [NamesAxis, or_iff_right hnull, Value.namesAxis_of_ne hnull, Value.namesAxis_of_ne hnull]

/-- A value does not name both axes, except by naming none. -/
theorem eq_null_of_namesAxis {axis : Value} (hx : axis.namesAxis Axis.idX = true)
    (hy : axis.namesAxis Axis.idY = true) : axis = .null := by
  by_contra hnull
  rw [Value.namesAxis_of_ne hnull] at hx hy
  exact absurd (Value.eq_of_equalsInt hx hy) (by decide)

theorem withMapping_of_namesAxis (m : ResolutionMapping) {axis : Value} (h : NamesAxis axis) :
    withMapping m axis = .ok (selecting m axis) := by
  rcases eq_or_ne axis .null with rfl | hnull
  · rfl
  have hmatch : withMapping m axis =
      if axis.namesAxis Axis.idX then .ok fun c ↦ { c with x := m }
      else if axis.namesAxis Axis.idY then .ok fun c ↦ { c with y := m }
      else .error (Fault.axisWithoutMapping axis.idOf).worded := by
    cases axis with
    | null => exact absurd rfl hnull
    | _ => rfl
  have hselecting : selecting m axis = fun c ↦ { c with
      x := if axis.namesAxis Axis.idX then m else c.x
      y := if axis.namesAxis Axis.idY then m else c.y } := rfl
  rw [hmatch, hselecting]
  by_cases hx : axis.namesAxis Axis.idX = true
  · have hy : axis.namesAxis Axis.idY = false :=
      Bool.eq_false_iff.mpr fun hy ↦ hnull (eq_null_of_namesAxis hx hy)
    simp only [hx, hy, if_true, Bool.false_eq_true, if_false]
  · have hy : axis.namesAxis Axis.idY = true := (namesAxis_iff.mp h).resolve_left hx
    simp only [hx, hy, if_true, Bool.false_eq_true, if_false]

variable {mouse : Mouse σ τ} {s : Session σ τ} {given axis : Value} {n : Int}

variable (mouse) in
/-- An entry of the table is selected on the axes that are named. -/
theorem run_setMapping {m : ResolutionMapping} (hclaims : 0 < s.claims)
    (hm : m ∈ s.config.generation.table) (haxis : NamesAxis axis) :
    (setMapping mouse (.mapping m) axis).run s = (amend (selecting m axis)).run s := by
  have hown : ownMapping mouse s.config (.mapping m) = .ok m := if_pos hm
  rw [setMapping, run_bind, run_requireClaim, if_neg (Nat.ne_of_gt hclaims)]
  dsimp only
  rw [run_bind_ok (run_get s), hown, run_bind_ok (run_ofExcept s (.ok m)),
    withMapping_of_namesAxis m haxis, run_bind_ok (run_ofExcept s (.ok _))]

variable (mouse) in
/-- An acceptable resolution is selected on the axes that are named. -/
theorem exists_run_setResolution (hclaims : 0 < s.claims) (hgiven : given.toInt? = some n)
    (hentry : ∃ m ∈ s.config.generation.table, m.resolution = n) (haxis : NamesAxis axis) :
    ∃ m ∈ s.config.generation.table, m.resolution = n ∧
      (setResolution mouse given axis).run s = (amend (selecting m axis)).run s := by
  obtain ⟨m, hm, hresolution, hfind⟩ := Configuration.exists_mappingFor hgiven hentry
  refine ⟨m, hm, hresolution, ?_⟩
  rw [setResolution, run_bind_ok (run_get s), hfind]
  exact run_setMapping mouse hclaims hm haxis

/-- What an acceptable resolution makes of a session: it is selected on the axes that are named, and
the other keeps its own, even if the observer then fails on hearing that the configuration is dirty
again. -/
structure Selected (axis : Value) (n : Int) (s : Session σ τ)
    (r : Except Fault Unit × Session σ τ) : Prop where
  outcome : r.1 = .ok () ∨ s.config.dirty = false ∧
    ∃ fault, s.observer.verdict (.dirty true) = .error fault ∧ r.1 = .error fault
  dirty : r.2.config.dirty = true
  claims_eq : r.2.claims = s.claims
  x_eq : r.2.config.x.resolution =
    if axis.namesAxis Axis.idX then n else s.config.x.resolution
  y_eq : r.2.config.y.resolution =
    if axis.namesAxis Axis.idY then n else s.config.y.resolution

variable (mouse) in
theorem selected_setResolution (hclaims : 0 < s.claims) (hgiven : given.toInt? = some n)
    (hentry : ∃ m ∈ s.config.generation.table, m.resolution = n) (haxis : NamesAxis axis) :
    Selected axis n s ((setResolution mouse given axis).run s) := by
  obtain ⟨m, hm, rfl, hrun⟩ := exists_run_setResolution mouse hclaims hgiven hentry haxis
  rw [hrun]
  obtain ⟨bus', hamended, -⟩ := quietly_amend (selecting m axis) s
  constructor
  case outcome => exact outcome_amend rfl
  case dirty => rw [hamended]
  case claims_eq => rw [hamended]
  case x_eq =>
    rw [hamended]
    exact apply_ite ResolutionMapping.resolution _ _ _
  case y_eq =>
    rw [hamended]
    exact apply_ite ResolutionMapping.resolution _ _ _

/-- Which integers are resolutions of table entries is a matter of arithmetic. -/
theorem isSome_mappingFor_iff {config : Configuration} (hgiven : given.toInt? = some n) :
    (config.mappingFor given).isSome = true ↔
      100 ∣ n ∧ 100 ≤ n ∧ n ≤ 100 * config.generation.size := by
  rw [← Generation.exists_entry_iff, Option.isSome_iff_exists]
  constructor
  · rintro ⟨m, hfind⟩
    obtain ⟨hm, hequals⟩ := Configuration.mem_of_mappingFor hfind
    rw [Value.equalsInt_eq hgiven, beq_iff_eq] at hequals
    exact ⟨m, hm, hequals.symm⟩
  · intro hentry
    obtain ⟨m, -, -, hfind⟩ := Configuration.exists_mappingFor hgiven hentry
    exact ⟨m, hfind⟩

theorem acceptable_resolution_iff {config : Configuration} (hgiven : given.toInt? = some n) :
    Setter.Acceptable config (.resolution given axis) ↔
      (100 ∣ n ∧ 100 ≤ n ∧ n ≤ 100 * config.generation.size) ∧ NamesAxis axis := by
  rw [← Generation.exists_entry_iff, Setter.Acceptable]
  simp only [Value.equalsInt_eq hgiven, beq_iff_eq, eq_comm (a := n)]

variable (mouse) in
/-- Any other integer is refused under a claim, or what should name an axis if the integer would
do. -/
theorem refused_setResolution (hclaims : 0 < s.claims) (hgiven : given.toInt? = some n) {size : Int}
    (hsize : s.config.generation.size = size)
    (hnot : ¬((100 ∣ n ∧ 100 ≤ n ∧ n ≤ 100 * size) ∧ NamesAxis axis)) :
    ∃ fault, (setResolution mouse given axis).run s = (.error fault, s) ∧
      (100 ∣ n ∧ 100 ≤ n ∧ n ≤ 100 * size → fault.Refuses axis.idOf) ∧
      (¬(100 ∣ n ∧ 100 ≤ n ∧ n ≤ 100 * size) → fault.Refuses (.int n)) := by
  subst hsize
  have haccount := (verdict_setResolution mouse s given axis).account
  obtain ⟨fault, hr, hrefuses⟩ :=
    haccount.refused hclaims ((acceptable_resolution_iff hgiven).not.mpr hnot)
  have hfound : (s.config.mappingFor given).isSome = true ↔ _ := isSome_mappingFor_iff hgiven
  refine ⟨fault, hr, fun hlisted ↦ ?_, fun hunlisted ↦ ?_⟩
  · rwa [Setter.named, if_pos (hfound.mpr hlisted)] at hrefuses
  · rw [Setter.named, if_neg (hfound.not.mpr hunlisted)] at hrefuses
    exact hrefuses.congr (Value.isWritable_of_toInt hgiven)

variable [TimeScale τ]

/-- A commit of a fitting configuration that runs begins with the frame that sets
its resolutions. -/
theorem sets_of_commit {force : Bool} (hfits : s.config.Fits mouse.model) (hclaims : 0 < s.claims)
    (hruns : s.config.dirty = true ∨ force = true) :
    ∃ frame rest, written ((commit mouse force).run s).2.bus.trace =
        written s.bus.trace ++ frame :: rest ∧
      mouse.model.generation.Sets frame s.config.x.resolution s.config.y.resolution := by
  obtain ⟨frame, leds, exchanges, hsends⟩ := exists_sendsAnew hfits hclaims hruns
  obtain ⟨rest, hstarts⟩ := hsends.starts
  refine ⟨frame, rest, by rw [hsends.written_eq, hstarts], ?_⟩
  have hframe := hsends.resolution_eq
  rw [hfits.generation_eq] at hframe
  exact Generation.sets_of_encode hfits.x_mem hfits.y_mem hframe

/-- Under a claim, an integer is accepted as a resolution if it is a multiple of 100 up to the
highest of the sensor and an axis with a mapping is named, or none. Otherwise the integer is
refused, or the id of the axis if the integer would do, and nothing changes. What was accepted is
selected, even if the observer then fails on hearing that the configuration is dirty again. As long
as the selection stays, the next commit begins with a frame that sets it on the axes that were
named, and on the other what had been selected before. -/
theorem resolution_set (mouse : Mouse σ τ) (bus : Bus σ τ) (steps : List (Step τ)) {given : Value}
    {n : Int} (hgiven : given.toInt? = some n) (axis : Value)
    (hclaims : 0 < (after mouse (start mouse.model bus) steps).claims) :
    let g := mouse.model.generation
    let s := after mouse (start mouse.model bus) steps
    let r := (setResolution mouse given axis).run s
    let listed := 100 ∣ n ∧ 100 ≤ n ∧ n ≤ 100 * g.size
    let acceptable := listed ∧ NamesAxis axis
    (r.1 = .ok () → acceptable) ∧
      (¬acceptable → ∃ fault, r = (.error fault, s) ∧
        (listed → fault.Refuses axis.idOf) ∧ (¬listed → fault.Refuses (.int n))) ∧
      (acceptable →
        (r.1 = .ok () ∨ s.config.dirty = false ∧
          ∃ fault, s.observer.verdict (.dirty true) = .error fault ∧ r.1 = .error fault) ∧
        r.2.config.dirty = true ∧ r.2.claims = s.claims ∧
        ∀ later force,
          let t := after mouse r.2 later
          t.config.x = r.2.config.x → t.config.y = r.2.config.y → 0 < t.claims →
            (t.config.dirty = true ∨ force = true) →
            ∃ frame rest, written ((commit mouse force).run t).2.bus.trace =
                written t.bus.trace ++ frame :: rest ∧
              g.Sets frame (if axis.namesAxis Axis.idX then n else s.config.x.resolution)
                (if axis.namesAxis Axis.idY then n else s.config.y.resolution)) := by
  intro g s r listed acceptable
  have hfits : s.config.Fits mouse.model := fits_after mouse bus steps
  by_cases h : acceptable
  · refine ⟨fun _ ↦ h, fun hnot ↦ absurd h hnot, fun _ ↦ ?_⟩
    have hentry : ∃ m ∈ s.config.generation.table, m.resolution = n := by
      rw [hfits.generation_eq]
      exact (Generation.exists_entry_iff g n).mpr h.1
    have hselected : Selected axis n s r :=
      selected_setResolution mouse hclaims hgiven hentry h.2
    refine ⟨hselected.outcome, hselected.dirty, hselected.claims_eq, ?_⟩
    intro later force t hx hy htclaims hruns
    have hreached : t = after mouse (start mouse.model bus)
        (steps ++ [.setResolution given axis] ++ later) := by
      rw [after_append, after_append, after_andDone rfl]
    have htfits : t.config.Fits mouse.model := hreached ▸ fits_after mouse bus _
    obtain ⟨frame, rest, hwritten, hsets⟩ := sets_of_commit htfits htclaims hruns
    rw [hx, hy, hselected.x_eq, hselected.y_eq] at hsets
    exact ⟨frame, rest, hwritten, hsets⟩
  · have hsize : (s.config.generation.size : Int) = g.size := by rw [hfits.generation_eq]
    obtain ⟨fault, hr, hrefuses⟩ := refused_setResolution mouse hclaims hgiven hsize h
    refine ⟨fun hok ↦ ?_, fun _ ↦ ⟨fault, hr, hrefuses⟩, fun hacc ↦ absurd hacc h⟩
    have hfailed : Except.ok () = Except.error fault := hok.symm.trans (congrArg Prod.fst hr)
    cases hfailed

/-- An extended sensor is set to 8200 on one axis, and an LED is switched before the commit. -/
theorem resolution_set_on_y :
    let mouse := replayed (Model.forPid Model.known Protocol.thirdEditionPid)
    let bus := recorded {}
    let s := after mouse (start mouse.model bus) [.claim]
    let r := (setResolution mouse (.int 8200) (.int 1)).run s
    let later : List (Step Rat) := [.setLed (.int 0) (.int 0)]
    (Value.int 8200).toInt? = some 8200 ∧ 0 < s.claims ∧ r.1.toOption = some () ∧
      ∃ frame rest, written ((commit mouse false).run (after mouse r.2 later)).2.bus.trace =
          written (after mouse r.2 later).bus.trace ++ frame :: rest ∧
        mouse.model.generation.Sets frame 1000 8200 := by
  intro mouse bus s r later
  have hclaims : 0 < s.claims := by decide +kernel
  have hacceptable : (100 ∣ (8200 : Int) ∧ (100 : Int) ≤ 8200 ∧
      (8200 : Int) ≤ 100 * mouse.model.generation.size) ∧ NamesAxis (.int 1) :=
    ⟨by decide +kernel, .inr (.inr rfl)⟩
  have hgiven : (Value.int 8200).toInt? = some 8200 := rfl
  have hreturned : r.1.toOption = some () := by decide +kernel
  have hx : (after mouse r.2 later).config.x = r.2.config.x := by decide +kernel
  have hy : (after mouse r.2 later).config.y = r.2.config.y := by decide +kernel
  have hclaims' : 0 < (after mouse r.2 later).claims := by decide +kernel
  have hdirty : (after mouse r.2 later).config.dirty = true := by decide +kernel
  have hselected :
      (if (Value.int 1).namesAxis Axis.idX then 8200 else s.config.x.resolution) = 1000 ∧
      (if (Value.int 1).namesAxis Axis.idY then 8200 else s.config.y.resolution) = 8200 := by
    decide +kernel
  -- From here on the steps in between are any that keep the selection.
  clear_value later
  obtain ⟨-, -, hset⟩ := resolution_set mouse bus [.claim] hgiven (.int 1) hclaims
  obtain ⟨-, -, -, hcommit⟩ := hset hacceptable
  obtain ⟨frame, rest, hwritten, hsets⟩ := hcommit later false hx hy hclaims' (.inl hdirty)
  rw [hselected.1, hselected.2] at hsets
  exact ⟨hgiven, hclaims, hreturned, frame, rest, hwritten, hsets⟩

/-- An observer who fails on hearing that a committed configuration is dirty again lets the setter
fail, but the resolution is selected. One that is no table entry can have too many digits to be
refused as an invalid argument. -/
theorem resolution_set_by_failing_setter :
    let mouse := replayed (Model.forPid Model.known Protocol.classicPid)
    let observer := Observer.failing (.reported .lookup "observer")
    let s := after mouse (start mouse.model (recorded {}))
      [.claim, .commit false, .observe observer]
    let r := (setResolution mouse (.int 1600) .null).run s
    0 < s.claims ∧ (100 ∣ (1600 : Int) ∧ (100 : Int) ≤ 1600 ∧
        (1600 : Int) ≤ 100 * mouse.model.generation.size) ∧ NamesAxis .null ∧
      r.1.mapError Fault.kind = .error .lookup ∧ r.2.config.x.resolution = 1600 ∧
      ((setResolution mouse (.int (Nat.pow 10 4300)) .null).run s).1.mapError Fault.kind =
        .error .value := by
  refine ⟨by decide +kernel, by decide +kernel, .inl rfl, ?_⟩
  decide +kernel

end Session

end MouseControl
