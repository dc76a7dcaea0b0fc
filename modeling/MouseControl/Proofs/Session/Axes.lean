import MouseControl.Proofs.Session.Resolution

/-!
Reading and selecting the mapping of an axis. Both take the same values to name an axis, or none
(`Session.mappingOn_eq_none_iff`), and what was selected is read back
(`Session.mappingOn_selecting`). So an entry of the table can be selected for an axis if and only if
there is a mapping to be read for it, whatever kind of value stands for the axis
(`Session.mapping_set`).
-/

set_option autoImplicit false
set_option relaxedAutoImplicit false

namespace MouseControl.Session

open MouseControl.Action

variable {σ τ : Type} {m : ResolutionMapping} {axis : Value}

/-! ### Reading -/

/-- No axis stands for X when a mapping is read, which is the first of those that it names. -/
theorem mappingOn_eq (c : Configuration) (axis : Value) :
    mappingOn c axis =
      if axis.namesAxis Axis.idX then some c.x
      else if axis.namesAxis Axis.idY then some c.y
      else none := by
  cases axis with
  | _ => rfl

/-- There is a mapping to be read for what names an axis or stands for none, and for
nothing else. -/
theorem mappingOn_eq_none_iff (c : Configuration) : mappingOn c axis = none ↔ ¬NamesAxis axis := by
  rw [mappingOn_eq, namesAxis_iff, not_or]
  split_ifs with hx hy
  · exact iff_of_false nofun fun h ↦ h.1 hx
  · exact iff_of_false nofun fun h ↦ h.2 hy
  · exact iff_of_true rfl ⟨hx, hy⟩

theorem mappingOn_selecting (h : NamesAxis axis) (c : Configuration) :
    mappingOn (selecting m axis c) axis = some m := by
  rw [mappingOn_eq, selecting]
  by_cases hx : axis.namesAxis Axis.idX = true
  · simp only [hx, if_true]
  · have hy : axis.namesAxis Axis.idY = true := (namesAxis_iff.mp h).resolve_left hx
    simp only [hx, hy, if_true, Bool.false_eq_true, if_false]

/-! ### Selecting -/

/-- What has been made of a session when a mapping was selected: it is read on the axis that was
named, or is that of both, the other axis keeps its own, and so do the frequency and the LEDs. The
observer may have failed on hearing that the configuration is dirty again. -/
structure Chosen (m : ResolutionMapping) (axis : Value) (s : Session σ τ)
    (r : Except Fault Unit × Session σ τ) : Prop where
  outcome : r.1 = .ok () ∨ s.config.dirty = false ∧
    ∃ fault, s.observer.verdict (.dirty true) = .error fault ∧ r.1 = .error fault
  read_eq : mappingOn r.2.config axis = some m
  both : axis = .null → r.2.config.x = m ∧ r.2.config.y = m
  other : axis ≠ .null →
    (axis.idOf.equalsInt Axis.idX = true ∧ r.2.config.x = m ∧ r.2.config.y = s.config.y) ∨
      (axis.idOf.equalsInt Axis.idY = true ∧ r.2.config.y = m ∧ r.2.config.x = s.config.x)
  frequency_eq : r.2.config.frequency = s.config.frequency
  leds_eq : r.2.config.leds = s.config.leds

theorem chosen_amend (h : NamesAxis axis) (s : Session σ τ) :
    Chosen m axis s ((amend (selecting m axis)).run s) := by
  obtain ⟨bus, hamended, -⟩ := quietly_amend (selecting m axis) s
  have hconfig : ((amend (selecting m axis)).run s).2.config =
      { selecting m axis s.config with dirty := true } := by rw [hamended]
  have hx : ((amend (selecting m axis)).run s).2.config.x =
      if axis.namesAxis Axis.idX then m else s.config.x := congrArg Configuration.x hconfig
  have hy : ((amend (selecting m axis)).run s).2.config.y =
      if axis.namesAxis Axis.idY then m else s.config.y := congrArg Configuration.y hconfig
  constructor
  case outcome => exact outcome_amend rfl
  case read_eq =>
    rw [hconfig]
    exact mappingOn_selecting h s.config
  case both =>
    rintro rfl
    exact ⟨hx, hy⟩
  case other =>
    intro hnull
    rw [hx, hy, ← Value.namesAxis_of_ne hnull, ← Value.namesAxis_of_ne hnull]
    rcases namesAxis_iff.mp h with hnamed | hnamed
    · exact .inl ⟨hnamed, if_pos hnamed, if_neg fun hy ↦ hnull (eq_null_of_namesAxis hnamed hy)⟩
    · exact .inr ⟨hnamed, if_pos hnamed, if_neg fun hx ↦ hnull (eq_null_of_namesAxis hx hnamed)⟩
  case frequency_eq => rw [hconfig, selecting]
  case leds_eq => rw [hconfig, selecting]

/-- Under a claim, an entry of the table can be selected for what a mapping can be read for.
Anything else is refused by its id and nothing changes. Otherwise it is selected and read back, even
if the observer then fails on hearing that the configuration is dirty again. -/
theorem mapping_set (mouse : Mouse σ τ) {s : Session σ τ} (hclaims : 0 < s.claims)
    (hm : m ∈ s.config.generation.table) (axis : Value) :
    let r := (setMapping mouse (.mapping m) axis).run s
    (r.1 = .ok () → mappingOn s.config axis ≠ none) ∧
      (mappingOn s.config axis = none →
        ∃ fault, r = (.error fault, s) ∧ fault.Refuses axis.idOf) ∧
      (mappingOn s.config axis ≠ none → Chosen m axis s r) := by
  intro r
  have hreadable : mappingOn s.config axis = none ↔ ¬NamesAxis axis :=
    mappingOn_eq_none_iff s.config
  have hrefused (hnone : mappingOn s.config axis = none) :
      ∃ fault, r = (.error fault, s) ∧ fault.Refuses axis.idOf := by
    have hnamed : Setter.named s.config (.mapping (.mapping m) axis) = axis.idOf := if_pos hm
    have haccount : SetterAccount (.mapping (.mapping m) axis) s r :=
      (verdict_setMapping mouse s (.mapping m) axis).account
    rw [← hnamed]
    exact haccount.refused hclaims fun hacceptable ↦ hreadable.mp hnone hacceptable.2
  refine ⟨fun hok hnone ↦ ?_, hrefused, fun hsome ↦ ?_⟩
  · obtain ⟨fault, hr, -⟩ := hrefused hnone
    rw [hr] at hok
    cases hok
  · have haxis : NamesAxis axis := not_not.mp (hreadable.not.mp hsome)
    change Chosen m axis s ((setMapping mouse (.mapping m) axis).run s)
    rw [run_setMapping mouse hclaims hm haxis]
    exact chosen_amend haxis s

/-- An object whose id is a truth value that equals that of Y is as good as Y. -/
theorem mapping_set_on_y :
    let mouse := replayed (Model.forPid Model.known Protocol.thirdEditionPid)
    let s := after mouse (start mouse.model (recorded {})) [.claim]
    let m := ResolutionMapping.ofIndex 81
    let axis := Value.axis (.bool true) (Text.ofString "Y") true
    0 < s.claims ∧ m ∈ s.config.generation.table ∧ mappingOn s.config axis ≠ none ∧
      Chosen m axis s ((setMapping mouse (.mapping m) axis).run s) := by
  intro mouse s m axis
  have hclaims : 0 < s.claims := by decide +kernel
  have hm : m ∈ s.config.generation.table := by decide +kernel
  have hreadable : mappingOn s.config axis ≠ none := by decide +kernel
  obtain ⟨-, -, hchosen⟩ := mapping_set mouse hclaims hm axis
  exact ⟨hclaims, hm, hreadable, hchosen hreadable⟩

/-- An observer who fails on hearing that a committed configuration is dirty again lets the setter
fail, but the mapping is selected. What names no axis can have too many digits to be refused as an
invalid argument. -/
theorem mapping_set_by_failing_setter :
    let mouse := replayed (Model.forPid Model.known Protocol.classicPid)
    let observer := Observer.failing (.reported .lookup "observer")
    let s := after mouse (start mouse.model (recorded {}))
      [.claim, .commit false, .observe observer]
    let m := ResolutionMapping.ofIndex 15
    let r := (setMapping mouse (.mapping m) (.int 1)).run s
    0 < s.claims ∧ m ∈ s.config.generation.table ∧ (mappingOn s.config (.int 1)).isSome = true ∧
      r.1.mapError Fault.kind = .error .lookup ∧ s.config.y ≠ m ∧ r.2.config.y = m ∧
      ((setMapping mouse (.mapping m) (.int (Nat.pow 10 4300))).run s).1.mapError Fault.kind =
        .error .value := by
  decide +kernel

end MouseControl.Session
