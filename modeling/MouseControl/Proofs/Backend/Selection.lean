import MouseControl.Proofs.Settings.Reading
import MouseControl.Session.Create

/-!
Which backend a mouse is opened by. The settings name one of three choices, whatever they and the
environment say, and setting up a backend by that name is setting up that choice
(`Backend.chooseNamed_name`). So a mouse that is opened without naming a backend is never refused
for an unknown one: it gets control transfers, feature reports or the news of a missing library, as
the choice and the libraries tell (`Backend.Follows`), and neither library is called for it
(`Session.backend_of_settings`).
-/

set_option autoImplicit false
set_option relaxedAutoImplicit false

namespace MouseControl

open MouseControl.Action

namespace Backend

/-- What setting up a backend comes to, by the name of the choice and the libraries that are
there. -/
structure Follows (a : Availability) (name : String) (outcome : Except Fault Backend) : Prop where
  controlTransfer_iff : outcome = .ok .controlTransfer ↔
    (name = "pyusb" ∨ name = "auto") ∧ a.usb = true
  featureReport_iff : outcome = .ok .featureReport ↔
    name = "hidapi" ∧ a.hid = true ∨ name = "auto" ∧ a.usb = false ∧ a.hid = true
  missing_of_error : ∀ fault, outcome = .error fault → fault.kind = .missingModule ∧
    ∃ backend, fault = .libraryMissing backend ∧ a.has backend = false

/-- A choice is set up by its name. -/
theorem chooseNamed_name (a : Availability) (vid pid : Int) (choice : BackendChoice) :
    chooseNamed a vid pid (.string choice.name) = choose a vid pid choice := by
  rw [chooseNamed, BackendChoice.ofValue?_eq_some.mpr rfl]

/-- A backend is set up if its library is there. -/
theorem run_choose (a : Availability) (vid pid : Int) (choice : BackendChoice)
    (notices : List Notice) :
    (choose a vid pid choice).run notices =
      (if a.has (a.backendFor choice) then .ok (a.backendFor choice)
        else .error (.libraryMissing (a.backendFor choice)),
        notices ++ [.backendChosen (a.backendFor choice) vid pid]) := by
  have hnoted : (Settings.warn (.backendChosen (a.backendFor choice) vid pid)).run notices =
      (.ok (), notices ++ [.backendChosen (a.backendFor choice) vid pid]) := rfl
  rw [choose, run_bind_ok hnoted]
  by_cases h : a.has (a.backendFor choice) = true
  · simp [h]
  · simp [h]

theorem choose_eq_ok_iff {a : Availability} {vid pid : Int} {choice : BackendChoice}
    {notices : List Notice} {backend : Backend} :
    ((choose a vid pid choice).run notices).1 = .ok backend ↔
      a.backendFor choice = backend ∧ a.has backend = true := by
  rw [run_choose]
  split
  next h =>
    rw [Except.ok.injEq, iff_self_and]
    rintro rfl
    exact h
  next h =>
    simp only [reduceCtorEq, false_iff, not_and]
    rintro rfl
    exact h

/-- The libraries tell which backend a choice leads to and whether it can be set up. -/
theorem follows_choose (a : Availability) (vid pid : Int) (choice : BackendChoice)
    (notices : List Notice) :
    Follows a choice.name ((choose a vid pid choice).run notices).1 := by
  constructor
  case controlTransfer_iff =>
    rw [choose_eq_ok_iff]
    rcases choice with _ | _ | _ <;>
      simp [Availability.has, Availability.backendFor, BackendChoice.name, name]
  case featureReport_iff =>
    rw [choose_eq_ok_iff]
    rcases choice with _ | _ | _ <;>
      simp [Availability.has, Availability.backendFor, BackendChoice.name, name]
  case missing_of_error =>
    intro fault h
    rw [run_choose] at h
    split at h
    · cases h
    next hmissing =>
      cases h
      exact ⟨rfl, _, rfl, Bool.eq_false_iff.mpr hmissing⟩

end Backend

namespace Session

variable {τ : Type} [TimeScale τ]

/-- Without a backend named by the caller, the name that the settings give is followed. -/
theorem prepare_of_unnamed (a : Availability) (registered : List Model) (pid : Int)
    {requested : Value} (h : requested.truthy = false) (s : Settings) :
    prepare (τ := τ) a registered pid requested s = do
      let choice ← s.backend
      let backend ← Backend.chooseNamed a Protocol.vendorId pid (.string choice.name)
      return (backend, Model.forPid registered pid, ← s.tuning) := by
  have hunnamed : ¬requested.truthy = true := Bool.eq_false_iff.mp h
  simp only [Backend.chooseNamed_name, prepare, if_neg hunnamed]

/-- Settings always name one of the three choices, and a mouse that is opened without naming a
backend gets the one of that name, or fails because its library is missing and for no other reason
of the choice. The libraries are left as they are. -/
theorem backend_of_settings {ω δ ω' δ' : Type} (a : Availability) (registered : List Model)
    (pid : Int) (s : Settings) (notices : List Notice)
    (libraries : ControlTransfer.State ω δ × FeatureReport.State ω' δ') :
    (∃ choice new, Settings.Comes s.backend (.ok choice) new ∧ s.Chooses choice new ∧
      choice.name ∈ ["auto", "pyusb", "hidapi"] ∧
      Backend.Follows a choice.name ((Backend.chooseNamed a Protocol.vendorId pid
        (.string choice.name)).run (notices ++ new)).1) ∧
    ∀ requested, requested.truthy = false →
      (prepare (τ := τ) a registered pid requested s = do
        let choice ← s.backend
        let backend ← Backend.chooseNamed a Protocol.vendorId pid (.string choice.name)
        return (backend, Model.forPid registered pid, ← s.tuning)) ∧
      (((prepare (τ := τ) a registered pid requested s).onPart Prod.fst
        fun s notices ↦ (notices, s.2)).run (notices, libraries)).2.2 = libraries := by
  refine ⟨?_, fun requested h ↦ ⟨prepare_of_unnamed a registered pid h s, rfl⟩⟩
  obtain ⟨choice, new, hcomes, hchooses⟩ := s.exists_comes_backend
  refine ⟨choice, new, hcomes, hchooses, ?_, ?_⟩
  · rcases choice with _ | _ | _ <;> decide
  · rw [Backend.chooseNamed_name]
    exact Backend.follows_choose a _ pid choice _

end Session

end MouseControl
