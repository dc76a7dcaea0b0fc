import MouseControl.Fault.Basic

/-!
Actions: computations that change a state and end in a result or a fault. A fault undoes nothing;
the state an action ends in is the state it left behind. One equation per way of building an action
says what it does to a state (`run_bind`, `run_tryCatch`, `run_ensuring`, `run_onPart`).
-/

set_option autoImplicit false
set_option relaxedAutoImplicit false

namespace MouseControl

/-- A computation over a state that may fail. -/
abbrev Action (S α : Type) := ExceptT Fault (StateM S) α

namespace Action

variable {S T α : Type}

/-- The action with a given effect. -/
def of (f : S → Except Fault α × S) : Action S α := ExceptT.mk f

/-- What an action does to a state. -/
def run (x : Action S α) (s : S) : Except Fault α × S := ExceptT.run x s

/-- The action that ends in a given outcome and changes nothing. -/
def ofExcept (outcome : Except Fault α) : Action S α := of fun s ↦ (outcome, s)

/-- Runs an action to its end and gives its outcome, be it a fault. -/
def outcome (x : Action S α) : Action S (Except Fault α) :=
  of fun s ↦ ((.ok (x.run s).1), (x.run s).2)

/-- Runs `cleanup` after an action, however that one ends. A fault of the cleanup takes the place
of the outcome. -/
def ensuring (x : Action S α) (cleanup : Action S Unit) : Action S α :=
  of fun s ↦
    let first := x.run s
    match cleanup.run first.2 with
    | (.ok _, t) => (first.1, t)
    | (.error e, t) => (.error e, t)

/-- Runs an action on a part of the state. -/
def onPart (part : S → T) (replace : S → T → S) (x : Action T α) : Action S α :=
  of fun s ↦
    let r := x.run (part s)
    (r.1, replace s r.2)

section Equations

variable {β : Type} (s : S)

@[simp] theorem run_of (f : S → Except Fault α × S) : (of f).run s = f s := rfl

@[simp] theorem run_pure (a : α) : (pure a : Action S α).run s = (.ok a, s) := rfl

@[simp] theorem run_throw (e : Fault) : (throw e : Action S α).run s = (.error e, s) := rfl

@[simp] theorem run_get : (get : Action S S).run s = (.ok s, s) := rfl

@[simp] theorem run_set (t : S) : (set t : Action S PUnit).run s = (.ok ⟨⟩, t) := rfl

@[simp] theorem run_modify (f : S → S) : (modify f : Action S PUnit).run s = (.ok ⟨⟩, f s) := rfl

@[simp] theorem run_ofExcept (outcome : Except Fault α) :
    (ofExcept outcome : Action S α).run s = (outcome, s) := rfl

/-- The second action runs only after a result of the first, in the state that one left. -/
theorem run_bind (x : Action S α) (next : α → Action S β) :
    (x >>= next).run s =
      match x.run s with
      | (.ok a, t) => (next a).run t
      | (.error e, t) => (.error e, t) := by
  simp only [run, ExceptT.run, Bind.bind, ExceptT.bind, ExceptT.mk, ExceptT.bindCont, StateT.bind]
  rcases x s with ⟨_ | _, _⟩ <;> rfl

theorem run_bind_ok {x : Action S α} {next : α → Action S β} {s t : S} {a : α}
    (h : x.run s = (.ok a, t)) : (x >>= next).run s = (next a).run t := by
  rw [run_bind, h]

theorem run_bind_error {x : Action S α} {next : α → Action S β} {s t : S} {e : Fault}
    (h : x.run s = (.error e, t)) : (x >>= next).run s = (.error e, t) := by
  rw [run_bind, h]

/-- The handler starts from the state that the fault left. -/
theorem run_tryCatch (x : Action S α) (handle : Fault → Action S α) :
    (tryCatch x handle).run s =
      match x.run s with
      | (.ok a, t) => (.ok a, t)
      | (.error e, t) => (handle e).run t := by
  simp only [run, ExceptT.run, tryCatch, tryCatchThe, MonadExceptOf.tryCatch, ExceptT.tryCatch,
    ExceptT.mk, Bind.bind, StateT.bind]
  rcases x s with ⟨_ | _, _⟩ <;> rfl

@[simp] theorem run_outcome (x : Action S α) :
    x.outcome.run s = (.ok (x.run s).1, (x.run s).2) := rfl

/-- The cleanup starts from the state that the action left, and only its own fault can replace the
outcome. -/
theorem run_ensuring (x : Action S α) (cleanup : Action S Unit) :
    (x.ensuring cleanup).run s =
      match cleanup.run (x.run s).2 with
      | (.ok _, t) => ((x.run s).1, t)
      | (.error e, t) => (.error e, t) := rfl

@[simp] theorem run_onPart (part : S → T) (replace : S → T → S) (x : Action T α) :
    (x.onPart part replace).run s = ((x.run (part s)).1, replace s (x.run (part s)).2) := rfl

end Equations

end Action

end MouseControl
