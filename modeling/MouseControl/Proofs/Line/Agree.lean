import MouseControl.Proofs.Line.Keeps

/-!
Two actions side by side, each on a state of its own. `Action.Agree` says that from states related
before they end in related states, and with the same fault or with results that are related. It is
closed under the ways of building actions, so that two runs of one operation can be compared step by
step.
-/

set_option autoImplicit false
set_option relaxedAutoImplicit false

namespace MouseControl.Action

variable {S S' T T' α α' β β' : Type}

/-- The same fault, or two results that are related. -/
inductive Matching (same : α → α' → Prop) : Except Fault α → Except Fault α' → Prop where
  | ok {a : α} {a' : α'} (h : same a a') : Matching same (.ok a) (.ok a')
  | error (fault : Fault) : Matching same (.error fault) (.error fault)

theorem matching_eq_iff {outcome outcome' : Except Fault α} :
    Matching Eq outcome outcome' ↔ outcome = outcome' := by
  constructor
  · rintro (⟨rfl⟩ | fault) <;> rfl
  · rintro rfl
    rcases outcome with fault | a
    · exact .error fault
    · exact .ok rfl

theorem Matching.mono {same same' : α → α' → Prop} (hsame : ∀ a a', same a a' → same' a a')
    {outcome : Except Fault α} {outcome' : Except Fault α'} (h : Matching same outcome outcome') :
    Matching same' outcome outcome' := by
  rcases h with h | fault
  · exact .ok (hsame _ _ h)
  · exact .error fault

/-- Of results that match, more may be known from what they are. -/
theorem Matching.and {same more : α → α' → Prop} {outcome : Except Fault α}
    {outcome' : Except Fault α'} (h : Matching same outcome outcome')
    (hmore : ∀ a a', outcome = .ok a → outcome' = .ok a' → more a a') :
    Matching (fun a a' ↦ same a a' ∧ more a a') outcome outcome' := by
  cases h with
  | ok h => exact .ok ⟨h, hmore _ _ rfl rfl⟩
  | error fault => exact .error fault

/-- Two ends of actions that match, in related states. -/
def Ends (post : S → S' → Prop) (same : α → α' → Prop) (r : Except Fault α × S)
    (r' : Except Fault α' × S') : Prop :=
  Matching same r.1 r'.1 ∧ post r.2 r'.2

/-- From states related before, two actions come to matching ends. -/
def Agree (pre post : S → S' → Prop) (same : α → α' → Prop) (x : Action S α)
    (y : Action S' α') : Prop :=
  ∀ s s', pre s s' → Ends post same (x.run s) (y.run s')

variable {pre mid post : S → S' → Prop} {same : α → α' → Prop} {same' : β → β' → Prop}

theorem Agree.mono {x : Action S α} {y : Action S' α'} (h : Agree pre post same x y)
    {pre' post' : S → S' → Prop} {weaker : α → α' → Prop} (hpre : ∀ s s', pre' s s' → pre s s')
    (hpost : ∀ s s', post s s' → post' s s') (hsame : ∀ a a', same a a' → weaker a a') :
    Agree pre' post' weaker x y := by
  intro s s' hs
  obtain ⟨hmatch, hend⟩ := h s s' (hpre s s' hs)
  exact ⟨hmatch.mono hsame, hpost _ _ hend⟩

theorem agree_pure {a : α} {a' : α'} (h : same a a') :
    Agree pre pre same (pure a) (pure a') :=
  fun _ _ hs ↦ ⟨.ok h, hs⟩

theorem agree_throw (fault : Fault) :
    Agree pre pre same (throw fault : Action S α) (throw fault : Action S' α') :=
  fun _ _ hs ↦ ⟨.error fault, hs⟩

/-- What would follow a fault does not matter. -/
theorem agree_throw_bind (fault : Fault) (next : α → Action S β) (next' : α' → Action S' β') :
    Agree pre pre same' (throw fault >>= next) (throw fault >>= next') := by
  intro s s' hs
  rw [run_bind_error (run_throw s fault), run_bind_error (run_throw s' fault)]
  exact ⟨.error fault, hs⟩

theorem agree_ofExcept {outcome : Except Fault α} {outcome' : Except Fault α'}
    (h : Matching same outcome outcome') :
    Agree pre pre same (ofExcept outcome) (ofExcept outcome') :=
  fun _ _ hs ↦ ⟨h, hs⟩

theorem agree_modify {f : S → S} {f' : S' → S'} (h : ∀ s s', pre s s' → post (f s) (f' s')) :
    Agree pre post Eq (modify f : Action S PUnit) (modify f' : Action S' PUnit) :=
  fun s s' hs ↦ ⟨.ok rfl, h s s' hs⟩

theorem agree_set {s : S} {s' : S'} (h : post s s') :
    Agree pre post Eq (set s : Action S PUnit) (set s' : Action S' PUnit) :=
  fun _ _ _ ↦ ⟨.ok rfl, h⟩

theorem agree_get_bind {next : S → Action S α} {next' : S' → Action S' α'}
    (h : ∀ s s', pre s s' → Ends post same ((next s).run s) ((next' s').run s')) :
    Agree pre post same (get >>= next) (get >>= next') := by
  intro s s' hs
  rw [run_bind_ok (run_get s), run_bind_ok (run_get s')]
  exact h s s' hs

theorem agree_ite {c c' : Prop} [Decidable c] [Decidable c'] (hc : c ↔ c') {x y : Action S α}
    {x' y' : Action S' α'} (hx : c → Agree pre post same x x')
    (hy : ¬c → Agree pre post same y y') :
    Agree pre post same (if c then x else y) (if c' then x' else y') := by
  by_cases h : c
  · rw [if_pos h, if_pos (hc.mp h)]
    exact hx h
  · rw [if_neg h, if_neg ((not_congr hc).mp h)]
    exact hy h

/-- The first actions have to agree, and then what follows related results. -/
theorem agree_bind {x : Action S α} {y : Action S' α'} {next : α → Action S β}
    {next' : α' → Action S' β'} (hx : Agree pre mid same x y)
    (hfault : ∀ s s', mid s s' → post s s')
    (hnext : ∀ a a', same a a' → Agree mid post same' (next a) (next' a')) :
    Agree pre post same' (x >>= next) (y >>= next') := by
  intro s s' hs
  obtain ⟨hmatch, hend⟩ := hx s s' hs
  rw [run_bind, run_bind]
  rcases h : x.run s with ⟨outcome, t⟩
  rcases h' : y.run s' with ⟨outcome', t'⟩
  rw [h, h'] at hmatch hend
  rcases hmatch with hsame | fault
  · exact hnext _ _ hsame t t' hend
  · exact ⟨.error fault, hfault t t' hend⟩

/-- The same when the results play no part in what follows. -/
theorem Agree.andThen {x : Action S α} {y : Action S' α'} {next : Action S β}
    {next' : Action S' β'} (hx : Agree pre mid same x y) (hnext : Agree mid mid same' next next') :
    Agree pre mid same' (x >>= fun _ ↦ next) (y >>= fun _ ↦ next') :=
  agree_bind hx (fun _ _ h ↦ h) fun _ _ _ ↦ hnext

/-- Two loops over one list agree if they agree on each of its members. -/
theorem agree_forM {body : β → Action S PUnit} {body' : β → Action S' PUnit} {list : List β}
    (hbody : ∀ b ∈ list, Agree pre pre Eq (body b) (body' b)) :
    Agree pre pre Eq (list.forM body) (list.forM body') := by
  induction list with
  | nil => exact agree_pure rfl
  | cons b rest ih =>
    obtain ⟨hfirst, hrest⟩ := List.forall_mem_cons.mp hbody
    rw [List.forM_eq_forM, List.forM_cons, List.forM_eq_forM, List.forM_cons]
    exact hfirst.andThen (ih hrest)

/-- What follows one settled outcome on both sides follows a result. -/
theorem agree_ofExcept_bind {outcome : Except Fault α} {next : α → Action S β}
    {next' : α → Action S' β'}
    (h : ∀ a, outcome = .ok a → Agree pre pre same' (next a) (next' a)) :
    Agree pre pre same' (ofExcept outcome >>= next) (ofExcept outcome >>= next') := by
  rcases outcome with fault | a
  · exact fun _ _ hs ↦ ⟨.error fault, hs⟩
  · exact h a rfl

theorem agree_tryCatch {x : Action S α} {y : Action S' α'} {handle : Fault → Action S α}
    {handle' : Fault → Action S' α'} (hx : Agree pre mid same x y)
    (hok : ∀ s s', mid s s' → post s s')
    (hhandle : ∀ fault, Agree mid post same (handle fault) (handle' fault)) :
    Agree pre post same (tryCatch x handle) (tryCatch y handle') := by
  intro s s' hs
  obtain ⟨hmatch, hend⟩ := hx s s' hs
  rw [run_tryCatch, run_tryCatch]
  rcases h : x.run s with ⟨outcome, t⟩
  rcases h' : y.run s' with ⟨outcome', t'⟩
  rw [h, h'] at hmatch hend
  rcases hmatch with hsame | fault
  · exact ⟨.ok hsame, hok t t' hend⟩
  · exact hhandle fault t t' hend

theorem agree_ensuring {x : Action S α} {y : Action S' α'} {cleanup : Action S Unit}
    {cleanup' : Action S' Unit} (hx : Agree pre mid same x y)
    (hcleanup : Agree mid post Eq cleanup cleanup') :
    Agree pre post same (x.ensuring cleanup) (y.ensuring cleanup') := by
  intro s s' hs
  obtain ⟨hmatch, hend⟩ := hx s s' hs
  obtain ⟨hclean, hlast⟩ := hcleanup _ _ hend
  rw [run_ensuring, run_ensuring]
  rcases h : cleanup.run (x.run s).2 with ⟨outcome, t⟩
  rcases h' : cleanup'.run (y.run s').2 with ⟨outcome', t'⟩
  rw [h, h'] at hclean hlast
  rcases hclean with - | fault
  · exact ⟨hmatch, hlast⟩
  · exact ⟨.error fault, hlast⟩

theorem agree_outcome {x : Action S α} {y : Action S' α'} (hx : Agree pre post same x y) :
    Agree pre post (Matching same) x.outcome y.outcome := by
  intro s s' hs
  obtain ⟨hmatch, hend⟩ := hx s s' hs
  exact ⟨.ok hmatch, hend⟩

theorem agree_onPart {part : S → T} {part' : S' → T'} {replace : S → T → S}
    {replace' : S' → T' → S'} {inner inner' : T → T' → Prop} {x : Action T α} {y : Action T' α'}
    (hx : Agree inner inner' same x y) (hpart : ∀ s s', pre s s' → inner (part s) (part' s'))
    (hreplace : ∀ s s' t t', pre s s' → inner' t t' → post (replace s t) (replace' s' t')) :
    Agree pre post same (x.onPart part replace) (y.onPart part' replace') := by
  intro s s' hs
  obtain ⟨hmatch, hend⟩ := hx _ _ (hpart s s' hs)
  exact ⟨hmatch, hreplace s s' _ _ hs hend⟩

end MouseControl.Action
