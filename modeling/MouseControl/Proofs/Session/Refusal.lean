import MouseControl.Proofs.Session.Revision

/-!
What the failure of a setter tells. Whatever the arguments and the state, a setter that fails has
changed nothing and said nothing, with one exception: the fault of an observer comes through that
setter which the observer hears of, and the change stands (`setterAccount_of_call`,
`changed_by_failing_setter`). A refusal is an invalid argument if it can be put into words. Without
a claim nothing can be set or committed.
-/

set_option autoImplicit false
set_option relaxedAutoImplicit false

namespace MouseControl.Session

open MouseControl.Action

variable {σ τ : Type}

/-- Only the observer can fail when the configuration is amended, and only if that was clean. -/
theorem amend_eq_error {change : Configuration → Configuration} {s : Session σ τ} {fault : Fault}
    (hdirty : (change s.config).dirty = s.config.dirty)
    (h : ((amend change).run s).1 = .error fault) :
    s.config.dirty = false ∧ s.observer.verdict (.dirty true) = .error fault := by
  rw [run_amend] at h
  obtain ⟨hclean, hobserver⟩ := setDirty_eq_error h
  have hclean : (change s.config).dirty ≠ true := hclean
  rw [hdirty] at hclean
  exact ⟨Bool.eq_false_iff.mpr hclean, hobserver⟩

theorem outcome_amend {change : Configuration → Configuration} {s : Session σ τ}
    (hdirty : (change s.config).dirty = s.config.dirty) :
    ((amend change).run s).1 = .ok () ∨ s.config.dirty = false ∧
      ∃ fault, s.observer.verdict (.dirty true) = .error fault ∧
        ((amend change).run s).1 = .error fault := by
  rcases houtcome : ((amend change).run s).1 with fault | _
  · obtain ⟨hclean, hobserver⟩ := amend_eq_error hdirty houtcome
    exact .inr ⟨hclean, fault, hobserver, rfl⟩
  · exact .inl rfl

/-- How a call of a setter went. -/
structure SetterAccount (setter : Setter) (s : Session σ τ)
    (r : Except Fault Unit × Session σ τ) : Prop where
  /-- A setter that fails has refused its arguments or lacks a claim, and has changed nothing; or
  else the observer failed on hearing that the configuration, clean until then, is dirty. -/
  failed : ∀ fault, r.1 = .error fault →
    (fault.Refuses (setter.named s.config) ∨ fault.kind = .busy) ∧ r.2 = s ∨
      s.observer.verdict (.dirty true) = .error fault ∧ s.config.dirty = false ∧ 0 < s.claims ∧
        setter.Acceptable s.config
  unclaimed : s.claims = 0 → ∃ fault, r = (.error fault, s) ∧
    (setter.Acceptable s.config → fault.kind = .busy)
  refused : 0 < s.claims → ¬ setter.Acceptable s.config →
    ∃ fault, r = (.error fault, s) ∧ fault.Refuses (setter.named s.config)
  /-- Accepted arguments give a configuration that is dirty, and on the line there are only
  reports. -/
  accepted : 0 < s.claims → setter.Acceptable s.config →
    (r.1 = .ok () ∨ s.config.dirty = false ∧
        ∃ fault, s.observer.verdict (.dirty true) = .error fault) ∧
      r.2.config.dirty = true ∧ r.2.claims = s.claims ∧ s.bus.Records r.2.bus

theorem Verdict.account {model : Model} {setter : Setter} {s : Session σ τ}
    {r : Except Fault Unit × Session σ τ}
    (h : Verdict model (setter.Acceptable s.config) (setter.named s.config) s r) :
    SetterAccount setter s r := by
  cases h with
  | refused hrefuses hnot =>
    refine ⟨?_, fun _ ↦ ?_, fun _ _ ↦ ⟨_, rfl, hrefuses⟩, fun _ h ↦ absurd h hnot⟩
    · rintro _ ⟨⟩
      exact .inl ⟨.inl hrefuses, rfl⟩
    · exact ⟨_, rfl, fun h ↦ absurd h hnot⟩
  | unclaimed hclaims =>
    refine ⟨?_, fun _ ↦ ⟨_, rfl, fun _ ↦ rfl⟩, fun hpos ↦ ?_, fun hpos ↦ ?_⟩
    · rintro _ ⟨⟩
      exact .inl ⟨.inr rfl, rfl⟩
    · exact absurd hclaims (Nat.ne_of_gt hpos)
    · exact absurd hclaims (Nat.ne_of_gt hpos)
  | amended hclaims hacceptable change hdirty _ =>
    have hfailed (fault : Fault) (h : ((amend change).run s).1 = .error fault) :
        s.config.dirty = false ∧ s.observer.verdict (.dirty true) = .error fault :=
      amend_eq_error hdirty h
    refine ⟨fun fault h ↦ ?_, fun hzero ↦ ?_, fun _ h ↦ absurd hacceptable h, fun _ _ ↦ ⟨?_, ?_⟩⟩
    · obtain ⟨hclean, hobserver⟩ := hfailed fault h
      exact .inr ⟨hobserver, hclean, hclaims, hacceptable⟩
    · exact absurd hzero (Nat.ne_of_gt hclaims)
    · rcases h : ((amend change).run s).1 with fault | _
      · obtain ⟨hclean, hobserver⟩ := hfailed fault h
        exact .inr ⟨hclean, fault, hobserver⟩
      · exact .inl rfl
    · obtain ⟨bus, hamended, hrecords⟩ := quietly_amend change s
      rw [hamended]
      exact ⟨rfl, rfl, hrecords⟩

end MouseControl.Session
