import Mathlib.Data.List.DropRight
import MouseControl.Settings.Basic

/-!
Where the configuration file lies. The rule of the environment is stated apart from the code: a base
that is set and not empty is taken as it is, and otherwise the base is `.config` in the home
directory (`Path.Base`); a slash divides the base from the rest of a path, unless the base ends in
one already (`Path.Leads`). The file lies where the rule says unless the variable of the base is set
and empty, and then it lies wherever the path is used from (`Path.configFile_of_environment`).
-/

set_option autoImplicit false
set_option relaxedAutoImplicit false

namespace MouseControl.Path

variable {base rest path stem home : Text} {given : Option Text}

/-! ### The rule -/

/-- A path that does not depend on where it is used from. -/
def IsAbsolute (path : Text) : Prop := path.head? = some slash

instance : Decidable (IsAbsolute path) := inferInstanceAs (Decidable (_ = _))

/-- A path that leads from a base to the rest. -/
inductive Leads (base rest : Text) : Text → Prop
  | divided : base.getLast? ≠ some slash → Leads base rest (base ++ slash :: rest)
  | joined : base.getLast? = some slash → Leads base rest (base ++ rest)

/-- What a path comes to without the slashes at its end. -/
structure Trims (path stem : Text) : Prop where
  exists_slashes : ∃ n, path = stem ++ List.replicate n slash
  getLast?_ne : stem.getLast? ≠ some slash

/-- The base of configuration files by the home directory and the variable that may name one. -/
inductive Base (home : Text) : Option Text → Text → Prop
  | named {base : Text} : base ≠ [] → Base home (some base) base
  | unset {stem : Text} : Trims home stem → Base home none (stem ++ "/.config")
  | empty {stem : Text} : Trims home stem → Base home (some []) (stem ++ "/.config")

/-! ### Trimmed paths -/

theorem dropSlashes_eq (path : Text) : dropSlashes path = path.rdropWhile (· == slash) := rfl

theorem trims_dropSlashes (path : Text) : Trims path (dropSlashes path) where
  exists_slashes := by
    have hslashes : path.rtakeWhile (· == slash) =
        List.replicate (path.rtakeWhile (· == slash)).length slash :=
      List.eq_replicate_iff.mpr ⟨rfl, fun c hc ↦ by simpa using List.mem_rtakeWhile_imp hc⟩
    refine ⟨(path.rtakeWhile (· == slash)).length, ?_⟩
    rw [← hslashes, dropSlashes_eq, List.rdropWhile_append_rtakeWhile]
  getLast?_ne := by
    intro hlast
    have hne : dropSlashes path ≠ [] := List.ne_nil_of_mem (List.mem_of_getLast? hlast)
    refine List.rdropWhile_last_not (· == slash) path hne ?_
    rw [List.getLast?_eq_some_getLast hne, Option.some_inj] at hlast
    exact beq_iff_eq.mpr hlast

/-- There is one way to trim a path. -/
theorem Trims.eq_dropSlashes (h : Trims path stem) : stem = dropSlashes path := by
  obtain ⟨⟨n, rfl⟩, hlast⟩ := h
  rw [dropSlashes_eq]
  induction n with
  | zero =>
    rw [List.replicate_zero, List.append_nil, eq_comm, List.rdropWhile_eq_self_iff]
    intro hne hslash
    exact hlast (by simpa [List.getLast?_eq_some_getLast hne] using hslash)
  | succ n ih =>
    rw [List.replicate_succ', ← List.append_assoc, List.rdropWhile_concat_pos _ _ _ (by simp)]
    exact ih

/-! ### Joined paths -/

theorem join_of_absolute (h : IsAbsolute path) : join base path = path := if_pos h

theorem join_of_relative (h : ¬IsAbsolute path) : join base path =
    if base = [] ∨ base.getLast? = some slash then base ++ path else base ++ slash :: path :=
  if_neg h

theorem isAbsolute_join : IsAbsolute (join base path) ↔ IsAbsolute path ∨ IsAbsolute base := by
  by_cases hpath : IsAbsolute path
  · rw [join_of_absolute hpath]
    exact iff_of_true hpath (.inl hpath)
  rw [join_of_relative hpath, or_iff_right hpath]
  cases base with
  | nil => exact iff_of_false hpath nofun
  | cons c base => split <;> rfl

theorem leads_join (hbase : base ≠ []) (hpath : ¬IsAbsolute path) :
    Leads base path (join base path) := by
  rw [join_of_relative hpath]
  by_cases hlast : base.getLast? = some slash
  · rw [if_pos (.inr hlast)]
    exact .joined hlast
  · rw [if_neg (not_or.mpr ⟨hbase, hlast⟩)]
    exact .divided hlast

/-- A path is no shorter than its two parts. -/
theorem Leads.length_le (h : Leads base rest path) : base.length + rest.length ≤ path.length := by
  cases h with
  | divided => simp
  | joined => simp

/-- Two relative paths can be joined to a base one after the other. -/
theorem join_join {next : Text} (hpath : ¬IsAbsolute path) (hnext : ¬IsAbsolute next)
    (hne : path ≠ []) (hlast : path.getLast? ≠ some slash) :
    join (join base path) next = join base (join path next) := by
  have hjoined : ¬IsAbsolute (join path next) := fun h ↦ (isAbsolute_join.mp h).elim hnext hpath
  have hends (first : Text) :
      ¬(first ++ path = [] ∨ (first ++ path).getLast? = some slash) := by
    rw [List.getLast?_append_of_ne_nil _ hne, List.append_eq_nil_iff, not_or]
    exact ⟨fun h ↦ hne h.2, hlast⟩
  have hdivided : join path next = path ++ slash :: next := by
    rw [join_of_relative hnext, if_neg (not_or.mpr ⟨hne, hlast⟩)]
  rw [join_of_relative hnext, join_of_relative hjoined, join_of_relative hpath, hdivided]
  by_cases h : base = [] ∨ base.getLast? = some slash
  · rw [if_pos h, if_pos h, if_neg (hends base), List.append_assoc]
  · have hsplit : base ++ slash :: path = (base ++ [slash]) ++ path := by simp
    rw [if_neg h, if_neg h, hsplit, if_neg (hends _)]
    simp

/-! ### The configuration file -/

/-- The file is two steps below its base. -/
theorem configFile_eq (home : Text) (given : Option Text) :
    configFile home given = join (configBase home given) "naga/config.json" := by
  have hname : ¬IsAbsolute "naga" ∧ ¬IsAbsolute "config.json" := by decide
  exact join_join hname.1 hname.2 (by decide) (by decide)

theorem not_isAbsolute_file : ¬IsAbsolute "naga/config.json" := by decide

theorem exists_base (home : Text) (given : Option Text) : ∃ base, Base home given base := by
  match given with
  | none => exact ⟨_, .unset (trims_dropSlashes home)⟩
  | some [] => exact ⟨_, .empty (trims_dropSlashes home)⟩
  | some (c :: rest) => exact ⟨_, .named (List.cons_ne_nil c rest)⟩

/-- The rule gives the base that is used, unless it is given as an empty one. -/
theorem Base.eq_configBase (h : Base home given base) (hgiven : given ≠ some []) :
    base = configBase home given := by
  cases h with
  | named => rfl
  | unset h => rw [h.eq_dropSlashes]; rfl
  | empty => exact absurd rfl hgiven

theorem Base.ne_nil (h : Base home given base) : base ≠ [] := by
  cases h with
  | named h => exact h
  | unset | empty => simp [Text.ofString]

theorem leads_configFile_iff (h : Base home given base) :
    Leads base "naga/config.json" (configFile home given) ↔ given ≠ some [] := by
  rw [configFile_eq]
  constructor
  · rintro hleads rfl
    have hlength := hleads.length_le
    have hpath : join (configBase home (some [])) "naga/config.json" = "naga/config.json" := rfl
    have hbase : 0 < base.length := List.length_pos_iff.mpr h.ne_nil
    rw [hpath] at hlength
    omega
  · intro hgiven
    rw [← h.eq_configBase hgiven]
    exact leads_join h.ne_nil not_isAbsolute_file

theorem isAbsolute_homeBase : IsAbsolute (dropSlashes home ++ "/.config") ↔
    IsAbsolute home ∨ home = [] := by
  obtain ⟨⟨n, hhome⟩, -⟩ := trims_dropSlashes home
  generalize dropSlashes home = stem at hhome ⊢
  subst hhome
  cases stem with
  | nil =>
    have habsolute : IsAbsolute "/.config" := by decide
    refine iff_of_true habsolute ?_
    cases n with
    | zero => exact .inr rfl
    | succ n => exact .inl rfl
  | cons c stem => simp [IsAbsolute]

/-- The file lies where the rule puts it, for every home directory and every base that is set or
not, unless the base is set and empty. Then its path is relative and never the one that it has when
no base is set, while otherwise the path is as absolute as what it starts from. -/
theorem configFile_of_environment (home : Text) (given : Option Text) :
    (∃ base, Base home given base) ∧
      (∀ base, Base home given base →
        (Leads base "naga/config.json" (configFile home given) ↔ given ≠ some [])) ∧
      (given = some [] → configFile home given = "naga/config.json" ∧
        configFile home given ≠ configFile home none) ∧
      (IsAbsolute (configFile home given) ↔ (∃ base, given = some base ∧ IsAbsolute base) ∨
        given = none ∧ (IsAbsolute home ∨ home = [])) := by
  refine ⟨exists_base home given, fun base ↦ leads_configFile_iff, ?_, ?_⟩
  · rintro rfl
    refine ⟨rfl, fun hsame ↦ ?_⟩
    have htrims := trims_dropSlashes home
    have hleads := (leads_configFile_iff (.unset htrims)).mpr nofun
    rw [← hsame] at hleads
    exact (leads_configFile_iff (.empty htrims)).mp hleads rfl
  · rw [configFile_eq, isAbsolute_join, or_iff_right not_isAbsolute_file]
    cases given with
    | none => simp [configBase, isAbsolute_homeBase]
    | some base => simp [configBase]

/-- With an empty base the file is not looked for in the home directory. -/
theorem configFile_of_empty_base :
    configFile "/root" (some []) = "naga/config.json" ∧
      configFile "/root" none = "/root/.config/naga/config.json" ∧
      ¬∀ home given, IsAbsolute home → given = none ∨ given = some [] →
        IsAbsolute (configFile home given) := by
  refine ⟨rfl, rfl, fun habsolute ↦ ?_⟩
  exact absurd (habsolute "/root" (some []) rfl (.inr rfl)) (by decide)

end MouseControl.Path
