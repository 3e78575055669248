/-
The templates that a granter works with.

A granter made from settings has one template for each scope that does not grant every
row, and it is the template that the scope is described by.

* `ScopeTemplate.ofScope?_builtin` — the template of a scope among all of them;
* `Granter.ofScope?_eq_none_iff` — only the scope of every row has no template;
* `Granter.standard` — the granter of the standard settings.
-/
import RowScope.Access.Grant
import RowScope.Proofs.Sequences

namespace RowScope

namespace ScopeTemplate

/-- What a template is compiled from. -/
def IsCompiled (t : ScopeTemplate) (scope : Scope) (template fallback : String) : Prop :=
  t.scope = scope ∧ Template.parse template = .ok t.template
    ∧ Filter.parse fallback = .ok t.fallback

theorem isCompiled_of_compile {scope : Scope} {template fallback missing : String}
    {t : ScopeTemplate} (h : compile scope template fallback missing = .ok t) :
    t.IsCompiled scope template fallback := by
  obtain ⟨parsed, hparsed, h⟩ := Except.bind_eq_ok_iff.1 h
  obtain ⟨-, -, h⟩ := Except.bind_eq_ok_iff.1 h
  obtain ⟨condition, hcondition, h⟩ := Except.bind_eq_ok_iff.1 h
  obtain rfl := Except.ok.inj h
  exact ⟨rfl, Except.mapError_eq_ok_iff.1 hparsed, Except.mapError_eq_ok_iff.1 hcondition⟩

/-- The sources of the templates of all scopes that have one. -/
def sources : List (Scope × String × String) :=
  Scope.list.filterMap fun scope => scope.template?.map (scope, ·)

theorem mem_sources_iff {scope : Scope} {source : String × String} :
    (scope, source) ∈ sources ↔ scope.template? = some source := by
  unfold sources
  rw [List.mem_filterMap]
  constructor
  · rintro ⟨_, -, h⟩
    obtain ⟨_, hs, he⟩ := Option.map_eq_some_iff.1 h
    obtain ⟨rfl, rfl⟩ := Prod.mk.inj he
    exact hs
  · intro h
    refine ⟨scope, ?_, by rw [h]; rfl⟩
    cases scope <;> decide

/-- The first of some compiled templates with a scope. -/
theorem find?_of_forall₂ {ts : List ScopeTemplate} {ss : List (Scope × String × String)}
    (h : List.Forall₂ (fun s t => IsCompiled t s.1 s.2.1 s.2.2) ss ts) (scope : Scope) :
    (ofScope? ts scope = none ∧ ∀ s ∈ ss, s.1 ≠ scope) ∨
      ∃ t template fallback, ofScope? ts scope = some t ∧ (scope, template, fallback) ∈ ss
        ∧ t.IsCompiled scope template fallback := by
  induction h with
  | nil => exact .inl ⟨rfl, by simp⟩
  | @cons s t ss ts hst _ ih =>
    obtain ⟨scope', template, fallback⟩ := s
    unfold ofScope? at ih ⊢
    by_cases hs : scope' = scope
    · subst hs
      have ht : (t.scope == scope') = true := beq_iff_eq.2 hst.1
      exact .inr ⟨t, template, fallback,
        List.find?_cons_of_pos (p := fun t : ScopeTemplate => t.scope == scope') ht,
        List.mem_cons_self, hst⟩
    · have ht : ¬(t.scope == scope) = true := by
        rw [beq_iff_eq, hst.1]
        exact hs
      rw [List.find?_cons_of_neg (p := fun t : ScopeTemplate => t.scope == scope) ht]
      rcases ih with ⟨hnone, hne⟩ | ⟨t', template', fallback', hsome, hmem, ht'⟩
      · refine .inl ⟨hnone, fun s hmem => ?_⟩
        rcases List.mem_cons.1 hmem with rfl | hmem
        · exact hs
        · exact hne s hmem
      · exact .inr ⟨t', template', fallback', hsome, List.mem_cons_of_mem _ hmem, ht'⟩

theorem ofScope?_builtin {missing : String} {ts : List ScopeTemplate}
    (h : builtin missing = .ok ts) (scope : Scope) :
    (ofScope? ts scope = none ∧ scope.template? = none) ∨
      ∃ t template fallback, ofScope? ts scope = some t
        ∧ scope.template? = some (template, fallback)
        ∧ t.IsCompiled scope template fallback := by
  have hall : List.Forall₂ (fun s t => IsCompiled t s.1 s.2.1 s.2.2) sources ts :=
    (mapM_eq_ok_iff.1 h).imp fun _ _ hc => isCompiled_of_compile hc
  rcases find?_of_forall₂ hall scope with ⟨hnone, hne⟩ | ⟨t, template, fallback, ht, hmem, hc⟩
  · refine .inl ⟨hnone, Option.eq_none_iff_forall_ne_some.2 fun source hs => ?_⟩
    exact hne _ (mem_sources_iff.2 hs) rfl
  · exact .inr ⟨t, template, fallback, ht, mem_sources_iff.1 hmem, hc⟩

end ScopeTemplate

theorem Scope.template?_eq_none_iff {scope : Scope} : scope.template? = none ↔ scope = .all := by
  cases scope <;> simp [Scope.template?]

namespace Granter

variable {settings : Settings} {g : Granter}

theorem builtin_of_ofSettings (h : ofSettings settings = .ok g) :
    ScopeTemplate.builtin settings.missing = .ok g.templates ∧ g.missing = settings.missing
      ∧ g.privileged = settings.privileged := by
  obtain ⟨templates, hts, rfl⟩ := Except.map_eq_ok_iff.1 h
  exact ⟨hts, rfl, rfl⟩

/-- The granter of the standard settings. -/
def standard : Granter :=
  (ofSettings .standard).toOption.get (by decide +kernel)

theorem ofSettings_standard : ofSettings .standard = .ok standard := by
  rcases h : ofSettings .standard with e | g
  · have hsome : (ofSettings .standard).toOption.isSome = true := by decide +kernel
    rw [h] at hsome
    exact absurd hsome (by simp [Except.toOption])
  · simp only [standard, h]
    rfl

/-- Only the scope that grants every row has no template. -/
theorem ofScope?_eq_none_iff (h : ofSettings settings = .ok g) {scope : Scope} :
    ScopeTemplate.ofScope? g.templates scope = none ↔ scope = .all := by
  rw [← Scope.template?_eq_none_iff]
  rcases ScopeTemplate.ofScope?_builtin (builtin_of_ofSettings h).1 scope with
    ⟨hnone, hs⟩ | ⟨t, template, fallback, ht, hs, -⟩
  · simp [hnone, hs]
  · simp [ht, hs]

end Granter

end RowScope
