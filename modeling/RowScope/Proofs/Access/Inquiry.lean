/-
Asking for the roles of a user, one after the other.

Each role changes the session and the store in which the next one is asked for.  The
search ends early with an error or with a role that grants every row.

* `Resolver.Asked` — some roles are answered in their order, none with every row;
* `Resolver.AnswersAll` — the answer to one of the roles is every row;
* `Granter.Conditions` — some roles give a condition each;
* `Granter.ofRoles_cases` — all that a search can come to.
-/
import RowScope.Proofs.Access.Templates

namespace RowScope

variable {σ : Type}

theorem Role.distinct_eq_nil_iff {roles : List Role} : Role.distinct roles = [] ↔ roles = [] :=
  eraseDupsBy_eq_nil_iff

namespace Resolver

/-- Roles of a user are asked for in their order.  Each is answered, and not with every
row. -/
inductive Asked (r : Resolver σ) (u : User) : List Role → Session → σ → Session → σ → Prop
  | nil (s : Session) (w : σ) : Asked r u [] s w s w
  | cons {role : Role} {roles : List Role} {answer : Resolution} {s s₁ s₂ : Session}
      {w w₁ w₂ : σ} (hask : r.suspended role u s w = (.ok answer, s₁, w₁))
      (hscope : answer.scope ≠ .all) (hrest : Asked r u roles s₁ w₁ s₂ w₂) :
      Asked r u (role :: roles) s w s₂ w₂

/-- When the roles of a user are asked for in their order, the answer to one of them is
every row. -/
def AnswersAll (r : Resolver σ) (u : User) (s : Session) (w : σ) : Prop :=
  ∃ before role after s₁ w₁ ids s₂ w₂, Role.distinct u.roles = before ++ role :: after
    ∧ r.Asked u before s w s₁ w₁ ∧ r.suspended role u s₁ w₁ = (.ok ⟨.all, ids⟩, s₂, w₂)

end Resolver

namespace Granter

variable {g : Granter} {resolver : Resolver σ} {rule : Rule} {u : User} {join : Join}

/-- Some roles give a condition each. -/
inductive Conditions (g : Granter) (resolver : Resolver σ) (rule : Rule) (u : User)
    (join : Join) : List Role → Session → σ → List Filter → Session → σ → Prop
  | nil (s : Session) (w : σ) : Conditions g resolver rule u join [] s w [] s w
  | cons {role : Role} {roles : List Role} {f : Filter} {fs : List Filter}
      {s s₁ s₂ : Session} {w w₁ w₂ : σ}
      (hrole : g.ofRole resolver rule u join role s w = (.ok (some f), s₁, w₁))
      (hrest : Conditions g resolver rule u join roles s₁ w₁ fs s₂ w₂) :
      Conditions g resolver rule u join (role :: roles) s w (f :: fs) s₂ w₂

/-- All that asking for a role can come to: an error of the resolver, every row, a
fragment that is no condition, or a condition. -/
theorem ofRole_cases {role : Role} {s s' : Session} {w w' : σ}
    {answer : Except PolicyError (Option Filter)}
    (h : g.ofRole resolver rule u join role s w = (answer, s', w')) :
    (∃ e, resolver.suspended role u s w = (.error e, s', w') ∧ answer = .error (.resolve e)) ∨
    ∃ r, resolver.suspended role u s w = (.ok r, s', w') ∧
      ((ScopeTemplate.ofScope? g.templates r.scope = none ∧ answer = .ok none) ∨
        ∃ t, ScopeTemplate.ofScope? g.templates r.scope = some t ∧
          answer = (g.condition t [rule.bindings u, role.bindings r, u.bindings, s'.bindings]
            u rule join).map some) := by
  unfold ofRole at h
  split at h
  · next e s₁ w₁ hask =>
    cases h
    exact .inl ⟨e, hask, rfl⟩
  · next r s₁ w₁ hask =>
    refine .inr ⟨r, ?_⟩
    split at h
    · next hnone =>
      cases h
      exact ⟨hask, .inl ⟨hnone, rfl⟩⟩
    · next t ht =>
      cases h
      exact ⟨hask, .inr ⟨t, ht, rfl⟩⟩

/-- All that a search through roles can come to: a condition for each, or an early end at
one of them. -/
theorem ofRoles_cases {roles : List Role} {s s' : Session} {w w' : σ}
    {answer : Except PolicyError (Option (List Filter))}
    (h : g.ofRoles resolver rule u join roles s w = (answer, s', w')) :
    (∃ fs, answer = .ok (some fs) ∧ g.Conditions resolver rule u join roles s w fs s' w') ∨
    ∃ before role after fs s₁ w₁, roles = before ++ role :: after
      ∧ g.Conditions resolver rule u join before s w fs s₁ w₁ ∧
      ((answer = .ok none ∧ g.ofRole resolver rule u join role s₁ w₁ = (.ok none, s', w')) ∨
        ∃ e, answer = .error e
          ∧ g.ofRole resolver rule u join role s₁ w₁ = (.error e, s', w')) := by
  induction roles generalizing s w answer s' w' with
  | nil =>
    simp only [ofRoles, Prod.mk.injEq] at h
    obtain ⟨rfl, rfl, rfl⟩ := h
    exact .inl ⟨[], rfl, .nil s w⟩
  | cons role roles ih =>
    rw [ofRoles] at h
    split at h
    · next e s₁ w₁ hrole =>
      cases h
      exact .inr ⟨[], role, roles, [], s, w, rfl, .nil s w, .inr ⟨e, rfl, hrole⟩⟩
    · next s₁ w₁ hrole =>
      cases h
      exact .inr ⟨[], role, roles, [], s, w, rfl, .nil s w, .inl ⟨rfl, hrole⟩⟩
    · next f s₁ w₁ hrole =>
      -- the role gives a condition, so the search goes on as it does from the next role
      rcases hrest : g.ofRoles resolver rule u join roles s₁ w₁ with ⟨answer', s₂, w₂⟩
      rw [hrest] at h
      have key := ih hrest
      rcases key with ⟨fs, rfl, hfs⟩ | ⟨before, role', after, fs, s₃, w₃, rfl, hfs, hend⟩
      · cases h
        exact .inl ⟨f :: fs, rfl, .cons hrole hfs⟩
      · refine .inr ⟨role :: before, role', after, f :: fs, s₃, w₃, rfl, .cons hrole hfs, ?_⟩
        rcases hend with ⟨rfl, hend⟩ | ⟨e, rfl, hend⟩
        · cases h
          exact .inl ⟨rfl, hend⟩
        · cases h
          exact .inr ⟨e, rfl, hend⟩

/-- Without a condition there was no role. -/
theorem eq_nil_of_ofRoles {roles : List Role} {s s' : Session} {w w' : σ}
    (h : g.ofRoles resolver rule u join roles s w = (.ok (some []), s', w')) : roles = [] := by
  rcases ofRoles_cases h with ⟨fs, hfs, hc⟩ | ⟨_, _, _, _, _, _, _, _, ⟨hend, -⟩ | ⟨_, hend, -⟩⟩
  · obtain rfl := Option.some.inj (Except.ok.inj hfs)
    cases hc
    rfl
  · exact absurd hend (by simp)
  · exact absurd hend (by simp)

variable {settings : Settings}

/-- A role without a condition and without an error grants every row. -/
theorem resolves_all_of_ofRole (hg : ofSettings settings = .ok g) {role : Role}
    {s s' : Session} {w w' : σ}
    (h : g.ofRole resolver rule u join role s w = (.ok none, s', w')) :
    ∃ ids, resolver.suspended role u s w = (.ok ⟨.all, ids⟩, s', w') := by
  rcases ofRole_cases h with ⟨e, -, he⟩ | ⟨⟨scope, ids⟩, hask, ⟨hnone, -⟩ | ⟨t, -, ht⟩⟩
  · exact absurd he (by simp)
  · obtain rfl : scope = .all := (ofScope?_eq_none_iff hg).1 hnone
    exact ⟨ids, hask⟩
  · obtain ⟨f, -, hf⟩ := Except.map_eq_ok_iff.1 ht.symm
    exact absurd hf (by simp)

theorem Conditions.asked (hg : ofSettings settings = .ok g) {roles : List Role}
    {fs : List Filter} {s s' : Session} {w w' : σ}
    (h : g.Conditions resolver rule u join roles s w fs s' w') :
    resolver.Asked u roles s w s' w' := by
  induction h with
  | nil s w => exact .nil s w
  | cons hrole _ ih =>
    rcases ofRole_cases hrole with ⟨e, -, he⟩ | ⟨r, hask, ⟨-, hnone⟩ | ⟨t, ht, -⟩⟩
    · exact absurd he (by simp)
    · exact absurd hnone (by simp)
    · refine .cons hask (fun hall => ?_) ih
      rw [(ofScope?_eq_none_iff hg).2 hall] at ht
      exact absurd ht (by simp)

theorem answersAll_of_ofRoles (hg : ofSettings settings = .ok g) {s s' : Session} {w w' : σ}
    (h : g.ofRoles resolver rule u join (Role.distinct u.roles) s w = (.ok none, s', w')) :
    resolver.AnswersAll u s w := by
  rcases ofRoles_cases h with ⟨fs, hfs, -⟩ | ⟨before, role, after, fs, s₁, w₁, hroles, hc, hend⟩
  · exact absurd hfs (by simp)
  · rcases hend with ⟨-, hrole⟩ | ⟨e, he, -⟩
    · obtain ⟨ids, hask⟩ := resolves_all_of_ofRole hg hrole
      exact ⟨before, role, after, s₁, w₁, ids, s', w', hroles, hc.asked hg, hask⟩
    · exact absurd he (by simp)

/-- All that a grant can come to. -/
theorem grant_cases (g : Granter) (resolver : Resolver σ) (rule : Rule) (u : User)
    (statement : Statement) (s : Session) (w : σ) :
    (g.isPrivileged u = true ∧ g.grant resolver rule u statement s w = (.ok .privileged, s, w)) ∨
    (g.isPrivileged u = false ∧
      ∃ answer s' w', g.ofRoles resolver rule u (rule.joinFor statement)
          (Role.distinct u.roles) s w = (answer, s', w') ∧
        g.grant resolver rule u statement s w
          = (answer.map fun fs? => fs?.elim .allRows (Grant.ofRoles (rule.joinFor statement)),
            s', w')) := by
  unfold grant
  by_cases hp : g.isPrivileged u = true
  · exact .inl ⟨hp, if_pos hp⟩
  · refine .inr ⟨by simpa using hp, ?_⟩
    rw [if_neg hp]
    rcases hr : g.ofRoles resolver rule u (rule.joinFor statement) (Role.distinct u.roles) s w
      with ⟨answer, s', w'⟩
    refine ⟨answer, s', w', rfl, ?_⟩
    rcases answer with e | (_ | fs)
    · simp only [hr]; rfl
    · simp only [hr]; rfl
    · simp only [hr]; rfl

end Granter

end RowScope
