/-
Resolvers that answer alike.

A granter asks its resolver for one role after the other, each time in the session and the
store that the last answer left.  Two resolvers that answer alike in states that correspond
lead to the same grant, and leave states that correspond.

* `Resolver.Simulates` — two resolvers answer alike in states that a relation relates;
* `Granter.grant_of_simulates` — then the same is granted, and the states stay related;
* `Resolver.IsFunction` — a resolver whose answers do not depend on its store, and which
  leaves the session alone;
* `Granter.grant_of_isFunction` — its grants are those of a resolver that looks at the role
  and the user alone;
* `Resolver.BindsOnly` — a resolver that changes nothing of a session but its bindings;
* `Granter.session_of_grant` — then a grant changes nothing else either.

Design notes: the relation may say that the states are equal, that one has more in its store,
or what is kept of a session.  So one induction over the roles serves for all of these.
-/
import RowScope.Proofs.Access.Meaning

namespace RowScope

variable {σ τ : Type}

namespace Resolver

/-- In states that `Q` relates two resolvers give the same answer, and leave states that `Q`
relates.  A template sees the same bindings in related states. -/
structure Simulates (r : Resolver σ) (r' : Resolver τ)
    (Q : Session × σ → Session × τ → Prop) : Prop where
  bindings : ∀ {x y}, Q x y → x.1.bindings = y.1.bindings
  answers : ∀ {x y}, Q x y → ∀ role u,
    (r.suspended role u x.1 x.2).1 = (r'.suspended role u y.1 y.2).1 ∧
      Q (r.suspended role u x.1 x.2).2 (r'.suspended role u y.1 y.2).2

/-- The resolver is a function: its answers do not depend on the store, and it leaves the
session alone. -/
def IsFunction (r : Resolver σ) : Prop :=
  ∀ role u s w, (∀ w', (r role u s w').1 = (r role u s w).1) ∧ (r role u s w).2.1 = s

/-- What a resolver answers in a session, while the rules are suspended. -/
def answerIn (r : Resolver σ) (s : Session) (w : σ) (role : Role) (u : User) :
    Except ResolveError Resolution :=
  (r role u s.push w).1

theorem isFunction_ofFunction (f : Role → User → Except ResolveError Resolution) :
    (ofFunction f : Resolver σ).IsFunction :=
  fun _ _ _ _ => ⟨fun _ => rfl, rfl⟩

/-- The resolver changes nothing of a session but its bindings. -/
def BindsOnly (r : Resolver σ) : Prop :=
  ∀ role u s w, ∃ bindings, (r role u s w).2.1 = { s with bindings := bindings }

theorem IsFunction.bindsOnly {r : Resolver σ} (h : r.IsFunction) : r.BindsOnly :=
  fun role u s w => ⟨s.bindings, (h role u s w).2⟩

/-- Whatever such a resolver was asked, only the bindings of the session are others. -/
theorem BindsOnly.simulates {r : Resolver σ} (h : r.BindsOnly) (s : Session) :
    r.Simulates r fun x y => x = y ∧ ∃ bindings, x.1 = { s with bindings := bindings } where
  bindings := by
    rintro x y ⟨rfl, -⟩
    rfl
  answers := by
    rintro ⟨s', w⟩ _ ⟨rfl, bindings, hs⟩ role u
    obtain ⟨bindings', hs'⟩ := h role u s'.push w
    refine ⟨rfl, rfl, bindings', ?_⟩
    show (r role u s'.push w).2.1.pop = _
    rw [hs']
    obtain rfl : s' = { s with bindings := bindings } := hs
    rfl

/-- A function answers alike as long as the session is the same. -/
theorem IsFunction.simulates {r : Resolver σ} (h : r.IsFunction) (s : Session) (w : σ) :
    r.Simulates (ofFunction (r.answerIn s w) : Resolver Unit) fun x y => x.1 = s ∧ y.1 = s where
  bindings := by
    rintro x y ⟨hx, hy⟩
    rw [hx, hy]
  answers := by
    rintro ⟨_, w'⟩ ⟨_, _⟩ ⟨rfl, rfl⟩ role u
    obtain ⟨hanswer, -⟩ := h role u (Session.push _) w
    obtain ⟨-, hsession⟩ := h role u (Session.push _) w'
    refine ⟨hanswer w', ?_, rfl⟩
    exact congrArg Session.pop hsession

end Resolver

namespace Granter

variable {g : Granter} {r : Resolver σ} {r' : Resolver τ}
  {Q : Session × σ → Session × τ → Prop} {x : Session × σ} {y : Session × τ}

theorem ofRole_of_simulates (h : r.Simulates r' Q) (hQ : Q x y) (rule : Rule) (u : User)
    (join : Join) (role : Role) :
    (g.ofRole r rule u join role x.1 x.2).1 = (g.ofRole r' rule u join role y.1 y.2).1 ∧
      Q (g.ofRole r rule u join role x.1 x.2).2 (g.ofRole r' rule u join role y.1 y.2).2 := by
  obtain ⟨hanswer, hafter⟩ := h.answers hQ role u
  rcases hx : r.suspended role u x.1 x.2 with ⟨answer, s, w⟩
  rcases hy : r'.suspended role u y.1 y.2 with ⟨answer', s', w'⟩
  rw [hx, hy] at hanswer hafter
  obtain rfl : answer = answer' := hanswer
  have hbindings : s.bindings = s'.bindings := h.bindings hafter
  rcases answer with err | resolution
  · simp only [ofRole, hx, hy, true_and]
    exact hafter
  · simp only [ofRole, hx, hy]
    cases ScopeTemplate.ofScope? g.templates resolution.scope with
    | none => exact ⟨rfl, hafter⟩
    | some t =>
      simp only [hbindings, true_and]
      exact hafter

theorem ofRoles_of_simulates (h : r.Simulates r' Q) (hQ : Q x y) (rule : Rule) (u : User)
    (join : Join) (roles : List Role) :
    (g.ofRoles r rule u join roles x.1 x.2).1 = (g.ofRoles r' rule u join roles y.1 y.2).1 ∧
      Q (g.ofRoles r rule u join roles x.1 x.2).2 (g.ofRoles r' rule u join roles y.1 y.2).2 := by
  induction roles generalizing x y with
  | nil => exact ⟨rfl, hQ⟩
  | cons role roles ih =>
    obtain ⟨hanswer, hafter⟩ := ofRole_of_simulates (g := g) h hQ rule u join role
    rcases hx : g.ofRole r rule u join role x.1 x.2 with ⟨answer, x'⟩
    rcases hy : g.ofRole r' rule u join role y.1 y.2 with ⟨answer', y'⟩
    rw [hx, hy] at hanswer hafter
    obtain rfl : answer = answer' := hanswer
    rcases answer with err | _ | f
    · simp only [ofRoles, hx, hy, true_and]
      exact hafter
    · simp only [ofRoles, hx, hy, true_and]
      exact hafter
    · -- the search goes on in states that are related again
      obtain ⟨hrest, hend⟩ := ih hafter
      rcases hx' : g.ofRoles r rule u join roles x'.1 x'.2 with ⟨answer, x''⟩
      rcases hy' : g.ofRoles r' rule u join roles y'.1 y'.2 with ⟨answer', y''⟩
      rw [hx', hy'] at hrest hend
      obtain rfl : answer = answer' := hrest
      rcases answer with err | fs
      · simp only [ofRoles, hx, hy, hx', hy', true_and]
        exact hend
      · simp only [ofRoles, hx, hy, hx', hy', true_and]
        exact hend

/-- **With resolvers that answer alike the same is granted**, and the states that are left
correspond. -/
theorem grant_of_simulates (h : r.Simulates r' Q) (hQ : Q x y) (rule : Rule) (u : User)
    (statement : Statement) :
    (g.grant r rule u statement x.1 x.2).1 = (g.grant r' rule u statement y.1 y.2).1 ∧
      Q (g.grant r rule u statement x.1 x.2).2 (g.grant r' rule u statement y.1 y.2).2 := by
  by_cases hp : g.isPrivileged u = true
  · rw [grant, grant, if_pos hp, if_pos hp]
    exact ⟨rfl, hQ⟩
  · obtain ⟨hanswer, hafter⟩ := ofRoles_of_simulates (g := g) h hQ rule u
      (rule.joinFor statement) (Role.distinct u.roles)
    rcases hx : g.ofRoles r rule u (rule.joinFor statement) (Role.distinct u.roles) x.1 x.2
      with ⟨answer, x'⟩
    rcases hy : g.ofRoles r' rule u (rule.joinFor statement) (Role.distinct u.roles) y.1 y.2
      with ⟨answer', y'⟩
    rw [hx, hy] at hanswer hafter
    obtain rfl : answer = answer' := hanswer
    rw [grant, grant, if_neg hp, if_neg hp]
    rcases answer with err | _ | fs
    · simp only [hx, hy, true_and]
      exact hafter
    · simp only [hx, hy, true_and]
      exact hafter
    · simp only [hx, hy, true_and]
      exact hafter

/-- A function grants what it answers in the session, whatever the store is, and the session
stays as it is. -/
theorem grant_of_isFunction (h : r.IsFunction) (rule : Rule) (u : User) (statement : Statement)
    (s : Session) (w w' : σ) :
    (g.grant r rule u statement s w').1
        = (g.grant (.ofFunction (r.answerIn s w)) rule u statement s ()).1 ∧
      (g.grant r rule u statement s w').2.1 = s := by
  obtain ⟨hanswer, hsession, -⟩ := grant_of_simulates (g := g) (x := (s, w')) (y := (s, ()))
    (h.simulates s w) ⟨rfl, rfl⟩ rule u statement
  exact ⟨hanswer, hsession⟩

/-- A grant changes nothing of a session but its bindings, if asking for a role does not. -/
theorem session_of_grant (h : r.BindsOnly) (rule : Rule) (u : User) (statement : Statement)
    (s : Session) (w : σ) :
    ∃ bindings, (g.grant r rule u statement s w).2.1 = { s with bindings := bindings } := by
  obtain ⟨-, -, hsession⟩ := grant_of_simulates (g := g) (x := (s, w)) (y := (s, w))
    (h.simulates s) ⟨rfl, s.bindings, rfl⟩ rule u statement
  exact hsession

end Granter

end RowScope
