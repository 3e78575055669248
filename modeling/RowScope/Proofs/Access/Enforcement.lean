/-
A statement under its rule.

Once the rule of a statement is settled, the rule that was forced on it plays no part any
more: the user is looked for, and what the rule grants to the user is added to the statement.

* `Enforcer.enforceRule` — a statement under a rule that is given;
* `Enforcer.enforce_eq` — a statement follows the forced rule or else the registered one, if
  the rules are not suspended;
* `Enforcer.identify_of_lookup` — the lookup is asked for a user that the session does not know;
* `Enforcer.session_enforceRule` — a statement leaves the forced rule and the suspensions of a
  session as they are;
* `Enforcer.enforce_of_simulates` — with resolvers that answer alike a known user is treated alike;
* `Enforcer.IsFunction` — a resolver and a lookup whose answers do not depend on the store;
* `Enforcer.identify_of_isFunction` — then the user is the same in every store, and also when
  it is looked for again.
-/
import RowScope.Access.Enforcer
import RowScope.Proofs.Access.Simulation

namespace RowScope

variable {σ τ : Type}

/-- Whether it is known who the user is, or that nobody is signed in. -/
def Actor.isResolved : Actor → Bool
  | unresolved => false
  | _ => true

theorem Session.isResolved_signIn (s : Session) (u : Option User) :
    (s.signIn u).actor.isResolved = true := by
  cases u with
  | none => rfl
  | some u => rfl

theorem Session.takeForced_of_none {s : Session} (h : s.forced = none) :
    s.takeForced.2 = s := by
  cases s
  cases h
  rfl

namespace Enforcer

variable {e : Enforcer σ} {query : String} {statement : Statement} {existing : Option Filter}
  {rule : Rule} {s s' : Session} {w w' : σ}

/-- The condition of a statement with what a rule demands of the user that was found, or what
becomes of it without a user. -/
def enforceFor (e : Enforcer σ) (rule : Rule) (existing : Option Filter) (statement : Statement)
    (answer : Except ResolveError (Option User)) (s : Session) (w : σ) : Verdict × Session × σ :=
  match answer with
  | .error _ => (.deny existing, s, w)
  | .ok none => (.pass existing .noUser, s, w)
  | .ok (some u) =>
    let grant := e.granter.grant e.resolver rule u statement s w
    (.ofGrant existing grant.1, grant.2)

/-- The condition of a statement with what a rule demands, if there is a rule. -/
def enforceRule (e : Enforcer σ) (rule? : Option Rule) (existing : Option Filter)
    (statement : Statement) (s : Session) (w : σ) : Verdict × Session × σ :=
  match rule? with
  | none => (.pass existing .noRule, s, w)
  | some rule =>
    let found := e.identify s w
    e.enforceFor rule existing statement found.1 found.2.1 found.2.2

/-- **A statement follows the rule that was forced on it, or else the registered one**, unless
the rules are suspended. -/
theorem enforce_eq (e : Enforcer σ) (query : String) (existing : Option Filter)
    (statement : Statement) (s : Session) (w : σ) :
    e.enforce query existing statement s w =
      if s.isSuspended then (.pass existing .suspended, s.takeForced.2, w)
      else e.enforceRule (s.forced.or (e.rules.lookup query none)) existing statement
        s.takeForced.2 w := by
  have hlookup : s.forced.or (e.rules.lookup query none) = e.rules.lookup query s.forced := rfl
  have hsuspended : s.takeForced.2.isSuspended = s.isSuspended := rfl
  have hforced : s.takeForced.1 = s.forced := rfl
  unfold enforce
  simp only [hsuspended, hforced, hlookup]
  split
  · rfl
  · cases e.rules.lookup query s.forced with
    | none => rfl
    | some rule =>
      simp only [enforceRule, enforceFor]
      rcases e.identify s.takeForced.2 w with ⟨err | _ | u, s', w'⟩
      · rfl
      · rfl
      · rfl

theorem enforceRule_of_identify {answer : Except ResolveError (Option User)}
    (h : e.identify s w = (answer, s', w')) (rule : Rule) (existing : Option Filter)
    (statement : Statement) :
    e.enforceRule (some rule) existing statement s w
      = e.enforceFor rule existing statement answer s' w' := by
  rw [enforceRule, h]

/-- Nobody looks for a user that the session knows. -/
theorem identify_of_isResolved (h : s.actor.isResolved = true) (w : σ) :
    e.identify s w = (.ok s.actor.user?, s, w) := by
  unfold identify
  cases hactor : s.actor with
  | unresolved =>
    rw [hactor] at h
    exact absurd h (by decide)
  | anonymous => rfl
  | user u => rfl

/-- Without a lookup nobody is signed in. -/
theorem identify_of_lookup_none (h : e.lookup? = none) (hunknown : s.actor.isResolved = false)
    (w : σ) : e.identify s w = (.ok none, s.signIn none, w) := by
  unfold identify
  cases hactor : s.actor with
  | unresolved => rw [h]
  | anonymous | user u =>
    rw [hactor] at hunknown
    exact absurd hunknown (by simp [Actor.isResolved])

/-- The lookup is asked for a user that the session does not know, and what it finds out is
kept. -/
theorem identify_of_lookup {lookup : Lookup σ} (h : e.lookup? = some lookup)
    (hunknown : s.actor.isResolved = false) (w : σ) :
    e.identify s w = ((lookup w).1, (lookup w).1.toOption.elim s s.signIn, (lookup w).2) := by
  unfold identify
  cases hactor : s.actor with
  | unresolved =>
    rw [h]
    rcases hfound : lookup w with ⟨err | u, w'⟩
    · simp only [hfound]
      rfl
    · simp only [hfound]
      rfl
  | anonymous | user u =>
    rw [hactor] at hunknown
    exact absurd hunknown (by simp [Actor.isResolved])

/-- A session with a user, or without one, knows the answer. -/
theorem identify_signIn (e : Enforcer σ) (s : Session) (u : Option User) (w : σ) :
    e.identify (s.signIn u) w = (.ok u, s.signIn u, w) := by
  cases u with
  | none => rfl
  | some u => rfl

/-- Looking for a user does nothing to a session but signing the user in. -/
theorem session_identify (e : Enforcer σ) (s : Session) (w : σ) :
    (e.identify s w).2.1 = s ∨ ∃ u, (e.identify s w).2.1 = s.signIn u := by
  cases hknown : s.actor.isResolved with
  | true => exact .inl (by rw [identify_of_isResolved hknown])
  | false =>
    cases hlookup : e.lookup? with
    | none => exact .inr ⟨none, by rw [identify_of_lookup_none hlookup hknown]⟩
    | some lookup =>
      rw [identify_of_lookup hlookup hknown]
      rcases (lookup w).1 with err | u
      · exact .inl rfl
      · exact .inr ⟨u, rfl⟩

/-- What becomes of a statement changes nothing of a session but its bindings. -/
theorem session_enforceFor (hr : e.resolver.BindsOnly) (rule : Rule) (existing : Option Filter)
    (statement : Statement) (answer : Except ResolveError (Option User)) (s : Session) (w : σ) :
    ∃ bindings, (e.enforceFor rule existing statement answer s w).2.1
      = { s with bindings := bindings } := by
  rcases answer with err | _ | u
  · exact ⟨s.bindings, rfl⟩
  · exact ⟨s.bindings, rfl⟩
  · exact Granter.session_of_grant hr rule u statement s w

/-- A statement under a rule leaves the forced rule and the suspensions of a session as they
are. -/
theorem session_enforceRule (hr : e.resolver.BindsOnly) (rule? : Option Rule)
    (existing : Option Filter) (statement : Statement) (s : Session) (w : σ) :
    (e.enforceRule rule? existing statement s w).2.1.forced = s.forced ∧
      (e.enforceRule rule? existing statement s w).2.1.depth = s.depth := by
  cases rule? with
  | none => exact ⟨rfl, rfl⟩
  | some rule =>
    obtain ⟨bindings, hbindings⟩ := session_enforceFor hr rule existing statement
      (e.identify s w).1 (e.identify s w).2.1 (e.identify s w).2.2
    rw [enforceRule, hbindings]
    rcases e.session_identify s w with hs | ⟨u, hs⟩
    · rw [hs]
      exact ⟨rfl, rfl⟩
    · rw [hs]
      exact ⟨rfl, rfl⟩

/-- **With resolvers that answer alike a statement of a known user is treated alike**, and the
states that are left correspond. -/
theorem enforce_of_simulates {e' : Enforcer τ} {Q : Session × σ → Session × τ → Prop}
    {w' : τ} (hr : e.resolver.Simulates e'.resolver Q) (hrules : e.rules = e'.rules)
    (hgranter : e.granter = e'.granter) (hknown : s.actor.isResolved = true)
    (hQ : Q (s.takeForced.2, w) (s.takeForced.2, w')) (query : String) (existing : Option Filter)
    (statement : Statement) :
    (e.enforce query existing statement s w).1 = (e'.enforce query existing statement s w').1 ∧
      Q (e.enforce query existing statement s w).2
        (e'.enforce query existing statement s w').2 := by
  have hknown : s.takeForced.2.actor.isResolved = true := hknown
  rw [enforce_eq, enforce_eq, hrules]
  by_cases hsuspended : s.isSuspended = true
  · rw [if_pos hsuspended, if_pos hsuspended]
    exact ⟨rfl, hQ⟩
  rw [if_neg hsuspended, if_neg hsuspended]
  cases s.forced.or (e'.rules.lookup query none) with
  | none => exact ⟨rfl, hQ⟩
  | some rule =>
    rw [enforceRule_of_identify (identify_of_isResolved hknown w),
      enforceRule_of_identify (identify_of_isResolved hknown w')]
    cases s.takeForced.2.actor.user? with
    | none => exact ⟨rfl, hQ⟩
    | some u =>
      obtain ⟨hgrant, hafter⟩ := Granter.grant_of_simulates (g := e'.granter) hr hQ rule u statement
      simp only [enforceFor, hgranter, hgrant, true_and]
      exact hafter

/-- The resolver and the lookup are functions: what they answer does not depend on the store,
and the resolver leaves the session alone. -/
structure IsFunction (e : Enforcer σ) : Prop where
  resolver : e.resolver.IsFunction
  lookup : ∀ lookup, e.lookup? = some lookup → ∀ w w', (lookup w).1 = (lookup w').1

/-- The user is the same in every store, and also when it is looked for again. -/
theorem identify_of_isFunction (he : e.IsFunction) {answer : Except ResolveError (Option User)}
    (h : e.identify s w = (answer, s', w')) (w₁ : σ) :
    (∃ w₂, e.identify s w₁ = (answer, s', w₂)) ∧ ∃ w₂, e.identify s' w₁ = (answer, s', w₂) := by
  cases hknown : s.actor.isResolved with
  | true =>
    obtain ⟨rfl, rfl, rfl⟩ := h.symm.trans (identify_of_isResolved hknown w)
    have hagain := identify_of_isResolved (e := e) hknown w₁
    exact ⟨⟨w₁, hagain⟩, ⟨w₁, hagain⟩⟩
  | false =>
    cases hlookup : e.lookup? with
    | none =>
      obtain ⟨rfl, rfl, rfl⟩ := h.symm.trans (identify_of_lookup_none hlookup hknown w)
      exact ⟨⟨w₁, identify_of_lookup_none hlookup hknown w₁⟩, ⟨w₁, identify_signIn e s none w₁⟩⟩
    | some lookup =>
      have hagain := identify_of_lookup hlookup hknown w₁
      obtain ⟨rfl, rfl, rfl⟩ := h.symm.trans (identify_of_lookup hlookup hknown w)
      -- the lookup answers the same again
      rw [he.lookup lookup hlookup w₁ w] at hagain
      refine ⟨⟨_, hagain⟩, ?_⟩
      rcases hanswer : (lookup w).1 with err | u
      · rw [hanswer] at hagain
        exact ⟨_, hagain⟩
      · exact ⟨w₁, identify_signIn e s u w₁⟩

end Enforcer

end RowScope
