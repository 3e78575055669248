/-
Enforcement never widens a statement.

* `Enforcer.Identified` — a statement is subject to a rule, and its user was looked for;
* `Enforcer.Cause` — what has to be the case for a statement to be left alone;
* `Enforcer.LookupFails`, `Enforcer.Composes` — what becomes of any other statement;
* `Enforcer.enforce_narrows` — a statement that is left alone has a cause for it, a
  statement that is filtered keeps its condition, and one that is denied matches no row.

Design notes: the four are stated for a resolver and a lookup that may fail and that may
change the session, so nothing is assumed of what they do to the next statement.
-/
import RowScope.Access.Enforcer
import RowScope.Proofs.Access.Inquiry
import RowScope.Proofs.Connectives

namespace RowScope

/-- Whether a row passes the condition of a statement, if it has one. -/
def Filter.admitsIf (f? : Option Filter) (row : Row) : Bool :=
  f?.all fun f => f.admits row

theorem Filter.admits_iff {f : Filter} {row : Row} : f.admits row = true ↔ f.truth row = .holds :=
  beq_iff_eq

/-- A condition that was added takes rows away and adds none. -/
theorem Filter.admits_conjoin {existing : Option Filter} {f : Filter} {row : Row}
    (h : (conjoin existing f).admits row = true) :
    admitsIf existing row = true ∧ f.admits row = true := by
  rw [admits_iff, truth_conjoin, Truth.and_eq_holds_iff] at h
  refine ⟨?_, admits_iff.2 h.2⟩
  cases existing with
  | none => rfl
  | some e => exact admits_iff.2 h.1

/-- No row is left, whatever the condition of the statement is. -/
theorem Verdict.truth_deny (existing : Option Filter) (row : Row) :
    (Filter.conjoin existing (.group .never)).truth row = .fails := by
  rw [Filter.truth_conjoin, Truth.and_eq_fails_iff]
  exact .inr rfl

/-- Conditions of roles grant rows, unless there are none. -/
theorem Grant.ofRoles_cases (join : Join) (fs : List Filter) :
    (fs = [] ∧ Grant.ofRoles join fs = .noRoles) ∨ ∃ f, Grant.ofRoles join fs = .rows f := by
  rcases fs with _ | ⟨f, fs⟩
  · exact .inl ⟨rfl, rfl⟩
  · refine .inr ?_
    unfold Grant.ofRoles
    rcases hj : Filter.join? join (Filter.distinct (f :: fs)) with _ | g
    · rw [Filter.join?_eq_none_iff, Filter.distinct, List.eraseDupsBy_cons] at hj
      exact absurd hj (by simp)
    · exact ⟨_, rfl⟩

namespace Enforcer

variable {σ : Type} {e : Enforcer σ} {query : String} {statement : Statement}
  {s s' : Session} {w w' : σ}

/-- A statement is subject to a rule, and looking for its user comes to an answer. -/
structure Identified (e : Enforcer σ) (query : String) (s : Session) (w : σ) (rule : Rule)
    (answer : Except ResolveError (Option User)) (s' : Session) (w' : σ) : Prop where
  inForce : s.isSuspended = false
  subject : e.rules.lookup query s.forced = some rule
  looked : e.identify s.takeForced.2 w = (answer, s', w')

/-- What has to be the case for a statement to be left alone. -/
inductive Cause (e : Enforcer σ) (query : String) (s : Session) (w : σ) : PassReason → Prop
  | suspended (h : s.isSuspended = true) : Cause e query s w .suspended
  | noRule (h : e.rules.lookup query s.forced = none) : Cause e query s w .noRule
  | noUser {rule : Rule} {s' : Session} {w' : σ}
      (h : e.Identified query s w rule (.ok none) s' w') : Cause e query s w .noUser
  | privileged {rule : Rule} {u : User} {s' : Session} {w' : σ}
      (h : e.Identified query s w rule (.ok (some u)) s' w')
      (hu : u.capabilities.meets e.granter.privileged = true) : Cause e query s w .privileged
  | allRows {rule : Rule} {u : User} {s' : Session} {w' : σ}
      (h : e.Identified query s w rule (.ok (some u)) s' w')
      (hu : e.resolver.AnswersAll u s' w') : Cause e query s w .allRows
  | noRoles {rule : Rule} {u : User} {s' : Session} {w' : σ}
      (h : e.Identified query s w rule (.ok (some u)) s' w')
      (hu : u.roles = []) : Cause e query s w .noRoles

/-- The user of a statement that is subject to a rule cannot be looked up. -/
def LookupFails (e : Enforcer σ) (query : String) (s : Session) (w : σ) : Prop :=
  ∃ rule err s' w', e.Identified query s w rule (.error err) s' w'

/-- What the rule of a statement grants to its user is asked for, with this answer. -/
def Composes (e : Enforcer σ) (query : String) (statement : Statement) (s : Session) (w : σ)
    (answer : Except PolicyError Grant) : Prop :=
  ∃ rule u s' w', e.Identified query s w rule (.ok (some u)) s' w'
    ∧ (e.granter.grant e.resolver rule u statement s' w').1 = answer

/-- The verdict on a statement that is subject to a rule. -/
theorem enforce_of_identified {rule : Rule} {answer : Except ResolveError (Option User)}
    (h : e.Identified query s w rule answer s' w') (statement : Statement)
    (existing : Option Filter) :
    (e.enforce query existing statement s w).1 = match answer with
      | .error _ => .deny existing
      | .ok none => .pass existing .noUser
      | .ok (some u) =>
        .ofGrant existing (e.granter.grant e.resolver rule u statement s' w').1 := by
  obtain ⟨hforce, hrule, hlook⟩ := h
  have hs : s.takeForced.2.isSuspended = false := hforce
  have hr : e.rules.lookup query s.takeForced.1 = some rule := hrule
  unfold enforce
  simp only [hs, hr, hlook, Bool.false_eq_true, if_false]
  rcases answer with err | _ | u
  · rfl
  · rfl
  · rfl

/-- All that can become of a statement. -/
theorem enforce_cases (e : Enforcer σ) (query : String) (existing : Option Filter)
    (statement : Statement) (s : Session) (w : σ) :
    (s.isSuspended = true
      ∧ (e.enforce query existing statement s w).1 = .pass existing .suspended) ∨
    (e.rules.lookup query s.forced = none
      ∧ (e.enforce query existing statement s w).1 = .pass existing .noRule) ∨
    ∃ rule answer s' w', e.Identified query s w rule answer s' w' := by
  by_cases hs : s.isSuspended = true
  · refine .inl ⟨hs, ?_⟩
    have hs' : s.takeForced.2.isSuspended = true := hs
    unfold enforce
    simp only [hs', if_true]
  · have hf : s.isSuspended = false := by simpa using hs
    have hs' : s.takeForced.2.isSuspended = false := hf
    rcases hr : e.rules.lookup query s.forced with _ | rule
    · refine .inr (.inl ⟨rfl, ?_⟩)
      have hr' : e.rules.lookup query s.takeForced.1 = none := hr
      unfold enforce
      simp only [hs', hr', Bool.false_eq_true, if_false]
    · exact .inr (.inr ⟨rule, _, _, _, hf, hr, rfl⟩)

/-- A grant that lets every row pass has a cause. -/
theorem cause_of_grant {settings : Settings} (hg : Granter.ofSettings settings = .ok e.granter)
    {rule : Rule} {u : User} (h : e.Identified query s w rule (.ok (some u)) s' w')
    (statement : Statement) (existing : Option Filter) (reason : PassReason)
    (hp : (Verdict.ofGrant existing
      (e.granter.grant e.resolver rule u statement s' w').1).outcome = .passed reason) :
    e.Cause query s w reason := by
  rcases Granter.grant_cases e.granter e.resolver rule u statement s' w' with
    ⟨hpriv, hgrant⟩ | ⟨-, answer, s₁, w₁, hroles, hgrant⟩
  · rw [hgrant] at hp
    obtain rfl := Outcome.passed.inj hp
    exact .privileged h hpriv
  · rw [hgrant] at hp
    rcases answer with err | _ | fs
    · exact absurd hp (by simp [Except.map, Verdict.ofGrant, Verdict.deny])
    · obtain rfl := Outcome.passed.inj hp
      exact .allRows h (Granter.answersAll_of_ofRoles hg hroles)
    · rcases Grant.ofRoles_cases (rule.joinFor statement) fs with ⟨rfl, hnil⟩ | ⟨f, hrows⟩
      · simp only [Except.map, Option.elim_some, hnil] at hp
        obtain rfl := Outcome.passed.inj hp
        have hnone := Granter.eq_nil_of_ofRoles hroles
        exact .noRoles h (Role.distinct_eq_nil_iff.1 hnone)
      · simp only [Except.map, Option.elim_some, hrows] at hp
        exact absurd hp (by simp [Verdict.ofGrant])

/-- What a verdict says of a statement: it was left alone for a cause, or filtered by what
its rule grants, or left no row because its user or the grant could not be found out. -/
structure Narrows (e : Enforcer σ) (query : String) (existing : Option Filter)
    (statement : Statement) (s : Session) (w : σ) (v : Verdict) : Prop where
  -- A statement that is left alone keeps its condition, and there is a cause.
  passed : ∀ reason, v.outcome = .passed reason → v.filter = existing ∧ e.Cause query s w reason
  -- A row of a filtered statement was a row before, and it is granted.
  filtered : v.outcome = .filtered → ∃ f, e.Composes query statement s w (.ok (.rows f)) ∧
    v.filter = some (.conjoin existing f) ∧
    ∀ row, Filter.admitsIf v.filter row = true →
      Filter.admitsIf existing row = true ∧ f.admits row = true
  -- A statement is denied exactly when its user or the grant could not be found out.
  denied : v.outcome = .denied ↔
    e.LookupFails query s w ∨ ∃ err, e.Composes query statement s w (.error err)
  -- A denied statement has no row.
  nothing : v.outcome = .denied → ∃ f, v.filter = some f ∧ ∀ row, f.truth row = .fails

theorem denied_of_fails
    (h : e.LookupFails query s w ∨ ∃ err, e.Composes query statement s w (.error err))
    (existing : Option Filter) :
    (e.enforce query existing statement s w).1 = .deny existing := by
  rcases h with ⟨rule, err, s', w', hid⟩ | ⟨err, rule, u, s', w', hid, hgrant⟩
  · rw [enforce_of_identified hid]
  · rw [enforce_of_identified hid]
    simp only [hgrant]
    rfl

theorem narrows_of_pass {existing : Option Filter} {reason : PassReason}
    (hv : (e.enforce query existing statement s w).1 = .pass existing reason)
    (hc : e.Cause query s w reason) :
    e.Narrows query existing statement s w (e.enforce query existing statement s w).1 := by
  refine ⟨?_, ?_, ⟨?_, fun hfails => by rw [denied_of_fails hfails]; rfl⟩, ?_⟩
  · rw [hv]
    intro reason' h
    obtain rfl : reason = reason' := Outcome.passed.inj h
    exact ⟨rfl, hc⟩
  all_goals rw [hv]; intro h; exact absurd h (by simp [Verdict.pass])

theorem narrows_of_deny {existing : Option Filter}
    (h : e.LookupFails query s w ∨ ∃ err, e.Composes query statement s w (.error err)) :
    e.Narrows query existing statement s w (e.enforce query existing statement s w).1 := by
  rw [denied_of_fails h]
  refine ⟨?_, ?_, ⟨fun _ => h, fun _ => rfl⟩, ?_⟩
  · intro reason hp
    exact absurd hp (by simp [Verdict.deny])
  · intro hf
    exact absurd hf (by simp [Verdict.deny])
  · intro _
    exact ⟨_, rfl, Verdict.truth_deny existing⟩

theorem narrows_of_rows {existing : Option Filter} {f : Filter}
    (hv : (e.enforce query existing statement s w).1
      = ⟨some (.conjoin existing f), .filtered⟩)
    (hc : e.Composes query statement s w (.ok (.rows f))) :
    e.Narrows query existing statement s w (e.enforce query existing statement s w).1 := by
  refine ⟨?_, ?_, ⟨?_, fun hfails => by rw [denied_of_fails hfails]; rfl⟩, ?_⟩
  · rw [hv]
    intro reason hp
    exact absurd hp (by simp)
  · rw [hv]
    intro _
    exact ⟨f, hc, rfl, fun row hrow => Filter.admits_conjoin hrow⟩
  all_goals rw [hv]; intro h; exact absurd h (by simp)

/-- **Enforcement never widens a statement**, whatever the resolver and the lookup do. -/
theorem enforce_narrows (e : Enforcer σ) {settings : Settings}
    (hg : Granter.ofSettings settings = .ok e.granter) (query : String)
    (existing : Option Filter) (statement : Statement) (s : Session) (w : σ) :
    e.Narrows query existing statement s w (e.enforce query existing statement s w).1 := by
  rcases enforce_cases e query existing statement s w with
    ⟨hs, hv⟩ | ⟨hr, hv⟩ | ⟨rule, answer, s', w', hid⟩
  · exact narrows_of_pass hv (.suspended hs)
  · exact narrows_of_pass hv (.noRule hr)
  · have hv := enforce_of_identified hid statement existing
    rcases answer with err | _ | u
    · exact narrows_of_deny (.inl ⟨rule, err, s', w', hid⟩)
    · exact narrows_of_pass hv (.noUser hid)
    · rcases hgrant : (e.granter.grant e.resolver rule u statement s' w').1 with err | grant
      · exact narrows_of_deny (.inr ⟨err, rule, u, s', w', hid, hgrant⟩)
      · have hcause := cause_of_grant hg hid statement existing
        simp only [hgrant] at hv hcause
        cases grant with
        | privileged => exact narrows_of_pass hv (hcause _ rfl)
        | allRows => exact narrows_of_pass hv (hcause _ rfl)
        | noRoles => exact narrows_of_pass hv (hcause _ rfl)
        | rows f => exact narrows_of_rows hv ⟨rule, u, s', w', hid, hgrant⟩

/-- A resolver that knows no role leaves no row. -/
theorem enforce_narrows_unknown_role :
    let rule : Rule := ⟨[⟨[("deptName", "dept_id")], none, by decide⟩], none, by decide⟩
    let e : Enforcer Unit :=
      ⟨⟨KeyMap.empty.insert "orders" rule⟩, .standard,
        .ofFunction fun role _ => .error (.unknownRole role.key), none⟩
    let s := Session.ofUser ⟨.int 7, none, [⟨1, "clerk", .dept⟩], .empty, .empty⟩
    Granter.ofSettings .standard = .ok e.granter ∧
      (e.enforce "orders.list" none .select s ()).1.outcome = .denied ∧
      e.Narrows "orders.list" none .select s () (e.enforce "orders.list" none .select s ()).1 :=
  ⟨Granter.ofSettings_standard, by decide +kernel,
    enforce_narrows _ Granter.ofSettings_standard _ _ _ _ _⟩

end Enforcer

end RowScope
