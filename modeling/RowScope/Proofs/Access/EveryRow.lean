/-
A role that grants every row.

Such a role ends the search through the roles, whatever the roles after it are.  A role
before it can end the search too, with an error: when it is not answered, or when its
fragment is no condition.

* `Granter.failure?` — the error that a role ends the search with, if it does;
* `Granter.ofRole_of_answersBy` — a role comes to every row, to this error or to a condition;
* `Granter.grant_of_answersAll` — every row is granted, unless a role before the first one
  that grants every row fails;
* `Granter.grant_fails_before_all` — such roles do fail.

Design notes: with a resolver that answers by the role and the user the session stays as it
is, so a role comes to the same wherever it stands.  All fragments of one role are the same
up to exemptions, so a role fails if one of them is needed and is no condition.
-/
import RowScope.Proofs.Access.Meaning

namespace RowScope

variable {σ : Type}

theorem Role.distinct_of_nodup {roles : List Role} (h : (roles.map Role.id).Nodup) :
    Role.distinct roles = roles := by
  unfold distinct
  induction roles with
  | nil => rfl
  | cons role roles ih =>
    rw [List.map_cons, List.nodup_cons] at h
    have hfilter : (roles.filter fun role' => (role'.id == role.id) = false) = roles := by
      refine List.filter_eq_self.2 fun role' hrole' => ?_
      have hne : role'.id ≠ role.id := by
        rintro heq
        exact h.1 (heq ▸ List.mem_map_of_mem hrole')
      simpa using hne
    rw [List.eraseDupsBy_cons, hfilter, ih h.2]

/-- The answer for a role is every row. -/
def Role.answersAll (f : Role → User → Except ResolveError Resolution) (u : User)
    (role : Role) : Bool :=
  match f role u with
  | .ok r => r.scope == .all
  | .error _ => false

namespace Granter

/-- Some mapping needs a fragment of a template. -/
def needsFragment (t : ScopeTemplate) (u : User) (rule : Rule) : Bool :=
  rule.mappings.any fun m => !m.exempts u && t.overlaps m.keys

/-- The error that a role ends the search with, if it does: that of the resolver, or the
finding about a fragment. -/
def failure? (g : Granter) (f : Role → User → Except ResolveError Resolution) (rule : Rule)
    (u : User) (bindings : Bindings) (role : Role) : Option PolicyError :=
  match f role u with
  | .error e => some (.resolve e)
  | .ok r =>
    match ScopeTemplate.ofScope? g.templates r.scope with
    | none => none
    | some t =>
      if needsFragment t u rule then
        (errorOf? (t.template.condition g.missing (rule.layers u role r bindings))).map .fragment
      else none

variable {g : Granter} {resolver : Resolver σ} {rule : Rule} {u : User} {join : Join}
  {statement : Statement} {role : Role} {roles : List Role} {r : Resolution}
  {t : ScopeTemplate} {layers : List Bindings}
  {f : Role → User → Except ResolveError Resolution} {s s' : Session} {w w' : σ}

theorem errorOf?_fragment? (m : Mapping) :
    errorOf? (g.fragment? t layers u m)
      = if !m.exempts u && t.overlaps m.keys then
          (errorOf? (t.template.condition g.missing layers)).map .fragment
        else none := by
  unfold fragment?
  by_cases he : m.exempts u = true
  · rw [if_pos he, he]
    rfl
  · rw [if_neg he]
    by_cases ho : t.overlaps m.keys = true
    · rw [if_pos ho, errorOf?_map, if_pos (by simp [he, ho])]
      cases t.template.condition g.missing layers with
      | error finding => rfl
      | ok c => rfl
    · rw [if_neg ho, if_neg (by simp [ho])]
      rfl

/-- The condition of a role fails if a fragment is needed and is no condition. -/
theorem errorOf?_condition :
    errorOf? (g.condition t layers u rule join)
      = if needsFragment t u rule then
          (errorOf? (t.template.condition g.missing layers)).map .fragment
        else none := by
  rw [condition, errorOf?_map, errorOf?_mapM, needsFragment]
  simp only [errorOf?_fragment?]
  induction rule.mappings with
  | nil => rfl
  | cons m ms ih =>
    rw [List.findSome?_cons, List.any_cons, ih]
    by_cases hm : (!m.exempts u && t.overlaps m.keys) = true
    · rw [if_pos hm, hm, Bool.true_or, if_pos rfl]
      split
      · next h => rw [h]
      · next h => rw [h]; simp
    · rw [if_neg hm, Bool.eq_false_iff.2 hm, Bool.false_or]

variable {settings : Settings}

/-- All that a role can come to with such a resolver: every row, its error or a
condition. -/
theorem ofRole_of_answersBy (hg : ofSettings settings = .ok g) (hf : resolver.AnswersBy f)
    {answer : Except PolicyError (Option Filter)}
    (h : g.ofRole resolver rule u join role s w = (answer, s', w')) :
    s' = s ∧ ((role.answersAll f u = true ∧ answer = .ok none) ∨
      (role.answersAll f u = false ∧
        ((∃ e, answer = .error e ∧ g.failure? f rule u s.bindings role = some e) ∨
          ∃ c, answer = .ok (some c) ∧ g.failure? f rule u s.bindings role = none))) := by
  rcases ofRole_cases h with ⟨e, hask, rfl⟩ | ⟨r, hask, hanswer⟩
  · obtain ⟨hr, rfl⟩ := hf.suspended hask
    refine ⟨rfl, .inr ⟨by rw [Role.answersAll, hr], .inl ⟨_, rfl, ?_⟩⟩⟩
    rw [failure?, hr]
  · obtain ⟨hr, rfl⟩ := hf.suspended hask
    refine ⟨rfl, ?_⟩
    rcases hanswer with ⟨hnone, rfl⟩ | ⟨t, ht, rfl⟩
    · have hall := (ofScope?_eq_none_iff hg).1 hnone
      exact .inl ⟨by rw [Role.answersAll, hr]; simp [hall], rfl⟩
    · have hall : r.scope ≠ .all := fun hall => by
        rw [(ofScope?_eq_none_iff hg).2 hall] at ht
        exact absurd ht (by simp)
      refine .inr ⟨by rw [Role.answersAll, hr]; simpa using hall, ?_⟩
      have hfailure : g.failure? f rule u s'.bindings role
          = errorOf? (g.condition t (rule.layers u role r s'.bindings) u rule join) := by
        rw [errorOf?_condition, failure?, hr]
        simp only [ht]
      rw [hfailure, Rule.layers]
      cases g.condition t _ u rule join with
      | error e => exact .inl ⟨e, rfl, rfl⟩
      | ok c => exact .inr ⟨c, rfl, rfl⟩

/-- The search ends with the first error before the first role that grants every row. -/
theorem ofRoles_of_answersAll (hg : ofSettings settings = .ok g) (hf : resolver.AnswersBy f)
    (h : ∃ role ∈ roles, role.answersAll f u = true) :
    (g.ofRoles resolver rule u join roles s w).1 =
      ((roles.takeWhile fun role => !role.answersAll f u).findSome?
        (g.failure? f rule u s.bindings)).elim (.ok none) .error := by
  induction roles generalizing w with
  | nil => exact absurd h (by simp)
  | cons role roles ih =>
    rcases hrole : g.ofRole resolver rule u join role s w with ⟨answer, s', w'⟩
    obtain ⟨rfl, hanswer⟩ := ofRole_of_answersBy hg hf hrole
    rcases hanswer with ⟨hall, rfl⟩ | ⟨hall, hanswer⟩
    · simp [ofRoles, hrole, hall]
    · rw [List.takeWhile_cons_of_pos (by simp [hall]), List.findSome?_cons]
      rcases hanswer with ⟨e, rfl, he⟩ | ⟨c, rfl, hc⟩
      · simp only [ofRoles, hrole, he]
        rfl
      · have hrest : ∃ role ∈ roles, role.answersAll f u = true := by simpa [hall] using h
        rcases hr : g.ofRoles resolver rule u join roles s' w' with ⟨answer, s₂, w₂⟩
        specialize ih (w := w') hrest
        rw [hr] at ih
        simp only [ofRoles, hrole, hr, hc]
        generalize List.findSome? _ _ = failure at ih ⊢
        -- the condition that was found is of no use
        obtain rfl : answer = failure.elim (.ok none) .error := ih
        cases failure with
        | none => rfl
        | some e => rfl

/-- **A role that grants every row wins over the roles after it, and over those before it
that do not fail**: every row is granted, or else the first failure before the first such
role is the error. -/
theorem grant_of_answersAll (hg : ofSettings settings = .ok g) (hf : resolver.AnswersBy f)
    (hprivileged : g.isPrivileged u = false) (hroles : (u.roles.map Role.id).Nodup)
    (hrole : role ∈ u.roles) (hanswer : f role u = .ok r) (hall : r.scope = .all) :
    (g.grant resolver rule u statement s w).1 =
      match (u.roles.takeWhile fun role => !role.answersAll f u).findSome?
        (g.failure? f rule u s.bindings) with
      | some e => .error e
      | none => .ok .allRows := by
  have hexists : ∃ role ∈ Role.distinct u.roles, role.answersAll f u = true := by
    rw [Role.distinct_of_nodup hroles]
    refine ⟨role, hrole, ?_⟩
    rw [Role.answersAll, hanswer]
    exact beq_iff_eq.2 hall
  have hsearch : (g.ofRoles resolver rule u (rule.joinFor statement) (Role.distinct u.roles)
      s w).1 = _ := ofRoles_of_answersAll hg hf hexists
  rw [Role.distinct_of_nodup hroles] at hsearch
  rcases grant_cases g resolver rule u statement s w with
    ⟨hp, -⟩ | ⟨-, answer, s', w', hr, hgrant⟩
  · exact absurd hp (by simp [hprivileged])
  · rw [Role.distinct_of_nodup hroles] at hr
    rw [hr] at hsearch
    rw [hgrant]
    generalize List.findSome? _ _ = failure at hsearch ⊢
    obtain rfl : answer = failure.elim (.ok none) .error := hsearch
    cases failure with
    | none => rfl
    | some e => rfl

/-- A role that nobody knows after the one that grants every row. -/
theorem grant_of_answersAll_first :
    let rule : Rule := ⟨[⟨[("deptName", "dept")], none, by decide⟩], none, by decide⟩
    let u : User := ⟨.int 7, none,
      [⟨3, "dept", .dept⟩, ⟨1, "admin", .all⟩, ⟨42, "ghost", .custom⟩], .empty, .empty⟩
    let f : Role → User → Except ResolveError Resolution := fun role _ =>
      if role.id = 42 then .error (.unknownRole role.key) else .ok ⟨role.scope, []⟩
    let s := Session.ofUser u
    ofSettings .standard = .ok standard ∧ (Resolver.ofFunction f : Resolver Unit).AnswersBy f ∧
      standard.isPrivileged u = false ∧ (u.roles.map Role.id).Nodup ∧
      f ⟨1, "admin", .all⟩ u = .ok ⟨.all, []⟩ ∧
      (standard.grant (.ofFunction f) rule u .delete s ()).1 = .ok .allRows := by
  intro rule u f s
  have hf : (Resolver.ofFunction f : Resolver Unit).AnswersBy f := Resolver.answersBy_ofFunction f
  have hprivileged : standard.isPrivileged u = false := by decide +kernel
  have hroles : (u.roles.map Role.id).Nodup := by decide
  have hrole : ⟨1, "admin", .all⟩ ∈ u.roles := by decide
  refine ⟨ofSettings_standard, hf, hprivileged, hroles, rfl, ?_⟩
  have hfailure : (u.roles.takeWhile fun role => !role.answersAll f u).findSome?
      (standard.failure? f rule u s.bindings) = none := by decide +kernel
  rw [grant_of_answersAll ofSettings_standard hf hprivileged hroles hrole rfl rfl, hfailure]

/-- A role that nobody knows, or one whose fragment is no condition, fails before a role that
grants every row is asked for. -/
theorem grant_fails_before_all :
    let dept : Mapping := ⟨[("deptName", "d.dept_id")], none, by decide⟩
    let keyword : Mapping := ⟨[("deptName", "and")], none, by decide⟩
    let ghost : Role := ⟨42, "ghost", .custom⟩
    let u (role : Role) : User := ⟨.int 7, some 2, [role, ⟨1, "admin", .all⟩], .empty, .empty⟩
    let f : Role → User → Except ResolveError Resolution := fun role _ =>
      if role.id = 42 then .error (.unknownRole role.key) else .ok ⟨role.scope, []⟩
    let grant (m : Mapping) (role : Role) : Except PolicyError Grant :=
      (standard.grant (.ofFunction f) ⟨[m], none, by simp⟩ (u role) .update .start ()).1
    (∀ role ∈ [ghost, ⟨3, "dept", .dept⟩], standard.isPrivileged (u role) = false ∧
        ((u role).roles.map Role.id).Nodup ∧ f ⟨1, "admin", .all⟩ (u role) = .ok ⟨.all, []⟩) ∧
      (Resolver.ofFunction f : Resolver Unit).AnswersBy f ∧
      grant dept ghost ≠ .ok .allRows ∧ grant keyword ⟨3, "dept", .dept⟩ ≠ .ok .allRows := by
  intro dept keyword ghost u f grant
  refine ⟨?_, Resolver.answersBy_ofFunction f, fun h => ?_, fun h => ?_⟩
  · decide +kernel
  · have hrun : (errorOf? (grant dept ghost)).isSome = true := by decide +kernel
    rw [h] at hrun
    exact absurd hrun (by simp [errorOf?])
  · have hrun : (errorOf? (grant keyword ⟨3, "dept", .dept⟩)).isSome = true := by decide +kernel
    rw [h] at hrun
    exact absurd hrun (by simp [errorOf?])

end Granter

end RowScope
