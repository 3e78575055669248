/-
The order of the roles.

The roles of a user are asked for one after the other, the first one that grants every row
ends the search, and of equal conditions the first one stays.  What is granted does not depend
on any of this, as long as no role fails.

* `Grant.Alike` — grants of one kind, with conditions that are related;
* `Granter.Settled` — conditions that count as the same say the same of a row;
* `Granter.grant_of_spells` — what is granted if no role fails;
* `Granter.grant_of_perm` — with the roles in another order the same is granted;
* `Granter.order_tells_zeros_apart` — not so when a pattern tells the two zeros apart.

Design notes: the conditions of two roles can count as the same without being the same, when
they differ in the sign of a zero.  Then the order decides which of them stays, and this makes
a difference only if a zero is matched with a pattern.
-/
import RowScope.Proofs.Access.Gaining

namespace RowScope

variable {σ : Type}

/-- The grants are of one kind, and `R` relates the conditions of the rows that they grant. -/
inductive Grant.Alike (R : Filter → Filter → Prop) : Grant → Grant → Prop
  | privileged : Alike R .privileged .privileged
  | allRows : Alike R .allRows .allRows
  | noRoles : Alike R .noRoles .noRoles
  | rows {e e' : Filter} (h : R e e') : Alike R (.rows e) (.rows e')

namespace Granter

variable {g : Granter} {settings : Settings} {resolver : Resolver σ} {rule : Rule} {u : User}
  {statement : Statement} {join : Join} {bindings : Bindings} {roles : List Role}
  {fs fs' : List Filter} {e e' : Filter} {f : Role → User → Resolution} {s : Session} {w w' : σ}

/-- No role that is asked for fails: every fragment that is rendered spells a condition. -/
def Spells (g : Granter) (f : Role → User → Resolution) (rule : Rule) (u : User)
    (bindings : Bindings) : Prop :=
  ∀ role ∈ asked (fun role u => .ok (f role u)) u,
    g.failure? (fun role u => .ok (f role u)) rule u bindings role = none

/-- A condition that counts as the same as another one says the same of a row. -/
def Settled (fs : List Filter) (row : Row) : Prop :=
  ∀ c ∈ fs, ∀ d ∈ fs, c.same d = true → c.truth row = d.truth row

theorem truth_of_settled (h : Grant.ofRoles join fs = .rows e) {row : Row}
    (hsettled : Settled fs row) : e.truth row = join.truth (fs.map (Filter.truth row)) := by
  rw [(truth_of_grant_ofRoles h row).1]
  refine join.truth_congr (Filter.mem_map_truth_distinct fun c hc d hd hsame => ?_)
  exact hsettled c hc d (mem_of_mem_eraseDupsBy hd) hsame

/-- Conditions are settled if no zero is matched with a pattern in those that stay. -/
theorem settled_of_matchesZero (h : Grant.ofRoles join fs = .rows e)
    (hzero : e.matchesZero = false) (row : Row) : Settled fs row := by
  have hdistinct : ∀ d ∈ Filter.distinct fs, d.matchesZero = false := by
    intro d hd
    refine Filter.matchesZero_eq_false_iff.2 fun leaf hleaf => ?_
    exact Filter.matchesZero_eq_false_iff.1 hzero leaf ((mem_leaves_of_ofRoles h).2 ⟨d, hd, hleaf⟩)
  have hall : ∀ c ∈ fs, c.matchesZero = false := by
    intro c hc
    obtain ⟨d, hd, rfl | hsame⟩ := exists_mem_eraseDupsBy (r := Filter.same) hc
    · exact hdistinct c hd
    · exact (Filter.matchesZero_of_same hsame).trans (hdistinct d hd)
  intro c _ d hd hsame
  exact Filter.truth_of_same hsame (hall d hd) row

/-- The conditions of roles grant the same in any order. -/
theorem alike_of_perm (join : Join) (hperm : fs'.Perm fs) :
    (Grant.ofRoles join fs).Alike
      (fun e e' => ∀ row, (e.matchesZero = false ∨ Settled fs row) → e.truth row = e'.truth row)
      (Grant.ofRoles join fs') := by
  rcases Grant.ofRoles_cases join fs with ⟨rfl, hnone⟩ | ⟨e, he⟩
  · rw [List.perm_nil.1 hperm]
    rw [hnone]
    exact .noRoles
  · rcases Grant.ofRoles_cases join fs' with ⟨rfl, -⟩ | ⟨e', he'⟩
    · rw [List.nil_perm.1 hperm] at he
      exact absurd he (by simp [Grant.ofRoles, Filter.distinct, Filter.join?])
    · rw [he, he']
      refine .rows fun row h => ?_
      have hsettled : Settled fs row := h.elim (fun hzero => settled_of_matchesZero he hzero row) id
      have hsettled' : Settled fs' row := fun c hc d hd =>
        hsettled c (hperm.mem_iff.1 hc) d (hperm.mem_iff.1 hd)
      rw [truth_of_settled he hsettled, truth_of_settled he' hsettled']
      exact join.truth_congr fun t => ((hperm.map _).mem_iff).symm

/-- What is granted if no role fails: every row if a role grants it, or else what the
conditions of the roles grant. -/
theorem grant_of_spells (hg : ofSettings settings = .ok g)
    (hf : resolver.AnswersBy fun role u => .ok (f role u)) (hprivileged : g.isPrivileged u = false)
    (hids : (u.roles.map Role.id).Nodup) (hspells : g.Spells f rule u s.bindings) :
    (g.grant resolver rule u statement s w).1 =
      .ok (if u.roles.any (·.answersAll (fun role u => .ok (f role u)) u) then .allRows
        else .ofRoles (rule.joinFor statement) (u.roles.filterMap (g.group?
          (fun role u => .ok (f role u)) rule u (rule.joinFor statement) s.bindings))) := by
  rw [grant_of_answersBy hg hf hprivileged, List.findSome?_eq_none_iff.2 hspells,
    Role.distinct_of_nodup hids]
  rfl

/-- **With the roles in another order the same is granted**: a grant of the same kind, and for
a row on which the conditions of the roles are settled one of the same meaning.  They are
settled on every row if no zero is matched with a pattern. -/
theorem grant_of_perm (hg : ofSettings settings = .ok g)
    (hf : resolver.AnswersBy fun role u => .ok (f role u))
    (horder : ∀ role u roles, roles.Perm u.roles → f role { u with roles := roles } = f role u)
    (hids : (u.roles.map Role.id).Nodup) (hperm : roles.Perm u.roles)
    (hspells : g.Spells f rule u s.bindings)
    (hspells' : g.Spells f rule { u with roles := roles } s.bindings) :
    ∃ grant grant', (g.grant resolver rule u statement s w).1 = .ok grant ∧
      (g.grant resolver rule { u with roles := roles } statement s w').1 = .ok grant' ∧
      grant.Alike (fun e e' => ∀ row,
        (e.matchesZero = false ∨ Settled (u.roles.filterMap (g.group?
          (fun role u => .ok (f role u)) rule u (rule.joinFor statement) s.bindings)) row) →
        e.truth row = e'.truth row) grant' := by
  by_cases hp : g.isPrivileged u = true
  · have hp' : g.isPrivileged { u with roles := roles } = true := hp
    rw [grant, grant, if_pos hp, if_pos hp']
    exact ⟨_, _, rfl, rfl, .privileged⟩
  have hp : g.isPrivileged u = false := by simpa using hp
  have hp' : g.isPrivileged { u with roles := roles } = false := hp
  have hids' : (({ u with roles := roles } : User).roles.map Role.id).Nodup :=
    (hperm.map Role.id).nodup_iff.2 hids
  refine ⟨_, _, grant_of_spells hg hf hp hids hspells, grant_of_spells hg hf hp' hids' hspells', ?_⟩
  -- a role is answered in the same way, and has the same condition
  have hanswers (role : Role) :
      role.answersAll (fun role u => .ok (f role u)) { u with roles := roles }
        = role.answersAll (fun role u => .ok (f role u)) u := by
    rw [Role.answersAll, Role.answersAll, horder role u roles hperm]
  have hgroup : g.group? (fun role u => .ok (f role u)) rule { u with roles := roles }
        (rule.joinFor statement) s.bindings
      = g.group? (fun role u => .ok (f role u)) rule u (rule.joinFor statement) s.bindings := by
    funext role
    simp only [group?, horder role u roles hperm]
    rfl
  have hany : roles.any (·.answersAll (fun role u => .ok (f role u)) u)
      = u.roles.any (·.answersAll (fun role u => .ok (f role u)) u) := hperm.any_eq
  simp only [hanswers, hgroup, hany]
  split
  · exact .allRows
  · exact alike_of_perm (rule.joinFor statement) (hperm.filterMap _)

/-- The owned rows and those of a department, with the roles in either order. -/
theorem grant_of_perm_own_dept :
    let rule : Rule := ⟨[⟨[("deptName", "dept"), ("userName", "owner")], none, by decide⟩],
      none, by decide⟩
    let roles : List Role := [⟨2, "dept", .dept⟩, ⟨1, "own", .own⟩]
    let u : User := ⟨.int 7, some 2, [⟨1, "own", .own⟩, ⟨2, "dept", .dept⟩], .empty, .empty⟩
    let f : Role → User → Resolution := fun role _ => ⟨role.scope, []⟩
    let resolver : Resolver Unit := .ofFunction fun role u => .ok (f role u)
    ofSettings .standard = .ok standard ∧
      resolver.AnswersBy (fun role u => .ok (f role u)) ∧
      (∀ role u roles, roles.Perm u.roles → f role { u with roles := roles } = f role u) ∧
      (u.roles.map Role.id).Nodup ∧ roles.Perm u.roles ∧
      standard.Spells f rule u .empty ∧ standard.Spells f rule { u with roles := roles } .empty ∧
      ((standard.grant resolver rule u .select .start ()).1.toOption.bind
        Grant.condition?).map Filter.matchesZero = some false ∧
      ∃ grant grant', (standard.grant resolver rule u .select .start ()).1 = .ok grant ∧
        (standard.grant resolver rule { u with roles := roles } .select .start ()).1 = .ok grant' ∧
        grant.Alike (fun e e' => ∀ row,
          (e.matchesZero = false ∨ Settled (u.roles.filterMap (standard.group?
            (fun role u => .ok (f role u)) rule u (rule.joinFor .select) .empty)) row) →
          e.truth row = e'.truth row) grant' := by
  intro rule roles u f resolver
  have hf := Resolver.answersBy_ofFunction (σ := Unit) fun role u => .ok (f role u)
  have hspells : standard.Spells f rule u .empty := by
    unfold Spells
    decide +kernel
  have hspells' : standard.Spells f rule { u with roles := roles } .empty := by
    unfold Spells
    decide +kernel
  have horder : ∀ role (u : User) roles, roles.Perm u.roles →
      f role { u with roles := roles } = f role u := fun _ _ _ _ => rfl
  have hids : (u.roles.map Role.id).Nodup := by decide
  have hperm : roles.Perm u.roles := by decide
  exact ⟨ofSettings_standard, hf, horder, hids, hperm, hspells, hspells', by decide +kernel,
    grant_of_perm ofSettings_standard hf horder hids hperm hspells hspells'⟩

/-- The order decides which of two conditions stays that differ in the sign of a zero, and
the texts of the zeros tell a row apart. -/
theorem order_tells_zeros_apart :
    let rule : Rule := ⟨[⟨[("userName", "c"), ("deptName", "c")], none, by decide⟩],
      none, by decide⟩
    let roles : List Role := [⟨2, "dept", .dept⟩, ⟨1, "own", .own⟩]
    let u : User := ⟨.null, none, [⟨1, "own", .own⟩, ⟨2, "dept", .dept⟩], .empty, .empty⟩
    let f : Role → User → Resolution := fun role _ => ⟨role.scope, []⟩
    let resolver : Resolver Unit := .ofFunction fun role u => .ok (f role u)
    let row : Row := [("c", .int 2)]
    let s := (Session.start.setVariable "user.userId"
      (.column "1 OR 0.0 LIKE '-%'")).setVariable "user.deptId" (.column "1 OR -0.0 LIKE '-%'")
    resolver.AnswersBy (fun role u => .ok (f role u)) ∧
      (∀ role u roles, roles.Perm u.roles → f role { u with roles := roles } = f role u) ∧
      (u.roles.map Role.id).Nodup ∧ roles.Perm u.roles ∧
      standard.Spells f rule u s.bindings ∧
      standard.Spells f rule { u with roles := roles } s.bindings ∧
      ∃ e e', (standard.grant resolver rule u .select s ()).1 = .ok (.rows e) ∧
        (standard.grant resolver rule { u with roles := roles } .select s ()).1 = .ok (.rows e') ∧
        e.truth row ≠ e'.truth row := by
  intro rule roles u f resolver row s
  have hrun : (((standard.grant resolver rule u .select s ()).1.toOption.bind
      Grant.condition?).map (Filter.truth row)) = some .fails := by decide +kernel
  have hrun' : (((standard.grant resolver rule { u with roles := roles } .select s
      ()).1.toOption.bind Grant.condition?).map (Filter.truth row)) = some .holds := by
    decide +kernel
  obtain ⟨e, he, hfails⟩ := Option.map_eq_some_iff.1 hrun
  obtain ⟨e', he', hholds⟩ := Option.map_eq_some_iff.1 hrun'
  have hspells : standard.Spells f rule u s.bindings := by
    unfold Spells
    decide +kernel
  have hspells' : standard.Spells f rule { u with roles := roles } s.bindings := by
    unfold Spells
    decide +kernel
  refine ⟨Resolver.answersBy_ofFunction _, fun _ _ _ _ => rfl, by decide, by decide, hspells,
    hspells', e, e', Grant.eq_rows_of_condition? he, Grant.eq_rows_of_condition? he', ?_⟩
  rw [hfails, hholds]
  decide

end Granter

end RowScope
