/-
What may be written may be read.

For a read it is enough that one role and one mapping grant a row, and for a write all of them
have to, unless the rule joins them in one way for all statements.  Everything else that
decides about a statement is the same for a read and for a write.

* `Granter.rel_group?` — a row that meets the conjunction of a role meets its disjunction;
* `Granter.shows_read` — a row that is granted for a statement is granted for a read;
* `Enforcer.admits_read` — a row that is left to a statement is left to a read.

Design notes: a role can be left out for an equal one, and then another role stands for it
under a disjunction than under a conjunction.  The first role is never left out, so it is the
one that shows the row.
-/
import RowScope.Proofs.Access.Enforcement
import RowScope.Proofs.Access.Gaining

namespace RowScope

variable {σ : Type}

/-- A conjunction of some outcomes that holds has one that holds. -/
theorem Truth.any_of_all {ts : List Truth} (hne : ts ≠ []) (h : all ts = holds) :
    any ts = holds := by
  obtain ⟨t, ht⟩ := List.exists_mem_of_ne_nil ts hne
  have hholds : t = holds := all_eq_holds_iff.1 h t ht
  exact any_eq_holds_iff.2 (hholds ▸ ht)

theorem Filter.holds_join?_or {fs : List Filter} {d : Filter} {row : Row}
    (h : ((join? .and fs).getD d).truth row = .holds) :
    ((join? .or fs).getD d).truth row = .holds := by
  by_cases hfs : fs = []
  · subst hfs
    exact h
  · have hsome (j : Join) : ∃ c, join? j fs = some c :=
      Option.ne_none_iff_exists'.1 fun hnone => hfs (join?_eq_none_iff.1 hnone)
    obtain ⟨c, hc⟩ := hsome .and
    obtain ⟨c', hc'⟩ := hsome .or
    rw [hc, Option.getD_some, truth_of_join? hc row] at h
    rw [hc', Option.getD_some, truth_of_join? hc' row]
    exact Truth.any_of_all (mt List.map_eq_nil_iff.1 hfs) h

/-- A rule joins for a statement as for a read, or by a conjunction and for a read by a
disjunction. -/
theorem Rule.joinFor_cases (rule : Rule) (statement : Statement) :
    rule.joinFor statement = rule.joinFor .select ∨
      (rule.joinFor statement = .and ∧ rule.joinFor .select = .or) := by
  unfold joinFor
  cases rule.join with
  | some join => exact .inl rfl
  | none =>
    cases statement with
    | select => exact .inl rfl
    | insert => exact .inr ⟨rfl, rfl⟩
    | update => exact .inr ⟨rfl, rfl⟩
    | delete => exact .inr ⟨rfl, rfl⟩

theorem Filter.admitsIf_conjoin (existing : Option Filter) (f : Filter) (row : Row) :
    admitsIf (some (conjoin existing f)) row = (admitsIf existing row && f.admits row) := by
  rw [Bool.eq_iff_iff, Bool.and_eq_true]
  refine ⟨admits_conjoin, fun ⟨hexisting, hf⟩ => ?_⟩
  refine admits_iff.2 ?_
  rw [truth_conjoin, Truth.and_eq_holds_iff]
  refine ⟨?_, admits_iff.1 hf⟩
  cases existing with
  | none => rfl
  | some c => exact admits_iff.1 hexisting

/-- A statement is left the rows that it had and that are visible under the grant. -/
theorem Verdict.admitsIf_ofGrant (existing : Option Filter) (grant : Except PolicyError Grant)
    (row : Row) :
    Filter.admitsIf (ofGrant existing grant).filter row
      = (Filter.admitsIf existing row && Grant.shows row grant) := by
  rcases grant with err | grant
  · exact Filter.admitsIf_conjoin existing (.group .never) row
  · cases grant with
    | rows f => exact Filter.admitsIf_conjoin existing f row
    | privileged => exact (Bool.and_true _).symm
    | allRows => exact (Bool.and_true _).symm
    | noRoles => exact (Bool.and_true _).symm

namespace Granter

variable {g : Granter} {settings : Settings} {resolver : Resolver σ} {rule : Rule} {u : User}
  {statement : Statement} {bindings : Bindings} {row : Row} {fs fs' : List Filter}
  {f : Role → User → Except ResolveError Resolution} {s : Session} {w w' : σ}

/-- A role has a condition under a conjunction exactly if it has one under a disjunction, and
a row that meets the former meets the latter. -/
theorem rel_group? (role : Role) :
    Option.Rel (fun c c' => c.truth row = .holds → c'.truth row = .holds)
      (g.group? f rule u .and bindings role) (g.group? f rule u .or bindings role) := by
  unfold group?
  cases f role u with
  | error err => exact .none
  | ok r =>
    cases ht : ScopeTemplate.ofScope? g.templates r.scope with
    | none => simpa only [ht] using .none
    | some t =>
      -- the fragments do not depend on the join
      simp only [ht, condition]
      cases rule.mappings.mapM (g.fragment? t (rule.layers u role r bindings) u) with
      | error err => exact .none
      | ok fragments => exact .some Filter.holds_join?_or

/-- The first of some conditions is not left out, and it holds under a conjunction. -/
theorem shows_ofRoles_or
    (h : List.Forall₂ (fun c c' => c.truth row = .holds → c'.truth row = .holds) fs fs')
    (hshown : Grant.shows row (.ok (.ofRoles .and fs)) = true) :
    Grant.shows row (.ok (.ofRoles .or fs')) = true := by
  cases h with
  | nil => exact hshown
  | @cons c c' fs fs' hc _ =>
    rcases Grant.ofRoles_cases .and (c :: fs) with ⟨hnil, -⟩ | ⟨e, he⟩
    · exact absurd hnil (List.cons_ne_nil c fs)
    rcases Grant.ofRoles_cases .or (c' :: fs') with ⟨hnil, -⟩ | ⟨e', he'⟩
    · exact absurd hnil (List.cons_ne_nil c' fs')
    have hfirst (c : Filter) (fs : List Filter) : c ∈ Filter.distinct (c :: fs) := by
      rw [Filter.distinct, List.eraseDupsBy_cons]
      exact List.mem_cons_self
    rw [he] at hshown
    rw [he']
    have hall := (truth_of_grant_ofRoles he row).1.symm.trans (Filter.admits_iff.1 hshown)
    have hholds : c.truth row = .holds :=
      Truth.all_eq_holds_iff.1 hall _ (List.mem_map_of_mem (hfirst c fs))
    refine Filter.admits_iff.2 ((truth_of_grant_ofRoles he' row).1.trans ?_)
    exact Truth.any_eq_holds_iff.2 (List.mem_map.2 ⟨c', hfirst c' fs', hc hholds⟩)

/-- A row that is granted for a statement is granted for a read. -/
theorem shows_read (hg : ofSettings settings = .ok g) (hf : resolver.AnswersBy f)
    (h : Grant.shows row (g.grant resolver rule u statement s w).1 = true) :
    Grant.shows row (g.grant resolver rule u .select s w').1 = true := by
  by_cases hp : g.isPrivileged u = true
  · rw [grant, if_pos hp]
    rfl
  rw [Bool.not_eq_true] at hp
  -- the roles fail, and grant every row, for a read as for the statement
  obtain ⟨hfailure, hgranted⟩ := (shows_grant_iff hg hf hp).1 h
  refine (shows_grant_iff hg hf hp).2 ⟨hfailure, hgranted.imp_right fun hshown => ?_⟩
  rcases rule.joinFor_cases statement with hjoin | ⟨hand, hor⟩
  · rw [← hjoin]
    exact hshown
  · rw [hand] at hshown
    rw [hor]
    have hgroups : List.Forall₂ (fun c c' => c.truth row = .holds → c'.truth row = .holds)
        ((Role.distinct u.roles).filterMap (g.group? f rule u .and s.bindings))
        ((Role.distinct u.roles).filterMap (g.group? f rule u .or s.bindings)) :=
      List.rel_filterMap (R := Eq) (fun role _ heq => heq ▸ rel_group? role) (List.forall₂_refl _)
    exact shows_ofRoles_or hgroups hshown

end Granter

namespace Enforcer

variable {e : Enforcer σ} {settings : Settings} {query : String} {existing : Option Filter}
  {statement : Statement} {row : Row} {s : Session} {w w' : σ}

/-- **What may be written may be read**: a row that is left to a statement is left to a read
in the same session. -/
theorem admits_read (hg : Granter.ofSettings settings = .ok e.granter) (he : e.IsFunction)
    (h : Filter.admitsIf (e.enforce query existing statement s w).1.filter row = true) :
    Filter.admitsIf (e.enforce query existing .select s w').1.filter row = true := by
  rw [enforce_eq] at h ⊢
  by_cases hs : s.isSuspended = true
  · rw [if_pos hs] at h ⊢
    exact h
  rw [if_neg hs] at h ⊢
  cases hrule : s.forced.or (e.rules.lookup query none) with
  | none =>
    rw [hrule] at h
    exact h
  | some rule =>
    rw [hrule] at h
    rcases hid : e.identify s.takeForced.2 w with ⟨answer, s', w₁⟩
    obtain ⟨⟨w₂, hid'⟩, -⟩ := identify_of_isFunction he hid w'
    rw [enforceRule_of_identify hid] at h
    rw [enforceRule_of_identify hid']
    rcases answer with err | _ | u
    · exact h
    · exact h
    · simp only [enforceFor, Verdict.admitsIf_ofGrant, Bool.and_eq_true] at h ⊢
      obtain ⟨hexisting, hshown⟩ := h
      rw [(Granter.grant_of_isFunction he.resolver rule u statement s' w₁ w₁).1] at hshown
      rw [(Granter.grant_of_isFunction he.resolver rule u .select s' w₁ w₂).1]
      exact ⟨hexisting, Granter.shows_read hg (Resolver.answersBy_ofFunction _) hshown⟩

/-- An order of the department of a user who owns it: it may be deleted, so it may be read. -/
theorem admits_read_own_order :
    let dept : Mapping := ⟨[("deptName", "dept")], none, by decide⟩
    let owner : Mapping := ⟨[("userName", "owner")], none, by decide⟩
    let u : User := ⟨.int 7, some 2, [⟨1, "own", .own⟩, ⟨2, "dept", .dept⟩], .empty, .empty⟩
    let e : Enforcer Unit :=
      ⟨⟨KeyMap.empty.insert "orders" ⟨[dept, owner], none, by decide⟩⟩, .standard,
        .ofFunction fun role _ => .ok ⟨role.scope, []⟩, some fun w => (.ok (some u), w)⟩
    let existing : Filter := .compareColumn "status" .eq (.text "open")
    let row : Row := [("dept", .int 2), ("owner", .int 7), ("status", .text "open")]
    let left (statement : Statement) : Bool :=
      Filter.admitsIf (e.enforce "orders.list" (some existing) statement .start ()).1.filter row
    Granter.ofSettings .standard = .ok e.granter ∧ e.IsFunction ∧ left .delete = true ∧
      left .select = true := by
  intro dept owner u e existing row left
  have he : e.IsFunction := by
    refine ⟨Resolver.isFunction_ofFunction _, fun lookup hlookup w w' => ?_⟩
    obtain rfl := Option.some.inj hlookup
    rfl
  have hdelete : left .delete = true := by decide +kernel
  exact ⟨Granter.ofSettings_standard, he, hdelete,
    admits_read Granter.ofSettings_standard he hdelete⟩

end Enforcer

end RowScope
