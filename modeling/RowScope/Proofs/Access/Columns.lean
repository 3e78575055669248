/-
What a write has to meet of the columns of a rule.

A write needs every mapping of its rule that the user is not exempt from.  Their columns are
bound together, so of two mappings for one placeholder only the later column is used.

* `Template.condition_congr` — a template depends on the bindings of its own names alone;
* `Granter.admits_of_condition` — a row that meets the condition of a role meets the template;
* `Granter.admits_of_grant` — a row that is granted for a write meets the template of every
  role for every mapping, with the columns bound together, and with those of the mapping
  where they are not replaced;
* `Granter.grant_replaces_columns` — a column that is replaced need not be met.

Design notes: a role whose condition counts as the same as that of an earlier role is left
out.  This matters only if the two differ, in the sign of a zero, and a zero is matched with
a pattern.
-/
import RowScope.Proofs.Access.Meaning

namespace RowScope

variable {σ : Type}

/-- The columns of a mapping as bindings; of columns for one placeholder the last counts. -/
def Mapping.bindings (m : Mapping) : Bindings :=
  .ofList (m.columns.map fun (key, column) => (key, .column column))

namespace Template

variable {t : Template} {missing : String} {layers layers' : List Bindings}

/-- A row meets what a template spells with layers of bindings. -/
def Admits (t : Template) (missing : String) (layers : List Bindings) (row : Row) : Prop :=
  ∃ c, t.condition missing layers = .ok c ∧ c.admits row = true

instance {row : Row} : Decidable (t.Admits missing layers row) :=
  decidable_of_iff ((t.condition missing layers).toOption.any (·.admits row) = true) <| by
    simp [Option.any_eq_true, Admits, Except.toOption_eq_some_iff]

theorem mem_names {name : String} :
    name ∈ t.names ↔ name ∈ t.segments.filterMap Segment.name? := by
  rw [names, List.mem_eraseDups]

theorem render_congr {value? value?' : String → Option String}
    (h : ∀ name ∈ t.names, value? name = value?' name) :
    t.render value? missing = t.render value?' missing := by
  simp only [mem_names] at h
  unfold render
  congr 1
  · refine congrArg String.join (List.map_congr_left fun segment hsegment => ?_)
    cases segment with
    | text s => rfl
    | placeholder name span =>
      rw [Segment.render, Segment.render, h name (List.mem_filterMap.2 ⟨_, hsegment, rfl⟩)]
  · refine congrArg NameSet.ofList (List.filter_congr fun name hname => ?_)
    rw [h name hname]

/-- A template depends on the bindings of its own names alone. -/
theorem condition_congr
    (h : ∀ name ∈ t.names, Bindings.first? layers name = Bindings.first? layers' name) :
    t.condition missing layers = t.condition missing layers' := by
  have hfill : t.fill missing layers = t.fill missing layers' :=
    render_congr fun name hname => by rw [h name hname]
  rw [condition, condition, hfill]

end Template

namespace Granter

variable {g : Granter} {resolver : Resolver σ} {rule : Rule} {u : User} {join : Join}
  {statement : Statement} {row : Row} {role : Role} {roles before after : List Role}
  {t : ScopeTemplate} {layers : List Bindings} {m : Mapping} {c e : Filter}
  {f : Role → User → Except ResolveError Resolution} {s s' : Session} {w w' : σ}

/-- A row that meets the condition of a role meets the template for every mapping that the
user is not exempt from. -/
theorem admits_of_condition (h : g.condition t layers u rule .and = .ok c)
    (hrow : c.truth row = .holds) (hm : m ∈ rule.mappings) (hexempt : m.exempts u = false)
    (hoverlap : t.overlaps m.keys = true) : t.template.Admits g.missing layers row := by
  obtain ⟨fragments, hfragments, rfl⟩ := Except.map_eq_ok_iff.1 h
  obtain ⟨f?, hmem, hf?⟩ := exists_of_forall₂_of_mem (mapM_eq_ok_iff.1 hfragments).flip hm
  rw [fragment?, if_neg (by simp [hexempt]), if_pos hoverlap] at hf?
  obtain ⟨d, hd, rfl⟩ := Except.map_eq_ok_iff.1 hf?
  have hd' : d ∈ fragments.filterMap id := List.mem_filterMap.2 ⟨some d, hmem, rfl⟩
  refine ⟨d, Except.mapError_eq_ok_iff.1 hd, beq_iff_eq.2 ?_⟩
  rcases hj : Filter.join? .and (Filter.distinct (fragments.filterMap id)) with _ | j
  · have hnone := eraseDupsBy_eq_nil_iff.1 (Filter.join?_eq_none_iff.1 hj)
    rw [hnone] at hd'
    exact absurd hd' List.not_mem_nil
  · rw [hj] at hrow
    have hall : Join.truth .and _ = .holds := (truth_of_fragments hfragments hj row).symm.trans hrow
    exact Truth.all_eq_holds_iff.1 hall _ (List.mem_map_of_mem hd')

/-- The condition of a role; none if it grants every row or gives an error. -/
def group? (g : Granter) (f : Role → User → Except ResolveError Resolution) (rule : Rule)
    (u : User) (join : Join) (bindings : Bindings) (role : Role) : Option Filter :=
  match f role u with
  | .error _ => none
  | .ok r =>
    match ScopeTemplate.ofScope? g.templates r.scope with
    | none => none
    | some t => (g.condition t (rule.layers u role r bindings) u rule join).toOption

theorem group?_eq_some_iff {bindings : Bindings} :
    g.group? f rule u join bindings role = some c ↔
      ∃ r t, f role u = .ok r ∧ ScopeTemplate.ofScope? g.templates r.scope = some t ∧
        g.condition t (rule.layers u role r bindings) u rule join = .ok c := by
  unfold group?
  cases hr : f role u with
  | error e => simp
  | ok r =>
    cases ht : ScopeTemplate.ofScope? g.templates r.scope with
    | none => simp [ht]
    | some t => simp [ht, Except.toOption_eq_some_iff]

theorem groups_of_conditions (hf : resolver.AnswersBy f) {fs : List Filter}
    (h : g.Conditions resolver rule u join roles s w fs s' w') :
    List.Forall₂ (fun role c => g.group? f rule u join s.bindings role = some c) roles fs := by
  induction h with
  | nil s w => exact .nil
  | cons hrole _ ih =>
    obtain ⟨rfl, r, t, hr, ht, hc⟩ := condition_of_ofRole hf hrole
    exact .cons (group?_eq_some_iff.2 ⟨r, t, hr, ht, hc⟩) ih

/-- The condition of a role is not left out for another one: if that of an earlier role counts
as the same, it is the same. -/
def IsKept (g : Granter) (f : Role → User → Except ResolveError Resolution) (rule : Rule)
    (u : User) (join : Join) (bindings : Bindings) (before : List Role) (role : Role) : Prop :=
  ∀ role' ∈ before, ∀ c c', g.group? f rule u join bindings role = some c →
    g.group? f rule u join bindings role' = some c' → c.same c' = true → c = c'

/-- A row that is granted for a write meets the condition of every role that is kept, and of
the others too if no zero is matched with a pattern. -/
theorem truth_of_grant_write (hf : resolver.AnswersBy f) (hjoin : rule.joinFor statement = .and)
    (h : (g.grant resolver rule u statement s w).1 = .ok (.rows e)) (hrow : e.admits row = true)
    (hroles : Role.distinct u.roles = before ++ role :: after)
    (hkept : e.matchesZero = false ∨ g.IsKept f rule u .and s.bindings before role) :
    ∃ c, g.group? f rule u .and s.bindings role = some c ∧ c.truth row = .holds := by
  obtain ⟨fs, s', w', hc, hrows⟩ := conditions_of_grant h
  have hgroups := groups_of_conditions hf hc
  rw [hjoin, hroles] at hgroups
  rw [hjoin] at hrows
  -- the conditions are those of the roles before this one, its own, and others
  have hbefore := List.forall₂_take_append _ _ _ hgroups.flip
  obtain ⟨c, after', hgroup, -, hdrop⟩ :=
    List.forall₂_cons_right_iff.1 (List.forall₂_drop_append _ _ _ hgroups.flip)
  have hfs : fs = fs.take before.length ++ c :: after' := by
    rw [← hdrop, List.take_append_drop]
  refine ⟨c, hgroup, ?_⟩
  obtain ⟨hdistinct, hall⟩ := truth_of_grant_ofRoles hrows row
  rw [Filter.admits, beq_iff_eq] at hrow
  rcases hkept with hzero | hkept
  · rw [hall hzero] at hrow
    refine Truth.all_eq_holds_iff.1 hrow _ (List.mem_map_of_mem ?_)
    rw [hfs]
    simp
  · rw [hdistinct] at hrow
    refine Truth.all_eq_holds_iff.1 hrow _ (List.mem_map_of_mem ?_)
    rw [hfs]
    refine mem_eraseDupsBy_append fun c' hc' hsame => ?_
    obtain ⟨role', hrole', hgroup'⟩ := exists_of_forall₂_of_mem hbefore.flip hc'
    exact hkept role' hrole' c c' hgroup hgroup' hsame

/-- **A row that is granted for a write meets the template of every role for every mapping**
that the user is not exempt from: with the columns of all mappings, and with those of the
mapping itself if none of them is replaced in the template. -/
theorem admits_of_grant (hf : resolver.AnswersBy f) (hjoin : rule.join = none)
    (hwrite : statement.isRead = false)
    (h : (g.grant resolver rule u statement s w).1 = .ok (.rows e)) (hrow : e.admits row = true)
    (hroles : Role.distinct u.roles = before ++ role :: after)
    (hkept : e.matchesZero = false ∨ g.IsKept f rule u .and s.bindings before role) :
    ∃ r t, f role u = .ok r ∧ ScopeTemplate.ofScope? g.templates r.scope = some t ∧
      ∀ m ∈ rule.mappings, m.exempts u = false → t.overlaps m.keys = true →
        t.template.Admits g.missing (rule.layers u role r s.bindings) row ∧
          ((∀ name ∈ t.template.names, (m.bindings.find? name).isSome = true →
              (rule.bindings u).find? name = m.bindings.find? name) →
            t.template.Admits g.missing (m.bindings :: rule.layers u role r s.bindings) row) := by
  have hand : rule.joinFor statement = .and := by
    rw [Rule.joinFor, hjoin, Statement.join, hwrite]
    rfl
  obtain ⟨c, hgroup, hc⟩ := truth_of_grant_write hf hand h hrow hroles hkept
  obtain ⟨r, t, hr, ht, hcondition⟩ := group?_eq_some_iff.1 hgroup
  refine ⟨r, t, hr, ht, fun m hm hexempt hoverlap => ?_⟩
  have hshared := admits_of_condition hcondition hc hm hexempt hoverlap
  refine ⟨hshared, fun hown => ?_⟩
  -- the columns of the mapping are the ones that the rule binds already
  have hlayers : ∀ name ∈ t.template.names,
      Bindings.first? (m.bindings :: rule.layers u role r s.bindings) name
        = Bindings.first? (rule.layers u role r s.bindings) name := by
    intro name hname
    rw [Bindings.first?, List.findSome?_cons]
    cases hb : m.bindings.find? name with
    | none => rfl
    | some b =>
      have hrule := hown name hname (by simp [hb])
      rw [Rule.layers, Bindings.first?, List.findSome?_cons, hrule, hb]
  obtain ⟨d, hd, hrow⟩ := hshared
  exact ⟨d, (Template.condition_congr hlayers).trans hd, hrow⟩

/-- The department of an order and its owner, from two mappings. -/
theorem admits_of_grant_two_mappings :
    let dept : Mapping := ⟨[("deptName", "dept")], none, by decide⟩
    let owner : Mapping := ⟨[("userName", "owner")], none, by decide⟩
    let rule : Rule := ⟨[dept, owner], none, by decide⟩
    let own : Role := ⟨1, "own", .own⟩
    let mixed : Role := ⟨2, "mixed", .deptAndChildOrOwn⟩
    let u : User := ⟨.int 7, some 2, [own, mixed], .empty, .empty⟩
    let f : Role → User → Except ResolveError Resolution := fun role _ =>
      .ok ⟨role.scope, [.int 2, .int 3]⟩
    let s := Session.ofUser u
    let row : Row := [("dept", .int 5), ("owner", .int 7)]
    (Resolver.ofFunction f : Resolver Unit).AnswersBy f ∧ rule.join = none ∧
      Statement.delete.isRead = false ∧ Role.distinct u.roles = [own] ++ mixed :: [] ∧
      dept ∈ rule.mappings ∧ dept.exempts u = false ∧
      ∃ e, (standard.grant (.ofFunction f) rule u .delete s ()).1 = .ok (.rows e) ∧
        e.admits row = true ∧ e.matchesZero = false ∧
        ∃ r t, f mixed u = .ok r ∧ ScopeTemplate.ofScope? standard.templates r.scope = some t ∧
          t.overlaps dept.keys = true ∧
          t.template.Admits standard.missing (dept.bindings :: rule.layers u mixed r s.bindings)
            row := by
  intro dept owner rule own mixed u f s row
  have hf : (Resolver.ofFunction f : Resolver Unit).AnswersBy f := Resolver.answersBy_ofFunction f
  have hrun : ((standard.grant (.ofFunction f) rule u .delete s ()).1.toOption.bind
      Grant.condition?).any (fun e => e.admits row && !e.matchesZero) = true := by decide +kernel
  obtain ⟨e, he, hrow⟩ := (Option.any_eq_true _ _).1 hrun
  rw [Bool.and_eq_true, Bool.not_eq_true'] at hrow
  have hgrant := Grant.eq_rows_of_condition? he
  have hroles : Role.distinct u.roles = [own] ++ mixed :: [] := by decide
  have hm : dept ∈ rule.mappings := by decide
  have hexempt : dept.exempts u = false := by decide +kernel
  refine ⟨hf, rfl, rfl, hroles, hm, hexempt, e, hgrant, hrow.1, hrow.2, ?_⟩
  obtain ⟨r, t, hr, ht, hadmits⟩ :=
    admits_of_grant hf rfl rfl hgrant hrow.1 hroles (.inl hrow.2)
  obtain rfl := Except.ok.inj hr
  have htemplate : (ScopeTemplate.ofScope? standard.templates .deptAndChildOrOwn).all (fun t =>
      t.overlaps dept.keys && decide (∀ name ∈ t.template.names,
        (dept.bindings.find? name).isSome = true →
          (rule.bindings u).find? name = dept.bindings.find? name)) = true := by decide +kernel
  have ht' : ScopeTemplate.ofScope? standard.templates .deptAndChildOrOwn = some t := ht
  rw [ht', Option.all_some, Bool.and_eq_true, decide_eq_true_iff] at htemplate
  exact ⟨_, t, rfl, ht, htemplate.1, (hadmits dept hm hexempt htemplate.1).2 htemplate.2⟩

/-- A write is granted a row that does not meet the template of a role with the columns of a
mapping in the first place. -/
def Drops (g : Granter) (f : Role → User → Except ResolveError Resolution) (rule : Rule)
    (u : User) (s : Session) (row : Row) (role : Role) (m : Mapping) : Prop :=
  rule.join = none ∧ role ∈ Role.distinct u.roles ∧ m ∈ rule.mappings ∧ m.exempts u = false ∧
    ∃ e r t, (g.grant (.ofFunction f) rule u .update s ()).1 = .ok (.rows e) ∧
      e.admits row = true ∧ f role u = .ok r ∧
      ScopeTemplate.ofScope? g.templates r.scope = some t ∧ t.overlaps m.keys = true ∧
      ¬t.template.Admits g.missing (m.bindings :: rule.layers u role r s.bindings) row

theorem drops_of_admits {r : Resolution} (hjoin : rule.join = none)
    (hrole : role ∈ Role.distinct u.roles) (hm : m ∈ rule.mappings)
    (hexempt : m.exempts u = false)
    (hrow : ((g.grant (.ofFunction f) rule u .update s ()).1.toOption.bind
      Grant.condition?).any (·.admits row) = true)
    (hr : f role u = .ok r)
    (htemplate : (ScopeTemplate.ofScope? g.templates r.scope).any (fun t =>
      t.overlaps m.keys && !decide (t.template.Admits g.missing
        (m.bindings :: rule.layers u role r s.bindings) row)) = true) :
    g.Drops f rule u s row role m := by
  obtain ⟨e, he, hrow⟩ := (Option.any_eq_true _ _).1 hrow
  obtain ⟨t, ht, hdrop⟩ := (Option.any_eq_true _ _).1 htemplate
  rw [Bool.and_eq_true, Bool.not_eq_true', decide_eq_false_iff_not] at hdrop
  exact ⟨hjoin, hrole, hm, hexempt, e, r, t, Grant.eq_rows_of_condition? he, hrow, hr, ht, hdrop⟩

/-- The first of two columns for one placeholder is dropped, and so is a role that differs from
an earlier one in the sign of a zero. -/
theorem grant_replaces_columns :
    let f : Role → User → Except ResolveError Resolution := fun role _ => .ok ⟨role.scope, []⟩
    let own : Role := ⟨1, "own", .own⟩
    let dept : Role := ⟨2, "dept", .dept⟩
    let a : Mapping := ⟨[("deptName", "a")], none, by decide⟩
    let b : Mapping := ⟨[("deptName", "b")], none, by decide⟩
    let c : Mapping := ⟨[("userName", "c"), ("deptName", "c")], none, by decide⟩
    standard.Drops f ⟨[a, b], none, by decide⟩ ⟨.int 1, some 103, [dept], .empty, .empty⟩ .start
        [("a", .int 1), ("b", .int 103)] dept a ∧
      standard.Drops f ⟨[c], none, by decide⟩ ⟨.null, none, [own, dept], .empty, .empty⟩
        ((Session.start.setVariable "user.userId" (.column "1 OR -0.0 LIKE '-%'")).setVariable
          "user.deptId" (.column "1 OR 0.0 LIKE '-%'")) [("c", .int 2)] dept c := by
  intro f own dept a b c
  constructor
  · exact drops_of_admits rfl (by decide) (by decide) (by decide +kernel) (by decide +kernel) rfl
      (by decide +kernel)
  · exact drops_of_admits rfl (by decide) (by decide) (by decide +kernel) (by decide +kernel) rfl
      (by decide +kernel)

end Granter

end RowScope
