/-
Columns for placeholders that a rule does not bind.

The id set of a role and the placeholders of its user are supplied by the resolver, the user or
the application.  Yet a mapping may list a column for any name, and the columns of a rule are
looked up first.

* `Rule.AgreesOn` — two rules whose mappings have the same columns for some names;
* `Granter.condition_of_agreesOn` — a template gives the same condition with both, if the names
  are its placeholders and more;
* `Granter.grant_of_agreesOn` — columns for other names than the rule variables and the supplied
  ones change nothing of what is granted;
* `Granter.grant_of_supplied_column` — a column for the id set does.

Design notes: columns that are added to a mapping, or taken out of it, leave it in agreement on
all names but theirs.  So the theorems are about agreement, wherever among the others the columns
are put.
-/
import RowScope.Proofs.Access.Columns
import RowScope.Proofs.Access.Templates
import RowScope.Proofs.Template.Scopes

namespace RowScope

variable {σ : Type}

/-- The mappings have the same columns for the names with `p`, in the same order. -/
structure Mapping.AgreesOn (p : String → Bool) (m m' : Mapping) : Prop where
  capability : m.capability = m'.capability
  columns : m.columns.filter (fun c => p c.1) = m'.columns.filter (fun c => p c.1)

/-- The rules have the same columns for the names with `p`, mapping by mapping. -/
structure Rule.AgreesOn (p : String → Bool) (rule rule' : Rule) : Prop where
  join : rule.join = rule'.join
  mappings : List.Forall₂ (Mapping.AgreesOn p) rule.mappings rule'.mappings

/-- The placeholders of the built-in templates that a rule does not bind. -/
def suppliedNames : List String :=
  [scopeIdsName, "user.deptId", "user.userId"]

namespace Mapping.AgreesOn

variable {p : String → Bool} {m m' : Mapping} {t : ScopeTemplate}

theorem exempts (h : m.AgreesOn p m') (u : User) : m.exempts u = m'.exempts u := by
  rw [Mapping.exempts, Mapping.exempts, h.capability]

theorem mem_keys_iff (h : m.AgreesOn p m') {name : String} (hname : p name = true) :
    name ∈ m.keys ↔ name ∈ m'.keys := by
  have hfilter (m : Mapping) : name ∈ m.keys ↔
      name ∈ (m.columns.filter fun c => p c.1).map Prod.fst := by
    simp [Mapping.keys, hname]
  rw [hfilter m, hfilter m', h.columns]

theorem overlaps (h : m.AgreesOn p m') (hp : ∀ name ∈ t.template.names, p name = true) :
    t.overlaps m.keys = t.overlaps m'.keys := by
  rw [Bool.eq_iff_iff, Granter.overlaps_iff, Granter.overlaps_iff]
  have hvariable {name : String} (hname : name ∈ t.ruleVariables) : p name = true :=
    hp name (List.mem_filter.1 hname).1
  constructor
  · rintro ⟨name, hkey, hname⟩
    exact ⟨name, (h.mem_keys_iff (hvariable hname)).1 hkey, hname⟩
  · rintro ⟨name, hkey, hname⟩
    exact ⟨name, (h.mem_keys_iff (hvariable hname)).2 hkey, hname⟩

end Mapping.AgreesOn

namespace Rule.AgreesOn

variable {p : String → Bool} {rule rule' : Rule}

theorem columns {ms ms' : List Mapping} (h : List.Forall₂ (Mapping.AgreesOn p) ms ms')
    (u : User) :
    ((ms.filter fun m => !m.exempts u).flatMap Mapping.columns).filter (fun c => p c.1)
      = ((ms'.filter fun m => !m.exempts u).flatMap Mapping.columns).filter fun c => p c.1 := by
  induction h with
  | nil => rfl
  | cons hm _ ih =>
    rw [List.filter_cons, List.filter_cons, hm.exempts u]
    split
    · rw [List.flatMap_cons, List.flatMap_cons, List.filter_append, List.filter_append,
        hm.columns, ih]
    · exact ih

/-- A name that the rules agree on has one column with both of them. -/
theorem column? (h : rule.AgreesOn p rule') (u : User) {name : String} (hname : p name = true) :
    rule.column? u name = rule'.column? u name := by
  have hlookup (es : List (String × String)) :
      es.reverse.lookup name = (es.filter fun c => p c.1).reverse.lookup name := by
    rw [← List.filter_reverse, KeyMap.lookup_filter, if_pos hname]
  rw [Rule.column?, Rule.column?, hlookup, columns h.mappings u, ← hlookup]

end Rule.AgreesOn

namespace Granter

variable {g : Granter} {settings : Settings} {resolver : Resolver σ} {rule rule' : Rule}
  {u : User} {join : Join} {role : Role} {roles : List Role} {t : ScopeTemplate}
  {p : String → Bool} {s : Session} {w : σ}

theorem condition_of_agreesOn (h : rule.AgreesOn p rule')
    (hp : ∀ name ∈ t.template.names, p name = true) (u : User) (join : Join) (role : Role)
    (r : Resolution) (bindings : Bindings) :
    g.condition t (rule.layers u role r bindings) u rule join
      = g.condition t (rule'.layers u role r bindings) u rule' join := by
  have hcondition : t.template.condition g.missing (rule.layers u role r bindings)
      = t.template.condition g.missing (rule'.layers u role r bindings) :=
    Template.condition_congr fun name hname => by
      rw [first?_layers, first?_layers, h.column? u (hp name hname)]
  have hfragment (m m' : Mapping) (hm : m.AgreesOn p m') :
      g.fragment? t (rule.layers u role r bindings) u m
        = g.fragment? t (rule'.layers u role r bindings) u m' := by
    rw [fragment?, fragment?, hm.exempts u, hm.overlaps hp, hcondition]
  have hfragments {ms ms' : List Mapping} (hms : List.Forall₂ (Mapping.AgreesOn p) ms ms') :
      ms.mapM (g.fragment? t (rule.layers u role r bindings) u)
        = ms'.mapM (g.fragment? t (rule'.layers u role r bindings) u) := by
    induction hms with
    | nil => rfl
    | cons hm _ ih => rw [List.mapM_cons, List.mapM_cons, hfragment _ _ hm, ih]
  rw [condition, condition, hfragments h.mappings]

theorem ofRole_of_agreesOn (h : rule.AgreesOn p rule')
    (hp : ∀ t ∈ g.templates, ∀ name ∈ t.template.names, p name = true) :
    g.ofRole resolver rule u join role s w = g.ofRole resolver rule' u join role s w := by
  rw [ofRole, ofRole]
  rcases resolver.suspended role u s w with ⟨e | r, s', w'⟩
  · rfl
  · cases ht : ScopeTemplate.ofScope? g.templates r.scope with
    | none => simp only [ht]
    | some t =>
      have hcondition : g.condition t (rule.layers u role r s'.bindings) u rule join = _ :=
        condition_of_agreesOn h (hp t (List.mem_of_find?_eq_some ht)) u join role r s'.bindings
      rw [Rule.layers, Rule.layers] at hcondition
      simp only [ht, hcondition]

theorem ofRoles_of_agreesOn (h : rule.AgreesOn p rule')
    (hp : ∀ t ∈ g.templates, ∀ name ∈ t.template.names, p name = true) :
    g.ofRoles resolver rule u join roles s w = g.ofRoles resolver rule' u join roles s w := by
  induction roles generalizing s w with
  | nil => rfl
  | cons role roles ih =>
    rw [ofRoles, ofRoles, ofRole_of_agreesOn h hp]
    simp only [ih]

/-- The built-in templates have no other placeholders. -/
theorem names_of_ofSettings (hg : ofSettings settings = .ok g) (ht : t ∈ g.templates)
    {name : String} (hname : name ∈ t.template.names) :
    isRuleVariable name = true ∨ name ∈ suppliedNames := by
  obtain ⟨⟨scope, source, fallback⟩, hs, hc⟩ :=
    exists_of_forall₂_of_mem (mapM_eq_ok_iff.1 (builtin_of_ofSettings hg).1) ht
  have hsource : scope.template? = some (source, fallback) := ScopeTemplate.mem_sources_iff.1 hs
  have hparsed := (ScopeTemplate.isCompiled_of_compile hc).2.1
  have hall {parsed : Template} (hparse : Template.parse source = .ok parsed)
      (hnames : ∀ name ∈ parsed.names, isRuleVariable name = true ∨ name ∈ suppliedNames) :
      isRuleVariable name = true ∨ name ∈ suppliedNames := by
    rw [hparse] at hparsed
    rw [← Except.ok.inj hparsed] at hname
    exact hnames name hname
  cases scope with
  | all => exact absurd hsource (by simp [Scope.template?])
  | custom | deptAndChild =>
    obtain ⟨rfl, -⟩ := Prod.mk.inj (Option.some.inj hsource)
    exact hall Template.parse_idsTemplate (by decide)
  | dept =>
    obtain ⟨rfl, -⟩ := Prod.mk.inj (Option.some.inj hsource)
    exact hall Template.parse_deptTemplate (by decide)
  | own =>
    obtain ⟨rfl, -⟩ := Prod.mk.inj (Option.some.inj hsource)
    exact hall Template.parse_ownTemplate (by decide)
  | deptAndChildOrOwn =>
    obtain ⟨rfl, -⟩ := Prod.mk.inj (Option.some.inj hsource)
    exact hall Template.parse_idsOrOwnTemplate (by decide)

/-- **Columns for other names change nothing**: rules that agree on the rule variables and on the
supplied names grant the same, with whatever resolver.  A name without a column in the rule stands
for what the role, the user or the application supply. -/
theorem grant_of_agreesOn (hg : ofSettings settings = .ok g)
    (h : rule.AgreesOn (fun name => isRuleVariable name || suppliedNames.contains name) rule')
    (resolver : Resolver σ) (u : User) (statement : Statement) (s : Session) (w : σ) :
    g.grant resolver rule u statement s w = g.grant resolver rule' u statement s w ∧
      ∀ role r bindings name, rule.column? u name = none →
        Bindings.first? (rule.layers u role r bindings) name
          = Bindings.first? [role.bindings r, u.bindings, bindings] name := by
  have hnames : ∀ t ∈ g.templates, ∀ name ∈ t.template.names,
      (isRuleVariable name || suppliedNames.contains name) = true := by
    intro t ht name hname
    rw [Bool.or_eq_true, List.contains_iff_mem]
    exact names_of_ofSettings hg ht hname
  have hjoin : rule.joinFor statement = rule'.joinFor statement := by
    rw [Rule.joinFor, Rule.joinFor, h.join]
  refine ⟨?_, fun role r bindings name hname => ?_⟩
  · simp only [grant, hjoin, ofRoles_of_agreesOn h hnames]
  · rw [first?_layers, hname]
    rfl

/-- Columns for a placeholder of the role and one of the user that no template has. -/
theorem grant_of_agreesOn_two_columns :
    let rule : Rule := ⟨[⟨[("deptName", "dept")], none, by decide⟩], none, by decide⟩
    let rule' : Rule := ⟨[⟨[("role.key", "owner"), ("deptName", "dept"), ("user.name", "owner")],
      none, by decide⟩], none, by decide⟩
    let u : User := ⟨.int 7, none, [⟨1, "custom", .custom⟩], .empty, .empty⟩
    let resolver : Resolver Unit := .ofFunction fun role _ => .ok ⟨role.scope, [.int 2]⟩
    let s := Session.ofUser u
    ofSettings .standard = .ok standard ∧
      rule.AgreesOn (fun name => isRuleVariable name || suppliedNames.contains name) rule' ∧
      rule.column? u scopeIdsName = none ∧
      standard.grant resolver rule u .select s () = standard.grant resolver rule' u .select s () ∧
      Bindings.first? (rule.layers u ⟨1, "custom", .custom⟩ ⟨.custom, [.int 2]⟩ s.bindings)
        scopeIdsName = some (.values [.int 2]) := by
  intro rule rule' u resolver s
  have hrule : rule.AgreesOn (fun name => isRuleVariable name || suppliedNames.contains name)
      rule' := ⟨rfl, .cons ⟨rfl, by decide⟩ .nil⟩
  have hids : rule.column? u scopeIdsName = none := by decide +kernel
  obtain ⟨hgrant, hfirst⟩ := grant_of_agreesOn ofSettings_standard hrule resolver u .select s ()
  refine ⟨ofSettings_standard, hrule, hids, hgrant, ?_⟩
  rw [hfirst _ _ _ _ hids]
  decide +kernel

/-- A column for the id set is compared with itself, and grants the rows of other
departments. -/
theorem grant_of_supplied_column :
    let rule : Rule := ⟨[⟨[("deptName", "dept")], none, by decide⟩], none, by decide⟩
    let rule' : Rule := ⟨[⟨[("deptName", "dept"), ("scopeIds", "dept")], none, by decide⟩],
      none, by decide⟩
    let u : User := ⟨.int 7, none, [⟨1, "custom", .custom⟩], .empty, .empty⟩
    let resolver : Resolver Unit := .ofFunction fun role _ => .ok ⟨role.scope, [.int 2]⟩
    let admits? (rule : Rule) : Option Bool :=
      ((standard.grant resolver rule u .select (.ofUser u) ()).1.toOption.bind
        Grant.condition?).map (·.admits [("dept", .int 5)])
    isRuleVariable "scopeIds" = false ∧ rule.AgreesOn isRuleVariable rule' ∧
      admits? rule = some false ∧ admits? rule' = some true := by
  intro rule rule' u resolver admits?
  exact ⟨by decide, ⟨rfl, .cons ⟨rfl, by decide⟩ .nil⟩, by decide +kernel, by decide +kernel⟩

end Granter

end RowScope
