/-
An empty set of ids.

A role with an empty set of departments is left with one id: the text for a missing value, or the
value that stands for it.  This id is compared with the column of the department like any other.

* `operandOf?` — the operand that a text is, if it is one;
* `Filter.eq_member_of_parse` — a column and one operand, in a set, are read as that;
* `Granter.truth_of_not_exempts` — a rule that a user is not exempt from says of a row what its
  template says;
* `Granter.truth_of_empty_ids` — the rows that an empty set grants;
* `Granter.empty_ids_admit` — there are such rows.

Design notes: a text that is a name stands for a column, and if that is the column of the
department, it is compared with itself.
-/
import RowScope.Proofs.Access.Missing
import RowScope.Proofs.Access.Writing

namespace RowScope

variable {σ : Type}

/-- The operand that a text is, if it is one. -/
def operandOf? (s : String) : Option Operand :=
  match pieces s.toList with
  | [some t] => t.operand?
  | _ => none

theorem operandOf?_eq {s : String} {t : Token} (h : pieces s.toList = [some t]) :
    operandOf? s = t.operand? := by
  rw [operandOf?, h]

theorem exists_of_operandOf? {s : String} {o : Operand} (h : operandOf? s = some o) :
    ∃ t, pieces s.toList = [some t] ∧ t.operand? = some o := by
  unfold operandOf? at h
  split at h
  · next t ht => exact ⟨t, ht, h⟩
  · cases h

/-- What stands before `IN` at the start of a condition is an operand. -/
theorem operand_of_readTokens_member {t : Token} {ts : List Token} {f : Filter}
    (h : readTokens (t :: .keyword .member :: ts) = some f) : ∃ o, t.operand? = some o := by
  obtain ⟨last, hlast, -⟩ := Option.bind_eq_some_iff.1 h
  rw [Reader.acceptAll_cons] at hlast
  obtain ⟨r, hr, hlast⟩ := Option.bind_eq_some_iff.1 hlast
  rw [Reader.acceptAll_cons] at hlast
  obtain ⟨r', hr', -⟩ := Option.bind_eq_some_iff.1 hlast
  have hstep : Reader.start.stepCondition ⟨0, [], some t⟩ t = .ok r :=
    Except.toOption_eq_some_iff.1 hr
  unfold Reader.stepCondition at hstep
  split at hstep
  · obtain rfl := Except.ok.inj hstep
    cases hr'
  · obtain rfl := Except.ok.inj hstep
    cases hr'
  · split at hstep
    · next o ho => exact ⟨o, ho⟩
    · cases hstep

/-- A column and one operand, as a set, are read as that. -/
theorem Filter.eq_member_of_parse {left members : String} {o : Operand} {f : Filter}
    (hleft : Name.isColumn left = true) (hmembers : operandOf? members = some o)
    (h : parse (setText left members) = .ok f) :
    ∃ l, operandOf? left = some l ∧ f = .member l [o] false := by
  obtain ⟨t, ht⟩ : ∃ t, pieces left.toList = [some t] := ⟨_, pieces_of_isColumn hleft⟩
  obtain ⟨t', ht', ho⟩ := exists_of_operandOf? hmembers
  obtain ⟨ts, hts, hread⟩ := parse_eq_ok_iff.1 h
  have hpieces := pieces_setText (endsInside_of_pieces ht) (endsInside_of_pieces ht') []
  rw [List.append_nil, hts, ht, ht', pieces_nil] at hpieces
  have hts : ts = [t, .keyword .member, .leftParen, t', .rightParen] :=
    (List.map_inj_right fun _ _ => Option.some.inj).1 hpieces
  rw [hts] at hread
  obtain ⟨l, hl⟩ := operand_of_readTokens_member hread
  refine ⟨l, (operandOf?_eq ht).trans hl, ?_⟩
  have hmember := readTokens_of_disjuncts
    (.last (.last (.primary (.predicate (.member false hl (.last ho))))))
  exact Option.some.inj (hread.symm.trans hmember)

/-- A name has no column if no mapping that counts has one for it. -/
theorem Rule.column?_eq_none_iff {rule : Rule} {u : User} {name : String} :
    rule.column? u name = none ↔
      ∀ m ∈ rule.mappings, m.exempts u = false → name ∉ m.keys := by
  rw [column?, List.lookup_eq_none_iff]
  simp only [List.mem_reverse, List.mem_flatMap, List.mem_filter, Mapping.keys, List.mem_map,
    Bool.not_eq_true']
  constructor
  · rintro h m hm hexempt ⟨c, hc, rfl⟩
    exact absurd (h c ⟨m, ⟨hm, hexempt⟩, hc⟩) (by simp)
  · rintro h c ⟨m, ⟨hm, hexempt⟩, hc⟩
    have hne : name ≠ c.1 := by
      rintro rfl
      exact h m hm hexempt ⟨c, hc, rfl⟩
    simpa using hne

/-- The text of an empty set is an operand, and so is that of the value in its place. -/
theorem exists_operandOf?_ids {settings : Settings} {g : Granter} {ids : List Value}
    (hg : Granter.ofSettings settings = .ok g) (hids : ids = [] ∨ ids = [settings.sentinel]) :
    ∃ o, operandOf? ((Binding.values ids).sql settings.missing) = some o := by
  rcases hids with rfl | rfl
  · obtain ⟨t, ht, ho⟩ := Granter.exists_ofSettings_iff_pieces.1 ⟨g, hg⟩
    obtain ⟨o, ho⟩ := Option.isSome_iff_exists.1 ho
    exact ⟨o, (operandOf?_eq ht).trans ho⟩
  · obtain ⟨t, ho, ht⟩ := Value.exists_token settings.isPlain_sentinel
    have hpieces : pieces settings.sentinel.sql.toList = [some t] := ht.pieces_eq
    refine ⟨_, (operandOf?_eq ?_).trans ho⟩
    simpa [Binding.sql] using hpieces

namespace Granter

variable {g : Granter} {settings : Settings} {resolver : Resolver σ} {rule : Rule} {u : User}
  {join : Join} {statement : Statement} {role : Role} {t : ScopeTemplate}
  {layers : List Bindings} {c e : Filter} {s s' : Session} {w w' : σ}

/-- A rule that a user is not exempt from says of a row what the template says, or what the
fallback says if no mapping has a column for it. -/
theorem truth_of_not_exempts (hexempt : ∀ m ∈ rule.mappings, m.exempts u = false)
    (h : g.condition t layers u rule join = .ok c) :
    ((∀ m ∈ rule.mappings, t.overlaps m.keys = false) ∧
        ∀ row, c.truth row = t.fallback.truth row) ∨
      ((∃ m ∈ rule.mappings, t.overlaps m.keys = true) ∧
        ∃ f, t.template.condition g.missing layers = .ok f ∧ ∀ row, c.truth row = f.truth row) := by
  obtain ⟨fragments, hfragments, rfl⟩ := Except.map_eq_ok_iff.1 h
  -- there is one fragment only, once for each mapping that the template needs
  have hkept : ∀ f ∈ fragments.filterMap id, (∃ m ∈ rule.mappings, t.overlaps m.keys = true) ∧
      t.template.condition g.missing layers = .ok f := by
    intro f hf
    obtain ⟨m, hm, hf⟩ := (mem_fragments_iff hfragments).1 hf
    rcases fragment?_eq_some_iff.1 hf with ⟨hexempts, -⟩ | ⟨-, ho, hcondition⟩
    · rw [hexempt m hm] at hexempts
      cases hexempts
    · exact ⟨⟨m, hm, ho⟩, hcondition⟩
  rcases hj : Filter.join? join (Filter.distinct (fragments.filterMap id)) with _ | j
  · have hnone := eraseDupsBy_eq_nil_iff.1 (Filter.join?_eq_none_iff.1 hj)
    refine .inl ⟨fun m hm => ?_, fun row => rfl⟩
    obtain ⟨f?, -, hf?⟩ := exists_of_forall₂_of_mem (mapM_eq_ok_iff.1 hfragments).flip hm
    cases f? with
    | none => exact (fragment?_eq_none_iff.1 hf?).2
    | some f =>
      have hf := (mem_fragments_iff hfragments).2 ⟨m, hm, hf?⟩
      rw [hnone] at hf
      exact absurd hf List.not_mem_nil
  · obtain ⟨f, hf⟩ : ∃ f, f ∈ fragments.filterMap id := by
      refine List.exists_mem_of_ne_nil _ fun hnil => ?_
      rw [hnil] at hj
      cases hj
    obtain ⟨hoverlap, hcondition⟩ := hkept f hf
    refine .inr ⟨hoverlap, f, hcondition, fun row => ?_⟩
    have htruth : (Filter.group j).truth row = _ := truth_of_fragments hfragments hj row
    refine htruth.trans ((join.truth_congr fun x => ?_).trans (join.truth_singleton (f.truth row)))
    rw [List.mem_singleton, List.mem_map]
    constructor
    · rintro ⟨f', hf', rfl⟩
      have hsame := (hkept f' hf').2
      rw [hcondition] at hsame
      rw [Except.ok.inj hsame]
    · rintro rfl
      exact ⟨f, hf, rfl⟩

/-- The only role gives its condition, and that is what is granted. -/
theorem exists_condition_of_one_role (hroles : Role.distinct u.roles = [role])
    {r : Resolution} (hask : (resolver.suspended role u s w).1 = .ok r)
    (h : (g.grant resolver rule u statement s w).1 = .ok (.rows e)) :
    ∃ t c bindings, ScopeTemplate.ofScope? g.templates r.scope = some t ∧
      g.condition t (rule.layers u role r bindings) u rule (rule.joinFor statement) = .ok c ∧
      ∀ row, e.truth row = c.truth row := by
  obtain ⟨fs, s', w', hc, hrows⟩ := conditions_of_grant h
  rw [hroles] at hc
  cases hc with
  | cons hrole hrest =>
    cases hrest
    rcases ofRole_cases hrole with ⟨_, -, he⟩ | ⟨r', hask', ⟨-, hnone⟩ | ⟨t, ht, hcondition⟩⟩
    · cases he
    · cases hnone
    · rw [hask'] at hask
      obtain rfl := Except.ok.inj hask
      obtain ⟨c', hc', heq⟩ := Except.map_eq_ok_iff.1 hcondition.symm
      obtain rfl := Option.some.inj heq
      refine ⟨t, c', _, ht, hc', fun row => ?_⟩
      exact (truth_of_grant_ofRoles hrows row).1.trans (Join.truth_singleton _ _)

theorem ids_template_of_ofScope? (hg : ofSettings settings = .ok g) {scope : Scope}
    (hscope : scope = .custom ∨ scope = .deptAndChild)
    (ht : ScopeTemplate.ofScope? g.templates scope = some t) :
    Template.parse "$deptName IN ( $scopeIds )" = .ok t.template ∧ t.fallback = .never := by
  rcases ScopeTemplate.ofScope?_builtin (builtin_of_ofSettings hg).1 scope with
    ⟨hnone, -⟩ | ⟨t', template, fallback, ht', hs, -, hparse, hfallback⟩
  · rw [hnone] at ht
    cases ht
  · rw [ht'] at ht
    obtain rfl := Option.some.inj ht
    have hsource : ("$deptName IN ( $scopeIds )", Scope.denyFragment) = (template, fallback) := by
      rcases hscope with rfl | rfl
      · exact Option.some.inj hs
      · exact Option.some.inj hs
    obtain ⟨rfl, rfl⟩ := Prod.mk.inj hsource
    rw [Filter.parse_denyFragment] at hfallback
    exact ⟨hparse, (Except.ok.inj hfallback).symm⟩

/-- With a column of the rule and the ids of the role the template spells a set. -/
theorem parse_of_ids_template (hg : ofSettings settings = .ok g)
    (hparse : Template.parse "$deptName IN ( $scopeIds )" = .ok t.template) {column : String}
    (hcolumn : rule.column? u "deptName" = some column)
    (hset : rule.column? u scopeIdsName = none) {r : Resolution} {bindings : Bindings} {f : Filter}
    (hf : t.template.condition g.missing (rule.layers u role r bindings) = .ok f) :
    Filter.parse (setText column ((Binding.values r.ids).sql settings.missing)) = .ok f := by
  have hmissing : g.missing = settings.missing := (builtin_of_ofSettings hg).2.1
  have hids : (role.bindings r).find? scopeIdsName = some (.values r.ids) := rfl
  have hdept : g.text? rule u role r bindings "deptName" = some column := by
    rw [text?, hcolumn]
    rfl
  have hscopeIds : g.text? rule u role r bindings "scopeIds"
      = some ((Binding.values r.ids).sql settings.missing) := by
    show g.text? rule u role r bindings scopeIdsName = _
    rw [text?, hset, hids, hmissing]
    rfl
  rw [Rule.layers, Template.condition_eq first?_eq_text?] at hf
  rw [Template.parse_idsTemplate] at hparse
  rw [← Except.ok.inj hparse] at hf
  rw [if_pos] at hf
  · rw [← hf]
    simp [Template.spell, Segment.spell, hdept, hscopeIds, setText, String.append_assoc]
  · simp [Template.IsFilled, Segment.name?, hdept, hscopeIds]

/-- **An empty set of ids grants the rows whose department is the text for a missing value**, or
the value in its place, read as an operand.  It grants no row only if that operand has none.  The
rule is one without a column for the set itself. -/
theorem truth_of_empty_ids (hg : ofSettings settings = .ok g)
    (hroles : Role.distinct u.roles = [role]) {scope : Scope} {ids : List Value}
    (hask : (resolver.suspended role u s w).1 = .ok ⟨scope, ids⟩)
    (hscope : scope = .custom ∨ scope = .deptAndChild)
    (hids : ids = [] ∨ ids = [settings.sentinel])
    (hexempt : ∀ m ∈ rule.mappings, m.exempts u = false)
    (hset : rule.column? u scopeIdsName = none)
    (h : (g.grant resolver rule u statement s w).1 = .ok (.rows e)) :
    (rule.column? u "deptName" = none ∧ ∀ row, e.truth row = .fails) ∨
      ∃ column l o, rule.column? u "deptName" = some column ∧ operandOf? column = some l ∧
        operandOf? ((Binding.values ids).sql settings.missing) = some o ∧
        ∀ row, e.truth row = (l.value row).among (o.value row).elements := by
  obtain ⟨t, c, bindings, ht, hc, htruth⟩ := exists_condition_of_one_role hroles hask h
  obtain ⟨hparse, hfallback⟩ := ids_template_of_ofScope? hg hscope ht
  have hvariables : t.ruleVariables = ["deptName"] := by
    rw [Template.parse_idsTemplate] at hparse
    rw [ScopeTemplate.ruleVariables, ← Except.ok.inj hparse]
    decide
  have hoverlaps (m : Mapping) : t.overlaps m.keys = true ↔ "deptName" ∈ m.keys := by
    rw [overlaps_iff, hvariables]
    simp
  rcases truth_of_not_exempts hexempt hc with ⟨hnone, hc⟩ | ⟨⟨m, hm, ho⟩, f, hf, hc⟩
  · refine .inl ⟨Rule.column?_eq_none_iff.2 fun m hm _ hkey => ?_, fun row => ?_⟩
    · rw [← hoverlaps, hnone m hm] at hkey
      cases hkey
    · rw [htruth, hc, hfallback]
      rfl
  · obtain ⟨o, hoperand⟩ := exists_operandOf?_ids hg hids
    rw [hoverlaps] at ho
    cases hcolumn : rule.column? u "deptName" with
    | none => exact absurd ho (Rule.column?_eq_none_iff.1 hcolumn m hm (hexempt m hm))
    | some column =>
      have hread := parse_of_ids_template hg hparse hcolumn hset hf
      obtain ⟨l, hl, rfl⟩ :=
        Filter.eq_member_of_parse (Rule.isColumn_of_column? hcolumn) hoperand hread
      refine .inr ⟨column, l, o, rfl, hl, hoperand, fun row => ?_⟩
      rw [htruth, hc]
      simp [Filter.truth, Truth.negateIf]

/-- With the standard settings these are the rows of the department `-1`. -/
theorem truth_of_empty_ids_standard :
    let rule : Rule := ⟨[⟨[("deptName", "dept_id")], none, by decide⟩], none, by decide⟩
    let role : Role := ⟨1, "custom", .custom⟩
    let u : User := ⟨.int 7, none, [role], .empty, .empty⟩
    let resolver : Resolver Unit := .ofFunction fun _ _ => .ok ⟨.custom, []⟩
    let s := Session.ofUser u
    ofSettings .standard = .ok standard ∧ Role.distinct u.roles = [role] ∧
      (resolver.suspended role u s ()).1 = .ok ⟨.custom, []⟩ ∧
      (∀ m ∈ rule.mappings, m.exempts u = false) ∧ rule.column? u scopeIdsName = none ∧
      ∃ e, (standard.grant resolver rule u .select s ()).1 = .ok (.rows e) ∧
        ∀ row, e.truth row = (row.value "dept_id").among [.int (-1)] := by
  intro rule role u resolver s
  have hroles : Role.distinct u.roles = [role] := by decide
  have hexempt : ∀ m ∈ rule.mappings, m.exempts u = false := by decide
  have hset : rule.column? u scopeIdsName = none := by decide
  have hdept : rule.column? u "deptName" = some "dept_id" := by decide
  have hrun : ((standard.grant resolver rule u .select s ()).1.toOption.bind
      Grant.condition?).isSome = true := by decide +kernel
  obtain ⟨e, he⟩ := Option.isSome_iff_exists.1 hrun
  have hgrant := Grant.eq_rows_of_condition? he
  refine ⟨ofSettings_standard, hroles, rfl, hexempt, hset, e, hgrant, fun row => ?_⟩
  rcases truth_of_empty_ids ofSettings_standard hroles rfl (.inl rfl) (.inl rfl) hexempt hset hgrant
    with ⟨hnone, -⟩ | ⟨column, l, o, hcolumn, hl, ho, htruth⟩
  · rw [hdept] at hnone
    cases hnone
  · rw [hdept] at hcolumn
    obtain rfl := Option.some.inj hcolumn
    have hleft : operandOf? "dept_id" = some (.column "dept_id") := by decide +kernel
    have hright : operandOf? ((Binding.values []).sql Settings.standard.missing)
        = some (.literal (.int (-1))) := by decide +kernel
    rw [hleft] at hl
    rw [hright] at ho
    obtain rfl := Option.some.inj hl
    obtain rfl := Option.some.inj ho
    exact htruth row

/-- An empty set grants rows of the department `-1`, and every row with a department if the text
for a missing value is the column of the department. -/
theorem empty_ids_admit :
    let rule : Rule := ⟨[⟨[("deptName", "dept_id")], none, by decide⟩], none, by decide⟩
    let u : User := ⟨.int 7, none, [⟨1, "custom", .custom⟩], .empty, .empty⟩
    let resolver : Resolver Unit := .ofFunction fun _ _ => .ok ⟨.custom, []⟩
    let admits? (settings : Settings) (row : Row) : Option Bool :=
      ((ofSettings settings).toOption.bind fun g =>
        (g.grant resolver rule u .select (.ofUser u) ()).1.toOption.bind
          Grant.condition?).map (·.admits row)
    (∀ m ∈ rule.mappings, m.exempts u = false) ∧
      admits? .standard [("dept_id", .int (-1))] = some true ∧
      admits? ⟨"dept_id", .empty⟩ [("dept_id", .int 5)] = some true := by
  intro rule u resolver admits?
  exact ⟨by decide, by decide +kernel, by decide +kernel⟩

end Granter

end RowScope
