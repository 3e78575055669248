/-
What a grant says of a row.

A grant is a condition in which duplicates were left out at three places.  Here its
outcome is given without them, and without any condition being put together: from the
roles over the mappings down to the texts of the placeholders.

* `Granter.text?` — the text of a placeholder, of the columns of the rule first;
* `Granter.roleOutcome?` — what a role says of a row;
* `Granter.truth_of_grant` — a grant says of a row what the roles say of it, joined;
* `Granter.grant_merges_zeros` — not so when a pattern tells the two zeros apart.

Design notes: the conditions of one role are all the same up to exemptions, since the
columns of all mappings are bound together, so leaving out duplicates among them never
matters.  Among the roles it does not matter either, unless a literal zero is matched
with a pattern: `0.0` and `-0.0` count as the same literal.
-/
import RowScope.Proofs.Access.Inquiry
import RowScope.Proofs.Filter.Sameness
import RowScope.Proofs.Template.Filling

namespace RowScope

variable {σ : Type}

/-- The resolver answers by the role and the user, and leaves the session alone. -/
def Resolver.AnswersBy (resolver : Resolver σ)
    (f : Role → User → Except ResolveError Resolution) : Prop :=
  ∀ role u s w, (resolver role u s w).1 = f role u ∧ (resolver role u s w).2.1 = s

theorem Resolver.AnswersBy.suspended {resolver : Resolver σ}
    {f : Role → User → Except ResolveError Resolution} (h : resolver.AnswersBy f) {role : Role}
    {u : User} {s s' : Session} {w w' : σ} {answer : Except ResolveError Resolution}
    (hask : resolver.suspended role u s w = (answer, s', w')) : f role u = answer ∧ s' = s := by
  obtain ⟨hanswer, hsession⟩ := h role u s.push w
  unfold Resolver.suspended at hask
  simp only [Prod.mk.injEq] at hask
  obtain ⟨rfl, rfl, -⟩ := hask
  refine ⟨hanswer.symm, ?_⟩
  rw [hsession]
  rfl

theorem Resolver.answersBy_ofFunction (f : Role → User → Except ResolveError Resolution) :
    (ofFunction f : Resolver σ).AnswersBy f :=
  fun _ _ _ _ => ⟨rfl, rfl⟩

/-- The condition of a grant, if it is one. -/
def Grant.condition? : Grant → Option Filter
  | rows f => some f
  | _ => none

theorem Grant.eq_rows_of_condition? {r : Except PolicyError Grant} {e : Filter}
    (h : r.toOption.bind condition? = some e) : r = .ok (.rows e) := by
  rcases r with err | grant
  · exact absurd h (by simp [Except.toOption])
  · cases grant with
    | rows c => exact congrArg (fun c => Except.ok (Grant.rows c)) (Option.some.inj h)
    | _ => exact absurd h (by simp [Except.toOption, Grant.condition?])

/-- The column of a placeholder, for a user: the last one among the mappings that the user
is not exempt from. -/
def Rule.column? (rule : Rule) (u : User) (name : String) : Option String :=
  ((rule.mappings.filter fun m => !m.exempts u).flatMap Mapping.columns).reverse.lookup name

theorem Rule.find?_bindings (rule : Rule) (u : User) (name : String) :
    (rule.bindings u).find? name = (rule.column? u name).map .column := by
  rw [bindings, KeyMap.find?_ofList, column?, ← lookup_map_snd, List.map_reverse,
    List.map_flatMap]

/-- The bindings that a template is rendered with for a role, those of the rule first. -/
def Rule.layers (rule : Rule) (u : User) (role : Role) (r : Resolution) (bindings : Bindings) :
    List Bindings :=
  [rule.bindings u, role.bindings r, u.bindings, bindings]

/-- What a template says of a row, by the texts of its placeholders: what its text spells,
and nothing holds if a placeholder has no text. -/
def Template.outcome (t : Template) (text? : String → Option String) (row : Row) :
    Except Diagnostic Truth :=
  if t.IsFilled text? then (Filter.parse (t.spell text?)).map (Filter.truth row) else .ok .fails

namespace Granter

variable {g : Granter} {resolver : Resolver σ} {rule : Rule} {u : User} {join : Join}
  {bindings : Bindings} {row : Row} {role : Role} {r : Resolution} {t : ScopeTemplate}
  {f : Role → User → Except ResolveError Resolution}

/-- The text of a placeholder: that of a column of the rule, or else of the role, the user
or the session. -/
def text? (g : Granter) (rule : Rule) (u : User) (role : Role) (r : Resolution)
    (bindings : Bindings) (name : String) : Option String :=
  (rule.column? u name).or
    ((((role.bindings r).find? name).or
      ((u.bindings.find? name).or (bindings.find? name))).map (Binding.sql g.missing))

/-- The columns of the rule come first, then what the role, the user and the session bind. -/
theorem first?_layers (r : Resolution) (name : String) :
    Bindings.first? (rule.layers u role r bindings) name
      = ((rule.column? u name).map .column).or
        (Bindings.first? [role.bindings r, u.bindings, bindings] name) := by
  rw [← Rule.find?_bindings, Rule.layers, Bindings.first?, List.findSome?_cons]
  cases (rule.bindings u).find? name with
  | none => rfl
  | some b => rfl

theorem first?_eq_text? (name : String) :
    (Bindings.first? [rule.bindings u, role.bindings r, u.bindings, bindings] name).map
      (Binding.sql g.missing) = g.text? rule u role r bindings name := by
  simp only [Bindings.first?, List.findSome?_cons, List.findSome?_nil, text?,
    Rule.find?_bindings]
  cases rule.column? u name with
  | some column => rfl
  | none =>
    cases (role.bindings r).find? name with
    | some b => rfl
    | none =>
      cases u.bindings.find? name with
      | some b => rfl
      | none => cases bindings.find? name <;> rfl

/-- What a mapping says of a row, for a role with the template `t`; none if it says
nothing. -/
def mappingOutcome (t : ScopeTemplate) (text? : String → Option String) (u : User) (row : Row)
    (m : Mapping) : Except Diagnostic (Option Truth) :=
  if m.exempts u then .ok (some .holds)
  else if ∃ name ∈ m.keys, name ∈ t.ruleVariables then (t.template.outcome text? row).map some
  else .ok none

/-- What the mappings of a rule say of a row together, or the fallback of the template if
they say nothing. -/
def ruleOutcome (rule : Rule) (join : Join) (t : ScopeTemplate)
    (text? : String → Option String) (u : User) (row : Row) : Except Diagnostic Truth :=
  (rule.mappings.mapM (mappingOutcome t text? u row)).map fun outcomes =>
    match outcomes.filterMap id with
    | [] => t.fallback.truth row
    | ts => join.truth ts

/-- What a role of a user says of a row; none if it grants every row or is not known. -/
def roleOutcome? (g : Granter) (f : Role → User → Except ResolveError Resolution)
    (rule : Rule) (u : User) (join : Join) (bindings : Bindings) (row : Row) (role : Role) :
    Option Truth :=
  match f role u with
  | .error _ => none
  | .ok r =>
    match ScopeTemplate.ofScope? g.templates r.scope with
    | none => none
    | some t => (ruleOutcome rule join t (g.text? rule u role r bindings) u row).toOption

theorem overlaps_iff {names : List String} :
    t.overlaps names = true ↔ ∃ name ∈ names, name ∈ t.ruleVariables := by
  rw [ScopeTemplate.overlaps, List.any_eq_true]
  constructor
  · rintro ⟨name, hvar, hname⟩
    exact ⟨name, List.contains_iff_mem.1 hname, hvar⟩
  · rintro ⟨name, hname, hvar⟩
    exact ⟨name, hvar, List.contains_iff_mem.2 hname⟩

section Fragments

variable {layers : List Bindings} {m : Mapping} {f : Filter} {fragments : List (Option Filter)}

/-- A mapping has a fragment if the user is exempt from it, or if the template needs one. -/
theorem fragment?_eq_some_iff :
    g.fragment? t layers u m = .ok (some f) ↔
      m.exempts u = true ∧ f = .always ∨
        m.exempts u = false ∧ t.overlaps m.keys = true ∧
          t.template.condition g.missing layers = .ok f := by
  unfold fragment?
  cases m.exempts u with
  | true => simpa using eq_comm
  | false =>
    cases t.overlaps m.keys with
    | true => simp [Except.map_eq_ok_iff, Except.mapError_eq_ok_iff]
    | false => simp

theorem fragment?_eq_none_iff :
    g.fragment? t layers u m = .ok none ↔ m.exempts u = false ∧ t.overlaps m.keys = false := by
  unfold fragment?
  cases m.exempts u with
  | true => simp
  | false =>
    cases t.overlaps m.keys with
    | true => simp [Except.map_eq_ok_iff]
    | false => simp

theorem mem_fragments_iff (h : rule.mappings.mapM (g.fragment? t layers u) = .ok fragments) :
    f ∈ fragments.filterMap id ↔ ∃ m ∈ rule.mappings, g.fragment? t layers u m = .ok (some f) := by
  have hall := mapM_eq_ok_iff.1 h
  constructor
  · intro hf
    obtain ⟨_, hmem, rfl⟩ := List.mem_filterMap.1 hf
    obtain ⟨m, hm, hf⟩ := exists_of_forall₂_of_mem hall hmem
    exact ⟨m, hm, hf⟩
  · rintro ⟨m, hm, hf⟩
    obtain ⟨f?, hmem, hf?⟩ := exists_of_forall₂_of_mem hall.flip hm
    obtain rfl := Except.ok.inj (hf.symm.trans hf?)
    exact List.mem_filterMap.2 ⟨_, hmem, rfl⟩

/-- The fragments of a role are one and the same, up to exemptions. -/
theorem eq_of_fragment? (h : g.fragment? t layers u m = .ok (some f)) :
    f = .always ∨ t.template.condition g.missing layers = .ok f := by
  rcases fragment?_eq_some_iff.1 h with ⟨-, halways⟩ | ⟨-, -, hcondition⟩
  · exact .inl halways
  · exact .inr hcondition

theorem eq_of_same_fragment {f f' : Filter}
    (hf : f = .always ∨ t.template.condition g.missing layers = .ok f)
    (hf' : f' = .always ∨ t.template.condition g.missing layers = .ok f')
    (hsame : f.same f' = true) : f = f' := by
  rcases hf with rfl | hf
  · cases f' with
    | always => rfl
    | _ => exact absurd hsame (by simp [Filter.same])
  · rcases hf' with rfl | hf'
    · cases f with
      | always => rfl
      | _ => exact absurd hsame (by simp [Filter.same])
    · rw [hf] at hf'
      exact Except.ok.inj hf'

/-- A join of the fragments of a role leaves none out for another one. -/
theorem truth_of_fragments
    (h : rule.mappings.mapM (g.fragment? t layers u) = .ok fragments)
    (hj : Filter.join? join (Filter.distinct (fragments.filterMap id)) = some f) (row : Row) :
    f.truth row = join.truth ((fragments.filterMap id).map (Filter.truth row)) := by
  -- up to exemptions there is one fragment only
  have hone : ∀ f ∈ fragments.filterMap id,
      f = .always ∨ t.template.condition g.missing layers = .ok f := by
    intro f hf
    obtain ⟨m, -, hm⟩ := (mem_fragments_iff h).1 hf
    exact eq_of_fragment? hm
  refine Filter.truth_of_join?_distinct hj fun f hf f' hf' hsame => ?_
  rw [eq_of_same_fragment (hone f hf) (hone f' (mem_of_mem_eraseDupsBy hf')) hsame]

end Fragments

section Role

variable {layers : List Bindings} {text : String → Option String}
  (htext : ∀ name, (Bindings.first? layers name).map (Binding.sql g.missing) = text name)

include htext

theorem outcome_of_condition {f : Filter}
    (h : t.template.condition g.missing layers = .ok f) :
    t.template.outcome text row = .ok (f.truth row) := by
  rw [Template.condition_eq htext] at h
  unfold Template.outcome
  split at h
  · next hf => rw [if_pos hf, h]; rfl
  · next hf =>
    obtain rfl := Except.ok.inj h
    rw [if_neg hf]
    rfl

theorem mappingOutcome_of_fragment? {m : Mapping} {f? : Option Filter}
    (h : g.fragment? t layers u m = .ok f?) :
    mappingOutcome t text u row m = .ok (f?.map (Filter.truth row)) := by
  unfold fragment? at h
  unfold mappingOutcome
  split at h
  · next he =>
    obtain rfl := Except.ok.inj h
    rw [if_pos he]
    rfl
  · next he =>
    rw [if_neg he]
    split at h
    · next ho =>
      obtain ⟨f, hf, rfl⟩ := Except.map_eq_ok_iff.1 h
      rw [if_pos (overlaps_iff.1 ho),
        outcome_of_condition htext (Except.mapError_eq_ok_iff.1 hf)]
      rfl
    · next ho =>
      obtain rfl := Except.ok.inj h
      rw [if_neg (mt overlaps_iff.2 ho)]
      rfl

/-- The condition of a role says what its mappings say. -/
theorem ruleOutcome_of_condition {f : Filter}
    (h : g.condition t layers u rule join = .ok f) (row : Row) :
    ruleOutcome rule join t text u row = .ok (f.truth row) := by
  obtain ⟨fragments, hfragments, rfl⟩ := Except.map_eq_ok_iff.1 h
  have houtcomes : rule.mappings.mapM (mappingOutcome t text u row)
      = .ok (fragments.map (Option.map (Filter.truth row))) := by
    refine mapM_eq_ok_iff.2 ?_
    rw [List.forall₂_map_right_iff]
    exact (mapM_eq_ok_iff.1 hfragments).imp fun m f? hm => mappingOutcome_of_fragment? htext hm
  have hfilter : (fragments.map (Option.map (Filter.truth row))).filterMap id
      = (fragments.filterMap id).map (Filter.truth row) := by
    rw [List.filterMap_map, List.map_filterMap]
    rfl
  rw [ruleOutcome, houtcomes]
  show Except.ok _ = Except.ok _
  simp only [hfilter, Filter.truth]
  rcases hj : Filter.join? join (Filter.distinct (fragments.filterMap id)) with _ | f
  · have hnone : fragments.filterMap id = [] :=
      eraseDupsBy_eq_nil_iff.1 (Filter.join?_eq_none_iff.1 hj)
    simp only [hnone, List.map_nil]
    rfl
  · have htruth := truth_of_fragments hfragments hj row
    rcases hfs : fragments.filterMap id with _ | ⟨f', fs⟩
    · rw [hfs] at hj
      exact absurd hj (by simp [Filter.distinct, Filter.join?])
    · rw [hfs] at htruth
      exact congrArg Except.ok htruth.symm

end Role

section Roles

variable {roles : List Role} {statement : Statement} {s s' : Session} {w w' : σ}
  {fs : List Filter} {e : Filter}

/-- A role that gives a condition was answered with a scope, and gives that of its template. -/
theorem condition_of_ofRole (hf : resolver.AnswersBy f) {c : Filter}
    (h : g.ofRole resolver rule u join role s w = (.ok (some c), s', w')) :
    s' = s ∧ ∃ r t, f role u = .ok r ∧ ScopeTemplate.ofScope? g.templates r.scope = some t ∧
      g.condition t (rule.layers u role r s.bindings) u rule join = .ok c := by
  rcases ofRole_cases h with ⟨_, -, he⟩ | ⟨r, hask, ⟨-, hnone⟩ | ⟨t, ht, hcondition⟩⟩
  · exact absurd he (by simp)
  · exact absurd hnone (by simp)
  · obtain ⟨hr, rfl⟩ := hf.suspended hask
    obtain ⟨c', hc, hc'⟩ := Except.map_eq_ok_iff.1 hcondition.symm
    obtain rfl := Option.some.inj hc'
    exact ⟨rfl, r, t, hr, ht, hc⟩

theorem roleOutcome?_of_ofRole (hf : resolver.AnswersBy f) {c : Filter}
    (h : g.ofRole resolver rule u join role s w = (.ok (some c), s', w')) (row : Row) :
    s' = s ∧ g.roleOutcome? f rule u join s.bindings row role = some (c.truth row) := by
  obtain ⟨hs, r, t, hr, ht, hc⟩ := condition_of_ofRole hf h
  refine ⟨hs, ?_⟩
  simp only [roleOutcome?, hr, ht, ruleOutcome_of_condition first?_eq_text? hc row]
  rfl

theorem roleOutcomes_of_conditions (hf : resolver.AnswersBy f)
    (h : g.Conditions resolver rule u join roles s w fs s' w') (row : Row) :
    roles.mapM (g.roleOutcome? f rule u join s.bindings row)
      = some (fs.map (Filter.truth row)) := by
  induction h with
  | nil s w => rfl
  | cons hrole _ ih =>
    obtain ⟨rfl, hc⟩ := roleOutcome?_of_ofRole hf hrole row
    rw [List.mapM_cons, hc, ih]
    rfl

/-- What is granted has the leaves and the outcome of the conditions that are joined. -/
theorem exists_join?_of_ofRoles (h : Grant.ofRoles join fs = .rows e) :
    ∃ c, Filter.join? join (Filter.distinct fs) = some c ∧ e.leaves = c.leaves ∧
      ∀ row, e.truth row = c.truth row := by
  unfold Grant.ofRoles at h
  split at h
  · exact absurd h (by simp)
  · next c hj =>
    refine ⟨c, hj, ?_⟩
    obtain rfl := Grant.rows.inj h
    split
    · exact ⟨rfl, fun _ => rfl⟩
    · exact ⟨rfl, fun _ => rfl⟩

/-- What is granted has the leaves of the conditions that stay. -/
theorem mem_leaves_of_ofRoles (h : Grant.ofRoles join fs = .rows e) {leaf : Filter} :
    leaf ∈ e.leaves ↔ ∃ c ∈ Filter.distinct fs, leaf ∈ c.leaves := by
  obtain ⟨c, hj, hleaves, -⟩ := exists_join?_of_ofRoles h
  rw [hleaves, Filter.mem_leaves_of_join? hj]

/-- A grant says what the conditions of the roles say, equal ones counted once.  Without a
zero that is matched they all count. -/
theorem truth_of_grant_ofRoles (h : Grant.ofRoles join fs = .rows e) (row : Row) :
    e.truth row = join.truth ((Filter.distinct fs).map (Filter.truth row)) ∧
      (e.matchesZero = false → e.truth row = join.truth (fs.map (Filter.truth row))) := by
  obtain ⟨c, hj, -, htruth⟩ := exists_join?_of_ofRoles h
  rw [htruth row]
  refine ⟨Filter.truth_of_join? hj row, fun hz => ?_⟩
  refine Filter.truth_of_join?_distinct hj fun d _ d' hd' hsame => ?_
  refine Filter.truth_of_same hsame (Filter.matchesZero_eq_false_iff.2 ?_) row
  intro leaf hleaf
  refine Filter.matchesZero_eq_false_iff.1 hz leaf ?_
  exact (mem_leaves_of_ofRoles h).2 ⟨d', hd', hleaf⟩

theorem conditions_of_grant (h : (g.grant resolver rule u statement s w).1 = .ok (.rows e)) :
    ∃ fs s' w', g.Conditions resolver rule u (rule.joinFor statement) (Role.distinct u.roles) s w
        fs s' w' ∧
      Grant.ofRoles (rule.joinFor statement) fs = .rows e := by
  rcases grant_cases g resolver rule u statement s w with
    ⟨-, hgrant⟩ | ⟨-, answer, s', w', hroles, hgrant⟩
  · rw [hgrant] at h
    exact absurd h (by simp)
  · rw [hgrant] at h
    obtain ⟨fs?, rfl, hrows⟩ := Except.map_eq_ok_iff.1 h
    rcases ofRoles_cases hroles with ⟨fs, hfs, hc⟩ | ⟨_, _, _, _, _, _, _, _, hend⟩
    · obtain rfl := Except.ok.inj hfs
      exact ⟨fs, s', w', hc, hrows⟩
    · rcases hend with ⟨hnone, -⟩ | ⟨_, herror, -⟩
      · obtain rfl := Except.ok.inj hnone
        exact absurd hrows (by simp)
      · exact absurd herror (by simp)

/-- **A grant says of a row what the roles of the user say of it**, joined as the rule says.
Roles whose conditions count as the same count once; this makes a difference only if the
grant matches a zero with a pattern. -/
theorem truth_of_grant (hf : resolver.AnswersBy f)
    (h : (g.grant resolver rule u statement s w).1 = .ok (.rows e)) :
    ∃ fs : List Filter, ∀ row,
      (Role.distinct u.roles).mapM
          (g.roleOutcome? f rule u (rule.joinFor statement) s.bindings row)
        = some (fs.map (Filter.truth row)) ∧
      e.truth row
        = (rule.joinFor statement).truth ((Filter.distinct fs).map (Filter.truth row)) ∧
      (e.matchesZero = false →
        e.truth row = (rule.joinFor statement).truth (fs.map (Filter.truth row))) := by
  obtain ⟨fs, s', w', hc, hrows⟩ := conditions_of_grant h
  exact ⟨fs, fun row => ⟨roleOutcomes_of_conditions hf hc row, truth_of_grant_ofRoles hrows row⟩⟩

end Roles

/-- The rows of a department, for a user who owns some rows besides. -/
theorem truth_of_grant_two_roles :
    let rule : Rule := ⟨[⟨[("deptName", "dept"), ("userName", "owner")], none, by decide⟩],
      none, by decide⟩
    let u : User := ⟨.int 7, some 2, [⟨1, "own", .own⟩, ⟨2, "dept", .dept⟩], .empty, .empty⟩
    let f : Role → User → Except ResolveError Resolution := fun role _ => .ok ⟨role.scope, []⟩
    let s := Session.ofUser u
    (Resolver.ofFunction f : Resolver Unit).AnswersBy f ∧
      ∃ e, (standard.grant (.ofFunction f) rule u .select s ()).1 = .ok (.rows e) ∧
        ∃ fs : List Filter, ∀ row,
          (Role.distinct u.roles).mapM
              (standard.roleOutcome? f rule u (rule.joinFor .select) s.bindings row)
            = some (fs.map (Filter.truth row)) ∧
          e.truth row = (rule.joinFor .select).truth ((Filter.distinct fs).map (Filter.truth row)) ∧
          (e.matchesZero = false →
            e.truth row = (rule.joinFor .select).truth (fs.map (Filter.truth row))) := by
  intro rule u f s
  have hrun : ((standard.grant (.ofFunction f) rule u .select s ()).1.toOption.bind
      Grant.condition?).isSome = true := by decide +kernel
  obtain ⟨e, he⟩ := Option.isSome_iff_exists.1 hrun
  have hgrant := Grant.eq_rows_of_condition? he
  exact ⟨Resolver.answersBy_ofFunction f, e, hgrant,
    truth_of_grant (Resolver.answersBy_ofFunction f) hgrant⟩

/-- Two conditions that differ in the sign of a zero count as one, although the texts of
the zeros tell a row apart. -/
theorem grant_merges_zeros :
    let rule : Rule := ⟨[⟨[("userName", "c"), ("deptName", "c")], none, by decide⟩],
      none, by decide⟩
    let u : User := ⟨.null, none, [⟨1, "own", .own⟩, ⟨2, "dept", .dept⟩], .empty, .empty⟩
    let f : Role → User → Except ResolveError Resolution := fun role _ => .ok ⟨role.scope, []⟩
    let row : Row := [("c", .int 2)]
    let s := ((Session.ofUser u).setVariable "user.userId"
      (.column "1 OR 0.0 LIKE '-%'")).setVariable "user.deptId" (.column "1 OR -0.0 LIKE '-%'")
    (Resolver.ofFunction f : Resolver Unit).AnswersBy f ∧
      ∃ e ts, (standard.grant (.ofFunction f) rule u .select s ()).1 = .ok (.rows e) ∧
        (Role.distinct u.roles).mapM
          (standard.roleOutcome? f rule u (rule.joinFor .select) s.bindings row) = some ts ∧
        e.truth row ≠ (rule.joinFor .select).truth ts := by
  intro rule u f row s
  have hrun : (((standard.grant (.ofFunction f) rule u .select s ()).1.toOption.bind
      Grant.condition?).map (Filter.truth row)) = some .fails := by decide +kernel
  obtain ⟨e, he, hfails⟩ := Option.map_eq_some_iff.1 hrun
  refine ⟨Resolver.answersBy_ofFunction f, e, [.fails, .holds],
    Grant.eq_rows_of_condition? he, by decide +kernel, ?_⟩
  rw [hfails]
  decide

end Granter

end RowScope
