/-
Gaining a capability.

A user who has the capability of a mapping needs no condition from it.  The mapping binds no
column then either, so the templates that other mappings still ask for lose its columns.

* `User.gain` — a user with one more capability;
* `Granter.grant_of_answersBy` — what is granted, as a function of the roles;
* `Granter.truth_of_exempts` — what a role says of a row when the user is exempt from a mapping;
* `Granter.Retains` — what is still needed of a template stays true without the columns;
* `Granter.shows_gain` — a visible row stays visible, where the templates retain that;
* `Granter.gain_hides_rows` — else it may not;
* `Granter.retains_of_shows_gain` — the templates retain that wherever a row is visible.

Design notes: a mapping that the user is exempt from counts as a condition that always holds.
So a disjunction is lost only to an error, and a conjunction also to a template that has a
column no more, or another one.
-/
import RowScope.Proofs.Access.Columns
import RowScope.Proofs.Access.EveryRow
import RowScope.Proofs.Access.Narrowing

namespace RowScope

variable {σ : Type}

/-- The user with one more capability. -/
def User.gain (u : User) (capability : String) : User :=
  { u with capabilities := u.capabilities.insert capability }

/-- Whether a row is visible under what is granted; none is under an error. -/
def Grant.shows (row : Row) : Except PolicyError Grant → Bool
  | .error _ => false
  | .ok (.rows e) => e.admits row
  | .ok _ => true

theorem NameSet.mem_insert {names : NameSet} {name name' : String} :
    name' ∈ (names.insert name).names ↔ name' = name ∨ name' ∈ names.names :=
  mem_insertAscending

theorem Mapping.exempts_gain {m : Mapping} {u : User} (capability : String)
    (h : m.exempts u = true) : m.exempts (u.gain capability) = true := by
  obtain ⟨needed, hneeded, hholds⟩ := (Option.any_eq_true _ _).1 h
  refine (Option.any_eq_true _ _).2 ⟨needed, hneeded, List.contains_iff_mem.2 ?_⟩
  exact NameSet.mem_insert.2 (.inr (List.contains_iff_mem.1 hholds))

namespace Granter

variable {g : Granter} {settings : Settings} {resolver : Resolver σ} {rule : Rule}
  {u u' : User} {join : Join} {statement : Statement} {row : Row} {role : Role}
  {roles : List Role} {t : ScopeTemplate} {layers : List Bindings} {m : Mapping}
  {c : Filter} {fs : List Filter} {s : Session} {w w' : σ} {capability : String}

theorem isPrivileged_of_gain (h : g.isPrivileged (u.gain capability) = false) :
    g.isPrivileged u = false := by
  refine Bool.eq_false_iff.2 fun hu => Bool.eq_false_iff.1 h ?_
  obtain ⟨name, hname, hprivileged⟩ := List.any_eq_true.1 hu
  exact List.any_eq_true.2 ⟨name, NameSet.mem_insert.2 (.inr hname), hprivileged⟩

section Function

variable {f : Role → User → Except ResolveError Resolution}

/-- Without a role that grants every row the search ends with the first error, or else gives
the conditions of all roles. -/
theorem ofRoles_of_not_answersAll (hg : ofSettings settings = .ok g) (hf : resolver.AnswersBy f)
    (h : ∀ role ∈ roles, role.answersAll f u = false) :
    (g.ofRoles resolver rule u join roles s w).1 =
      (roles.findSome? (g.failure? f rule u s.bindings)).elim
        (.ok (some (roles.filterMap (g.group? f rule u join s.bindings)))) .error := by
  induction roles generalizing w with
  | nil => rfl
  | cons role roles ih =>
    rw [List.forall_mem_cons] at h
    rcases hrole : g.ofRole resolver rule u join role s w with ⟨answer, s', w'⟩
    obtain ⟨rfl, ⟨hall, -⟩ | ⟨-, hanswer⟩⟩ := ofRole_of_answersBy hg hf hrole
    · exact absurd hall (by simp [h.1])
    · rw [List.findSome?_cons]
      rcases hanswer with ⟨e, rfl, he⟩ | ⟨c, rfl, hc⟩
      · simp only [ofRoles, hrole, he]
        rfl
      · obtain ⟨-, r, t, hr, ht, hcondition⟩ := condition_of_ofRole hf hrole
        have hgroup : g.group? f rule u join s'.bindings role = some c :=
          group?_eq_some_iff.2 ⟨r, t, hr, ht, hcondition⟩
        rw [List.filterMap_cons_some hgroup]
        rcases hrest : g.ofRoles resolver rule u join roles s' w' with ⟨answer, s₂, w₂⟩
        specialize ih (w := w') h.2
        rw [hrest] at ih
        simp only [ofRoles, hrole, hrest, hc]
        generalize List.findSome? _ _ = failure at ih ⊢
        obtain rfl : answer = failure.elim _ _ := ih
        cases failure with
        | none => rfl
        | some e => rfl

/-- The roles that are asked for: those before the first one that grants every row. -/
def asked (f : Role → User → Except ResolveError Resolution) (u : User) : List Role :=
  (Role.distinct u.roles).takeWhile fun role => !role.answersAll f u

theorem asked_eq_distinct (h : ∀ role ∈ Role.distinct u.roles, role.answersAll f u = false) :
    asked f u = Role.distinct u.roles :=
  List.takeWhile_eq_self_iff.2 fun role hrole => by simp [h role hrole]

/-- What is granted, with a resolver that answers by the role and the user: the first error of
a role, or every row if a role grants it, or what the conditions of all roles grant. -/
theorem grant_of_answersBy (hg : ofSettings settings = .ok g) (hf : resolver.AnswersBy f)
    (hprivileged : g.isPrivileged u = false) :
    (g.grant resolver rule u statement s w).1 =
      ((asked f u).findSome? (g.failure? f rule u s.bindings)).elim
        (.ok (if (Role.distinct u.roles).any (·.answersAll f u) then .allRows
          else .ofRoles (rule.joinFor statement)
            ((Role.distinct u.roles).filterMap
              (g.group? f rule u (rule.joinFor statement) s.bindings)))) .error := by
  rcases grant_cases g resolver rule u statement s w with
    ⟨hp, -⟩ | ⟨-, answer, s', w', hr, hgrant⟩
  · exact absurd hp (by simp [hprivileged])
  · rw [hgrant]
    by_cases hall : (Role.distinct u.roles).any (·.answersAll f u) = true
    · have hsearch : (g.ofRoles resolver rule u (rule.joinFor statement)
          (Role.distinct u.roles) s w).1 = _ :=
        ofRoles_of_answersAll hg hf (List.any_eq_true.1 hall)
      rw [hr] at hsearch
      rw [if_pos hall, asked]
      exact (congrArg _ hsearch).trans (map_elim_error _ _ _)
    · have hnone : ∀ role ∈ Role.distinct u.roles, role.answersAll f u = false := by
        simpa using hall
      have hsearch : (g.ofRoles resolver rule u (rule.joinFor statement)
          (Role.distinct u.roles) s w).1 = _ := ofRoles_of_not_answersAll hg hf hnone
      rw [hr] at hsearch
      rw [if_neg hall, asked_eq_distinct hnone]
      exact (congrArg _ hsearch).trans (map_elim_error _ _ _)

/-- A row is visible if no role that is asked for fails, and a role grants every row or the
conditions of all roles grant this one. -/
theorem shows_grant_iff (hg : ofSettings settings = .ok g) (hf : resolver.AnswersBy f)
    (hprivileged : g.isPrivileged u = false) :
    Grant.shows row (g.grant resolver rule u statement s w).1 = true ↔
      (∀ role ∈ asked f u, g.failure? f rule u s.bindings role = none) ∧
        ((∃ role ∈ Role.distinct u.roles, role.answersAll f u = true) ∨
          Grant.shows row (.ok (.ofRoles (rule.joinFor statement)
            ((Role.distinct u.roles).filterMap
              (g.group? f rule u (rule.joinFor statement) s.bindings)))) = true) := by
  rw [grant_of_answersBy hg hf hprivileged, ← List.findSome?_eq_none_iff, ← List.any_eq_true]
  cases (asked f u).findSome? (g.failure? f rule u s.bindings) with
  | some e => simp [Grant.shows]
  | none =>
    cases (Role.distinct u.roles).any (·.answersAll f u) with
    | true => simp [Grant.shows]
    | false => simp

theorem exists_group?_of_failure? (hg : ofSettings settings = .ok g)
    (hfailure : g.failure? f rule u s.bindings role = none)
    (hall : role.answersAll f u = false) (join : Join) :
    ∃ c, g.group? f rule u join s.bindings role = some c := by
  have hf : (Resolver.ofFunction f : Resolver Unit).AnswersBy f := Resolver.answersBy_ofFunction f
  rcases hrole : g.ofRole (.ofFunction f) rule u join role s () with ⟨answer, s', w'⟩
  rcases (ofRole_of_answersBy hg hf hrole).2 with ⟨hall', -⟩ | ⟨-, ⟨e, -, he⟩ | ⟨c, rfl, -⟩⟩
  · exact absurd hall' (by simp [hall])
  · exact absurd he (by simp [hfailure])
  · obtain ⟨-, r, t, hr, ht, hc⟩ := condition_of_ofRole hf hrole
    exact ⟨c, group?_eq_some_iff.2 ⟨r, t, hr, ht, hc⟩⟩

/-- A row that is visible for a write meets the template of every role that is kept, if a
mapping needs it. -/
theorem admits_of_shows (hg : ofSettings settings = .ok g) (hf : resolver.AnswersBy f)
    (hprivileged : g.isPrivileged u = false) (hand : rule.joinFor statement = .and)
    (hshown : Grant.shows row (g.grant resolver rule u statement s w).1 = true)
    (hall : ∀ role ∈ Role.distinct u.roles, role.answersAll f u = false)
    {before after : List Role} (hroles : Role.distinct u.roles = before ++ role :: after)
    (hkept : ∀ e, (g.grant resolver rule u statement s w).1 = .ok (.rows e) →
      e.matchesZero = false ∨ g.IsKept f rule u .and s.bindings before role)
    {r : Resolution} (hr : f role u = .ok r)
    (ht : ScopeTemplate.ofScope? g.templates r.scope = some t) (hm : m ∈ rule.mappings)
    (hexempt : m.exempts u = false) (hoverlap : t.overlaps m.keys = true) :
    t.template.Admits g.missing (rule.layers u role r s.bindings) row := by
  have hrole : role ∈ Role.distinct u.roles := by
    rw [hroles]
    simp
  obtain ⟨hfailure, hgranted⟩ := (shows_grant_iff hg hf hprivileged).1 hshown
  -- the role has a condition, so the grant is one
  obtain ⟨c, hc⟩ := exists_group?_of_failure? hg (hfailure role (asked_eq_distinct hall ▸ hrole))
    (hall role hrole) (rule.joinFor statement)
  obtain ⟨e, he⟩ : ∃ e, (g.grant resolver rule u statement s w).1 = .ok (.rows e) := by
    rw [grant_of_answersBy hg hf hprivileged, List.findSome?_eq_none_iff.2 hfailure,
      if_neg (by simpa using hall)]
    rcases Grant.ofRoles_cases (rule.joinFor statement) ((Role.distinct u.roles).filterMap
      (g.group? f rule u (rule.joinFor statement) s.bindings)) with ⟨hnil, -⟩ | ⟨e, he⟩
    · have hmem := List.mem_filterMap.2 ⟨role, hrole, hc⟩
      rw [hnil] at hmem
      exact absurd hmem List.not_mem_nil
    · exact ⟨e, congrArg Except.ok he⟩
  rw [he] at hshown
  obtain ⟨d, hd, hrow⟩ := truth_of_grant_write hf hand he hshown hroles (hkept e he)
  obtain ⟨r', t', hr', ht', hcondition⟩ := group?_eq_some_iff.1 hd
  obtain rfl := Except.ok.inj (hr.symm.trans hr')
  obtain rfl := Option.some.inj (ht.symm.trans ht')
  exact admits_of_condition hcondition hrow hm hexempt hoverlap

end Function

/-- A row that meets the conditions of all roles is granted, however they are joined. -/
theorem shows_ofRoles (h : ∀ c ∈ fs, c.truth row = .holds) :
    Grant.shows row (.ok (.ofRoles join fs)) = true := by
  rcases Grant.ofRoles_cases join fs with ⟨-, hnone⟩ | ⟨e, he⟩
  · rw [hnone]
    rfl
  · rw [he]
    refine Filter.admits_iff.2 ((truth_of_grant_ofRoles he row).1.trans ?_)
    have hholds : ∀ t ∈ (Filter.distinct fs).map (Filter.truth row), t = .holds := by
      intro t ht
      obtain ⟨c, hc, rfl⟩ := List.mem_map.1 ht
      exact h c (mem_of_mem_eraseDupsBy hc)
    cases join with
    | and => exact Truth.all_eq_holds_iff.2 hholds
    | or =>
      refine Truth.any_eq_holds_iff.2 ?_
      cases hd : (Filter.distinct fs).map (Filter.truth row) with
      | nil =>
        rw [eraseDupsBy_eq_nil_iff.1 (List.map_eq_nil_iff.1 hd)] at he
        exact absurd he (by simp [Grant.ofRoles, Filter.distinct, Filter.join?])
      | cons t ts =>
        rw [hholds t (by simp [hd])]
        exact List.mem_cons_self

/-- The condition of a role holds when the user is exempt from a mapping: at once in a
disjunction, and in a conjunction if the row meets the template where it is needed. -/
theorem truth_of_exempts (hc : g.condition t layers u rule join = .ok c)
    (hm : m ∈ rule.mappings) (hexempt : m.exempts u = true)
    (hmeets : join = .and → needsFragment t u rule = true →
      t.template.Admits g.missing layers row) : c.truth row = .holds := by
  obtain ⟨fragments, hfragments, rfl⟩ := Except.map_eq_ok_iff.1 hc
  have halways : .always ∈ fragments.filterMap id :=
    (mem_fragments_iff hfragments).2 ⟨m, hm, fragment?_eq_some_iff.2 (.inl ⟨hexempt, rfl⟩)⟩
  rcases hj : Filter.join? join (Filter.distinct (fragments.filterMap id)) with _ | j
  · rw [eraseDupsBy_eq_nil_iff.1 (Filter.join?_eq_none_iff.1 hj)] at halways
    exact absurd halways List.not_mem_nil
  · refine Eq.trans (truth_of_fragments hfragments hj row) ?_
    cases join with
    | or => exact Truth.any_eq_holds_iff.2 (List.mem_map.2 ⟨_, halways, rfl⟩)
    | and =>
      refine Truth.all_eq_holds_iff.2 fun outcome houtcome => ?_
      obtain ⟨d, hd, rfl⟩ := List.mem_map.1 houtcome
      obtain ⟨m', hm', hfragment⟩ := (mem_fragments_iff hfragments).1 hd
      rcases fragment?_eq_some_iff.1 hfragment with ⟨-, rfl⟩ | ⟨hex, hoverlap, hd'⟩
      · rfl
      · have hneed : needsFragment t u rule = true :=
          List.any_eq_true.2 ⟨m', hm', by simp [hex, hoverlap]⟩
        obtain ⟨d', hd'', hrow⟩ := hmeets rfl hneed
        obtain rfl := Except.ok.inj (hd'.symm.trans hd'')
        exact Filter.admits_iff.1 hrow

theorem needsFragment_of_gain (h : needsFragment t (u.gain capability) rule = true) :
    ∃ m ∈ rule.mappings, m.exempts u = false ∧ t.overlaps m.keys = true := by
  obtain ⟨m, hm, hneed⟩ := List.any_eq_true.1 h
  rw [Bool.and_eq_true, Bool.not_eq_true'] at hneed
  refine ⟨m, hm, Bool.eq_false_iff.2 fun hexempt => ?_, hneed.2⟩
  rw [Mapping.exempts_gain capability hexempt] at hneed
  exact absurd hneed.1 (by simp)

section Retaining

variable {f : Role → Resolution} {bindings : Bindings} {R R' : Filter → Filter → Prop}

/-- A template that is still needed for a role when a user has become another one still spells
a condition, if it did before, and one that `R` relates to the former. -/
def Retains (g : Granter) (f : Role → Resolution) (rule : Rule) (u u' : User)
    (bindings : Bindings) (R : Filter → Filter → Prop) (role : Role) : Prop :=
  ∀ t c, ScopeTemplate.ofScope? g.templates (f role).scope = some t →
    needsFragment t u' rule = true →
    t.template.condition g.missing (rule.layers u role (f role) bindings) = .ok c →
    ∃ c', t.template.condition g.missing (rule.layers u' role (f role) bindings) = .ok c' ∧ R c c'

/-- A template retains all if its names have the columns that they had before. -/
theorem retains_of_columns (hR : ∀ c, R c c)
    (h : ∀ t, ScopeTemplate.ofScope? g.templates (f role).scope = some t →
      needsFragment t (u.gain capability) rule = true →
      ∀ name ∈ t.template.names, rule.column? (u.gain capability) name = rule.column? u name) :
    g.Retains f rule u (u.gain capability) bindings R role := by
  intro t c ht hneed hc
  refine ⟨c, (Template.condition_congr fun name hname => ?_).trans hc, hR c⟩
  rw [first?_layers, first?_layers, h t ht hneed name hname]
  rfl

/-- A role that did not fail does not fail with the capability. -/
theorem failure?_gain
    (hspells : g.Retains f rule u (u.gain capability) bindings (fun _ _ => True) role)
    (h : g.failure? (fun role _ => .ok (f role)) rule u bindings role = none) :
    g.failure? (fun role _ => .ok (f role)) rule (u.gain capability) bindings role = none := by
  unfold failure? at h ⊢
  cases ht : ScopeTemplate.ofScope? g.templates (f role).scope with
  | none => simp [ht]
  | some t =>
    simp only [ht] at h ⊢
    by_cases hneed : needsFragment t (u.gain capability) rule = true
    · obtain ⟨m, hm, hexempt, hoverlap⟩ := needsFragment_of_gain hneed
      have hneeded : needsFragment t u rule = true :=
        List.any_eq_true.2 ⟨m, hm, by simp [hexempt, hoverlap]⟩
      rw [if_pos hneeded, Option.map_eq_none_iff] at h
      rw [if_pos hneed, Option.map_eq_none_iff]
      cases hc : t.template.condition g.missing (rule.layers u role (f role) bindings) with
      | error e => exact absurd h (by simp [hc, errorOf?])
      | ok c =>
        obtain ⟨c', hc', -⟩ := hspells t c ht hneed hc
        rw [hc']
        rfl
    · rw [if_neg hneed]

/-- Without another exemption the capability changes nothing. -/
theorem grant_gain (hg : ofSettings settings = .ok g)
    (hf : resolver.AnswersBy fun role _ => .ok (f role))
    (hprivileged : g.isPrivileged (u.gain capability) = false)
    (h : ∀ m ∈ rule.mappings, m.exempts (u.gain capability) = m.exempts u) :
    (g.grant resolver rule (u.gain capability) statement s w').1
      = (g.grant resolver rule u statement s w).1 := by
  have hlayers (role : Role) (r : Resolution) :
      rule.layers (u.gain capability) role r s.bindings = rule.layers u role r s.bindings := by
    rw [Rule.layers, Rule.bindings,
      List.filter_congr fun m hm => congrArg (fun exempt => !exempt) (h m hm)]
    rfl
  have hcondition (t : ScopeTemplate) (layers : List Bindings) (join : Join) :
      g.condition t layers (u.gain capability) rule join = g.condition t layers u rule join := by
    have hfragments : rule.mappings.mapM (g.fragment? t layers (u.gain capability))
        = rule.mappings.mapM (g.fragment? t layers u) :=
      mapM_congr fun m hm => by rw [fragment?, fragment?, h m hm]
    rw [condition, condition, hfragments]
  have hneeds (t : ScopeTemplate) :
      needsFragment t (u.gain capability) rule = needsFragment t u rule := by
    rw [needsFragment, needsFragment, Bool.eq_iff_iff, List.any_eq_true, List.any_eq_true]
    exact exists_congr fun m => and_congr_right fun hm => by rw [h m hm]
  have hfailure (role : Role) :
      g.failure? (fun role _ => .ok (f role)) rule (u.gain capability) s.bindings role
        = g.failure? (fun role _ => .ok (f role)) rule u s.bindings role := by
    simp only [failure?, hlayers, hneeds]
  have hgroup (join : Join) (role : Role) :
      g.group? (fun role _ => .ok (f role)) rule (u.gain capability) join s.bindings role
        = g.group? (fun role _ => .ok (f role)) rule u join s.bindings role := by
    simp only [group?, hlayers, hcondition]
  rw [grant_of_answersBy hg hf hprivileged, grant_of_answersBy hg hf
    (isPrivileged_of_gain hprivileged)]
  simp only [funext hfailure, funext (hgroup _)]
  rfl

/-- **A row that is visible stays visible when the user gains a capability**, if the templates
that are still needed retain that: those of the roles that are asked for still spell a
condition, and for a write they still admit the row. -/
theorem shows_gain (hg : ofSettings settings = .ok g)
    (hf : resolver.AnswersBy fun role _ => .ok (f role))
    (hshown : Grant.shows row (g.grant resolver rule u statement s w).1 = true)
    (hspells : ∀ role ∈ asked (fun role _ => .ok (f role)) u,
      g.Retains f rule u (u.gain capability) s.bindings (fun _ _ => True) role)
    (hmeets : rule.joinFor statement = .and →
      (∀ role ∈ Role.distinct u.roles, (f role).scope ≠ .all) →
      ∀ role ∈ Role.distinct u.roles, g.Retains f rule u (u.gain capability) s.bindings
        (fun c c' => c.admits row = true → c'.admits row = true) role)
    (hkept : rule.joinFor statement = .and →
      (∃ m ∈ rule.mappings, m.exempts u = false ∧ m.exempts (u.gain capability) = true) →
      ∀ e, (g.grant resolver rule u statement s w).1 = .ok (.rows e) → e.matchesZero = true →
      ∀ before role after, Role.distinct u.roles = before ++ role :: after →
        g.IsKept (fun role _ => .ok (f role)) rule u .and s.bindings before role) :
    Grant.shows row (g.grant resolver rule (u.gain capability) statement s w').1 = true := by
  by_cases hp : g.isPrivileged (u.gain capability) = true
  · rw [grant, if_pos hp]
    rfl
  rw [Bool.not_eq_true] at hp
  by_cases hsame : ∀ m ∈ rule.mappings, m.exempts (u.gain capability) = m.exempts u
  · rw [grant_gain (w := w) hg hf hp hsame]
    exact hshown
  -- the user is exempt from a mapping now
  obtain ⟨m, hm, hexempt, hnew⟩ :
      ∃ m ∈ rule.mappings, m.exempts u = false ∧ m.exempts (u.gain capability) = true := by
    simp only [not_forall] at hsame
    obtain ⟨m, hm, hne⟩ := hsame
    cases hexempt : m.exempts u with
    | false => exact ⟨m, hm, hexempt, by simpa [hexempt] using hne⟩
    | true => exact absurd (hexempt ▸ Mapping.exempts_gain capability hexempt) hne
  have hp' := isPrivileged_of_gain hp
  obtain ⟨hfailure, hgranted⟩ := (shows_grant_iff hg hf hp').1 hshown
  refine (shows_grant_iff hg hf hp).2
    ⟨fun role hrole => failure?_gain (hspells role hrole) (hfailure role hrole), ?_⟩
  by_cases hall : ∃ role ∈ Role.distinct u.roles,
      role.answersAll (fun role _ => .ok (f role)) u = true
  · exact .inl hall
  have hnone : ∀ role ∈ Role.distinct u.roles,
      role.answersAll (fun role _ => .ok (f role)) u = false := by simpa using hall
  -- the condition of every role holds: the exemption is enough, or what it still needs does
  refine .inr (shows_ofRoles fun c hc => ?_)
  obtain ⟨role, hrole, hgroup⟩ := List.mem_filterMap.1 hc
  obtain ⟨r, t, hr, ht, hcondition⟩ := group?_eq_some_iff.1 hgroup
  obtain rfl := Except.ok.inj hr
  refine truth_of_exempts hcondition hm hnew fun hand hneed => ?_
  obtain ⟨m', hm', hexempt', hoverlap⟩ := needsFragment_of_gain hneed
  obtain ⟨before, after, hroles⟩ := List.append_of_mem hrole
  have hscopes : ∀ role ∈ Role.distinct u.roles, (f role).scope ≠ .all := fun role hrole =>
    beq_eq_false_iff_ne.1 (hnone role hrole)
  have hzero : ∀ e, (g.grant resolver rule u statement s w).1 = .ok (.rows e) →
      e.matchesZero = false ∨
        g.IsKept (fun role _ => .ok (f role)) rule u .and s.bindings before role := by
    intro e he
    cases hz : e.matchesZero with
    | false => exact .inl rfl
    | true => exact .inr (hkept hand ⟨m, hm, hexempt, hnew⟩ e he hz before role after hroles)
  obtain ⟨d, hd, hrow⟩ :=
    admits_of_shows hg hf hp' hand hshown hnone hroles hzero rfl ht hm' hexempt' hoverlap
  obtain ⟨d', hd', hretains⟩ := hmeets hand hscopes role hrole t d ht hneed hd
  exact ⟨d', hd', hretains hrow⟩

/-- The condition on a department goes away, and the one on the owner stays. -/
theorem shows_gain_other_column :
    let owner : Mapping := ⟨[("userName", "owner")], none, by decide⟩
    let dept : Mapping := ⟨[("deptName", "dept")], some "dept:all", by decide⟩
    let rule : Rule := ⟨[owner, dept], none, by decide⟩
    let u : User := ⟨.int 7, some 2, [⟨1, "own", .own⟩, ⟨2, "dept", .dept⟩], .empty, .empty⟩
    let f : Role → Resolution := fun role => ⟨role.scope, []⟩
    let grant (u : User) : Except PolicyError Grant :=
      (standard.grant (.ofFunction fun role _ => .ok (f role)) rule u .update .start ()).1
    let row : Row := [("owner", .int 7), ("dept", .int 2)]
    ofSettings .standard = .ok standard ∧
      (Resolver.ofFunction fun role _ => .ok (f role) : Resolver Unit).AnswersBy
        (fun role _ => .ok (f role)) ∧
      dept.exempts u = false ∧ dept.exempts (u.gain "dept:all") = true ∧
      Grant.shows row (grant u) = true ∧ Grant.shows row (grant (u.gain "dept:all")) = true := by
  intro owner dept rule u f grant row
  have hf : (Resolver.ofFunction fun role _ => .ok (f role) : Resolver Unit).AnswersBy
      (fun role _ => .ok (f role)) := Resolver.answersBy_ofFunction _
  have hshown : Grant.shows row (grant u) = true := by decide +kernel
  -- what is still needed are the templates with the column of the owner alone
  have hcolumns : (Role.distinct u.roles).all (fun role =>
      (ScopeTemplate.ofScope? standard.templates (f role).scope).all fun t =>
        !needsFragment t (u.gain "dept:all") rule || t.template.names.all fun name =>
          rule.column? (u.gain "dept:all") name == rule.column? u name) = true := by decide +kernel
  have hretains (R : Filter → Filter → Prop) (hR : ∀ c, R c c) :
      ∀ role ∈ Role.distinct u.roles,
        standard.Retains f rule u (u.gain "dept:all") Session.start.bindings R role := by
    intro role hrole
    refine retains_of_columns hR fun t ht hneed name hname => ?_
    have hrest := List.all_eq_true.1 hcolumns role hrole
    rw [ht, Option.all_some, hneed, Bool.not_true, Bool.false_or, List.all_eq_true] at hrest
    exact beq_iff_eq.1 (hrest name hname)
  have hzero : ((grant u).toOption.bind Grant.condition?).all (fun e => !e.matchesZero) = true := by
    decide +kernel
  refine ⟨ofSettings_standard, hf, by decide +kernel, by decide +kernel, hshown, ?_⟩
  refine shows_gain ofSettings_standard hf hshown
    (fun role hrole => hretains _ (fun _ => trivial) role (List.takeWhile_subset _ hrole))
    (fun _ _ => hretains _ fun _ => id) (fun _ _ e he hz => ?_)
  have hgrant : grant u = .ok (.rows e) := he
  rw [hgrant] at hzero
  exact absurd hz (by simpa [Except.toOption, Grant.condition?] using hzero)

/-- The templates retain what a row needs, if it is visible with the capability. -/
theorem retains_of_shows_gain (hg : ofSettings settings = .ok g)
    (hf : resolver.AnswersBy fun role _ => .ok (f role))
    (hprivileged : g.isPrivileged (u.gain capability) = false)
    (hshown : Grant.shows row (g.grant resolver rule (u.gain capability) statement s w).1 = true) :
    (∀ role ∈ asked (fun role _ => .ok (f role)) u,
        g.Retains f rule u (u.gain capability) s.bindings (fun _ _ => True) role) ∧
      (rule.joinFor statement = .and →
        (∀ role ∈ Role.distinct u.roles, (f role).scope ≠ .all) →
        (∀ e, (g.grant resolver rule (u.gain capability) statement s w).1 = .ok (.rows e) →
          e.matchesZero = false) →
        ∀ role ∈ Role.distinct u.roles, g.Retains f rule u (u.gain capability) s.bindings
          (fun _ c' => c'.admits row = true) role) := by
  refine ⟨fun role hrole t c ht hneed hc => ?_, fun hand hall hzero role hrole t c ht hneed hc => ?_⟩
  · have hfailure := ((shows_grant_iff hg hf hprivileged).1 hshown).1 role hrole
    simp only [failure?, ht, if_pos hneed, Option.map_eq_none_iff] at hfailure
    cases hc' : t.template.condition g.missing
        (rule.layers (u.gain capability) role (f role) s.bindings) with
    | error e => exact absurd hfailure (by simp [hc', errorOf?])
    | ok c' => exact ⟨c', rfl, trivial⟩
  · obtain ⟨m, hm, hm'⟩ := List.any_eq_true.1 hneed
    rw [Bool.and_eq_true, Bool.not_eq_true'] at hm'
    obtain ⟨before, after, hroles⟩ := List.append_of_mem hrole
    exact admits_of_shows hg hf hprivileged hand hshown
      (fun role hrole => beq_eq_false_iff_ne.2 (hall role hrole)) hroles
      (fun e he => .inl (hzero e he)) rfl ht hm hm'.1 hm'.2

end Retaining

/-- A row is visible to a user, and is not with one more capability. -/
def Hides (g : Granter) (f : Role → Resolution) (rule : Rule) (u : User) (statement : Statement)
    (s : Session) (row : Row) (capability : String) : Prop :=
  let shown (u : User) : Bool :=
    Grant.shows row (g.grant (.ofFunction fun role _ => .ok (f role)) rule u statement s ()).1
  shown u = true ∧ shown (u.gain capability) = false

instance {f : Role → Resolution} : Decidable (g.Hides f rule u statement s row capability) :=
  inferInstanceAs (Decidable (_ ∧ _))

/-- A capability can hide a row: a template has a column no more, or has the one of an earlier
mapping, which spells nothing, or a role no longer stands for another one that differs from it
in the sign of a zero. -/
theorem gain_hides_rows :
    let f : Role → Resolution := fun role => ⟨role.scope, [.int 2]⟩
    let dept : Mapping := ⟨[("deptName", "dept_id")], some "dept:all", by decide⟩
    let owner : Mapping := ⟨[("userName", "user_id")], none, by decide⟩
    let keyword : Mapping := ⟨[("deptName", "and")], none, by decide⟩
    let own : Mapping := ⟨[("userName", "c")], some "own:all", by decide⟩
    let same : Mapping := ⟨[("deptName", "c")], none, by decide⟩
    standard.Hides f ⟨[dept, owner], none, by decide⟩
        ⟨.int 7, some 2, [⟨1, "mixed", .deptAndChildOrOwn⟩], .empty, .empty⟩ .update .start
        [("dept_id", .int 9), ("user_id", .int 7)] "dept:all" ∧
      standard.Hides f ⟨[keyword, dept], none, by decide⟩
        ⟨.int 7, some 2, [⟨1, "dept", .dept⟩], .empty, .empty⟩ .select .start
        [("dept_id", .int 2)] "dept:all" ∧
      standard.Hides f ⟨[own, same], none, by decide⟩
        ⟨.null, none, [⟨1, "own", .own⟩, ⟨2, "dept", .dept⟩], .empty, .empty⟩ .update
        ((Session.start.setVariable "user.userId" (.column "1 OR -0.0 LIKE '-%'")).setVariable
          "user.deptId" (.column "1 OR 0.0 LIKE '-%'")) [("c", .int 2)] "own:all" := by
  decide +kernel

end Granter

end RowScope
