/-
What is granted can be written down.

The condition of a role is spelled by a template, and with no double among the values that
are put into it no operand of it is one.  Joins and parentheses keep its operands, so every
condition that a statement comes to has a text of its own.

* `Granter.hasPlainTexts_text?` — the texts that a granter puts into a template;
* `Granter.isWritable_of_template` — what such a template spells can be written;
* `Granter.isWritable_of_grant` — and so can what is granted;
* `Enforcer.filter_cases` — what the condition of a statement becomes;
* `Enforcer.isWritable_of_enforce` — what it becomes can be written, if it could before.

Design notes: the text for a missing value need not be a value, so only its decimals are
known.  It stands for placeholders of the user alone: a placeholder of the rule without a
column makes the template deny, and a set of ids is never empty where it is used.
-/
import RowScope.Proofs.Access.Meaning
import RowScope.Proofs.Access.Narrowing
import RowScope.Proofs.Template.Decimals
import RowScope.Access.Directory

namespace RowScope

variable {σ : Type}

/-! ### Values without doubles -/

/-- Neither the id of the user nor an attribute is a double. -/
def User.isDoubleFree (u : User) : Bool :=
  !u.id.isDouble && u.attributes.entries.all fun (_, v) => !v.isDouble

/-- The ids of a role are nulls or scalars other than doubles, and there is one if its scope
is described by them. -/
structure Resolution.IsSpelled (r : Resolution) : Prop where
  plain : ∀ v ∈ r.ids, v.isPlain = true
  nonempty : r.scope.needsIds = true → r.ids ≠ []

theorem Settings.isPlain_sentinel (settings : Settings) : settings.sentinel.isPlain = true := by
  unfold sentinel
  split
  · rfl
  · rfl

theorem Directory.isPlain_orSentinel {sentinel : Value} (hs : sentinel.isPlain = true)
    (ids : List Int64) :
    (∀ v ∈ orSentinel sentinel ids, v.isPlain = true) ∧ orSentinel sentinel ids ≠ [] := by
  unfold orSentinel
  split
  · exact ⟨List.forall_mem_singleton.2 hs, by simp⟩
  · next hne =>
    refine ⟨fun v hv => ?_, by simpa using hne⟩
    obtain ⟨id, -, rfl⟩ := List.mem_map.1 hv
    rfl

/-- A directory gives every role ids that can be spelled. -/
theorem Directory.isSpelled_of_resolve {d : Directory} {sentinel : Value}
    (hs : sentinel.isPlain = true) {role : Role} {u : User} {r : Resolution}
    (h : d.resolve sentinel role u = .ok r) : r.IsSpelled := by
  have hids (ids : List Int64) (scope : Scope) :
      Resolution.IsSpelled ⟨scope, orSentinel sentinel ids⟩ := by
    obtain ⟨hplain, hne⟩ := isPlain_orSentinel hs ids
    exact ⟨hplain, fun _ => hne⟩
  unfold resolve at h
  cases hscope : role.scope with
  | custom =>
    simp only [hscope] at h
    split at h
    · exact absurd h (by simp)
    · obtain rfl := Except.ok.inj h
      exact hids _ _
  | deptAndChild | deptAndChildOrOwn =>
    simp only [hscope] at h
    obtain rfl := Except.ok.inj h
    exact hids _ _
  | all | dept | own =>
    simp only [hscope] at h
    obtain rfl := Except.ok.inj h
    exact ⟨by simp, by simp [Scope.needsIds]⟩

theorem Rule.isColumn_of_column? {rule : Rule} {u : User} {name column : String}
    (h : rule.column? u name = some column) : Name.isColumn column = true := by
  have hmem := List.mem_reverse.1 (mem_of_lookup h)
  obtain ⟨m, -, hm⟩ := List.mem_flatMap.1 hmem
  exact m.isColumn _ hm

theorem startsWith_append (start name : String) : startsWith start (start ++ name) = true := by
  rw [startsWith, String.toList_append, List.isPrefixOf_iff_prefix]
  exact List.prefix_append _ _

/-- The bindings are values of a user, none of them a double. -/
def Bindings.AreOfUser (m : Bindings) : Prop :=
  ∀ name b, m.find? name = some b →
    startsWith "user." name = true ∧ ∃ v, b = .value v ∧ v.isDouble = false

/-- The bindings have plain texts. -/
def Bindings.ArePlain (missing : String) (m : Bindings) : Prop :=
  ∀ name b, m.find? name = some b → IsPlainText (b.sql missing)

theorem Bindings.AreOfUser.insert {m : Bindings} (h : AreOfUser m) {name : String}
    (hname : startsWith "user." name = true) {v : Value} (hv : v.isDouble = false) :
    AreOfUser (m.insert name (.value v)) := by
  intro name' b hfind
  rw [KeyMap.find?_insert] at hfind
  split at hfind
  · next heq =>
    obtain rfl := Option.some.inj hfind
    exact ⟨heq ▸ hname, v, rfl, hv⟩
  · exact h name' b hfind

theorem User.areOfUser_bindings {u : User} (hu : u.isDoubleFree = true) :
    Bindings.AreOfUser u.bindings := by
  simp only [isDoubleFree, Bool.and_eq_true, Bool.not_eq_true', List.all_eq_true] at hu
  obtain ⟨hid, hattributes⟩ := hu
  have hattribute : Bindings.AreOfUser u.attributeBindings := by
    intro name b h
    rw [attributeBindings, KeyMap.find?_ofList] at h
    obtain ⟨⟨key, v⟩, hmem, he⟩ := List.mem_map.1 (List.mem_reverse.1 (mem_of_lookup h))
    obtain ⟨rfl, rfl⟩ := Prod.mk.inj he
    exact ⟨startsWith_append _ _, v, rfl, hattributes _ hmem⟩
  have hnamed : Bindings.AreOfUser (if u.id.isNull then u.attributeBindings
      else u.attributeBindings.insert "user.userId" (.value u.id)) := by
    split
    · exact hattribute
    · exact hattribute.insert rfl hid
  rw [bindings]
  cases u.department with
  | none => exact hnamed
  | some d => exact hnamed.insert rfl rfl

namespace Granter

variable {g : Granter} {resolver : Resolver σ} {rule : Rule} {u : User} {role : Role}
  {r : Resolution} {bindings : Bindings}

/-! ### Texts of placeholders -/

theorem isDecimalFree_value {missing : String} (hmissing : Filter.isDecimalFree missing = true)
    {v : Value} (hv : v.isDouble = false) :
    Filter.isDecimalFree (Binding.sql missing (.value v)) = true := by
  rw [Binding.sql]
  split
  · exact hmissing
  · next hempty => exact (Value.isPlainText_sql hv (by simpa using hempty)).isDecimalFree

theorem isPlainText_ids (hr : r.IsSpelled) (hscope : r.scope.needsIds = true) (missing : String) :
    IsPlainText (Binding.sql missing (.values r.ids)) := by
  have hne := hr.nonempty hscope
  rw [Binding.sql, if_neg (by simpa using hne)]
  exact isPlainText_values hr.plain hne

/-- Where the text of a placeholder comes from: a column of the rule, the role, the user or
the session. -/
theorem text?_cases {name s : String} (h : g.text? rule u role r bindings name = some s) :
    Name.isColumn s = true ∨ ∃ b, s = b.sql g.missing ∧ ((role.bindings r).find? name = some b ∨
      u.bindings.find? name = some b ∨ bindings.find? name = some b) := by
  rw [text?, Option.or_eq_some_iff] at h
  rcases h with hcolumn | ⟨-, h⟩
  · exact .inl (Rule.isColumn_of_column? hcolumn)
  · obtain ⟨b, hb, rfl⟩ := Option.map_eq_some_iff.1 h
    rw [Option.or_eq_some_iff, Option.or_eq_some_iff] at hb
    exact .inr ⟨b, rfl, by tauto⟩

section Texts

variable (hmissing : Filter.isDecimalFree g.missing = true) (hu : u.isDoubleFree = true)
  (hbindings : Bindings.ArePlain g.missing bindings)

include hu hbindings

/-- A placeholder that is not one of the user has a plain text. -/
theorem isPlainText_of_text? {name s : String} (hname : startsWith "user." name = false)
    (hrole : ∀ b, (role.bindings r).find? name = some b → IsPlainText (b.sql g.missing))
    (h : g.text? rule u role r bindings name = some s) : IsPlainText s := by
  rcases text?_cases h with hcolumn | ⟨b, rfl, hb | hb | hb⟩
  · exact isPlainText_of_isColumn hcolumn
  · exact hrole b hb
  · obtain ⟨huser, -⟩ := User.areOfUser_bindings hu name b hb
    exact absurd huser (by simp [hname])
  · exact hbindings name b hb

include hmissing

/-- A placeholder that the role has nothing for has a text without decimals. -/
theorem isDecimalFree_of_text? {name s : String} (hrole : (role.bindings r).find? name = none)
    (h : g.text? rule u role r bindings name = some s) : Filter.isDecimalFree s = true := by
  rcases text?_cases h with hcolumn | ⟨b, rfl, hb | hb | hb⟩
  · exact (isPlainText_of_isColumn hcolumn).isDecimalFree
  · exact absurd hb (by simp [hrole])
  · obtain ⟨-, v, rfl, hv⟩ := User.areOfUser_bindings hu name b hb
    exact isDecimalFree_value hmissing hv
  · exact (hbindings name b hb).isDecimalFree

/-- The texts of all placeholders, if the ids of the role can be spelled. -/
theorem hasPlainTexts_text? (hr : r.IsSpelled) :
    HasPlainTexts r.scope (g.text? rule u role r bindings) where
  dept _ h := by
    have hnone : (role.bindings r).find? "deptName" = none := rfl
    exact isPlainText_of_text? hu hbindings rfl (by simp [hnone]) h
  owner _ h := by
    have hnone : (role.bindings r).find? "userName" = none := rfl
    exact isPlainText_of_text? hu hbindings rfl (by simp [hnone]) h
  ids hscope _ h := by
    refine isPlainText_of_text? hu hbindings rfl (fun b hb => ?_) h
    obtain rfl : .values r.ids = b := Option.some.inj hb
    exact isPlainText_ids hr hscope g.missing
  department _ h := isDecimalFree_of_text? hmissing hu hbindings rfl h
  user _ h := isDecimalFree_of_text? hmissing hu hbindings rfl h

end Texts

end Granter

/-! ### Conditions -/

namespace Filter

variable {isName : String → Bool}

theorem isWritable_iff {f : Filter} :
    f.isWritable isName = true ↔ ∀ leaf ∈ f.leaves, leaf.isWritableLeaf isName = true :=
  List.all_eq_true

theorem isWritable_of_join? {j : Join} {fs : List Filter} {f : Filter} (h : join? j fs = some f)
    (hfs : ∀ g ∈ fs, g.isWritable isName = true) : f.isWritable isName = true := by
  refine isWritable_iff.2 fun leaf hleaf => ?_
  obtain ⟨g, hg, hleaf⟩ := (mem_leaves_of_join? h).1 hleaf
  exact isWritable_iff.1 (hfs g hg) leaf hleaf

theorem isWritable_conjoin {existing : Option Filter} {f : Filter}
    (he : ∀ e ∈ existing, e.isWritable isName = true) (hf : f.isWritable isName = true) :
    (conjoin existing f).isWritable isName = true := by
  cases existing with
  | none => exact hf
  | some e =>
    refine isWritable_iff.2 fun leaf hleaf => ?_
    rcases List.mem_append.1 hleaf with hleaf | hleaf
    · exact isWritable_iff.1 (he e rfl) leaf hleaf
    · rw [leavesAll, leavesAll, List.append_nil] at hleaf
      exact isWritable_iff.1 hf leaf hleaf

/-- What a text without decimals spells can be written. -/
theorem isWritable_of_parse {s : String} {f : Filter} (hs : isDecimalFree s = true)
    (h : parse s = .ok f) : f.isWritable isIdentifier = true :=
  isWritable_of_isCanonical (isCanonical_of_parse h (isDoubleFree_of_parse hs h))

end Filter

theorem Scope.isDecimalFree_fallback {scope : Scope} {source fallback : String}
    (h : scope.template? = some (source, fallback)) : Filter.isDecimalFree fallback = true := by
  have hdeny : fallback = denyFragment := by
    cases scope with
    | all => exact absurd h (by simp [template?])
    | _ => exact (Prod.mk.inj (Option.some.inj h)).2.symm
  rw [hdeny]
  decide +kernel

namespace Granter

variable {settings : Settings} {g : Granter} {resolver : Resolver σ} {rule : Rule} {u : User}
  {join : Join} {role : Role} {roles : List Role} {r : Resolution} {bindings : Bindings}
  {statement : Statement} {t : ScopeTemplate} {layers : List Bindings}
  {f : Role → User → Except ResolveError Resolution} {s s' : Session} {w w' : σ}

/-- The condition of a role can be written, if what its template spells can. -/
theorem isWritable_of_condition {c : Filter} (h : g.condition t layers u rule join = .ok c)
    (htemplate : ∀ c, t.template.condition g.missing layers = .ok c →
      c.isWritable isIdentifier = true)
    (hfallback : t.fallback.isWritable isIdentifier = true) :
    c.isWritable isIdentifier = true := by
  obtain ⟨fragments, hfragments, rfl⟩ := Except.map_eq_ok_iff.1 h
  show Filter.isWritable isIdentifier (Option.getD _ _) = true
  rcases hj : Filter.join? join (Filter.distinct (fragments.filterMap id)) with _ | c
  · exact hfallback
  · refine Filter.isWritable_of_join? hj fun c hc => ?_
    obtain ⟨m, -, hm⟩ := (mem_fragments_iff hfragments).1 (mem_of_mem_eraseDupsBy hc)
    rcases eq_of_fragment? hm with rfl | hc
    · rfl
    · exact htemplate c hc

section Written

variable (hg : ofSettings settings = .ok g)
  (hmissing : Filter.isDecimalFree settings.missing = true) (hu : u.isDoubleFree = true)

include hg hmissing hu

/-- What a template spells for a role can be written. -/
theorem isWritable_of_template
    (hbindings : Bindings.ArePlain g.missing bindings)
    (hr : r.IsSpelled) (ht : ScopeTemplate.ofScope? g.templates r.scope = some t) :
    t.fallback.isWritable isIdentifier = true ∧
      ∀ c, t.template.condition g.missing (rule.layers u role r bindings) = .ok c →
        c.isWritable isIdentifier = true := by
  obtain ⟨hbuiltin, hequal, -⟩ := builtin_of_ofSettings hg
  rcases ScopeTemplate.ofScope?_builtin hbuiltin r.scope with
    ⟨hnone, -⟩ | ⟨t', source, fallback, ht', hsource, -, htemplate, hfallback⟩
  · exact absurd (hnone.symm.trans ht) (by simp)
  · obtain rfl : t' = t := Option.some.inj (ht'.symm.trans ht)
    refine ⟨Filter.isWritable_of_parse (Scope.isDecimalFree_fallback hsource) hfallback,
      fun c hc => ?_⟩
    rw [Rule.layers, Template.condition_eq first?_eq_text?] at hc
    split at hc
    · refine Filter.isWritable_of_parse ?_ hc
      rw [← hequal] at hmissing
      exact Template.isDecimalFree_spell (hasPlainTexts_text? hmissing hu hbindings hr) hsource
        htemplate
    · obtain rfl := Except.ok.inj hc
      rfl

variable (hf : resolver.AnswersBy f) (hspelled : ∀ role r, f role u = .ok r → r.IsSpelled)
  (hbindings : Bindings.ArePlain g.missing s.bindings)

include hf hspelled hbindings

theorem isWritable_of_conditions {cs : List Filter}
    (h : g.Conditions resolver rule u join roles s w cs s' w') :
    ∀ c ∈ cs, c.isWritable isIdentifier = true := by
  induction h with
  | nil s w => simp
  | cons hrole _ ih =>
    obtain ⟨rfl, r, t, hr, ht, hc⟩ := condition_of_ofRole hf hrole
    obtain ⟨hfallback, htemplate⟩ :=
      isWritable_of_template hg hmissing hu hbindings (hspelled _ r hr) ht
    exact List.forall_mem_cons.2 ⟨isWritable_of_condition hc htemplate hfallback, ih hbindings⟩

/-- What is granted can be written. -/
theorem isWritable_of_grant {e : Filter}
    (h : (g.grant resolver rule u statement s w).1 = .ok (.rows e)) :
    e.isWritable isIdentifier = true := by
  obtain ⟨cs, s', w', hcs, hrows⟩ := conditions_of_grant h
  have hwritable := isWritable_of_conditions hg hmissing hu hf hspelled hbindings hcs
  unfold Grant.ofRoles at hrows
  split at hrows
  · exact absurd hrows (by simp)
  · next c hj =>
    have hc : c.isWritable isIdentifier = true :=
      Filter.isWritable_of_join? hj fun c hc => hwritable c (mem_of_mem_eraseDupsBy hc)
    obtain rfl := Grant.rows.inj hrows
    split
    · exact hc
    · exact hc

end Written

end Granter

/-! ### Statements -/

namespace Enforcer

variable {e : Enforcer σ} {query : String} {existing : Option Filter} {statement : Statement}
  {s : Session} {w : σ}

/-- What the condition of a statement becomes: it stays, or a condition is added that no row
meets or that is granted. -/
theorem filter_cases (e : Enforcer σ) (query : String) (existing : Option Filter)
    (statement : Statement) (s : Session) (w : σ) :
    (e.enforce query existing statement s w).1.filter = existing ∨
      ∃ f, (e.enforce query existing statement s w).1.filter = some (.conjoin existing f) ∧
        (f = .group .never ∨ e.Composes query statement s w (.ok (.rows f))) := by
  rcases enforce_cases e query existing statement s w with
    ⟨-, hv⟩ | ⟨-, hv⟩ | ⟨rule, answer, s', w', hid⟩
  · exact .inl (by rw [hv]; rfl)
  · exact .inl (by rw [hv]; rfl)
  · rw [enforce_of_identified hid]
    rcases answer with err | _ | u
    · exact .inr ⟨_, rfl, .inl rfl⟩
    · exact .inl rfl
    · rcases hgrant : (e.granter.grant e.resolver rule u statement s' w').1 with err | grant
      · exact .inr ⟨_, by simp only [hgrant]; rfl, .inl rfl⟩
      · simp only [hgrant]
        cases grant with
        | rows f => exact .inr ⟨f, rfl, .inr ⟨rule, u, s', w', hid, hgrant⟩⟩
        | _ => exact .inl rfl

/-- A row that meets what the condition of a statement becomes met it before. -/
theorem admitsIf_of_enforce {tree : Filter} {row : Row}
    (h : (e.enforce query existing statement s w).1.filter = some tree)
    (hrow : tree.admits row = true) : Filter.admitsIf existing row = true := by
  rcases filter_cases e query existing statement s w with hsame | ⟨f, hconjoin, -⟩
  · obtain rfl : existing = some tree := hsame.symm.trans h
    exact hrow
  · obtain rfl := Option.some.inj (hconjoin.symm.trans h)
    exact (Filter.admits_conjoin hrow).1

/-- What the condition of a statement becomes can be written, if it could before. -/
theorem isWritable_of_enforce {settings : Settings} {tree : Filter}
    {f : Role → User → Except ResolveError Resolution}
    (hg : Granter.ofSettings settings = .ok e.granter)
    (hmissing : Filter.isDecimalFree settings.missing = true) (hf : e.resolver.AnswersBy f)
    (hspelled : ∀ u role r, f role u = .ok r → r.IsSpelled)
    (huser : ∀ rule u s' w', e.Identified query s w rule (.ok (some u)) s' w' →
      u.isDoubleFree = true ∧ Bindings.ArePlain e.granter.missing s'.bindings)
    (hexisting : ∀ f ∈ existing, f.isWritable isIdentifier = true)
    (h : (e.enforce query existing statement s w).1.filter = some tree) :
    tree.isWritable isIdentifier = true := by
  rcases filter_cases e query existing statement s w with
    hsame | ⟨f, hconjoin, rfl | ⟨rule, u, s', w', hid, hgrant⟩⟩
  · exact hexisting tree (hsame.symm.trans h)
  · obtain rfl := Option.some.inj (hconjoin.symm.trans h)
    exact Filter.isWritable_conjoin hexisting rfl
  · obtain rfl := Option.some.inj (hconjoin.symm.trans h)
    obtain ⟨hu, hbindings⟩ := huser rule u s' w' hid
    exact Filter.isWritable_conjoin hexisting
      (Granter.isWritable_of_grant hg hmissing hu hf (hspelled u) hbindings hgrant)

end Enforcer

end RowScope
