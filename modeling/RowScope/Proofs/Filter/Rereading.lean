/-
The text of a condition, read again.

* `Filter.isWritable` — the literals and columns of a condition have texts of their own;
* `Filter.clauses` — the disjuncts that the text of a condition spells, with their
  conjuncts;
* `Filter.reread` — the condition that the text spells;
* `Filter.parse_sql` — it is what the reader gives;
* `Filter.truth_reread` — it has the outcome of the condition that was written.

Design notes: the text has no parentheses for a conjunction in a conjunction, nor for a
disjunction in a disjunction, and the reader puts these into one list.  What is written in
parentheses comes back as a group, a list as its elements, and `1 = 1` and `1 = 0` as the
conditions that always and never hold.
-/
import RowScope.Proofs.Connectives
import RowScope.Proofs.Filter.Leaves
import RowScope.Proofs.Fragment.Phrases

namespace RowScope

namespace Filter

/-- The operands of a condition without connectives have texts that are read as them. -/
def isWritableLeaf (isName : String → Bool) : Filter → Bool
  | compare l _ r => l.isPlain isName && r.isPlain isName
  | member o vs _ => o.isPlain isName && vs.all (Operand.isListable isName)
  | isNull o _ => o.isPlain isName
  | like o _ _ => o.isPlain isName
  | _ => true

/-- The columns of a condition have suitable names, no double is a literal in it, and a list
is one in a list only, with elements. -/
def isWritable (isName : String → Bool) (f : Filter) : Bool :=
  f.leaves.all (isWritableLeaf isName)

mutual

/-- The disjuncts that the text of a condition spells, each with its conjuncts. -/
def clauses : Filter → List (List Filter)
  | compare l c r => [[comparisonFilter l c r]]
  | member o vs negated => [[member o (vs.flatMap Operand.scalars) negated]]
  | and fs => if fs.isEmpty then [[always]] else [conjunctClauses fs]
  | or fs => if fs.isEmpty then [[never]] else disjunctClauses fs
  | not f =>
    if f.isJoined then [[not (group (ofClauses (clauses f)))]] else [[not (ofClauses (clauses f))]]
  | group f => [[group (ofClauses (clauses f))]]
  | f => [[f]]

/-- The conjuncts that the members of a conjunction spell. -/
def conjunctClauses : List Filter → List Filter
  | [] => []
  | f :: fs =>
    (if f.isOr then [group (ofClauses (clauses f))] else (clauses f).flatten) ++ conjunctClauses fs

/-- The disjuncts that the members of a disjunction spell. -/
def disjunctClauses : List Filter → List (List Filter)
  | [] => []
  | f :: fs => clauses f ++ disjunctClauses fs

end

/-- The condition that the text of a condition spells. -/
def reread (f : Filter) : Filter :=
  ofClauses f.clauses

/-- The text of a condition is a phrase of each level that its connective allows. -/
structure Respelled (f : Filter) : Prop where
  disjuncts : TextOf Disjuncts f.sql f.clauses
  conjuncts : f.isOr = false → TextOf Conjuncts f.sql f.clauses.flatten
  negation : f.isJoined = false → TextOf Negation f.sql f.reread

variable {isName : String → Bool}

theorem isWritable_of_mem {fs : List Filter} {f : Filter} (hf : f ∈ fs)
    (h : (leavesAll fs).all (isWritableLeaf isName) = true) : f.isWritable isName = true := by
  rw [isWritable, List.all_eq_true]
  exact fun leaf hleaf => List.all_eq_true.1 h leaf (mem_leavesAll.2 ⟨f, hf, hleaf⟩)

theorem isWritableLeaf_of_isWritable {f : Filter} (hf : f.leaves = [f])
    (h : f.isWritable isName = true) : f.isWritableLeaf isName = true := by
  rw [isWritable, hf, List.all_cons, List.all_nil, Bool.and_true] at h
  exact h

theorem respelled_of_negation {f g : Filter} (hc : f.clauses = [[g]])
    (h : TextOf Negation f.sql g) : f.Respelled where
  disjuncts := by
    rw [hc]
    exact h.mono fun _ hg => .last (.last hg)
  conjuncts _ := by
    rw [hc]
    exact h.mono fun _ hg => .last hg
  negation _ := by
    rw [reread, hc]
    exact h

theorem respelled_of_predicate {f g : Filter} (hc : f.clauses = [[g]])
    (h : TextOf Predicate f.sql g) : f.Respelled :=
  respelled_of_negation hc (h.mono fun _ hg => .primary (.predicate hg))

theorem respelled_of_conjuncts {f : Filter} {fs : List Filter} (hj : f.isJoined = true)
    (hc : f.clauses = [fs]) (h : TextOf Conjuncts f.sql fs) : f.Respelled where
  disjuncts := by
    rw [hc]
    exact h.mono fun _ hfs => .last hfs
  conjuncts _ := by
    rw [hc, List.flatten_cons, List.flatten_nil, List.append_nil]
    exact h
  negation hn := absurd hj (by simp [hn])

theorem respelled_of_disjuncts {f : Filter} (ho : f.isOr = true)
    (h : TextOf Disjuncts f.sql f.clauses) : f.Respelled where
  disjuncts := h
  conjuncts hn := absurd ho (by simp [hn])
  negation hn := by
    cases f with
    | or fs => exact absurd hn (by simp [isJoined])
    | _ => exact absurd ho (by simp [isOr])

theorem textOf_group {s : String} {cs : List (List Filter)} (h : TextOf Disjuncts s cs) :
    TextOf Primary (parenthesized s) (.group (ofClauses cs)) := by
  obtain ⟨ts, hs, hcs⟩ := h
  refine ⟨_, ?_, .group hcs⟩
  have htext : (parenthesized s).toList = '(' :: (s.toList ++ [')']) := by simp [parenthesized]
  rw [htext]
  exact hs.parenthesized

theorem spells_notWord {cs : List Char} {ts : List Token} (negated : Bool) (h : Spells cs ts) :
    Spells ((notWord negated).toList ++ cs) (notTokens negated ++ ts) := by
  cases negated with
  | false => exact h
  | true => exact (spells_keyword .not).blank h

section Leaves

variable (hname : ∀ s, isName s = true → isIdentifier s = true)

include hname

/-- A condition without connectives is read as one. -/
theorem textOf_compare {l r : Operand} (c : Comparison) (hl : l.isPlain isName = true)
    (hr : r.isPlain isName = true) :
    TextOf Predicate (compare l c r).sql (comparisonFilter l c r) := by
  obtain ⟨t, ht, hlt⟩ := l.exists_token hname hl
  obtain ⟨t', ht', hrt⟩ := r.exists_token hname hr
  refine ⟨[t, .comparison c, t'], ?_, .compare c ht ht'⟩
  have htext : (compare l c r).sql.toList
      = l.sql.toList ++ ' ' :: (c.symbol.toList ++ ' ' :: r.sql.toList) := by simp [sql]
  rw [htext]
  exact hlt.blank ((spells_symbol c).blank hrt)

theorem textOf_member {o : Operand} {vs : List Operand} (negated : Bool)
    (ho : o.isPlain isName = true) (hvs : ∀ v ∈ vs, v.isListable isName = true) :
    TextOf Predicate (member o vs negated).sql
      (member o (vs.flatMap Operand.scalars) negated) := by
  obtain ⟨t, ht, hot⟩ := o.exists_token hname ho
  have htext : (member o vs negated).sql.toList
      = o.sql.toList ++ ' ' :: ((notWord negated).toList ++ (Keyword.member.spelling.toList ++
        ' ' :: '(' :: ((", ".intercalate (vs.map Operand.sql)).toList ++ [')']))) := by
    simp [sql, parenthesized, Keyword.spelling]
  unfold TextOf
  rw [htext]
  by_cases hne : vs = []
  · subst hne
    refine ⟨_, ?_, .memberOfNone negated ht⟩
    exact hot.blank (spells_notWord negated
      ((spells_keyword .member).blank (Spells.parenthesized .nil)))
  · obtain ⟨ts, hts, hos⟩ := Operand.textOf_list hname hvs hne
    refine ⟨_, ?_, .member negated ht hos⟩
    exact hot.blank (spells_notWord negated ((spells_keyword .member).blank hts.parenthesized))

theorem textOf_isNull {o : Operand} (negated : Bool) (ho : o.isPlain isName = true) :
    TextOf Predicate (isNull o negated).sql (isNull o negated) := by
  obtain ⟨t, ht, hot⟩ := o.exists_token hname ho
  refine ⟨_, ?_, .isNull negated ht⟩
  have htext : (isNull o negated).sql.toList
      = o.sql.toList ++ ' ' :: (Keyword.is.spelling.toList ++
        ' ' :: ((notWord negated).toList ++ Keyword.null.spelling.toList)) := by
    simp [sql, Keyword.spelling]
  rw [htext]
  exact hot.blank ((spells_keyword .is).blank (spells_notWord negated (spells_keyword .null)))

theorem textOf_like {o : Operand} (pattern : String) (negated : Bool)
    (ho : o.isPlain isName = true) :
    TextOf Predicate (like o pattern negated).sql (like o pattern negated) := by
  obtain ⟨t, ht, hot⟩ := o.exists_token hname ho
  refine ⟨_, ?_, .like pattern negated ht⟩
  have htext : (like o pattern negated).sql.toList
      = o.sql.toList ++ ' ' :: ((notWord negated).toList ++
        (Keyword.like.spelling.toList ++ ' ' :: (Quoted.literal pattern).toList)) := by
    simp [sql, Keyword.spelling]
  rw [htext]
  exact hot.blank (spells_notWord negated
    ((spells_keyword .like).blank (spells_literal pattern)))

end Leaves

theorem textOf_always : TextOf Predicate always.sql always := by
  refine ⟨_, ?_, .compare .eq (Token.operand?_int 1) (Token.operand?_int 1)⟩
  exact (spells_int 1).blank ((spells_symbol .eq).blank (spells_int 1))

theorem textOf_never : TextOf Predicate never.sql never := by
  refine ⟨_, ?_, .compare .eq (Token.operand?_int 1) (Token.operand?_int 0)⟩
  exact (spells_int 1).blank ((spells_symbol .eq).blank (spells_int 0))

theorem conjuncts_eq_map (fs : List Filter) :
    conjuncts fs = fs.map fun f => if f.isOr then parenthesized f.sql else f.sql := by
  induction fs with
  | nil => rfl
  | cons f fs ih => rw [conjuncts, ih, List.map_cons]

theorem conjunctClauses_eq_flatten (fs : List Filter) :
    conjunctClauses fs = (fs.map fun f =>
      if f.isOr then [group (ofClauses f.clauses)] else f.clauses.flatten).flatten := by
  induction fs with
  | nil => rfl
  | cons f fs ih => rw [conjunctClauses, ih, List.map_cons, List.flatten_cons]

theorem disjuncts_eq_map (fs : List Filter) : disjuncts fs = fs.map sql := by
  induction fs with
  | nil => rfl
  | cons f fs ih => rw [disjuncts, ih, List.map_cons]

theorem disjunctClauses_eq_flatten (fs : List Filter) :
    disjunctClauses fs = (fs.map clauses).flatten := by
  induction fs with
  | nil => rfl
  | cons f fs ih => rw [disjunctClauses, ih, List.map_cons, List.flatten_cons]

theorem respelled_and {fs : List Filter} (h : ∀ f ∈ fs, f.Respelled) : (and fs).Respelled := by
  by_cases hne : fs = []
  · subst hne
    refine respelled_of_conjuncts rfl rfl ?_
    have htext : (and []).sql = always.sql := by simp [sql]
    rw [htext]
    exact textOf_always.mono fun _ hp => .last (.primary (.predicate hp))
  · have hfs : fs.isEmpty = false := by simpa using hne
    refine respelled_of_conjuncts rfl (by rw [clauses, hfs]; rfl) ?_
    have htext : (and fs).sql = " AND ".intercalate (conjuncts fs) := by simp [sql, hfs]
    rw [htext, conjuncts_eq_map, conjunctClauses_eq_flatten]
    refine textOf_intercalate (spells_between .and) Conjuncts.append ?_ (by simpa using hne)
    rw [List.forall₂_map_left_iff, List.forall₂_map_right_iff, List.forall₂_same]
    intro f hf
    -- only a disjunction is put in parentheses
    by_cases ho : f.isOr = true
    · rw [if_pos ho, if_pos ho]
      exact (textOf_group (h f hf).disjuncts).mono fun _ hp => .last (.primary hp)
    · rw [if_neg ho, if_neg ho]
      exact (h f hf).conjuncts (by simpa using ho)

theorem respelled_or {fs : List Filter} (h : ∀ f ∈ fs, f.Respelled) : (or fs).Respelled := by
  refine respelled_of_disjuncts rfl ?_
  by_cases hne : fs = []
  · subst hne
    have htext : (or []).sql = never.sql := by simp [sql]
    rw [htext]
    exact textOf_never.mono fun _ hp => .last (.last (.primary (.predicate hp)))
  · have hfs : fs.isEmpty = false := by simpa using hne
    have htext : (or fs).sql = " OR ".intercalate (disjuncts fs) := by simp [sql, hfs]
    have hclauses : (or fs).clauses = disjunctClauses fs := by simp [clauses, hfs]
    rw [htext, hclauses, disjuncts_eq_map, disjunctClauses_eq_flatten]
    refine textOf_intercalate (spells_between .or) Disjuncts.append ?_ (by simpa using hne)
    rw [List.forall₂_map_left_iff, List.forall₂_map_right_iff, List.forall₂_same]
    exact fun f hf => (h f hf).disjuncts

theorem respelled_not {f : Filter} (h : f.Respelled) : (not f).Respelled := by
  have hnot {s : String} {g : Filter} (hg : TextOf Negation s g) :
      TextOf Negation ("NOT " ++ s) (.not g) := by
    obtain ⟨ts, hts, hneg⟩ := hg
    refine ⟨_, ?_, .not hneg⟩
    rw [String.toList_append]
    exact (spells_keyword .not).blank hts
  by_cases hj : f.isJoined = true
  · refine respelled_of_negation (by rw [clauses, if_pos hj]) ?_
    rw [sql, if_pos hj]
    exact hnot ((textOf_group h.disjuncts).mono fun _ hp => .primary hp)
  · refine respelled_of_negation (by rw [clauses, if_neg hj]) ?_
    rw [sql, if_neg hj]
    exact hnot (h.negation (by simpa using hj))

/-- Every condition that can be written is read as its clauses. -/
theorem respelled (hname : ∀ s, isName s = true → isIdentifier s = true) {f : Filter}
    (h : f.isWritable isName = true) : f.Respelled := by
  induction f using tree_induction with
  | compare l c r =>
    have hleaf := isWritableLeaf_of_isWritable rfl h
    rw [isWritableLeaf, Bool.and_eq_true] at hleaf
    exact respelled_of_predicate rfl (textOf_compare hname c hleaf.1 hleaf.2)
  | member o vs negated =>
    have hleaf := isWritableLeaf_of_isWritable rfl h
    rw [isWritableLeaf, Bool.and_eq_true, List.all_eq_true] at hleaf
    exact respelled_of_predicate rfl (textOf_member hname negated hleaf.1 hleaf.2)
  | isNull o negated =>
    have hleaf := isWritableLeaf_of_isWritable rfl h
    exact respelled_of_predicate rfl (textOf_isNull hname negated hleaf)
  | like o pattern negated =>
    have hleaf := isWritableLeaf_of_isWritable rfl h
    exact respelled_of_predicate rfl (textOf_like hname pattern negated hleaf)
  | and fs ih => exact respelled_and fun f hf => ih f hf (isWritable_of_mem hf h)
  | or fs ih => exact respelled_or fun f hf => ih f hf (isWritable_of_mem hf h)
  | not f ih => exact respelled_not (ih h)
  | group f ih =>
    refine respelled_of_negation rfl ?_
    exact (textOf_group (ih h).disjuncts).mono fun _ hp => .primary hp
  | always => exact respelled_of_predicate rfl textOf_always
  | never => exact respelled_of_predicate rfl textOf_never

/-- The text of a condition that can be written is read as `reread`. -/
theorem parse_sql (hname : ∀ s, isName s = true → isIdentifier s = true) {f : Filter}
    (h : f.isWritable isName = true) : parse f.sql = .ok f.reread := by
  obtain ⟨ts, hts, hcs⟩ := (respelled hname h).disjuncts
  exact parse_of_disjuncts hts hcs

/-! ### The outcome -/

theorem truth_merge (j : Join) (fs : List Filter) (row : Row) :
    (Level.merge j fs).truth row = j.truth (fs.map (truth row)) := by
  match fs with
  | [] => exact truth_joined j [] row
  | [f] => exact (Join.truth_singleton j _).symm
  | f :: f' :: fs => exact truth_joined j (f :: f' :: fs) row

theorem truth_ofClauses (css : List (List Filter)) (row : Row) :
    (ofClauses css).truth row = .any (css.map fun fs => .all (fs.map (truth row))) := by
  rw [ofClauses, truth_merge, List.map_map]
  refine congrArg Truth.any (List.map_congr_left fun fs _ => ?_)
  exact truth_merge .and fs row

theorem truth_comparisonFilter (l r : Operand) (c : Comparison) (row : Row) :
    (comparisonFilter l c r).truth row = c.truth (l.value row) (r.value row) := by
  unfold comparisonFilter
  split
  · rfl
  · rfl
  · rfl

theorem flatMap_scalars_elements (vs : List Operand) (row : Row) :
    (vs.flatMap Operand.scalars).flatMap (fun v => (v.value row).elements)
      = vs.flatMap fun v => (v.value row).elements := by
  rw [List.flatMap_assoc]
  refine List.flatMap_congr fun v _ => ?_
  cases v with
  | column name => exact List.append_nil _
  | literal v =>
    show (v.elements.map Operand.literal).flatMap _ = v.elements
    rw [List.flatMap_map]
    cases v with
    | ints ns => simp [Value.elements, Operand.value, List.flatMap_map, ← List.map_eq_flatMap]
    | texts ss => simp [Value.elements, Operand.value, List.flatMap_map, ← List.map_eq_flatMap]
    | _ => rfl

/-- A condition that is no disjunction has one clause. -/
theorem clauses_eq_singleton {f : Filter} (h : f.isOr = false) :
    f.clauses = [f.clauses.flatten] := by
  cases f with
  | or fs => exact absurd h (by simp [isOr])
  | and fs =>
    rw [clauses]
    split <;> simp
  | not f =>
    rw [clauses]
    split <;> rfl
  | _ => rfl

theorem truth_conjunctClauses {fs : List Filter} {row : Row}
    (h : ∀ f ∈ fs, f.reread.truth row = f.truth row) :
    Truth.all ((conjunctClauses fs).map (truth row)) = .all (truths row fs) := by
  induction fs with
  | nil => rfl
  | cons f fs ih =>
    rw [List.forall_mem_cons] at h
    rw [conjunctClauses, truths, List.map_append, Truth.all_append, ih h.2, Truth.all_cons,
      ← h.1]
    congr 1
    by_cases ho : f.isOr = true
    · rw [if_pos ho]
      exact Truth.and_holds _
    · rw [if_neg ho, reread, truth_ofClauses, clauses_eq_singleton (by simpa using ho)]
      simp

theorem truth_disjunctClauses {fs : List Filter} {row : Row}
    (h : ∀ f ∈ fs, f.reread.truth row = f.truth row) :
    (ofClauses (disjunctClauses fs)).truth row = .any (truths row fs) := by
  rw [truth_ofClauses]
  induction fs with
  | nil => rfl
  | cons f fs ih =>
    rw [List.forall_mem_cons] at h
    rw [disjunctClauses, truths, List.map_append, Truth.any_append, ih h.2, Truth.any_cons,
      ← h.1, reread, truth_ofClauses]

/-- What is read has the outcome of what was written. -/
theorem truth_reread (f : Filter) (row : Row) : f.reread.truth row = f.truth row := by
  induction f using tree_induction with
  | compare l c r => exact truth_comparisonFilter l r c row
  | member o vs negated =>
    show truth row (member o (vs.flatMap Operand.scalars) negated) = _
    rw [truth, truth, flatMap_scalars_elements]
  | and fs ih =>
    by_cases hne : fs = []
    · subst hne
      rfl
    · have hclauses : (and fs).clauses = [conjunctClauses fs] := by simp [clauses, hne]
      rw [reread, hclauses, truth_ofClauses, truth, ← truth_conjunctClauses ih]
      exact Truth.or_fails _
  | or fs ih =>
    by_cases hne : fs = []
    · subst hne
      rfl
    · have hclauses : (or fs).clauses = disjunctClauses fs := by simp [clauses, hne]
      rw [reread, hclauses, truth, truth_disjunctClauses ih]
  | not f ih =>
    rw [truth, ← ih, reread, clauses]
    split
    · rfl
    · rfl
  | group f ih => exact ih
  | _ => rfl

/-- **The text of a condition keeps its meaning**: it can be read, and what is read has the
same outcome on every row. -/
theorem exists_parse_sql {e : Filter} (h : e.isWritable isOrdinary = true) :
    ∃ f, parse e.sql = .ok f ∧ ∀ row, f.truth row = e.truth row :=
  ⟨e.reread, parse_sql (fun _ => isIdentifier_of_isOrdinary) h, truth_reread e⟩

/-- A disjunction under a conjunction under a negation, with empty lists and a quote. -/
theorem exists_parse_sql_nested :
    let e : Filter := .not (.and [.or [compareColumn "o.name" .eq (.text "it's"), .and []],
      .and [.member (.column "dept") [.literal (.ints [1, -2]), .literal .null] true], .or []])
    e.isWritable isOrdinary = true ∧
      ∃ f, parse e.sql = .ok f ∧ ∀ row, f.truth row = e.truth row :=
  ⟨by decide +kernel, exists_parse_sql (by decide +kernel)⟩

end Filter

end RowScope
