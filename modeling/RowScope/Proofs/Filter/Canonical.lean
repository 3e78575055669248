/-
Canonical conditions: the ones that a text spells.

A text never spells a conjunction in a conjunction, nor `1 = 1` as a comparison, and neither
does the text of a condition.  The conditions without such parts are exactly those that come
back from their text as they were.

* `Filter.isCanonical` — no join is short or could be part of another one, every column is an
  identifier, and every literal and comparison has a text of its own;
* `Filter.isDerived_of_phrase` — what is derived from tokens is canonical, but for doubles;
* `Filter.restored` — a canonical condition is what its own text spells;
* `Filter.parse_sql_iff_isCanonical` — and no other condition is.

Design notes: the two directions share no induction.  What is derived is canonical by
induction over the derivation, where `mayRank` says which join may stand in which place.  A
canonical condition is restored by induction over its tree, where `Restored` says what is
left of its clauses in each place.
-/
import RowScope.Proofs.Filter.Rereading
import RowScope.Proofs.Fragment.Identifiers
import RowScope.Proofs.Fragment.Language

namespace RowScope

/-- The token is a decimal. -/
def Token.isDecimal : Token → Bool
  | float _ => true
  | _ => false

/-- The operand is a double. -/
def Operand.isDouble : Operand → Bool
  | literal (.float _) => true
  | _ => false

namespace Filter

/-- The operands of a condition without connectives. -/
def leafOperands : Filter → List Operand
  | compare l _ r => [l, r]
  | member o vs _ => o :: vs
  | isNull o _ => [o]
  | like o _ _ => [o]
  | _ => []

/-- The operands of a condition. -/
def operands (f : Filter) : List Operand :=
  f.leaves.flatMap leafOperands

/-- The comparison is one that stands for always or never: `1 = 1` or `1 = 0`. -/
def isConstant : Filter → Bool
  | compare (.literal (.int 1)) .eq (.literal (.int 1)) => true
  | compare (.literal (.int 1)) .eq (.literal (.int 0)) => true
  | _ => false

mutual

/-- Every list under a join has two members at least, none of which could be merged into the
list or needs parentheses of its own, and neither does what is negated. -/
def isFlat : Filter → Bool
  | and fs => decide (2 ≤ fs.length) && (fs.all fun f => !f.isJoined) && areFlat fs
  | or fs => decide (2 ≤ fs.length) && (fs.all fun f => !f.isOr) && areFlat fs
  | not f => !f.isJoined && isFlat f
  | group f => isFlat f
  | _ => true

/-- All conditions of a list are flat. -/
def areFlat : List Filter → Bool
  | [] => true
  | f :: fs => isFlat f && areFlat fs

end

/-- The condition is one that a text without decimals spells. -/
def isCanonical (f : Filter) : Bool :=
  f.isFlat && f.operands.all (Operand.isPlain isIdentifier) && f.leaves.all fun leaf =>
    !leaf.isConstant

/-- No operand of the condition is a double. -/
def isDoubleFree (f : Filter) : Bool :=
  f.operands.all fun o => !o.isDouble

/-- No token of the text is a decimal. -/
def isDecimalFree (s : String) : Bool :=
  (pieces s.toList).all fun piece => !piece.any Token.isDecimal

theorem areFlat_iff {fs : List Filter} : areFlat fs = true ↔ ∀ f ∈ fs, f.isFlat = true := by
  induction fs with
  | nil => simp [areFlat]
  | cons f fs ih => simp [areFlat, ih]

/-- A condition that may stand in a list under a join. -/
def mayJoin (f : Filter) : Join → Bool
  | .and => !f.isJoined
  | .or => !f.isOr

theorem isFlat_joined {j : Join} {fs : List Filter} :
    (joined j fs).isFlat = true
      ↔ 2 ≤ fs.length ∧ ∀ f ∈ fs, f.mayJoin j = true ∧ f.isFlat = true := by
  cases j with
  | and => simp [joined, isFlat, areFlat_iff, mayJoin, and_assoc, forall_and]
  | or => simp [joined, isFlat, areFlat_iff, mayJoin, and_assoc, forall_and]

theorem leaves_joined (j : Join) (fs : List Filter) : (joined j fs).leaves = leavesAll fs := by
  cases j with
  | and => rfl
  | or => rfl

theorem merge_of_two_le {j : Join} {fs : List Filter} (h : 2 ≤ fs.length) :
    Level.merge j fs = joined j fs := by
  match fs, h with
  | f :: g :: fs, _ => rfl

/-! ### What is derived is canonical -/

/-- Every operand of a list is one of some tokens. -/
def HasSides (ts : List Token) (os : List Operand) : Prop :=
  ∀ o ∈ os, ∃ t ∈ ts, Language.Side t o

/-- A condition as it is derived from tokens. -/
structure IsDerived (ts : List Token) (f : Filter) : Prop where
  flat : f.isFlat = true
  tests : ∀ leaf ∈ f.leaves, leaf.isConstant = false
  sides : HasSides ts f.operands

/-- The conditions that a phrase may have as its tree. -/
def mayRank (f : Filter) : Language.Rank → Bool
  | .joined .or => true
  | .joined .and => f.mayJoin .or
  | .negation | .primary => f.mayJoin .and

theorem mayRank_part (f : Filter) (j : Join) : f.mayRank (Language.part j) = f.mayJoin j := by
  cases j with
  | and => rfl
  | or => rfl

theorem mayRank_joined_of_part {f : Filter} {j : Join}
    (h : f.mayRank (Language.part j) = true) : f.mayRank (.joined j) = true := by
  cases j with
  | or => rfl
  | and =>
    cases f with
    | or fs => exact absurd h (by simp [Language.part, mayRank, mayJoin, isJoined])
    | _ => rfl

theorem mem_operands {f : Filter} {o : Operand} :
    o ∈ f.operands ↔ ∃ leaf ∈ f.leaves, o ∈ leaf.leafOperands :=
  List.mem_flatMap

theorem mem_operands_joined {j : Join} {fs : List Filter} {o : Operand} :
    o ∈ (joined j fs).operands ↔ ∃ f ∈ fs, o ∈ f.operands := by
  simp only [mem_operands, leaves_joined, mem_leavesAll]
  constructor
  · rintro ⟨leaf, ⟨f, hf, hleaf⟩, ho⟩
    exact ⟨f, hf, leaf, hleaf, ho⟩
  · rintro ⟨f, hf, leaf, hleaf, ho⟩
    exact ⟨leaf, ⟨f, hf, hleaf⟩, ho⟩

section Derived

open RowScope.Language

variable {t : Token} {ts us : List Token} {o : Operand} {os : List Operand} {f : Filter}
  {j : Join}

theorem HasSides.nil : HasSides ts [] :=
  fun _ h => absurd h List.not_mem_nil

theorem HasSides.cons (ht : t ∈ ts) (h : Side t o) (hos : HasSides ts os) :
    HasSides ts (o :: os) :=
  List.forall_mem_cons.2 ⟨⟨t, ht, h⟩, hos⟩

theorem HasSides.mono (h : HasSides ts os) (hsub : ts ⊆ us) : HasSides us os := by
  intro o ho
  obtain ⟨t, ht, hside⟩ := h o ho
  exact ⟨t, hsub ht, hside⟩

theorem hasSides_of_sides (h : Sides ts os) : HasSides ts os := by
  induction h with
  | last h => exact .cons List.mem_cons_self h .nil
  | more h _ ih =>
    refine .cons List.mem_cons_self h (ih.mono ?_)
    exact List.subset_cons_of_subset _ (List.subset_cons_self _ _)

theorem hasSides_of_members (h : Members ts os) : HasSides ts os := by
  cases h with
  | none => exact .nil
  | some h => exact hasSides_of_sides h

theorem IsDerived.mono (h : IsDerived ts f) (hsub : ts ⊆ us) : IsDerived us f :=
  ⟨h.flat, h.tests, h.sides.mono hsub⟩

theorem isDerived_joined {fs : List Filter} (hlength : 2 ≤ fs.length)
    (h : ∀ f ∈ fs, IsDerived ts f ∧ f.mayJoin j = true) : IsDerived ts (joined j fs) where
  flat := isFlat_joined.2 ⟨hlength, fun f hf => ⟨(h f hf).2, (h f hf).1.flat⟩⟩
  tests leaf hleaf := by
    rw [leaves_joined, mem_leavesAll] at hleaf
    obtain ⟨f, hf, hleaf⟩ := hleaf
    exact (h f hf).1.tests leaf hleaf
  sides o ho := by
    obtain ⟨f, hf, ho⟩ := mem_operands_joined.1 ho
    exact (h f hf).1.sides o ho

theorem isDerived_of_leaf (hflat : f.isFlat = true) (hleaves : f.leaves = [f])
    (htest : f.isConstant = false) (hsides : HasSides ts f.leafOperands) : IsDerived ts f where
  flat := hflat
  tests := by simpa [hleaves] using htest
  sides := by simpa [operands, hleaves] using hsides

theorem isConstant_compare_of_side {t t' : Token} {l r : Operand} {c : Comparison}
    (hl : Side t l) (hr : Side t' r)
    (hone : [t, .comparison c, t'] ≠ [.int 1, .comparison .eq, .int 1])
    (hzero : [t, .comparison c, t'] ≠ [.int 1, .comparison .eq, .int 0]) :
    (compare l c r).isConstant = false := by
  unfold isConstant
  split
  · next h =>
    obtain ⟨rfl, rfl, rfl⟩ := compare.inj h
    cases hl
    cases hr
    exact absurd rfl hone
  · next h =>
    obtain ⟨rfl, rfl, rfl⟩ := compare.inj h
    cases hl
    cases hr
    exact absurd rfl hzero
  · rfl

theorem isDerived_of_test (h : Test ts f) : IsDerived ts f ∧ f.isJoined = false := by
  cases h with
  | oneEqOne => exact ⟨isDerived_of_leaf rfl rfl rfl .nil, rfl⟩
  | oneEqZero => exact ⟨isDerived_of_leaf rfl rfl rfl .nil, rfl⟩
  | compare c hl hr hone hzero =>
    have htest := isConstant_compare_of_side hl hr hone hzero
    refine ⟨isDerived_of_leaf rfl rfl htest ?_, rfl⟩
    exact .cons (by simp) hl (.cons (by simp) hr .nil)
  | member h hmembers =>
    refine ⟨isDerived_of_leaf rfl rfl rfl ?_, rfl⟩
    exact .cons (by simp) h ((hasSides_of_members hmembers).mono (by grind))
  | notMember h hmembers =>
    refine ⟨isDerived_of_leaf rfl rfl rfl ?_, rfl⟩
    exact .cons (by simp) h ((hasSides_of_members hmembers).mono (by grind))
  | isNull h => exact ⟨isDerived_of_leaf rfl rfl rfl (.cons (by simp) h .nil), rfl⟩
  | isNotNull h => exact ⟨isDerived_of_leaf rfl rfl rfl (.cons (by simp) h .nil), rfl⟩
  | like _ h => exact ⟨isDerived_of_leaf rfl rfl rfl (.cons (by simp) h .nil), rfl⟩
  | notLike _ h => exact ⟨isDerived_of_leaf rfl rfl rfl (.cons (by simp) h .nil), rfl⟩
  | true => exact ⟨isDerived_of_leaf rfl rfl rfl .nil, rfl⟩
  | false => exact ⟨isDerived_of_leaf rfl rfl rfl .nil, rfl⟩

mutual

theorem isDerived_of_phrase {rank : Rank} {ts : List Token} {f : Filter} :
    Phrase rank ts f → IsDerived ts f ∧ f.mayRank rank = true
  | .one h => by
    obtain ⟨hf, hrank⟩ := isDerived_of_phrase h
    exact ⟨hf, mayRank_joined_of_part hrank⟩
  | @Phrase.several j ts f g fs h => by
    refine ⟨isDerived_joined (by simp) (isDerived_of_phrases h), ?_⟩
    cases j with
    | and => rfl
    | or => rfl
  | .not h => by
    obtain ⟨hf, hrank⟩ := isDerived_of_phrase h
    have hflat : isFlat (.not _) = true := Bool.and_eq_true_iff.2 ⟨hrank, hf.flat⟩
    exact ⟨.mono ⟨hflat, hf.tests, hf.sides⟩ (List.subset_cons_self _ _), rfl⟩
  | .primary h => by
    obtain ⟨hf, hrank⟩ := isDerived_of_phrase h
    exact ⟨hf, hrank⟩
  | .group h => by
    have hf := (isDerived_of_phrase h).1
    refine ⟨.mono ⟨hf.flat, hf.tests, hf.sides⟩ ?_, rfl⟩
    exact List.subset_cons_of_subset _ (List.subset_append_left _ _)
  | .test h => by
    obtain ⟨hf, hj⟩ := isDerived_of_test h
    exact ⟨hf, by simp [mayRank, mayJoin, hj]⟩

theorem isDerived_of_phrases {j : Join} {ts : List Token} {fs : List Filter} :
    Phrases j ts fs → ∀ f ∈ fs, IsDerived ts f ∧ f.mayJoin j = true
  | .last h => by
    obtain ⟨hf, hrank⟩ := isDerived_of_phrase h
    rw [mayRank_part] at hrank
    simpa using ⟨hf, hrank⟩
  | .more h hrest => by
    obtain ⟨hf, hrank⟩ := isDerived_of_phrase h
    rw [mayRank_part] at hrank
    rw [List.forall_mem_cons]
    refine ⟨⟨hf.mono (List.subset_append_left _ _), hrank⟩, fun g hg => ?_⟩
    obtain ⟨hg, hrank⟩ := isDerived_of_phrases hrest g hg
    refine ⟨hg.mono ?_, hrank⟩
    exact List.subset_append_of_subset_right _ (List.subset_cons_self _ _)

end

/-- A condition that is derived from tokens has their names as its columns. -/
theorem isCanonical_of_isDerived (h : IsDerived ts f)
    (hname : ∀ s, Token.name s ∈ ts → isIdentifier s = true) (hf : f.isDoubleFree = true) :
    f.isCanonical = true := by
  rw [isDoubleFree, List.all_eq_true] at hf
  rw [isCanonical, Bool.and_eq_true, Bool.and_eq_true, List.all_eq_true, List.all_eq_true]
  refine ⟨⟨h.flat, fun o ho => ?_⟩, fun leaf hleaf => by rw [h.tests leaf hleaf]; rfl⟩
  obtain ⟨t, ht, hside⟩ := h.sides o ho
  cases hside with
  | name s => exact hname s ht
  | float x => exact absurd (hf _ ho) (by simp [Operand.isDouble])
  | _ => rfl

end Derived

/-- What a text spells is canonical, if no double is a literal in it. -/
theorem isCanonical_of_parse {s : String} {e : Filter} (h : parse s = .ok e)
    (he : e.isDoubleFree = true) : e.isCanonical = true := by
  obtain ⟨ts, hts, hread⟩ := parse_eq_ok_iff.1 h
  have hderived := (isDerived_of_phrase (Language.readTokens_eq_some_iff_phrase.1 hread)).1
  refine isCanonical_of_isDerived hderived (fun name hname => ?_) he
  have hpiece : some (Token.name name) ∈ pieces s.toList := by
    rw [hts]
    exact List.mem_map_of_mem hname
  exact isIdentifier_of_mem_pieces hpiece

theorem isDoubleFree_of_parse {s : String} {e : Filter} (hs : isDecimalFree s = true)
    (h : parse s = .ok e) : e.isDoubleFree = true := by
  obtain ⟨ts, hts, hread⟩ := parse_eq_ok_iff.1 h
  have hderived := (isDerived_of_phrase (Language.readTokens_eq_some_iff_phrase.1 hread)).1
  rw [isDecimalFree, hts, List.all_map, List.all_eq_true] at hs
  refine List.all_eq_true.2 fun o ho => ?_
  obtain ⟨t, ht, hside⟩ := hderived.sides o ho
  cases hside with
  | float x => exact absurd (hs _ ht) (by simp [Token.isDecimal])
  | _ => rfl

/-! ### What is canonical is read back as it is -/

theorem isCanonical_joined {j : Join} {fs : List Filter} :
    (joined j fs).isCanonical = true
      ↔ 2 ≤ fs.length ∧ ∀ f ∈ fs, f.mayJoin j = true ∧ f.isCanonical = true := by
  simp only [isCanonical, Bool.and_eq_true, List.all_eq_true, isFlat_joined, mem_operands_joined,
    leaves_joined, mem_leavesAll]
  grind

theorem isCanonical_not {f : Filter} :
    (not f).isCanonical = true ↔ f.isJoined = false ∧ f.isCanonical = true := by
  simp [isCanonical, isFlat, operands, leaves, and_assoc]

/-- A condition is read back as itself, in each place where its text can stand. -/
structure Restored (f : Filter) : Prop where
  disjuncts : f.reread = f
  conjuncts : f.isOr = false → f.clauses.map (Level.merge .and) = [f]
  negation : f.isJoined = false → f.clauses = [[f]]

theorem restored_of_clauses {f : Filter} (h : f.clauses = [[f]]) : f.Restored where
  disjuncts := by rw [reread, h]; rfl
  conjuncts _ := by rw [h]; rfl
  negation _ := h

theorem isOr_eq_false {f : Filter} (h : f.isJoined = false) : f.isOr = false := by
  cases f with
  | or fs => exact absurd h (by simp [isJoined])
  | _ => rfl

theorem conjunctClauses_eq_self {fs : List Filter}
    (h : ∀ f ∈ fs, f.Restored ∧ f.isJoined = false) : conjunctClauses fs = fs := by
  induction fs with
  | nil => rfl
  | cons f fs ih =>
    rw [List.forall_mem_cons] at h
    obtain ⟨⟨hf, hj⟩, hfs⟩ := h
    have ho : ¬f.isOr = true := by simp [isOr_eq_false hj]
    rw [conjunctClauses, if_neg ho, hf.negation hj, ih hfs]
    rfl

theorem map_merge_disjunctClauses {fs : List Filter}
    (h : ∀ f ∈ fs, f.Restored ∧ f.isOr = false) :
    (disjunctClauses fs).map (Level.merge .and) = fs := by
  induction fs with
  | nil => rfl
  | cons f fs ih =>
    rw [List.forall_mem_cons] at h
    obtain ⟨⟨hf, ho⟩, hfs⟩ := h
    rw [disjunctClauses, List.map_append, hf.conjuncts ho, ih hfs]
    rfl

theorem restored_and {fs : List Filter} (hlength : 2 ≤ fs.length)
    (h : ∀ f ∈ fs, f.Restored ∧ f.isJoined = false) : (and fs).Restored := by
  have hmerge := merge_of_two_le (j := .and) hlength
  have hclauses : (and fs).clauses = [fs] := by
    rw [clauses, conjunctClauses_eq_self h, if_neg (by grind)]
  refine ⟨?_, fun _ => ?_, fun hj => absurd hj (by simp [isJoined])⟩
  · rw [reread, hclauses]
    exact hmerge
  · rw [hclauses]
    exact congrArg (fun f => [f]) hmerge

theorem restored_or {fs : List Filter} (hlength : 2 ≤ fs.length)
    (h : ∀ f ∈ fs, f.Restored ∧ f.isOr = false) : (or fs).Restored := by
  have hclauses : (or fs).clauses = disjunctClauses fs := by
    rw [clauses, if_neg (by grind)]
  refine ⟨?_, fun ho => absurd ho (by simp [isOr]), fun hj => absurd hj (by simp [isJoined])⟩
  rw [reread, hclauses, ofClauses, map_merge_disjunctClauses h]
  exact merge_of_two_le hlength

theorem restored_not {f : Filter} (h : f.Restored) (hj : f.isJoined = false) :
    (not f).Restored := by
  refine restored_of_clauses ?_
  rw [clauses, if_neg (by simp [hj]), h.negation hj]
  rfl

theorem restored_group {f : Filter} (h : f.Restored) : (group f).Restored := by
  refine restored_of_clauses ?_
  rw [clauses]
  exact congrArg (fun f => [[group f]]) h.disjuncts

theorem scalars_of_isPlain {isName : String → Bool} {o : Operand} (h : o.isPlain isName = true) :
    o.scalars = [o] := by
  cases o with
  | column name => rfl
  | literal v =>
    cases v with
    | ints ns => exact absurd h (by simp [Operand.isPlain, Value.isPlain])
    | texts ss => exact absurd h (by simp [Operand.isPlain, Value.isPlain])
    | _ => rfl

theorem flatMap_scalars_of_isPlain {isName : String → Bool} {os : List Operand}
    (h : ∀ o ∈ os, o.isPlain isName = true) : os.flatMap Operand.scalars = os := by
  induction os with
  | nil => rfl
  | cons o os ih =>
    rw [List.forall_mem_cons] at h
    rw [List.flatMap_cons, scalars_of_isPlain h.1, ih h.2]
    rfl

theorem comparisonFilter_of_isConstant {l r : Operand} {c : Comparison}
    (h : (compare l c r).isConstant = false) : comparisonFilter l c r = compare l c r := by
  rcases Language.comparisonFilter_cases l r c with ⟨rfl, rfl, rfl, -⟩ | ⟨rfl, rfl, rfl, -⟩ | h'
  · cases h
  · cases h
  · exact h'

theorem isCanonical_leaf {f : Filter} (hf : f.leaves = [f]) (h : f.isCanonical = true) :
    (∀ o ∈ f.leafOperands, o.isPlain isIdentifier = true) ∧ f.isConstant = false := by
  have hparts : f.isFlat = true ∧
      (∀ o ∈ f.leafOperands, o.isPlain isIdentifier = true) ∧ f.isConstant = false := by
    simpa [isCanonical, operands, hf, and_assoc] using h
  exact hparts.2

/-- A canonical condition is restored from its text. -/
theorem restored {f : Filter} (h : f.isCanonical = true) : f.Restored := by
  induction f using tree_induction with
  | compare l c r =>
    obtain ⟨-, htest⟩ := isCanonical_leaf rfl h
    exact restored_of_clauses (by rw [clauses, comparisonFilter_of_isConstant htest])
  | member o vs negated =>
    obtain ⟨hplain, -⟩ := isCanonical_leaf rfl h
    rw [leafOperands, List.forall_mem_cons] at hplain
    exact restored_of_clauses (by rw [clauses, flatMap_scalars_of_isPlain hplain.2])
  | and fs ih =>
    obtain ⟨hlength, hfs⟩ := (isCanonical_joined (j := .and)).1 h
    refine restored_and hlength fun f hf => ⟨ih f hf (hfs f hf).2, ?_⟩
    simpa [mayJoin] using (hfs f hf).1
  | or fs ih =>
    obtain ⟨hlength, hfs⟩ := (isCanonical_joined (j := .or)).1 h
    refine restored_or hlength fun f hf => ⟨ih f hf (hfs f hf).2, ?_⟩
    simpa [mayJoin] using (hfs f hf).1
  | not f ih =>
    obtain ⟨hj, hf⟩ := isCanonical_not.1 h
    exact restored_not (ih hf) hj
  | group f ih => exact restored_group (ih h)
  | _ => exact restored_of_clauses rfl

theorem isListable_of_isPlain {isName : String → Bool} {o : Operand}
    (h : o.isPlain isName = true) : o.isListable isName = true := by
  cases o with
  | column name => exact h
  | literal v => exact Bool.or_eq_true_iff.2 (.inl h)

theorem isWritableLeaf_of_isPlain {isName : String → Bool} {f : Filter}
    (h : ∀ o ∈ f.leafOperands, o.isPlain isName = true) : f.isWritableLeaf isName = true := by
  cases f with
  | compare l c r =>
    simp only [leafOperands, List.forall_mem_cons] at h
    exact Bool.and_eq_true_iff.2 ⟨h.1, h.2.1⟩
  | member o vs negated =>
    rw [leafOperands, List.forall_mem_cons] at h
    refine Bool.and_eq_true_iff.2 ⟨h.1, List.all_eq_true.2 fun v hv => ?_⟩
    exact isListable_of_isPlain (h.2 v hv)
  | isNull o negated => exact h o List.mem_cons_self
  | like o pattern negated => exact h o List.mem_cons_self
  | _ => rfl

theorem isWritable_of_isCanonical {f : Filter} (h : f.isCanonical = true) :
    f.isWritable isIdentifier = true := by
  rw [isCanonical, Bool.and_eq_true, Bool.and_eq_true, List.all_eq_true] at h
  obtain ⟨⟨-, hplain⟩, -⟩ := h
  refine List.all_eq_true.2 fun leaf hleaf => isWritableLeaf_of_isPlain fun o ho => ?_
  exact hplain o (mem_operands.2 ⟨leaf, hleaf, ho⟩)

/-- **Exactly the canonical conditions come back from their texts.**  A text without decimals
spells no others, and among the conditions without doubles no others are what their own texts
spell. -/
theorem parse_sql_iff_isCanonical :
    (∀ s e, isDecimalFree s = true → parse s = .ok e → e.isCanonical = true) ∧
      ∀ e, e.isDoubleFree = true → (parse e.sql = .ok e ↔ e.isCanonical = true) := by
  refine ⟨fun s e hs h => isCanonical_of_parse h (isDoubleFree_of_parse hs h), fun e he => ?_⟩
  constructor
  · exact fun h => isCanonical_of_parse h he
  · intro h
    have hparse := parse_sql (fun _ => id) (isWritable_of_isCanonical h)
    rwa [(restored h).disjuncts] at hparse

/-- A disjunction in parentheses under a conjunction, with the least integer, a name that starts
as a keyword does and a quote. -/
theorem parse_sql_iff_isCanonical_nested :
    let e : Filter := .and [compareColumn "o.name" .ge (.int Int64.minValue),
      .group (.or [.member (.column "nothing") [.literal (.text "it's"), .literal .null] true,
        .not (.like (.column "c") "x%" false)])]
    e.isDoubleFree = true ∧ parse e.sql = .ok e ∧
      isDecimalFree e.sql = true ∧ e.isCanonical = true := by
  intro e
  have hparse := (parse_sql_iff_isCanonical.2 e (by decide +kernel)).2 (by decide +kernel)
  have hdecimal : isDecimalFree e.sql = true := by decide +kernel
  exact ⟨by decide +kernel, hparse, hdecimal, parse_sql_iff_isCanonical.1 e.sql e hdecimal hparse⟩

end Filter

end RowScope
