/-
Conditions that count as the same.

The comparison of conditions takes the two zeros for the same double.  A comparison on a
row does so too, but their texts differ, so a pattern can tell them apart.

* `Filter.same_induction` — conditions that count as the same are built in the same way;
* `Filter.matchesZero` — a zero is matched with a pattern somewhere in a condition;
* `Filter.truth_of_same` — other conditions that count as the same have one outcome;
* `Filter.matchesZero_of_same` — conditions that count as the same both match a zero, or none;
* `Filter.truth_of_join?_distinct` — leaving out duplicates does not change a join.
-/
import RowScope.Proofs.Connectives
import RowScope.Proofs.Filter.Leaves
import RowScope.Proofs.Number.Doubles
import RowScope.Proofs.Sequences

namespace RowScope

theorem Value.eq_or_float_of_same {a b : Value} (h : a.same b = true) :
    a = b ∨ ∃ x y, a = .float x ∧ b = .float y ∧ (x == y) = true := by
  cases a with
  | float x =>
    cases b with
    | float y => exact .inr ⟨x, y, rfl, rfl, h⟩
    | _ => exact absurd h (by simp [same])
  | _ => exact .inl (by simpa [same] using h)

theorem Value.order?_congr {x y : Float} (h : (x == y) = true) (v : Value) :
    order? (.float x) v = order? (.float y) v ∧ v.order? (.float x) = v.order? (.float y) := by
  cases v with
  | float z => exact floatOrder?_congr h z
  | int n => exact floatOrder?_congr h (Float.ofInt n.toInt)
  | _ => exact ⟨rfl, rfl⟩

theorem Operand.eq_or_float_of_same {o o' : Operand} (h : o.same o' = true) :
    o = o' ∨ ∃ x y, o = .literal (.float x) ∧ o' = .literal (.float y) ∧ (x == y) = true := by
  cases o with
  | column name =>
    cases o' with
    | column name' => exact .inl (congrArg column (by simpa [same] using h))
    | literal v' => exact absurd h (by simp [same])
  | literal v =>
    cases o' with
    | column name' => exact absurd h (by simp [same])
    | literal v' =>
      rcases Value.eq_or_float_of_same h with rfl | ⟨x, y, rfl, rfl, hxy⟩
      · exact .inl rfl
      · exact .inr ⟨x, y, rfl, rfl, hxy⟩

/-- Nothing that a comparison looks at tells the values apart. -/
def Value.Alike (a b : Value) : Prop :=
  (∀ v, a.order? v = b.order? v ∧ v.order? a = v.order? b) ∧ a.isNull = b.isNull

namespace Value

variable {a a' b b' : Value}

theorem Alike.refl (a : Value) : a.Alike a :=
  ⟨fun _ => ⟨rfl, rfl⟩, rfl⟩

theorem alike_float {x y : Float} (h : (x == y) = true) : Alike (.float x) (.float y) :=
  ⟨order?_congr h, rfl⟩

theorem Alike.order? (ha : a.Alike a') (hb : b.Alike b') : a.order? b = a'.order? b' := by
  rw [(ha.1 b).1, (hb.1 a').2]

theorem Alike.equals (ha : a.Alike a') (hb : b.Alike b') : a.equals b = a'.equals b' := by
  unfold Value.equals
  rw [ha.2, hb.2, ha.order? hb]

theorem Alike.truth (c : Comparison) (ha : a.Alike a') (hb : b.Alike b') :
    c.truth a b = c.truth a' b' := by
  unfold Comparison.truth
  rw [ha.2, hb.2, ha.order? hb, ha.equals hb]

end Value

theorem Operand.value_alike {o o' : Operand} (h : o.same o' = true) (row : Row) :
    (o.value row).Alike (o'.value row) := by
  rcases eq_or_float_of_same h with rfl | ⟨x, y, rfl, rfl, hxy⟩
  · exact .refl _
  · exact Value.alike_float hxy

/-- The scalars of operands that count as the same are found among others alike. -/
theorem Operand.map_equals_congr {a a' : Value} (ha : a.Alike a') (row : Row)
    {vs vs' : List Operand} (h : sameList vs vs' = true) :
    (vs.flatMap fun v => (v.value row).elements).map a.equals
      = (vs'.flatMap fun v => (v.value row).elements).map a'.equals := by
  induction vs generalizing vs' with
  | nil =>
    cases vs' with
    | nil => rfl
    | cons v' vs' => exact absurd h (by simp [sameList])
  | cons v vs ih =>
    cases vs' with
    | nil => exact absurd h (by simp [sameList])
    | cons v' vs' =>
      rw [sameList, Bool.and_eq_true] at h
      rw [List.flatMap_cons, List.flatMap_cons, List.map_append, List.map_append, ih h.2]
      congr 1
      rcases eq_or_float_of_same h.1 with rfl | ⟨x, y, rfl, rfl, hxy⟩
      · exact List.map_congr_left fun b _ => ha.equals (.refl b)
      · exact congrArg (· :: []) (ha.equals (Value.alike_float hxy))

namespace Filter

theorem forall₂_of_sameList {motive : Filter → Filter → Prop} {fs gs : List Filter}
    (h : sameList fs gs = true)
    (ih : ∀ f ∈ fs, ∀ {g : Filter}, f.same g = true → motive f g) : List.Forall₂ motive fs gs := by
  induction fs generalizing gs with
  | nil =>
    cases gs with
    | nil => exact .nil
    | cons g gs => exact absurd h (by simp [sameList])
  | cons f fs ihs =>
    cases gs with
    | nil => exact absurd h (by simp [sameList])
    | cons g gs =>
      rw [sameList, Bool.and_eq_true] at h
      rw [List.forall_mem_cons] at ih
      exact .cons (ih.1 h.1) (ihs h.2 ih.2)

/-- Induction over two conditions that count as the same: they are built in the same way, from
operands that count as the same. -/
theorem same_induction {motive : Filter → Filter → Prop}
    (compare : ∀ {l l' r r' : Operand} (c), l.same l' = true → r.same r' = true →
      motive (.compare l c r) (.compare l' c r'))
    (member : ∀ {o o' : Operand} {vs vs' : List Operand} (negated), o.same o' = true →
      Operand.sameList vs vs' = true → motive (.member o vs negated) (.member o' vs' negated))
    (isNull : ∀ {o o' : Operand} (negated), o.same o' = true →
      motive (.isNull o negated) (.isNull o' negated))
    (like : ∀ {o o' : Operand} (pattern negated), o.same o' = true →
      motive (.like o pattern negated) (.like o' pattern negated))
    (and : ∀ {fs gs : List Filter}, List.Forall₂ motive fs gs → motive (.and fs) (.and gs))
    (or : ∀ {fs gs : List Filter}, List.Forall₂ motive fs gs → motive (.or fs) (.or gs))
    (not : ∀ {f g : Filter}, motive f g → motive (.not f) (.not g))
    (group : ∀ {f g : Filter}, motive f g → motive (.group f) (.group g))
    (always : motive .always .always) (never : motive .never .never) {f g : Filter}
    (h : f.same g = true) : motive f g := by
  induction f using tree_induction generalizing g with
  | compare l c r =>
    cases g with
    | compare l' c' r' =>
      simp only [same, Bool.and_eq_true, beq_iff_eq] at h
      obtain ⟨⟨hl, rfl⟩, hr⟩ := h
      exact compare c hl hr
    | _ => exact absurd h (by simp [same])
  | member o vs negated =>
    cases g with
    | member o' vs' negated' =>
      simp only [same, Bool.and_eq_true, beq_iff_eq] at h
      obtain ⟨⟨ho, hvs⟩, rfl⟩ := h
      exact member negated ho hvs
    | _ => exact absurd h (by simp [same])
  | isNull o negated =>
    cases g with
    | isNull o' negated' =>
      simp only [same, Bool.and_eq_true, beq_iff_eq] at h
      obtain ⟨ho, rfl⟩ := h
      exact isNull negated ho
    | _ => exact absurd h (by simp [same])
  | like o pattern negated =>
    cases g with
    | like o' pattern' negated' =>
      simp only [same, Bool.and_eq_true, beq_iff_eq] at h
      obtain ⟨⟨ho, rfl⟩, rfl⟩ := h
      exact like pattern negated ho
    | _ => exact absurd h (by simp [same])
  | and fs ih =>
    cases g with
    | and gs =>
      rw [same] at h
      exact and (forall₂_of_sameList h ih)
    | _ => exact absurd h (by simp [same])
  | or fs ih =>
    cases g with
    | or gs =>
      rw [same] at h
      exact or (forall₂_of_sameList h ih)
    | _ => exact absurd h (by simp [same])
  | not f ih =>
    cases g with
    | not g =>
      rw [same] at h
      exact not (ih h)
    | _ => exact absurd h (by simp [same])
  | group f ih =>
    cases g with
    | group g =>
      rw [same] at h
      exact group (ih h)
    | _ => exact absurd h (by simp [same])
  | always =>
    cases g with
    | always => exact always
    | _ => exact absurd h (by simp [same])
  | never =>
    cases g with
    | never => exact never
    | _ => exact absurd h (by simp [same])

/-- The condition matches a zero with a pattern. -/
def isZeroMatch : Filter → Bool
  | like (.literal (.float x)) _ _ => x == 0
  | _ => false

/-- A zero is matched with a pattern somewhere in the condition. -/
def matchesZero (f : Filter) : Bool :=
  f.leaves.any isZeroMatch

theorem matchesZero_eq_false_iff {f : Filter} :
    f.matchesZero = false ↔ ∀ leaf ∈ f.leaves, leaf.isZeroMatch = false := by
  rw [matchesZero, List.any_eq_false]
  exact forall₂_congr fun leaf _ => by rw [Bool.not_eq_true]

theorem matchesZero_eq_false_of_mem {fs : List Filter} {f : Filter} (hf : f ∈ fs)
    (h : ∀ leaf ∈ leavesAll fs, leaf.isZeroMatch = false) : f.matchesZero = false :=
  matchesZero_eq_false_iff.2 fun leaf hleaf => h leaf (mem_leavesAll.2 ⟨f, hf, hleaf⟩)

theorem truths_of_forall₂ {fs gs : List Filter} {row : Row}
    (h : List.Forall₂ (fun f g => g.matchesZero = false → f.truth row = g.truth row) fs gs)
    (hz : ∀ g ∈ gs, g.matchesZero = false) : truths row fs = truths row gs := by
  induction h with
  | nil => rfl
  | cons hf _ ih =>
    rw [List.forall_mem_cons] at hz
    rw [truths, truths, hf hz.1, ih hz.2]

theorem truth_like_of_same {o o' : Operand} {pattern : String} {negated : Bool}
    (h : o.same o' = true) (hz : matchesZero (.like o' pattern negated) = false) (row : Row) :
    truth row (.like o pattern negated) = truth row (.like o' pattern negated) := by
  rcases Operand.eq_or_float_of_same h with rfl | ⟨x, y, rfl, rfl, hxy⟩
  · rfl
  · rcases eq_or_zero_of_beq hxy with rfl | ⟨-, hy⟩
    · rfl
    · have := matchesZero_eq_false_iff.1 hz _ List.mem_cons_self
      rw [isZeroMatch, hy] at this
      exact absurd this (by simp)

/-- Conditions that count as the same have one outcome, if no zero is matched with a
pattern in them. -/
theorem truth_of_same {f g : Filter} (h : f.same g = true) (hz : g.matchesZero = false)
    (row : Row) :
    f.truth row = g.truth row := by
  refine same_induction (motive := fun f g => g.matchesZero = false → f.truth row = g.truth row)
    ?compare ?member ?isNull ?like ?and ?or ?not ?group ?always ?never h hz
  case compare =>
    intro l l' r r' c hl hr _
    rw [truth, truth]
    exact (Operand.value_alike hl row).truth c (Operand.value_alike hr row)
  case member =>
    intro o o' vs vs' negated ho hvs _
    have ho := Operand.value_alike ho row
    rw [truth, truth, Value.among, Value.among, ho.2, Operand.map_equals_congr ho row hvs]
  case isNull =>
    intro o o' negated ho _
    rw [truth, truth, (Operand.value_alike ho row).2]
  case like =>
    intro o o' pattern negated ho hz
    exact truth_like_of_same ho hz row
  case and =>
    intro fs gs ih hz
    have hz := matchesZero_eq_false_iff.1 hz
    rw [truth, truth, truths_of_forall₂ ih fun g hg => matchesZero_eq_false_of_mem hg hz]
  case or =>
    intro fs gs ih hz
    have hz := matchesZero_eq_false_iff.1 hz
    rw [truth, truth, truths_of_forall₂ ih fun g hg => matchesZero_eq_false_of_mem hg hz]
  case not =>
    intro f g ih hz
    rw [truth, truth, ih hz]
  case group =>
    intro f g ih hz
    rw [truth, truth, ih hz]
  case always => exact fun _ => rfl
  case never => exact fun _ => rfl

theorem isZeroMatch_of_same {o o' : Operand} (pattern : String) (negated : Bool)
    (h : o.same o' = true) :
    isZeroMatch (.like o pattern negated) = isZeroMatch (.like o' pattern negated) := by
  rcases Operand.eq_or_float_of_same h with rfl | ⟨x, y, rfl, rfl, hxy⟩
  · rfl
  · rcases eq_or_zero_of_beq hxy with rfl | ⟨hx, hy⟩
    · rfl
    · exact hx.trans hy.symm

theorem matchesZero_of_forall₂ {fs gs : List Filter}
    (h : List.Forall₂ (fun f g => f.matchesZero = g.matchesZero) fs gs) :
    (leavesAll fs).any isZeroMatch = (leavesAll gs).any isZeroMatch := by
  induction h with
  | nil => rfl
  | cons hf _ ih =>
    rw [leavesAll, leavesAll, List.any_append, List.any_append, ih]
    exact congrArg (· || _) hf

/-- Of conditions that count as the same both match a zero with a pattern, or none does. -/
theorem matchesZero_of_same {f g : Filter} (h : f.same g = true) :
    f.matchesZero = g.matchesZero := by
  refine same_induction (motive := fun f g => f.matchesZero = g.matchesZero)
    ?compare ?member ?isNull ?like ?and ?or ?not ?group ?always ?never h
  case like =>
    intro o o' pattern negated ho
    exact congrArg (· || false) (isZeroMatch_of_same pattern negated ho)
  case and => exact matchesZero_of_forall₂
  case or => exact matchesZero_of_forall₂
  -- neither of them has leaves of its own
  case not => exact id
  case group => exact id
  -- no pattern is matched in what is left
  all_goals
    intros
    rfl

/-- The outcomes of a list without duplicates are those of the list, where conditions that
count as the same have one outcome. -/
theorem mem_map_truth_distinct {fs : List Filter} {row : Row}
    (h : ∀ f ∈ fs, ∀ g ∈ distinct fs, f.same g = true → f.truth row = g.truth row) (t : Truth) :
    t ∈ (distinct fs).map (truth row) ↔ t ∈ fs.map (truth row) := by
  rw [List.mem_map, List.mem_map]
  constructor
  · rintro ⟨f, hf, rfl⟩
    exact ⟨f, mem_of_mem_eraseDupsBy hf, rfl⟩
  · rintro ⟨f, hf, rfl⟩
    obtain ⟨g, hg, rfl | hsame⟩ := exists_mem_eraseDupsBy (r := same) hf
    · exact ⟨f, hg, rfl⟩
    · exact ⟨g, hg, (h f hf g hg hsame).symm⟩

/-- Leaving out duplicates does not change what a list of conditions says under a join. -/
theorem truth_of_join?_distinct {j : Join} {fs : List Filter} {f : Filter} {row : Row}
    (hj : join? j (distinct fs) = some f)
    (h : ∀ f ∈ fs, ∀ g ∈ distinct fs, f.same g = true → f.truth row = g.truth row) :
    f.truth row = j.truth (fs.map (truth row)) := by
  rw [truth_of_join? hj row]
  exact j.truth_congr (mem_map_truth_distinct h)

end Filter

end RowScope
