/-
What unknown values may turn out to be.

A null in a row stands for a value that is not known.  A condition that never asks whether a value
is null may be decided although some values are unknown, and it is decided rightly: whatever they
turn out to be, the outcome is the same.

* `Truth.MayBecome`, `Value.MayBecome`, `Row.MayBecome` — an outcome, a value and a row when more
  is known;
* `Filter.asksNull` — whether a condition asks if a value is null;
* `Filter.truth_mayBecome` — the outcome on a row of which more is known;
* `Filter.truth_of_mayBecome` — a definite outcome does not depend on the unknown values.

Design notes: an unknown member of a set may turn out to be a list, and so stand for any number of
elements.  So the members of a set are compared one by one, each with all of its elements.
-/
import Mathlib.Data.List.Forall2
import RowScope.Proofs.Connectives
import RowScope.Proofs.Filter.Leaves

namespace RowScope

/-! ### Outcomes -/

namespace Truth

/-- An outcome when more is known: a definite one stays what it is. -/
def MayBecome (t u : Truth) : Prop :=
  t = unknown ∨ t = u

theorem MayBecome.refl (t : Truth) : t.MayBecome t :=
  .inr rfl

theorem unknown_mayBecome (t : Truth) : unknown.MayBecome t :=
  .inl rfl

variable {t t' u u' : Truth}

theorem MayBecome.not (h : t.MayBecome u) : t.not.MayBecome u.not := by
  rcases h with rfl | rfl
  · exact unknown_mayBecome _
  · exact .refl _

theorem MayBecome.negateIf (negated : Bool) (h : t.MayBecome u) :
    (t.negateIf negated).MayBecome (u.negateIf negated) := by
  cases negated with
  | true => exact h.not
  | false => exact h

/-- A conjunction with an unknown side is unknown, or fails by its other side. -/
theorem MayBecome.and (h : t.MayBecome u) (h' : t'.MayBecome u') :
    (t.and t').MayBecome (u.and u') := by
  rcases h with rfl | rfl <;> rcases h' with rfl | rfl
  · exact unknown_mayBecome _
  · cases t' with
    | fails => cases u <;> exact .refl _
    | _ => exact unknown_mayBecome _
  · cases t with
    | fails => exact .refl _
    | _ => exact unknown_mayBecome _
  · exact .refl _

/-- A disjunction with an unknown side is unknown, or holds by its other side. -/
theorem MayBecome.or (h : t.MayBecome u) (h' : t'.MayBecome u') :
    (t.or t').MayBecome (u.or u') := by
  rcases h with rfl | rfl <;> rcases h' with rfl | rfl
  · exact unknown_mayBecome _
  · cases t' with
    | holds => cases u <;> exact .refl _
    | _ => exact unknown_mayBecome _
  · cases t with
    | holds => exact .refl _
    | _ => exact unknown_mayBecome _
  · exact .refl _

variable {ts us : List Truth}

theorem mayBecome_all (h : List.Forall₂ MayBecome ts us) : (all ts).MayBecome (all us) := by
  induction h with
  | nil => exact .refl _
  | cons h _ ih => exact h.and ih

theorem mayBecome_any (h : List.Forall₂ MayBecome ts us) : (any ts).MayBecome (any us) := by
  induction h with
  | nil => exact .refl _
  | cons h _ ih => exact h.or ih

end Truth

/-! ### Values -/

namespace Value

/-- A value when more is known: a null stands for any value. -/
def MayBecome (v w : Value) : Prop :=
  v = null ∨ v = w

theorem MayBecome.refl (v : Value) : v.MayBecome v :=
  .inr rfl

variable {v v' w w' : Value}

/-- A comparison with a null is unknown. -/
theorem MayBecome.compare (c : Comparison) (h : v.MayBecome w) (h' : v'.MayBecome w') :
    (c.truth v v').MayBecome (c.truth w w') := by
  rcases h with rfl | rfl
  · exact Truth.unknown_mayBecome _
  · rcases h' with rfl | rfl
    · refine .inl (if_pos ?_)
      exact Bool.or_true _
    · exact .refl _

theorem MayBecome.matchesPattern (pattern : String) (h : v.MayBecome w) :
    (v.matchesPattern pattern).MayBecome (w.matchesPattern pattern) := by
  rcases h with rfl | rfl
  · exact Truth.unknown_mayBecome _
  · exact .refl _

/-- An unknown member of a set leaves open whether it, or one of its elements, is the value. -/
theorem MayBecome.equals_elements (v : Value) (h : w.MayBecome w') :
    (Truth.any (w.elements.map v.equals)).MayBecome (.any (w'.elements.map v.equals)) := by
  rcases h with rfl | rfl
  · exact .inl (any_equals_null v)
  · exact .refl _

theorem MayBecome.among {ws ws' : List Value} (h : v.MayBecome w)
    (hs : List.Forall₂ MayBecome ws ws') :
    (v.among (ws.flatMap elements)).MayBecome (w.among (ws'.flatMap elements)) := by
  rcases h with rfl | rfl
  · exact Truth.unknown_mayBecome _
  cases hv : v.isNull with
  | true => exact .inl (if_pos hv)
  | false =>
    rw [among_elements hv, among_elements hv]
    refine Truth.mayBecome_any ?_
    rw [List.forall₂_map_left_iff, List.forall₂_map_right_iff]
    exact hs.imp fun _ _ h => h.equals_elements v

end Value

/-! ### Rows -/

namespace Row

/-- A row when more is known: the same columns in the same places, each with its value, or with
any value in the place of a null. -/
def MayBecome (row row' : Row) : Prop :=
  List.Forall₂ (fun e e' => e.1 = e'.1 ∧ e.2.MayBecome e'.2) row row'

variable {row row' : Row}

theorem MayBecome.lookup (h : row.MayBecome row') (column : String) :
    Option.Rel Value.MayBecome (row.lookup column) (row'.lookup column) := by
  induction h with
  | nil => exact .none
  | @cons e e' _ _ he _ ih =>
    rw [List.lookup_cons, List.lookup_cons, ← he.1]
    split
    · exact .some he.2
    · exact ih

/-- The first of two values that is there; a value that is not there is a null. -/
theorem mayBecome_getD {a a' b b' : Option Value} (h : Option.Rel Value.MayBecome a b)
    (h' : Option.Rel Value.MayBecome a' b') :
    ((a.or a').getD .null).MayBecome ((b.or b').getD .null) := by
  cases h with
  | some hv => exact hv
  | none =>
    cases h' with
    | some hv => exact hv
    | none => exact .refl _

/-- A column with a null is there, so its bare name is not tried in either row. -/
theorem MayBecome.value (h : row.MayBecome row') (column : String) :
    (row.value column).MayBecome (row'.value column) :=
  mayBecome_getD (h.lookup column) (h.lookup (Name.bare column))

theorem MayBecome.operand (h : row.MayBecome row') (o : Operand) :
    (o.value row).MayBecome (o.value row') := by
  cases o with
  | column name => exact h.value name
  | literal v => exact .refl v

end Row

/-! ### Conditions -/

namespace Filter

/-- The condition asks whether a value is null. -/
def isNullTest : Filter → Bool
  | isNull .. => true
  | _ => false

/-- Some part of the condition asks whether a value is null. -/
def asksNull (f : Filter) : Bool :=
  f.leaves.any isNullTest

variable {row row' : Row} {f : Filter} {fs : List Filter}

theorem asksNull_of_mem (h : (leavesAll fs).any isNullTest = false) :
    ∀ f ∈ fs, f.asksNull = false := by
  intro f hf
  rw [List.any_eq_false] at h
  rw [asksNull, List.any_eq_false]
  exact fun leaf hleaf => h leaf (mem_leavesAll.2 ⟨f, hf, hleaf⟩)

theorem truths_mayBecome (h : ∀ f ∈ fs, (f.truth row).MayBecome (f.truth row')) :
    List.Forall₂ Truth.MayBecome (truths row fs) (truths row' fs) := by
  rw [truths_eq_map, truths_eq_map, List.forall₂_map_left_iff, List.forall₂_map_right_iff,
    List.forall₂_same]
  exact h

/-- The outcome of a condition on a row of which more is known. -/
theorem truth_mayBecome (hrow : row.MayBecome row') (f : Filter) (h : f.asksNull = false) :
    (f.truth row).MayBecome (f.truth row') := by
  induction f using tree_induction with
  | compare l c r => exact (hrow.operand l).compare c (hrow.operand r)
  | member o vs negated =>
    have hvalues : List.Forall₂ Value.MayBecome (vs.map (Operand.value row))
        (vs.map (Operand.value row')) := by
      rw [List.forall₂_map_left_iff, List.forall₂_map_right_iff, List.forall₂_same]
      exact fun v _ => hrow.operand v
    have hamong := (hrow.operand o).among hvalues
    rw [List.flatMap_map, List.flatMap_map] at hamong
    exact hamong.negateIf negated
  | isNull o negated => cases h
  | like o pattern negated => exact ((hrow.operand o).matchesPattern pattern).negateIf negated
  | and fs ih =>
    exact Truth.mayBecome_all (truths_mayBecome fun f hf => ih f hf (asksNull_of_mem h f hf))
  | or fs ih =>
    exact Truth.mayBecome_any (truths_mayBecome fun f hf => ih f hf (asksNull_of_mem h f hf))
  | not f ih => exact (ih h).not
  | group f ih => exact ih h
  | always => exact .refl _
  | never => exact .refl _

/-- **Unknown is sound**: a definite outcome of a condition that does not ask for nulls stays the
same whatever the unknown values turn out to be. -/
theorem truth_of_mayBecome (hrow : row.MayBecome row') (hnull : f.asksNull = false)
    (hdefinite : f.truth row ≠ .unknown) : f.truth row' = f.truth row := by
  rcases truth_mayBecome hrow f hnull with hunknown | hsame
  · exact absurd hunknown hdefinite
  · exact hsame.symm

/-- A value that was found in a set is still found when the unknown member turns out to be a list,
and an unknown value in a disjunction does not matter beside it. -/
theorem truth_of_mayBecome_list :
    let f : Filter := .or [.like (.column "note") "x%" true,
      .not (.member (.column "o.dept") [.column "extra", .literal (.ints [2, 3])] true)]
    let row : Row := [("dept", .int 3), ("extra", .null), ("note", .null)]
    let row' : Row := [("dept", .int 3), ("extra", .texts ["3", ""]), ("note", .text "xy")]
    row.MayBecome row' ∧ f.asksNull = false ∧ f.truth row = .holds ∧ f.truth row' = .holds := by
  intro f row row'
  have hrow : row.MayBecome row' :=
    .cons ⟨rfl, .refl _⟩ (.cons ⟨rfl, .inl rfl⟩ (.cons ⟨rfl, .inl rfl⟩ .nil))
  have hnull : f.asksNull = false := rfl
  have htruth : f.truth row = .holds := by decide +kernel
  have hdefinite : f.truth row ≠ .unknown := by
    rw [htruth]
    decide
  exact ⟨hrow, hnull, htruth, (truth_of_mayBecome hrow hnull hdefinite).trans htruth⟩

end Filter

end RowScope
