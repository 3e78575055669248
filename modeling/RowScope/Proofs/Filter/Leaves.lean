/-
Conditions as trees.

* `Filter.tree_induction` — induction over a condition, with the members of a list as
  its children;
* `Filter.leaves` — the conditions that a condition is put together from.
-/
import RowScope.Filter.Basic

namespace RowScope.Filter

/-- Induction over a condition: a list under a join has its members as children. -/
@[elab_as_elim]
theorem tree_induction {motive : Filter → Prop}
    (compare : ∀ l c r, motive (.compare l c r))
    (member : ∀ o vs negated, motive (.member o vs negated))
    (isNull : ∀ o negated, motive (.isNull o negated))
    (like : ∀ o pattern negated, motive (.like o pattern negated))
    (and : ∀ fs, (∀ f ∈ fs, motive f) → motive (.and fs))
    (or : ∀ fs, (∀ f ∈ fs, motive f) → motive (.or fs))
    (not : ∀ f, motive f → motive (.not f))
    (group : ∀ f, motive f → motive (.group f))
    (always : motive .always) (never : motive .never) (f : Filter) : motive f :=
  @Filter.rec motive (fun fs => ∀ f ∈ fs, motive f) compare member isNull like and or not group
    always never (fun _ h => absurd h List.not_mem_nil)
    (fun _ _ hf hfs => List.forall_mem_cons.2 ⟨hf, hfs⟩) f

mutual

/-- The conditions without connectives that a condition is put together from. -/
def leaves : Filter → List Filter
  | and fs => leavesAll fs
  | or fs => leavesAll fs
  | not f => leaves f
  | group f => leaves f
  | f => [f]

/-- The leaves of some conditions. -/
def leavesAll : List Filter → List Filter
  | [] => []
  | f :: fs => leaves f ++ leavesAll fs

end

theorem mem_leavesAll {leaf : Filter} {fs : List Filter} :
    leaf ∈ leavesAll fs ↔ ∃ f ∈ fs, leaf ∈ leaves f := by
  induction fs with
  | nil => simp [leavesAll]
  | cons f fs ih => simp [leavesAll, ih]

/-- The leaves of several conditions as one condition. -/
theorem mem_leaves_of_join? {j : Join} {fs : List Filter} {f leaf : Filter}
    (h : join? j fs = some f) : leaf ∈ leaves f ↔ ∃ g ∈ fs, leaf ∈ leaves g := by
  match fs, h with
  | [g], h =>
    obtain rfl : g = f := Option.some.inj h
    simp
  | g :: g' :: fs, h =>
    obtain rfl := Option.some.inj h
    cases j with
    | and => exact mem_leavesAll
    | or => exact mem_leavesAll

end RowScope.Filter
