/-
A department with everything below it.

* `Directory.Found` — what a search comes to, through departments that were not seen before;
* `Directory.mem_reach_iff` — the search finds exactly that;
* `Directory.HasChild` — some record lists a department below another one;
* `Directory.mem_tree_iff` — the tree of a department holds the department and all that records
  lead to from it, each once and in ascending order.

Design notes: a department that was visited is taken out of those not seen yet, so the search
goes on in a smaller directory.  What is found there and what is found in the whole one differ
in that department only, since every way through it can start again with its children.
-/
import Mathlib.Logic.Relation
import RowScope.Access.Directory

namespace RowScope.Directory

section Search

variable {next : Int64 → List Int64} {unseen pending rest : List Int64} {x y : Int64}

/-- What can be reached from the pending departments, staying among those not seen yet. -/
inductive Found (next : Int64 → List Int64) (unseen pending : List Int64) : Int64 → Prop
  | start {x : Int64} (hunseen : x ∈ unseen) (hpending : x ∈ pending) : Found next unseen pending x
  | step {x y : Int64} (h : Found next unseen pending x) (hunseen : y ∈ unseen)
      (hnext : y ∈ next x) : Found next unseen pending y

theorem mem_filter_ne_iff : y ∈ unseen.filter (· != x) ↔ y ∈ unseen ∧ y ≠ x := by
  rw [List.mem_filter, bne_iff_ne]

theorem not_found_nil : ¬ Found next unseen [] y := by
  intro h
  induction h with
  | start _ hpending => exact absurd hpending List.not_mem_nil
  | step _ _ _ ih => exact ih

/-- A department that was seen before starts nothing. -/
theorem found_cons_of_not_mem (hx : x ∉ unseen) :
    Found next unseen (x :: rest) y ↔ Found next unseen rest y := by
  constructor
  · intro h
    induction h with
    | @start z hunseen hpending =>
      have hne : z ≠ x := fun heq => hx (heq ▸ hunseen)
      exact .start hunseen (List.mem_of_ne_of_mem hne hpending)
    | step _ hunseen hnext ih => exact .step ih hunseen hnext
  · intro h
    induction h with
    | start hunseen hpending => exact .start hunseen (List.mem_cons_of_mem _ hpending)
    | step _ hunseen hnext ih => exact .step ih hunseen hnext

/-- A department that is visited leaves its children in its place. -/
theorem found_cons_of_mem (hx : x ∈ unseen) :
    Found next unseen (x :: rest) y
      ↔ y = x ∨ Found next (unseen.filter (· != x)) (next x ++ rest) y := by
  constructor
  · intro h
    induction h with
    | @start z hunseen hpending =>
      by_cases hz : z = x
      · exact .inl hz
      · refine .inr (.start (mem_filter_ne_iff.2 ⟨hunseen, hz⟩) ?_)
        exact List.mem_append_right _ (List.mem_of_ne_of_mem hz hpending)
    | @step w z _ hunseen hnext ih =>
      by_cases hz : z = x
      · exact .inl hz
      have hz : z ∈ unseen.filter (· != x) := mem_filter_ne_iff.2 ⟨hunseen, hz⟩
      -- the step comes from the visited department itself, or from what is found without it
      rcases ih with rfl | h
      · exact .inr (.start hz (List.mem_append_left _ hnext))
      · exact .inr (.step h hz hnext)
  · have hstart : Found next unseen (x :: rest) x := .start hx List.mem_cons_self
    rintro (rfl | h)
    · exact hstart
    · induction h with
      | start hunseen hpending =>
        have hunseen := (mem_filter_ne_iff.1 hunseen).1
        rcases List.mem_append.1 hpending with hnext | hrest
        · exact .step hstart hunseen hnext
        · exact .start hunseen (List.mem_cons_of_mem _ hrest)
      | step _ hunseen hnext ih => exact .step ih (mem_filter_ne_iff.1 hunseen).1 hnext

/-- **The search is exact**: it misses nothing that can be reached, and finds nothing else. -/
theorem mem_reach_iff : y ∈ reach next unseen pending ↔ Found next unseen pending y := by
  fun_induction reach next unseen pending with
  | case1 => simp [not_found_nil]
  | case2 unseen x rest hx _ ih =>
    simp only [List.unattach_filter, List.unattach_attach] at ih
    rw [List.mem_cons, ih, found_cons_of_mem hx]
  | case3 unseen x rest hx ih => rw [ih, found_cons_of_not_mem hx]

theorem mem_unseen_of_mem_reach (h : y ∈ reach next unseen pending) : y ∈ unseen := by
  cases mem_reach_iff.1 h with
  | start hunseen _ => exact hunseen
  | step _ hunseen _ => exact hunseen

/-- No department is visited twice. -/
theorem nodup_reach : (reach next unseen pending).Nodup := by
  fun_induction reach next unseen pending with
  | case1 => exact List.nodup_nil
  | case2 unseen x rest hx _ ih =>
    simp only [List.unattach_filter, List.unattach_attach] at ih
    refine List.nodup_cons.2 ⟨fun h => ?_, ih⟩
    exact (mem_filter_ne_iff.1 (mem_unseen_of_mem_reach h)).2 rfl
  | case3 unseen x rest hx ih => exact ih

end Search

variable {d : Directory} {x y : Int64}

/-- A record of the directory lists `y` below `x`. -/
def HasChild (d : Directory) (x y : Int64) : Prop :=
  ∃ r ∈ d.departments, r.parent = some x ∧ r.id = y

theorem mem_children_iff : y ∈ d.children x ↔ d.HasChild x y := by
  rw [children, List.mem_map, HasChild]
  refine exists_congr fun r => ?_
  rw [List.mem_filter, beq_iff_eq, and_assoc]

theorem HasChild.mem (h : d.HasChild x y) : y ∈ d.departments.map Department.id := by
  obtain ⟨r, hr, -, rfl⟩ := h
  exact List.mem_map_of_mem hr

/-- Among all departments of a directory the records can be followed without limits. -/
theorem found_children_iff :
    Found d.children (d.departments.map Department.id) [x] y
      ↔ x ∈ d.departments.map Department.id ∧ Relation.ReflTransGen d.HasChild x y := by
  constructor
  · intro h
    induction h with
    | start hunseen hpending =>
      obtain rfl := List.mem_singleton.1 hpending
      exact ⟨hunseen, .refl⟩
    | step _ _ hnext ih => exact ⟨ih.1, ih.2.tail (mem_children_iff.1 hnext)⟩
  · rintro ⟨hx, h⟩
    induction h with
    | refl => exact .start hx (List.mem_singleton.2 rfl)
    | tail _ hchild ih => exact .step ih hchild.mem (mem_children_iff.2 hchild)

/-- **The tree of a department is exact**: the search for it visits no department twice, what it
finds stands in strictly ascending order, and this is nothing if no record lists the department;
else it is the department and whatever a chain of records leads to from it. -/
theorem mem_tree_iff (d : Directory) (x : Int64) :
    (reach d.children (d.departments.map Department.id) [x]).Nodup ∧
      (d.tree x).Pairwise (· < ·) ∧
      (d.tree x = [] ↔ ¬ ∃ r ∈ d.departments, r.id = x) ∧
      ∀ y, y ∈ d.tree x
        ↔ (∃ r ∈ d.departments, r.id = x) ∧ (y = x ∨ Relation.TransGen d.HasChild x y) := by
  have hmem (y : Int64) : y ∈ d.tree x
      ↔ (∃ r ∈ d.departments, r.id = x) ∧ (y = x ∨ Relation.TransGen d.HasChild x y) := by
    rw [tree, mem_ascending, mem_reach_iff, found_children_iff, List.mem_map,
      Relation.reflTransGen_iff_eq_or_transGen]
  refine ⟨nodup_reach, pairwise_ascending _, ?_, hmem⟩
  rw [List.eq_nil_iff_forall_not_mem]
  constructor
  · exact fun hnone hx => hnone x ((hmem x).2 ⟨hx, .inl rfl⟩)
  · exact fun hx y hy => hx ((hmem y).1 hy).1

example : tree ⟨[⟨1, none, "a"⟩, ⟨2, some 1, "b"⟩, ⟨1, some 2, "a"⟩, ⟨3, some 2, "c"⟩,
    ⟨4, some 9, "d"⟩], []⟩ 2 = [1, 2, 3] := by cbv

end RowScope.Directory
