/-
Ascending lists and sets of names.

* `ascending` — the elements of a list in ascending order, each once;
* `NameSet` — a set of names, written in ascending order;
* `mem_ascending`, `pairwise_ascending` — nothing is lost, and the order is strict.
-/

namespace RowScope

/-- Puts an element into an ascending list, unless it is there. -/
def insertAscending {α : Type} [LT α] [DecidableLT α] (x : α) : List α → List α
  | [] => [x]
  | y :: ys =>
    if x < y then x :: y :: ys
    else if y < x then y :: insertAscending x ys
    else y :: ys

/-- The elements of a list in ascending order, each once. -/
def ascending {α : Type} [LT α] [DecidableLT α] (xs : List α) : List α :=
  xs.foldr insertAscending []

section Order

variable {α : Type} [LE α] [LT α] [DecidableLT α] [Std.LawfulOrderLT α] [Std.IsLinearOrder α]

theorem mem_insertAscending {x z : α} {ys : List α} :
    z ∈ insertAscending x ys ↔ z = x ∨ z ∈ ys := by
  induction ys with
  | nil => simp [insertAscending]
  | cons y ys ih =>
    rw [insertAscending]
    split
    · simp
    split
    · rw [List.mem_cons, ih, List.mem_cons]
      exact or_left_comm
    · next h₁ h₂ =>
      have hxy : x = y := Std.le_antisymm (Std.not_lt.1 h₂) (Std.not_lt.1 h₁)
      simp [hxy]

theorem pairwise_insertAscending (x : α) {ys : List α} (h : ys.Pairwise (· < ·)) :
    (insertAscending x ys).Pairwise (· < ·) := by
  induction ys with
  | nil => simp [insertAscending]
  | cons y ys ih =>
    obtain ⟨hy, hys⟩ := List.pairwise_cons.1 h
    rw [insertAscending]
    split
    · next hx =>
      refine List.pairwise_cons.2 ⟨fun z hz => ?_, h⟩
      rcases List.mem_cons.1 hz with rfl | hz
      · exact hx
      · exact Std.lt_trans hx (hy z hz)
    split
    · next hx =>
      refine List.pairwise_cons.2 ⟨fun z hz => ?_, ih hys⟩
      rcases mem_insertAscending.1 hz with rfl | hz
      · exact hx
      · exact hy z hz
    · exact h

theorem mem_ascending {z : α} {xs : List α} : z ∈ ascending xs ↔ z ∈ xs := by
  induction xs with
  | nil => simp [ascending]
  | cons x xs ih =>
    rw [ascending, List.foldr_cons, mem_insertAscending, List.mem_cons]
    exact or_congr_right ih

theorem pairwise_ascending (xs : List α) : (ascending xs).Pairwise (· < ·) := by
  induction xs with
  | nil => exact List.Pairwise.nil
  | cons x xs ih => exact pairwise_insertAscending x ih

end Order

/-- A set of names. -/
structure NameSet where
  names : List String
  pairwise_lt : names.Pairwise (· < ·)
deriving DecidableEq

namespace NameSet

def empty : NameSet := ⟨[], .nil⟩

/-- The set of some names. -/
def ofList (names : List String) : NameSet := ⟨ascending names, pairwise_ascending names⟩

def insert (s : NameSet) (name : String) : NameSet :=
  ⟨insertAscending name s.names, pairwise_insertAscending name s.pairwise_lt⟩

def contains (s : NameSet) (name : String) : Bool := s.names.contains name

def isEmpty (s : NameSet) : Bool := s.names.isEmpty

/-- Whether two sets have a name in common. -/
def meets (s t : NameSet) : Bool := s.names.any t.contains

end NameSet

end RowScope
