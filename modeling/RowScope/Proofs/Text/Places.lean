/-
Lines and columns of a text.

* `byteLength_eq_length_iff` — a text has as many bytes as characters if each has one byte;
* `Place.ofOffset_byteLength` — a place is reached character by character;
* `Place.foldl_next` — the line counts newlines, the column the characters after the last one;
* `EndsLine` — a text of whole lines;
* `Place.ofOffset_of_endsLine` — the place after whole lines and a part of the next one;
* `drop_lines_of_endsLine` — the lines after whole lines are those of the rest;
* `exists_of_head?_lines` — the first line reaches to its terminator, or to the end.

Design notes: a place counts newlines only, and a carriage return is a character of its line.  The
lines that are shown leave it out where a newline follows.  The two agree on all places but the
one between these characters.
-/
import Mathlib.Data.List.DropRight
import Mathlib.Data.List.Induction
import RowScope.Text.Position

namespace RowScope

/-! ### Bytes -/

theorem length_le_byteLength (cs : List Char) : cs.length ≤ byteLength cs := by
  induction cs with
  | nil => exact Nat.le_refl 0
  | cons c cs ih =>
    have hc := c.utf8Size_pos
    rw [List.length_cons, byteLength_cons]
    omega

theorem byteLength_eq_length_iff {cs : List Char} :
    byteLength cs = cs.length ↔ ∀ c ∈ cs, c.utf8Size = 1 := by
  induction cs with
  | nil => simp
  | cons c cs ih =>
    have hc := c.utf8Size_pos
    have hle := length_le_byteLength cs
    rw [List.forall_mem_cons, ← ih, byteLength_cons, List.length_cons]
    omega

/-- A character has at least one byte, and with more bytes after it these are left. -/
theorem exists_utf8Size_add (c : Char) (n : Nat) :
    ∃ k, c.utf8Size + n = k + 1 ∧ k + 1 - c.utf8Size = n := by
  have hc := c.utf8Size_pos
  exact ⟨c.utf8Size + n - 1, by omega, by omega⟩

/-! ### Places -/

namespace Place

/-- The place after a character. -/
def next (p : Place) (c : Char) : Place :=
  if c = '\n' then ⟨p.line + 1, 1⟩ else ⟨p.line, p.column + 1⟩

theorem after_cons (p : Place) (n : Nat) (c : Char) (cs : List Char) :
    after p (c.utf8Size + n) (c :: cs) = after (p.next c) n cs := by
  obtain ⟨k, hk, hrest⟩ := exists_utf8Size_add c n
  rw [hk, after, hrest, next]
  split
  · rfl
  · rfl

/-- A place is reached character by character. -/
theorem after_byteLength (p : Place) (pre post : List Char) :
    after p (byteLength pre) (pre ++ post) = pre.foldl next p := by
  induction pre generalizing p with
  | nil => rw [byteLength_nil, after, List.foldl_nil]
  | cons c pre ih => rw [byteLength_cons, List.cons_append, after_cons, ih, List.foldl_cons]

theorem ofOffset_byteLength (pre post : List Char) :
    ofOffset (pre ++ post) (byteLength pre) = pre.foldl next ⟨1, 1⟩ :=
  after_byteLength _ pre post

/-- The line counts the newlines, and the column the characters after the last one. -/
theorem foldl_next (cs : List Char) :
    cs.foldl next ⟨1, 1⟩ = ⟨cs.count '\n' + 1, (cs.rtakeWhile (· ≠ '\n')).length + 1⟩ := by
  induction cs using List.reverseRecOn with
  | nil => rfl
  | append_singleton cs c ih =>
    rw [List.foldl_concat, ih, next, List.count_append]
    by_cases hc : c = '\n'
    · rw [if_pos hc, List.rtakeWhile_concat_neg _ _ _ (by simpa using hc), hc]
      rfl
    · rw [if_neg hc, List.rtakeWhile_concat_pos _ _ _ (by simpa using hc), List.count_singleton,
        if_neg (by simpa using hc), List.length_append]
      rfl

end Place

/-! ### Lines -/

/-- A text of whole lines: it is empty or ends with a newline. -/
def EndsLine (prior : List Char) : Prop :=
  ∀ c ∈ prior.getLast?, c = '\n'

/-- What may follow a line: nothing, or a newline with a carriage return before it or without. -/
def IsLineEnd (rest : List Char) : Prop :=
  rest = [] ∨ ∃ more, rest = '\n' :: more ∨ rest = '\r' :: '\n' :: more

section Lines

variable {prior before line rest cs : List Char}

theorem EndsLine.eq_nil_or_append (h : EndsLine prior) :
    prior = [] ∨ ∃ cs, prior = cs ++ ['\n'] := by
  rcases List.eq_nil_or_concat prior with rfl | ⟨cs, c, rfl⟩
  · exact .inl rfl
  · obtain rfl := h c (by simp)
    exact .inr ⟨cs, List.concat_eq_append⟩

theorem EndsLine.rtakeWhile_append (h : EndsLine prior) (hbefore : '\n' ∉ before) :
    (prior ++ before).rtakeWhile (· ≠ '\n') = before := by
  induction before using List.reverseRecOn with
  | nil =>
    rw [List.append_nil]
    obtain rfl | ⟨cs, rfl⟩ := h.eq_nil_or_append
    · rfl
    · exact List.rtakeWhile_concat_neg _ _ _ (by simp)
  | append_singleton cs c ih =>
    rw [List.mem_append, List.mem_singleton, not_or] at hbefore
    rw [← List.append_assoc, List.rtakeWhile_concat_pos _ _ _ (by simpa using Ne.symm hbefore.2),
      ih hbefore.1]

/-- Every text is some whole lines and a part of a line. -/
theorem exists_endsLine (cs : List Char) :
    ∃ prior before, cs = prior ++ before ∧ EndsLine prior ∧ '\n' ∉ before := by
  induction cs using List.reverseRecOn with
  | nil => exact ⟨[], [], rfl, by simp [EndsLine], List.not_mem_nil⟩
  | append_singleton cs c ih =>
    by_cases hc : c = '\n'
    · exact ⟨cs ++ [c], [], by simp, by simp [EndsLine, hc], List.not_mem_nil⟩
    · obtain ⟨prior, before, rfl, hprior, hbefore⟩ := ih
      refine ⟨prior, before ++ [c], List.append_assoc _ _ _, hprior, ?_⟩
      simp [hbefore, Ne.symm hc]

/-- The place after whole lines and a part of the next one. -/
theorem Place.ofOffset_of_endsLine (hprior : EndsLine prior) (hbefore : '\n' ∉ before)
    (rest : List Char) :
    ofOffset (prior ++ before ++ rest) (byteLength (prior ++ before))
      = ⟨prior.count '\n' + 1, before.length + 1⟩ := by
  rw [ofOffset_byteLength, foldl_next, hprior.rtakeWhile_append hbefore, List.count_append,
    List.count_eq_zero.2 hbefore, Nat.add_zero]

/-- A character other than a newline changes only the first line. -/
theorem tail_lines_cons {c : Char} (hc : c ≠ '\n') (cs : List Char) :
    (lines (c :: cs)).tail = (lines cs).tail := by
  by_cases hr : ∃ ds, c = '\r' ∧ cs = '\n' :: ds
  · obtain ⟨ds, rfl, rfl⟩ := hr
    rfl
  · rw [lines]
    · cases lines cs <;> rfl
    · exact hc
    · exact fun ds hc hcs => hr ⟨ds, hc, hcs⟩

theorem drop_lines (cs rest : List Char) :
    (lines (cs ++ '\n' :: rest)).drop (cs.count '\n' + 1) = lines rest := by
  induction cs with
  | nil => rfl
  | cons c cs ih =>
    by_cases hc : c = '\n'
    · subst hc
      rw [List.count_cons_self]
      exact ih
    · rw [List.count_cons_of_ne hc, List.cons_append, ← List.drop_tail, tail_lines_cons hc,
        List.drop_tail, ih]

/-- The lines after whole lines are those of the rest. -/
theorem drop_lines_of_endsLine (hprior : EndsLine prior) (rest : List Char) :
    (lines (prior ++ rest)).drop (prior.count '\n') = lines rest := by
  obtain rfl | ⟨cs, rfl⟩ := hprior.eq_nil_or_append
  · rfl
  · rw [List.count_append, List.append_assoc]
    exact drop_lines cs rest

theorem eq_nil_of_lines (h : lines cs = []) : cs = [] := by
  fun_cases lines cs with
  | case1 => rfl
  | _ => simp_all [lines]

/-- The first line reaches to its terminator, or to the end of the text. -/
theorem exists_of_head?_lines (h : (lines cs).head? = some line) :
    ∃ rest, cs = line ++ rest ∧ '\n' ∉ line ∧ IsLineEnd rest := by
  fun_induction lines cs generalizing line with
  | case1 => cases h
  | case2 cs ih =>
    obtain rfl := Option.some.inj h
    exact ⟨_, rfl, List.not_mem_nil, .inr ⟨cs, .inl rfl⟩⟩
  | case3 cs ih =>
    obtain rfl := Option.some.inj h
    exact ⟨_, rfl, List.not_mem_nil, .inr ⟨cs, .inr rfl⟩⟩
  | case4 c cs hc hr hnil ih =>
    obtain rfl := Option.some.inj h
    obtain rfl := eq_nil_of_lines hnil
    exact ⟨[], rfl, by simp [Ne.symm hc], .inl rfl⟩
  | case5 c cs hc hr l ls hlines ih =>
    obtain rfl := Option.some.inj h
    obtain ⟨rest, rfl, hl, hrest⟩ := ih (by rw [hlines]; rfl)
    exact ⟨rest, rfl, by simp [hl, Ne.symm hc], hrest⟩

end Lines

end RowScope
