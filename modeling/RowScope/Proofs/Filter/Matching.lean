/-
A text matches a pattern if it can be cut up along the pattern.

* `Pattern.Takes` — what a character of a pattern takes from the text;
* `Pattern.Splits` — a text is a piece for each character of the pattern, one after the other;
* `Pattern.Tells` — a row of truth values says which prefixes of the pattern match;
* `Pattern.tells_advance` — one more character of the text keeps this so;
* `Pattern.isMatch_iff_splits` — the last entry of the last row is the answer.

Design notes: a row is computed from left to right, and each entry from the one before it and
two entries of the row above.  So the prefixes are taken as the row takes them, each longer than
the one before by a character at its end, and a text grows at its end as well.
-/
import Mathlib.Data.List.Forall2
import RowScope.Filter.Pattern

namespace RowScope.Pattern

/-- What a character of a pattern takes: `%` any run of characters, `_` one character of any
kind, and any other character itself. -/
inductive Takes : Char → List Char → Prop
  | run (piece : List Char) : Takes '%' piece
  | one (c : Char) : Takes '_' [c]
  | itself {p : Char} (hrun : p ≠ '%') (hone : p ≠ '_') : Takes p [p]

/-- A text is cut into consecutive pieces, one for each character of the pattern. -/
def Splits (pattern text : List Char) : Prop :=
  ∃ pieces : List (List Char),
    List.Forall₂ (fun piece p => Takes p piece) pieces pattern ∧ pieces.flatten = text

variable {p c : Char} {q piece text : List Char}

/-! ### Pieces -/

theorem takes_nil_iff : Takes p [] ↔ p = '%' := by
  constructor
  · rintro ⟨⟩
    rfl
  · rintro rfl
    exact .run []

/-- All but `%` take one character. -/
theorem takes_iff (hp : p ≠ '%') : Takes p piece ↔ ∃ c, piece = [c] ∧ (p = '_' ∨ p = c) := by
  constructor
  · intro h
    cases h with
    | run => exact absurd rfl hp
    | one c => exact ⟨c, rfl, .inl rfl⟩
    | itself => exact ⟨p, rfl, .inr rfl⟩
  · rintro ⟨c, rfl, hc⟩
    by_cases hone : p = '_'
    · subst hone
      exact .one c
    · obtain rfl := hc.resolve_left hone
      exact .itself hp hone

theorem splits_nil_iff : Splits [] text ↔ text = [] := by
  constructor
  · rintro ⟨pieces, h, rfl⟩
    obtain rfl := List.forall₂_nil_right_iff.1 h
    rfl
  · rintro rfl
    exact ⟨[], .nil, rfl⟩

/-- The last character of a pattern takes what is left at the end of the text. -/
theorem splits_snoc_iff :
    Splits (q ++ [p]) text
      ↔ ∃ start piece, Splits q start ∧ Takes p piece ∧ start ++ piece = text := by
  constructor
  · rintro ⟨pieces, h, rfl⟩
    have hq := List.forall₂_take_append _ _ _ h
    obtain ⟨piece, rest, hp, hrest, hlast⟩ :=
      List.forall₂_cons_right_iff.1 (List.forall₂_drop_append _ _ _ h)
    obtain rfl := List.forall₂_nil_right_iff.1 hrest
    refine ⟨_, piece, ⟨_, hq, rfl⟩, hp, ?_⟩
    rw [← List.flatten_concat, ← hlast, List.take_append_drop]
  · rintro ⟨_, piece, ⟨pieces, h, rfl⟩, hp, rfl⟩
    refine ⟨pieces ++ [piece], List.rel_append h (.cons hp .nil), ?_⟩
    rw [List.flatten_concat]

theorem splits_snoc_nil_iff : Splits (q ++ [p]) [] ↔ Splits q [] ∧ p = '%' := by
  rw [splits_snoc_iff]
  constructor
  · rintro ⟨start, piece, hq, hp, h⟩
    obtain ⟨rfl, rfl⟩ := List.append_eq_nil_iff.1 h
    exact ⟨hq, takes_nil_iff.1 hp⟩
  · rintro ⟨hq, hp⟩
    exact ⟨[], [], hq, takes_nil_iff.2 hp, rfl⟩

/-- A run takes nothing, or one more character than before. -/
theorem splits_run_iff :
    Splits (q ++ ['%']) (text ++ [c]) ↔ Splits q (text ++ [c]) ∨ Splits (q ++ ['%']) text := by
  rw [splits_snoc_iff, splits_snoc_iff]
  constructor
  · rintro ⟨start, piece, hq, -, h⟩
    rcases List.eq_nil_or_concat piece with rfl | ⟨piece, d, rfl⟩
    · rw [List.append_nil] at h
      exact .inl (h ▸ hq)
    · rw [List.concat_eq_append, ← List.append_assoc] at h
      exact .inr ⟨start, piece, hq, .run piece, (List.append_inj' h rfl).1⟩
  · rintro (hq | ⟨start, piece, hq, -, rfl⟩)
    · exact ⟨text ++ [c], [], hq, .run [], List.append_nil _⟩
    · exact ⟨start, piece ++ [c], hq, .run _, (List.append_assoc _ _ _).symm⟩

/-- Every other character takes the last one of the text. -/
theorem splits_char_iff (hp : p ≠ '%') :
    Splits (q ++ [p]) (text ++ [c]) ↔ Splits q text ∧ (p = '_' ∨ p = c) := by
  rw [splits_snoc_iff]
  constructor
  · rintro ⟨start, piece, hq, htakes, h⟩
    obtain ⟨d, rfl, hd⟩ := (takes_iff hp).1 htakes
    obtain ⟨rfl, hdc⟩ := List.append_inj' h rfl
    obtain rfl := List.singleton_inj.1 hdc
    exact ⟨hq, hd⟩
  · rintro ⟨hq, hc⟩
    exact ⟨text, [c], hq, (takes_iff hp).2 ⟨c, rfl, hc⟩, rfl⟩

/-! ### Rows -/

/-- The prefixes of a pattern from which the prefix `done` is left, from short to long. -/
def prefixes (done : List Char) : List Char → List (List Char)
  | [] => []
  | p :: ps => (done ++ [p]) :: prefixes (done ++ [p]) ps

/-- The entries of a row say which patterns match a text. -/
def Tells (text : List Char) (row : List Bool) (patterns : List (List Char)) : Prop :=
  List.Forall₂ (fun entry q => entry = true ↔ Splits q text) row patterns

variable {entry : Bool} {row : List Bool} {done ps pattern : List Char}

theorem tells_startRest (h : entry = true ↔ Splits done []) :
    Tells [] (startRest entry ps) (prefixes done ps) := by
  induction ps generalizing entry done with
  | nil => exact .nil
  | cons p ps ih =>
    have hentry : (entry && p == '%') = true ↔ Splits (done ++ [p]) [] := by
      rw [splits_snoc_nil_iff, Bool.and_eq_true, beq_iff_eq, h]
    exact .cons hentry (ih hentry)

theorem tells_start (pattern : List Char) :
    Tells [] (start pattern) ([] :: prefixes [] pattern) := by
  have hnil : true = true ↔ Splits [] [] := by simp [splits_nil_iff]
  exact .cons hnil (tells_startRest hnil)

/-- The entries of a new row, from the row above and the entry before. -/
theorem tells_advanceRest (h : entry = true ↔ Splits done (text ++ [c]))
    (habove : Tells text row (done :: prefixes done ps)) :
    Tells (text ++ [c]) (advanceRest c entry ps row) (prefixes done ps) := by
  induction ps generalizing entry done row with
  | nil =>
    rw [advanceRest]
    · exact .nil
    · simp
  | cons p ps ih =>
    obtain ⟨diagonal, _, hdiagonal, hrest, rfl⟩ := List.forall₂_cons_right_iff.1 habove
    obtain ⟨above, row, hentry, -, rfl⟩ := List.forall₂_cons_right_iff.1 hrest
    rw [advanceRest]
    have hnew : (if p = '%' then entry || above else if p = '_' then diagonal
        else diagonal && p == c) = true ↔ Splits (done ++ [p]) (text ++ [c]) := by
      by_cases hp : p = '%'
      · subst hp
        rw [if_pos rfl, splits_run_iff, Bool.or_eq_true, h, hentry]
      · rw [if_neg hp, splits_char_iff hp, ← hdiagonal]
        by_cases hone : p = '_'
        · simp [hone]
        · simp [hone]
    exact .cons hnew (ih hnew hrest)

/-- **One step**: with one more character of the text a row still tells which prefixes match. -/
theorem tells_advance (h : Tells text row ([] :: prefixes [] pattern)) (c : Char) :
    Tells (text ++ [c]) (advance pattern row c) ([] :: prefixes [] pattern) := by
  have hnil : false = true ↔ Splits [] (text ++ [c]) := by simp [splits_nil_iff]
  exact .cons hnil (tells_advanceRest hnil h)

/-- **All steps**: the row after a whole text. -/
theorem tells_foldl (h : Tells text row ([] :: prefixes [] pattern)) (rest : List Char) :
    Tells (text ++ rest) (rest.foldl (advance pattern) row) ([] :: prefixes [] pattern) := by
  induction rest generalizing text row with
  | nil => rwa [List.append_nil]
  | cons c rest ih =>
    have := ih (tells_advance h c)
    rwa [List.append_assoc] at this

theorem getLast?_prefixes : (done :: prefixes done ps).getLast? = some (done ++ ps) := by
  induction ps generalizing done with
  | nil => simp [prefixes]
  | cons p ps ih => rw [prefixes, List.getLast?_cons_cons, ih, List.append_assoc]; rfl

theorem Tells.getLast? {patterns : List (List Char)} (h : Tells text row patterns)
    (hlast : patterns.getLast? = some q) :
    row.getLast?.getD false = true ↔ Splits q text := by
  have h := List.forall₂_reverse_iff.2 h
  rw [List.getLast?_eq_head?_reverse, List.head?_eq_some_iff] at hlast
  obtain ⟨patterns', hpatterns⟩ := hlast
  rw [hpatterns] at h
  obtain ⟨entry, rest, hentry, -, hrow⟩ := List.forall₂_cons_right_iff.1 h
  rw [List.getLast?_eq_head?_reverse, hrow]
  exact hentry

/-- **Matching is cutting up**: a text matches a pattern if and only if its characters can be cut
into consecutive pieces, one for each character of the pattern in order, where `%` takes any run
of characters, `_` any one, and any other character itself. -/
theorem isMatch_iff_splits (text pattern : List Char) :
    isMatch text pattern = true ↔ Splits pattern text := by
  have h := tells_foldl (tells_start pattern) text
  exact h.getLast? getLast?_prefixes

example : isMatch "a%b".toList "_%%_".toList = true ∧
    isMatch "ab".toList "%a_%_".toList = false := by decide

end RowScope.Pattern
