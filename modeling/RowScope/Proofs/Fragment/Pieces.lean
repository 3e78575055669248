/-
The tokens of a text, wherever it stands.

* `Lexeme.exists_cut_of_next?` — where the first lexeme of a text is, and what it is;
* `pieces` — what the pieces of a text are, without their places;
* `pieces_blank`, `pieces_first` — a blank is left out, and any other character starts a
  piece;
* `Spells` — a text gives the same tokens before whatever ends a word.

Design notes: the longest token is cut off at each place, so what a text gives depends on
what follows it.  A word keeps its token before a blank, a comma or a parenthesis, and a
text is put together from words with these between them.
-/
import Mathlib.Data.List.TakeWhile
import RowScope.Fragment.Lexeme

namespace RowScope

/-- What the pieces of a text are: tokens, or nothing where a piece is no token. -/
def pieces (cs : List Char) : List (Option Token) :=
  (Lexeme.all cs).map Lexeme.token?

/-- What is cut off a text starts as the text does. -/
theorem Cut.exists_text_first (c : Char) (cs : List Char) : ∃ ds, (first c cs).text = c :: ds := by
  obtain ⟨d, ds, htext⟩ := List.exists_cons_of_ne_nil (first_text_ne_nil c cs)
  have happend := first_append c cs
  rw [htext] at happend
  exact ⟨ds, (List.cons.inj happend).1 ▸ htext⟩

namespace Lexeme

theorem allFrom_eq (offset : Nat) (cs : List Char) :
    allFrom offset cs = match next? offset cs with
      | none => []
      | some (l, rest) => l :: allFrom l.span.stop rest := by
  rw [allFrom]
  split
  · next h => rw [h]
  · next l rest h => simp only [h]

/-- The first lexeme is cut off after some blanks, at a character that is none. -/
theorem exists_cut_of_next? {offset : Nat} {cs rest : List Char} {l : Lexeme}
    (h : next? offset cs = some (l, rest)) :
    ∃ blanks c ds, cs = blanks ++ c :: ds ∧ (∀ b ∈ blanks, isBlank b = true) ∧
      isBlank c = false ∧ rest = (Cut.first c ds).rest ∧
      l = ⟨offset + byteLength blanks, (Cut.first c ds).text, (Cut.first c ds).token?⟩ := by
  unfold next? at h
  split at h
  · cases h
  · next c ds hdrop =>
    obtain ⟨rfl, rfl⟩ := Prod.mk.inj (Option.some.inj h)
    refine ⟨cs.takeWhile isBlank, c, ds, ?_, fun b hb => List.mem_takeWhile_imp hb, ?_, rfl, rfl⟩
    · rw [← hdrop, List.takeWhile_append_dropWhile]
    · have hhead := List.head?_dropWhile_not isBlank cs
      rw [hdrop] at hhead
      simpa using hhead

/-- The first lexeme stands after some blanks. -/
theorem exists_of_next? {offset : Nat} {cs rest : List Char} {l : Lexeme}
    (h : next? offset cs = some (l, rest)) :
    ∃ blanks, cs = blanks ++ (l.text ++ rest) ∧ (∀ b ∈ blanks, isBlank b = true) ∧
      l.text ≠ [] ∧ l.start = offset + byteLength blanks := by
  obtain ⟨blanks, c, ds, rfl, hblanks, -, rfl, rfl⟩ := exists_cut_of_next? h
  exact ⟨blanks, by rw [Cut.first_append], hblanks, Cut.first_text_ne_nil c ds, rfl⟩

theorem next?_blank {c : Char} (hc : isBlank c = true) (offset : Nat) (cs : List Char) :
    next? offset (c :: cs) = next? (offset + byteLength [c]) cs := by
  unfold next?
  rw [List.dropWhile_cons_of_pos hc, List.takeWhile_cons_of_pos hc]
  cases cs.dropWhile isBlank with
  | nil => rfl
  | cons d ds => simp only [byteLength_cons, byteLength_nil, Nat.add_zero, Nat.add_assoc]

/-- The places of the lexemes do not matter to their tokens. -/
theorem map_token?_allFrom (offset offset' : Nat) (cs : List Char) :
    (allFrom offset cs).map token? = (allFrom offset' cs).map token? := by
  rw [allFrom_eq, allFrom_eq]
  unfold next?
  cases h : cs.dropWhile isBlank with
  | nil => rfl
  | cons c rest =>
    -- the first lexemes start at different places and leave the same text
    have hlt : (Cut.first c rest).rest.length < cs.length := by
      have hfirst := Cut.first_rest_lt c rest
      have hdrop := (List.dropWhile_sublist (l := cs) isBlank).length_le
      rw [h] at hdrop
      omega
    simp only [List.map_cons]
    rw [map_token?_allFrom _ _ (Cut.first c rest).rest]
termination_by cs.length

end Lexeme

@[simp] theorem pieces_nil : pieces [] = [] := by
  rw [pieces, Lexeme.all, Lexeme.allFrom_eq]
  rfl

theorem pieces_blank {c : Char} (hc : Lexeme.isBlank c = true) (cs : List Char) :
    pieces (c :: cs) = pieces cs := by
  unfold pieces Lexeme.all
  rw [Lexeme.allFrom_eq, Lexeme.next?_blank hc, ← Lexeme.allFrom_eq]
  exact Lexeme.map_token?_allFrom _ _ cs

theorem pieces_first {c : Char} (hc : Lexeme.isBlank c = false) (cs : List Char) :
    pieces (c :: cs) = (Cut.first c cs).token? :: pieces (Cut.first c cs).rest := by
  unfold pieces Lexeme.all
  rw [Lexeme.allFrom_eq]
  unfold Lexeme.next?
  rw [List.dropWhile_cons_of_neg (by simp [hc])]
  simp only [List.map_cons]
  rw [Lexeme.map_token?_allFrom]

/-- The characters after which a new word may start. -/
def stops : List Char := [' ', ',', '(', ')']

theorem forall_stops {p : Char → Prop} : (∀ c ∈ stops, p c) ↔ p ' ' ∧ p ',' ∧ p '(' ∧ p ')' := by
  simp [stops]

/-- No word goes on into the text. -/
def Stops (rest : List Char) : Prop :=
  ∀ c ∈ rest.head?, c ∈ stops

/-- A text that is cut into some tokens before anything that ends a word. -/
def Spells (cs : List Char) (ts : List Token) : Prop :=
  ∀ rest, Stops rest → pieces (cs ++ rest) = ts.map some ++ pieces rest

@[simp] theorem stops_nil : Stops [] := by
  intro c hc
  exact absurd hc (by simp)

@[simp] theorem stops_cons {c : Char} {rest : List Char} :
    Stops (c :: rest) ↔ c ∈ stops := by
  simp [Stops]

theorem Stops.eq_nil_or_cons {rest : List Char} (h : Stops rest) :
    rest = [] ∨ ∃ rest', rest = ' ' :: rest' ∨ rest = ',' :: rest' ∨ rest = '(' :: rest' ∨
      rest = ')' :: rest' := by
  cases rest with
  | nil => exact .inl rfl
  | cons c rest =>
    have hc := stops_cons.1 h
    simp only [stops, List.mem_cons, List.not_mem_nil, or_false] at hc
    rcases hc with rfl | rfl | rfl | rfl
    all_goals exact .inr ⟨rest, by simp⟩

theorem Stops.head {rest : List Char} {p : Char → Bool} (h : Stops rest)
    (hp : ∀ c ∈ stops, p c = false) : ∀ c ∈ rest.head?, p c = false :=
  fun c hc => hp c (h c hc)

section Runs

variable {cs rest : List Char} {p : Char → Bool}
  (h : cs.dropWhile p = [] → ∀ c ∈ rest.head?, p c = false)

include h

/-- A run of characters ends where it did, if the text after it does not go on with it. -/
theorem takeWhile_append_of_head : (cs ++ rest).takeWhile p = cs.takeWhile p := by
  induction cs with
  | nil =>
    cases rest with
    | nil => rfl
    | cons c rest =>
      rw [List.nil_append, List.takeWhile_cons_of_neg (by simp [h rfl c rfl])]
      rfl
  | cons c cs ih =>
    rw [List.cons_append, List.takeWhile_cons, List.takeWhile_cons]
    split
    · next hc => rw [ih fun hnil => h (by rw [List.dropWhile_cons_of_pos hc, hnil])]
    · rfl

theorem dropWhile_append_of_head : (cs ++ rest).dropWhile p = cs.dropWhile p ++ rest := by
  induction cs with
  | nil =>
    cases rest with
    | nil => rfl
    | cons c rest =>
      rw [List.nil_append, List.dropWhile_cons_of_neg (by simp [h rfl c rfl])]
      rfl
  | cons c cs ih =>
    rw [List.cons_append, List.dropWhile_cons, List.dropWhile_cons]
    split
    · next hc => exact ih fun hnil => h (by rw [List.dropWhile_cons_of_pos hc, hnil])
    · rfl

end Runs

namespace Spells

variable {cs ds : List Char} {ts us : List Token}

theorem pieces_eq (h : Spells cs ts) : pieces cs = ts.map some := by
  have := h [] stops_nil
  rwa [List.append_nil, pieces_nil, List.append_nil] at this

/-- A blank between two texts. -/
theorem blank (h : Spells cs ts) (h' : Spells ds us) : Spells (cs ++ ' ' :: ds) (ts ++ us) := by
  intro rest hrest
  rw [List.append_assoc, List.cons_append, h _ (stops_cons.2 (by decide)), pieces_blank rfl,
    h' rest hrest, List.map_append, List.append_assoc]

theorem blank_left (h : Spells cs ts) : Spells (' ' :: cs) ts := by
  intro rest hrest
  rw [List.cons_append, pieces_blank rfl, h rest hrest]

theorem blank_right (h : Spells cs ts) : Spells (cs ++ [' ']) ts := by
  intro rest hrest
  rw [List.append_assoc]
  show pieces (cs ++ ' ' :: rest) = _
  rw [h _ (stops_cons.2 (by decide)), pieces_blank rfl]

/-- A comma and a blank between two texts. -/
theorem comma (h : Spells cs ts) (h' : Spells ds us) :
    Spells (cs ++ ',' :: ' ' :: ds) (ts ++ .comma :: us) := by
  intro rest hrest
  have hcomma : pieces (',' :: ' ' :: (ds ++ rest)) = some .comma :: pieces (ds ++ rest) := by
    rw [pieces_first rfl]
    exact congrArg _ (pieces_blank rfl _)
  rw [List.append_assoc, List.cons_append, List.cons_append, h _ (stops_cons.2 (by decide)),
    hcomma, h' rest hrest]
  simp

/-- A text in parentheses. -/
theorem parenthesized (h : Spells cs ts) :
    Spells ('(' :: (cs ++ [')'])) (.leftParen :: (ts ++ [.rightParen])) := by
  intro rest hrest
  have hclose : pieces (')' :: rest) = some .rightParen :: pieces rest := pieces_first rfl rest
  rw [List.cons_append, pieces_first rfl, List.append_assoc]
  show some Token.leftParen :: pieces (cs ++ ')' :: rest) = _
  rw [h _ (stops_cons.2 (by decide)), hclose]
  simp

/-- A text without tokens. -/
theorem nil : Spells [] [] :=
  fun _ _ => rfl

end Spells

/-- A text whose first piece is all of it, whatever follows. -/
theorem Spells.of_first {c : Char} {cs : List Char} {t : Token} (hc : Lexeme.isBlank c = false)
    (h : ∀ rest, Stops rest → (Cut.first c (cs ++ rest)).token? = some t ∧
      (Cut.first c (cs ++ rest)).rest = rest) : Spells (c :: cs) [t] := by
  intro rest hrest
  obtain ⟨htoken, hleft⟩ := h rest hrest
  rw [List.cons_append, pieces_first hc, htoken, hleft]
  rfl

end RowScope
