/-
Quoted text.

A quote inside quoted text is written twice.

* `Quoted.encode`, `Quoted.decode` — the body between the quotes, written and read;
* `Quoted.close?` — the body and what follows the closing quote;
* `Quoted.literal` — a text between quotes.
-/

namespace RowScope.Quoted

/-- The body that stands for a text. -/
def encode : List Char → List Char
  | [] => []
  | c :: cs => if c = '\'' then '\'' :: '\'' :: encode cs else c :: encode cs

/-- The text that a body stands for. -/
def decode : List Char → List Char
  | [] => []
  | '\'' :: '\'' :: cs => '\'' :: decode cs
  | c :: cs => c :: decode cs

/-- Splits what follows an opening quote into the body and the text after the
closing quote; none if the quote is never closed. -/
def close? : List Char → Option (List Char × List Char)
  | [] => none
  | '\'' :: '\'' :: cs => (close? cs).map fun (body, rest) => ('\'' :: '\'' :: body, rest)
  | '\'' :: cs => some ([], cs)
  | c :: cs => (close? cs).map fun (body, rest) => (c :: body, rest)

/-- A text between quotes. -/
def literal (s : String) : String :=
  "'" ++ String.ofList (encode s.toList) ++ "'"

theorem append_of_close? {cs body rest : List Char} (h : close? cs = some (body, rest)) :
    cs = body ++ '\'' :: rest := by
  fun_induction close? cs generalizing body rest with
  | case1 => simp at h
  | case2 cs ih =>
    obtain ⟨⟨b, r⟩, hb, he⟩ := Option.map_eq_some_iff.1 h
    obtain ⟨rfl, rfl⟩ := Prod.mk.inj he
    simp [ih hb]
  | case3 cs =>
    simp only [Option.some.injEq, Prod.mk.injEq] at h
    obtain ⟨rfl, rfl⟩ := h
    rfl
  | case4 c cs _ _ ih =>
    obtain ⟨⟨b, r⟩, hb, he⟩ := Option.map_eq_some_iff.1 h
    obtain ⟨rfl, rfl⟩ := Prod.mk.inj he
    simp [ih hb]

end RowScope.Quoted
