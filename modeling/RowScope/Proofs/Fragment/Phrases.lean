/-
The text of values and operands as phrases of the grammar.

* `TextOf` — a text has tokens from which the grammar derives something;
* `textOf_intercalate` — texts of phrases with a separator between them;
* `Operand.isPlain`, `Operand.isListable` — the operands that have a text in any place, and
  in a list;
* `Operand.textOf_list` — a sequence of such operands is read with all its elements.
-/
import RowScope.Proofs.Fragment.Grammar
import RowScope.Proofs.Fragment.Words

namespace RowScope

/-- The text has tokens from which `a` is derived. -/
def TextOf {α : Type} (P : List Token → α → Prop) (s : String) (a : α) : Prop :=
  ∃ ts, Spells s.toList ts ∧ P ts a

theorem TextOf.mono {α β : Type} {P : List Token → α → Prop} {Q : List Token → β → Prop}
    {s : String} {a : α} {b : β} (h : TextOf P s a) (himp : ∀ ts, P ts a → Q ts b) :
    TextOf Q s b := by
  obtain ⟨ts, hs, ha⟩ := h
  exact ⟨ts, hs, himp ts ha⟩

/-- Texts with a separator between them, where the separator joins lists. -/
theorem textOf_intercalate {α : Type} {P : List Token → List α → Prop} {separator : String}
    {t : Token}
    (hspells : ∀ {cs ds ts us}, Spells cs ts → Spells ds us →
      Spells (cs ++ separator.toList ++ ds) (ts ++ t :: us))
    (happend : ∀ {ts us as bs}, P ts as → P us bs → P (ts ++ t :: us) (as ++ bs))
    {texts : List String} {ass : List (List α)} (h : List.Forall₂ (TextOf P) texts ass)
    (hne : texts ≠ []) : TextOf P (separator.intercalate texts) ass.flatten := by
  induction h with
  | nil => exact absurd rfl hne
  | @cons text as texts ass hfirst hrest ih =>
    cases hrest with
    | nil =>
      rw [String.intercalate_singleton, List.flatten_cons, List.flatten_nil, List.append_nil]
      exact hfirst
    | cons hsecond hrest =>
      obtain ⟨us, hus, hbs⟩ := ih (by simp)
      obtain ⟨ts, hts, has⟩ := hfirst
      refine ⟨ts ++ t :: us, ?_, happend has hbs⟩
      rw [String.intercalate_cons_cons, String.toList_append, String.toList_append]
      exact hspells hts hus

/-! ### Operands -/

/-- A null or a scalar other than a double. -/
def Value.isPlain : Value → Bool
  | null | bool _ | int _ | text _ => true
  | _ => false

/-- A plain value, or a list with elements. -/
def Value.isListable (v : Value) : Bool :=
  v.isPlain || (v.isList && !v.isEmptyList)

namespace Operand

/-- A column with a suitable name, or a plain literal. -/
def isPlain (isName : String → Bool) : Operand → Bool
  | column name => isName name
  | literal v => v.isPlain

/-- A column with a suitable name, or a literal with elements. -/
def isListable (isName : String → Bool) : Operand → Bool
  | column name => isName name
  | literal v => v.isListable

/-- The operands that the text of an operand in a list stands for. -/
def scalars : Operand → List Operand
  | column name => [column name]
  | literal v => v.elements.map literal

end Operand

theorem Token.operand?_int (n : Int64) : (int n).operand? = some (.literal (.int n)) := rfl

/-- Every plain value is one token. -/
theorem Value.exists_token {v : Value} (h : v.isPlain = true) :
    ∃ t : Token, t.operand? = some (.literal v) ∧ Spells v.sql.toList [t] := by
  cases v with
  | null => exact ⟨.keyword .null, rfl, spells_keyword .null⟩
  | bool b =>
    cases b with
    | true => exact ⟨.keyword .true, rfl, spells_keyword .true⟩
    | false => exact ⟨.keyword .false, rfl, spells_keyword .false⟩
  | int n => exact ⟨.int n, rfl, spells_int n⟩
  | text s => exact ⟨.text s, rfl, spells_literal s⟩
  | _ => exact absurd h (by simp [isPlain])

/-- A value with elements is written as the sequence of them. -/
theorem Value.sql_eq_intercalate {v : Value} (h : v.isEmptyList = false) :
    v.sql = ", ".intercalate (v.elements.map sql) := by
  cases v with
  | ints ns =>
    rw [sql, if_neg (by simpa [isEmptyList] using h), elements, List.map_map]
    rfl
  | texts ss =>
    rw [sql, if_neg (by simpa [isEmptyList] using h), elements, List.map_map]
    rfl
  | _ => exact String.intercalate_singleton.symm

theorem Value.elements_of_isListable {v : Value} (h : v.isListable = true) :
    v.isEmptyList = false ∧ v.elements ≠ [] ∧ ∀ w ∈ v.elements, w.isPlain = true := by
  cases v with
  | float x => exact absurd h (by simp [isListable, isPlain, isList])
  | ints ns =>
    have hne : ns ≠ [] := by simpa [isListable, isPlain, isList, isEmptyList] using h
    simp [isEmptyList, elements, isPlain, hne]
  | texts ss =>
    have hne : ss ≠ [] := by simpa [isListable, isPlain, isList, isEmptyList] using h
    simp [isEmptyList, elements, isPlain, hne]
  | _ => simp [isEmptyList, elements, isPlain]

theorem Value.textOf_operands {v : Value} (h : v.isPlain = true) :
    TextOf Operands v.sql [.literal v] := by
  obtain ⟨t, ht, hs⟩ := exists_token h
  exact ⟨[t], hs, .last ht⟩

/-- Texts of operands with commas between them. -/
theorem textOf_commas {texts : List String} {os : List (List Operand)}
    (h : List.Forall₂ (TextOf Operands) texts os) (hne : texts ≠ []) :
    TextOf Operands (", ".intercalate texts) os.flatten := by
  refine textOf_intercalate (fun hc hd => ?_) Operands.append h hne
  rw [List.append_assoc]
  exact hc.comma hd

/-- A sequence of plain values is read as its literals. -/
theorem textOf_values {vs : List Value} (h : ∀ v ∈ vs, v.isPlain = true) (hne : vs ≠ []) :
    TextOf Operands (", ".intercalate (vs.map Value.sql)) (vs.map .literal) := by
  have hall : List.Forall₂ (TextOf Operands) (vs.map Value.sql)
      (vs.map fun v => [Operand.literal v]) := by
    rw [List.forall₂_map_left_iff, List.forall₂_map_right_iff, List.forall₂_same]
    exact fun v hv => Value.textOf_operands (h v hv)
  have := textOf_commas hall (by simpa using hne)
  rwa [← List.flatMap_def, ← List.map_eq_flatMap] at this

namespace Operand

variable {isName : String → Bool} (hname : ∀ s, isName s = true → isIdentifier s = true)

include hname

theorem exists_token {o : Operand} (h : o.isPlain isName = true) :
    ∃ t : Token, t.operand? = some o ∧ Spells o.sql.toList [t] := by
  cases o with
  | column name => exact ⟨.name name, rfl, spells_name (hname name h)⟩
  | literal v => exact Value.exists_token h

theorem textOf_scalars {o : Operand} (h : o.isListable isName = true) :
    TextOf Operands o.sql o.scalars := by
  cases o with
  | column name => exact ⟨[.name name], spells_name (hname name h), .last rfl⟩
  | literal v =>
    obtain ⟨hnonempty, hne, hplain⟩ := Value.elements_of_isListable h
    show TextOf Operands v.sql (v.elements.map .literal)
    rw [Value.sql_eq_intercalate hnonempty]
    exact textOf_values hplain hne

/-- A sequence of operands is read with the elements of the lists among them. -/
theorem textOf_list {os : List Operand} (h : ∀ o ∈ os, o.isListable isName = true)
    (hne : os ≠ []) :
    TextOf Operands (", ".intercalate (os.map sql)) (os.flatMap scalars) := by
  have hall : List.Forall₂ (TextOf Operands) (os.map sql) (os.map scalars) := by
    rw [List.forall₂_map_left_iff, List.forall₂_map_right_iff, List.forall₂_same]
    exact fun o ho => textOf_scalars hname (h o ho)
  exact textOf_commas hall (by simpa using hne)

end Operand

/-! ### Fragments -/

namespace Filter

theorem parse_of_predicate {text : String} {f : Filter} (h : TextOf Predicate text f) :
    parse text = .ok f := by
  obtain ⟨ts, hts, hp⟩ := h
  exact parse_of_disjuncts hts (.last (.last (.primary (.predicate hp))))

theorem parse_or {text text' : String} {f f' : Filter} (h : TextOf Predicate text f)
    (h' : TextOf Predicate text' f') :
    parse (text ++ " OR " ++ text') = .ok (.or [f, f']) := by
  obtain ⟨ts, hts, hp⟩ := h
  obtain ⟨us, hus, hp'⟩ := h'
  have hs : Spells (text ++ " OR " ++ text').toList (ts ++ .keyword .or :: us) := by
    rw [String.toList_append, String.toList_append]
    exact spells_between .or hts hus
  exact parse_of_disjuncts hs
    (.more (.last (.primary (.predicate hp))) (.last (.last (.primary (.predicate hp')))))

end Filter

end RowScope
