/-
Texts without decimals.

* `IsPlainText` — a text gives tokens other than decimals, before anything that ends a word;
* `isDecimalFree_blanks` — such texts with blanks between them have no decimal, if the last
  text has none;
* `Value.isPlainText_sql` — values other than doubles are such texts;
* `Scope.words`, `Template.spell_eq_words` — the template of a scope as its words;
* `Template.isDecimalFree_spell` — the template of a scope has no decimals but those of
  its placeholders.

Design notes: a text for a missing value may be any end of a condition, so what follows it
could be read together with it.  In the templates of the scopes nothing does: the
placeholders that may have this text stand last.
-/
import RowScope.Proofs.Access.Templates
import RowScope.Proofs.Filter.Canonical
import RowScope.Proofs.Template.Scopes

namespace RowScope

/-- The text gives tokens other than decimals, whatever ends its last word. -/
def IsPlainText (s : String) : Prop :=
  ∃ ts, Spells s.toList ts ∧ ∀ t ∈ ts, t.isDecimal = false

theorem isPlainText_of_token {s : String} {t : Token} (h : Spells s.toList [t])
    (ht : t.isDecimal = false) : IsPlainText s :=
  ⟨[t], h, List.forall_mem_singleton.2 ht⟩

section Blanks

variable {s s' : String}

theorem IsPlainText.isDecimalFree (h : IsPlainText s) : Filter.isDecimalFree s = true := by
  obtain ⟨ts, hts, hplain⟩ := h
  rw [Filter.isDecimalFree, hts.pieces_eq, List.all_map, List.all_eq_true]
  intro t ht
  simp [hplain t ht]

theorem IsPlainText.blank (h : IsPlainText s) (h' : Filter.isDecimalFree s' = true) :
    Filter.isDecimalFree (s ++ " " ++ s') = true := by
  obtain ⟨ts, hts, hplain⟩ := h
  have htext : (s ++ " " ++ s').toList = s.toList ++ ' ' :: s'.toList := by simp
  rw [Filter.isDecimalFree, htext, hts _ (stops_cons.2 (by decide)), pieces_blank rfl,
    List.all_append, Bool.and_eq_true]
  refine ⟨?_, h'⟩
  rw [List.all_map, List.all_eq_true]
  intro t ht
  simp [hplain t ht]

/-- Plain texts with blanks between them and a last text without decimals. -/
theorem isDecimalFree_blanks {words : List String} {last : String}
    (hwords : ∀ word ∈ words, IsPlainText word) (hlast : Filter.isDecimalFree last = true) :
    Filter.isDecimalFree (" ".intercalate (words ++ [last])) = true := by
  induction words with
  | nil => rwa [List.nil_append, String.intercalate_singleton]
  | cons word words ih =>
    rw [List.forall_mem_cons] at hwords
    rw [List.cons_append, String.intercalate_cons_of_ne_nil (by simp)]
    exact hwords.1.blank (ih hwords.2)

end Blanks

/-! ### Words -/

theorem isPlainText_keyword (k : Keyword) : IsPlainText k.spelling :=
  isPlainText_of_token (spells_keyword k) rfl

theorem isPlainText_symbol (c : Comparison) : IsPlainText c.symbol :=
  isPlainText_of_token (spells_symbol c) rfl

theorem isPlainText_leftParen : IsPlainText "(" := by
  have hspells : Spells "(".toList [.leftParen] := .of_first rfl fun _ _ => ⟨rfl, rfl⟩
  exact isPlainText_of_token hspells rfl

theorem isPlainText_rightParen : IsPlainText ")" := by
  have hspells : Spells ")".toList [.rightParen] := .of_first rfl fun _ _ => ⟨rfl, rfl⟩
  exact isPlainText_of_token hspells rfl

/-- The name of a column is a name or a keyword. -/
theorem isPlainText_of_isColumn {s : String} (h : Name.isColumn s = true) : IsPlainText s := by
  refine isPlainText_of_token (spells_of_isColumn h) ?_
  cases Keyword.ofName? s.toList with
  | none => rfl
  | some k => rfl

theorem isPlainText_empty : IsPlainText "" :=
  ⟨[], .nil, by simp⟩

theorem isPlainText_getD {text : Option String} (h : ∀ s ∈ text, IsPlainText s) :
    IsPlainText (text.getD "") := by
  cases text with
  | none => exact isPlainText_empty
  | some s => exact h s rfl

theorem isDecimalFree_getD {text : Option String}
    (h : ∀ s ∈ text, Filter.isDecimalFree s = true) :
    Filter.isDecimalFree (text.getD "") = true := by
  cases text with
  | none => exact isPlainText_empty.isDecimalFree
  | some s => exact h s rfl

/-! ### Values -/

/-- The value is a double. -/
def Value.isDouble : Value → Bool
  | float _ => true
  | _ => false

theorem Operand.isDouble_literal (v : Value) : (literal v).isDouble = v.isDouble := by
  cases v with
  | float x => rfl
  | _ => rfl

theorem Token.isDecimal_of_operand? {t : Token} {o : Operand} (h : t.operand? = some o)
    (ho : o.isDouble = false) : t.isDecimal = false := by
  cases t with
  | float x =>
    obtain rfl := Option.some.inj h
    exact absurd ho (by simp [Operand.isDouble])
  | _ => rfl

theorem isPlainText_of_operands {s : String} {os : List Operand} (h : TextOf Operands s os)
    (hos : ∀ o ∈ os, o.isDouble = false) : IsPlainText s := by
  obtain ⟨ts, hts, hoperands⟩ := h
  refine ⟨ts, hts, ?_⟩
  clear hts
  induction hoperands with
  | last ht => simpa using Token.isDecimal_of_operand? ht (by simpa using hos)
  | more ht _ ih =>
    rw [List.forall_mem_cons] at hos
    rw [List.forall_mem_cons, List.forall_mem_cons]
    exact ⟨Token.isDecimal_of_operand? ht hos.1, rfl, ih hos.2⟩

theorem isPlainText_values {vs : List Value} (h : ∀ v ∈ vs, v.isPlain = true) (hne : vs ≠ []) :
    IsPlainText (", ".intercalate (vs.map Value.sql)) := by
  refine isPlainText_of_operands (textOf_values h hne) fun o ho => ?_
  obtain ⟨v, hv, rfl⟩ := List.mem_map.1 ho
  rw [Operand.isDouble_literal]
  cases v with
  | float x => exact absurd (h _ hv) (by simp [Value.isPlain])
  | _ => rfl

theorem Value.isPlainText_sql {v : Value} (hdouble : v.isDouble = false)
    (hempty : v.isEmptyList = false) : IsPlainText v.sql := by
  have hlistable : v.isListable = true := by
    cases v with
    | float x => exact absurd hdouble (by simp [isDouble])
    | ints ns => simpa [isListable, isPlain, isList] using hempty
    | texts ss => simpa [isListable, isPlain, isList] using hempty
    | _ => rfl
  obtain ⟨-, hne, hplain⟩ := elements_of_isListable hlistable
  rw [sql_eq_intercalate hempty]
  exact isPlainText_values hplain hne

/-! ### The templates of the scopes -/

/-- The texts of the placeholders have no decimals.  Those that are used within the template
of a scope are plain. -/
structure HasPlainTexts (scope : Scope) (text? : String → Option String) : Prop where
  dept : ∀ s ∈ text? "deptName", IsPlainText s
  owner : ∀ s ∈ text? "userName", IsPlainText s
  ids : scope.needsIds = true → ∀ s ∈ text? scopeIdsName, IsPlainText s
  department : ∀ s ∈ text? "user.deptId", Filter.isDecimalFree s = true
  user : ∀ s ∈ text? "user.userId", Filter.isDecimalFree s = true

/-- The words of the condition on the department. -/
def idsWords (dept ids : String) : List String :=
  [dept, Keyword.spelling .member, "(", ids]

/-- The words before a value that a column is compared with. -/
def equalWords (column : String) : List String :=
  [column, Comparison.symbol .eq]

theorem isPlainText_idsWords {dept ids : String} (hdept : IsPlainText dept)
    (hids : IsPlainText ids) : ∀ word ∈ idsWords dept ids, IsPlainText word := by
  simp only [idsWords, List.forall_mem_cons, List.not_mem_nil, false_implies, implies_true,
    and_true]
  exact ⟨hdept, isPlainText_keyword .member, isPlainText_leftParen, hids⟩

theorem isPlainText_equalWords {column : String} (hcolumn : IsPlainText column) :
    ∀ word ∈ equalWords column, IsPlainText word := by
  simp only [equalWords, List.forall_mem_cons, List.not_mem_nil, false_implies, implies_true,
    and_true]
  exact ⟨hcolumn, isPlainText_symbol .eq⟩

/-- The words of the template of a scope, by the texts of its placeholders. -/
def Scope.words (text : String → String) : Scope → List String
  | all => []
  | custom | deptAndChild => idsWords (text "deptName") (text scopeIdsName) ++ [")"]
  | dept => equalWords (text "deptName") ++ [text "user.deptId"]
  | own => equalWords (text "userName") ++ [text "user.userId"]
  | deptAndChildOrOwn =>
    idsWords (text "deptName") (text scopeIdsName) ++ [")", Keyword.spelling .or]
      ++ equalWords (text "userName") ++ [text "user.userId"]

namespace Template

variable {scope : Scope} {text? : String → Option String} {t : Template} {source fallback : String}

/-- In the template of a scope there are blanks between the words, and nowhere else. -/
theorem spell_eq_words (hsource : scope.template? = some (source, fallback))
    (ht : parse source = .ok t) (text? : String → Option String) :
    t.spell text? = " ".intercalate (scope.words fun name => (text? name).getD "") := by
  rw [← String.toList_inj]
  cases scope with
  | all => exact absurd hsource (by simp [Scope.template?])
  | custom | deptAndChild =>
    obtain ⟨rfl, -⟩ := Prod.mk.inj (Option.some.inj hsource)
    rw [parse_idsTemplate, Except.ok.injEq] at ht
    rw [← ht]
    simp [spell, Segment.spell, Scope.words, idsWords, Keyword.spelling, scopeIdsName]
  | dept =>
    obtain ⟨rfl, -⟩ := Prod.mk.inj (Option.some.inj hsource)
    rw [parse_deptTemplate, Except.ok.injEq] at ht
    rw [← ht]
    simp [spell, Segment.spell, Scope.words, equalWords, Comparison.symbol]
  | own =>
    obtain ⟨rfl, -⟩ := Prod.mk.inj (Option.some.inj hsource)
    rw [parse_ownTemplate, Except.ok.injEq] at ht
    rw [← ht]
    simp [spell, Segment.spell, Scope.words, equalWords, Comparison.symbol]
  | deptAndChildOrOwn =>
    obtain ⟨rfl, -⟩ := Prod.mk.inj (Option.some.inj hsource)
    rw [parse_idsOrOwnTemplate, Except.ok.injEq] at ht
    rw [← ht]
    simp [spell, Segment.spell, Scope.words, idsWords, equalWords, Keyword.spelling,
      Comparison.symbol, scopeIdsName]

/-- The template of a scope has no decimals but those of its placeholders. -/
theorem isDecimalFree_spell (htext : HasPlainTexts scope text?)
    (hsource : scope.template? = some (source, fallback)) (ht : parse source = .ok t) :
    Filter.isDecimalFree (t.spell text?) = true := by
  have hdept := isPlainText_equalWords (isPlainText_getD htext.dept)
  have howner := isPlainText_equalWords (isPlainText_getD htext.owner)
  have hids (h : scope.needsIds = true) :=
    isPlainText_idsWords (isPlainText_getD htext.dept) (isPlainText_getD (htext.ids h))
  rw [spell_eq_words hsource ht]
  cases scope with
  | all => exact absurd hsource (by simp [Scope.template?])
  | custom | deptAndChild =>
    exact isDecimalFree_blanks (hids rfl) isPlainText_rightParen.isDecimalFree
  | dept => exact isDecimalFree_blanks hdept (isDecimalFree_getD htext.department)
  | own => exact isDecimalFree_blanks howner (isDecimalFree_getD htext.user)
  | deptAndChildOrOwn =>
    refine isDecimalFree_blanks (fun word hword => ?_) (isDecimalFree_getD htext.user)
    simp only [List.mem_append, List.mem_cons, List.not_mem_nil, or_false] at hword
    rcases hword with (hword | rfl | rfl) | hword
    · exact hids rfl word hword
    · exact isPlainText_rightParen
    · exact isPlainText_keyword .or
    · exact howner word hword

end Template

end RowScope
