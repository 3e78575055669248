/-
The columns of a template whose placeholders are replaced.

A placeholder stands for a column or for values.  A value is written as a literal and read back as
one, so the only columns of the condition are those that are bound.  The doubles that are not
finite go wrong: their texts are `NaN`, `inf` and `-inf`, and the first two are read as names.

* `mem_pieces_blanks`, `mem_pieces_commas` — the tokens of texts with separators between them;
* `name_mem_floatLiteral` — which doubles have a name as their text;
* `Binding.name_mem_sql` — the names in the text of what is bound;
* `Template.columns_of_condition` — the columns in the condition of a built-in template;
* `Template.doubles_read_as_columns` — a value that is not a number, and an infinite one.

Design notes: nothing has to be known of how a double is written but its characters.  Digits, a
point and a sign start no name, whatever tokens they make.
-/
import RowScope.Proofs.Filter.Sets
import RowScope.Proofs.Fragment.Insertion
import RowScope.Proofs.Fragment.References
import RowScope.Proofs.Template.Decimals
import RowScope.Settings

namespace RowScope

/-! ### Separators -/

section Separators

variable {piece : Option Token} {texts words : List String} {separator : String}

theorem endsInside_intercalate (hseparator : '\'' ∉ separator.toList)
    (h : ∀ s ∈ texts, endsInside false s.toList = false) :
    endsInside false (separator.intercalate texts).toList = false := by
  induction texts with
  | nil =>
    rw [String.intercalate_nil]
    rfl
  | cons s texts ih =>
    rw [List.forall_mem_cons] at h
    cases texts with
    | nil => rw [String.intercalate_singleton, h.1]
    | cons s' texts =>
      rw [String.intercalate_cons_cons, String.toList_append, String.toList_append,
        endsInside_append, endsInside_append, h.1, endsInside_of_notMem hseparator, ih h.2]

/-- Words with blanks between them have the pieces of the words. -/
theorem mem_pieces_blanks (h : ∀ s ∈ words, endsInside false s.toList = false) :
    piece ∈ pieces (" ".intercalate words).toList ↔ ∃ s ∈ words, piece ∈ pieces s.toList := by
  induction words with
  | nil => simp
  | cons s words ih =>
    rw [List.forall_mem_cons] at h
    cases words with
    | nil => simp
    | cons s' words =>
      have htext : (" ".intercalate (s :: s' :: words)).toList
          = s.toList ++ ' ' :: (" ".intercalate (s' :: words)).toList := by
        rw [String.intercalate_cons_cons, String.toList_append, String.toList_append,
          List.append_assoc]
        rfl
      rw [htext, pieces_append_blank rfl h.1, List.mem_append, ih h.2]
      simp only [List.mem_cons, exists_eq_or_imp]

/-- Texts with commas between them have the pieces of the texts, and the commas. -/
theorem mem_pieces_commas (hpiece : piece ≠ some .comma)
    (h : ∀ s ∈ texts, endsInside false s.toList = false) :
    piece ∈ pieces (", ".intercalate texts).toList ↔ ∃ s ∈ texts, piece ∈ pieces s.toList := by
  induction texts with
  | nil => simp
  | cons s texts ih =>
    rw [List.forall_mem_cons] at h
    cases texts with
    | nil => simp
    | cons s' texts =>
      have htext : (", ".intercalate (s :: s' :: texts)).toList
          = s.toList ++ ',' :: ' ' :: (", ".intercalate (s' :: texts)).toList := by
        rw [String.intercalate_cons_cons, String.toList_append, String.toList_append,
          List.append_assoc]
        rfl
      have hcomma (cs : List Char) : pieces (',' :: ' ' :: cs) = some .comma :: pieces cs := by
        rw [pieces_first rfl]
        exact congrArg _ (pieces_blank rfl cs)
      have hends : EndsBefore ',' s.toList := ⟨h.1, fun hpart => absurd hpart (by decide)⟩
      rw [htext, pieces_append_of_setsOff (by decide) _ hends, hcomma, List.mem_append,
        List.mem_cons, ih h.2, or_iff_right hpiece]
      simp only [List.mem_cons, exists_eq_or_imp]

end Separators

/-! ### Doubles -/

namespace Decimal

theorem isDigit_of_mem_trim {d : Decimal} : ∀ c ∈ d.trim.1, c.isDigit = true := by
  intro c hc
  have hmem := (List.dropWhile_sublist _).subset (List.mem_reverse.1 hc)
  exact Nat.isDigit_of_mem_toDigits (by decide) (by decide) (List.mem_reverse.1 hmem)

/-- A decimal is written with digits and at most a point. -/
theorem isDigit_of_mem_text {d : Decimal} : ∀ c ∈ d.text, c.isDigit = true ∨ c = '.' := by
  have hdigits : ∀ c ∈ d.trim.1, c.isDigit = true ∨ c = '.' :=
    fun c hc => .inl (isDigit_of_mem_trim c hc)
  have hzeros (n : Nat) : ∀ c ∈ List.replicate n '0', c.isDigit = true ∨ c = '.' := by
    intro c hc
    rw [List.eq_of_mem_replicate hc]
    decide
  unfold text
  generalize d.trim = trimmed at hdigits
  obtain ⟨ds, e⟩ := trimmed
  dsimp only at hdigits ⊢
  split
  · exact List.forall_mem_append.2 ⟨hdigits, hzeros _⟩
  · split
    · refine List.forall_mem_append.2 ⟨?_, hdigits⟩
      rw [List.forall_mem_cons, List.forall_mem_cons]
      exact ⟨.inl (by decide), .inr rfl, hzeros _⟩
    · refine List.forall_mem_append.2 ⟨fun c hc => hdigits c (List.mem_of_mem_take hc), ?_⟩
      rw [List.forall_mem_cons]
      exact ⟨.inr rfl, fun c hc => hdigits c (List.mem_of_mem_drop hc)⟩

end Decimal

/-- The text of a double is that of one that is not finite, or has digits, a point and a sign. -/
theorem floatLiteral_cases (x : Float) :
    (x.isNaN = true ∧ floatLiteral x = "NaN") ∨
      (x.isInf = true ∧ (floatLiteral x = "inf" ∨ floatLiteral x = "-inf")) ∨
      ∀ c ∈ (floatLiteral x).toList, c.isDigit = true ∨ c = '.' ∨ c = '-' := by
  unfold floatLiteral floatTextBy
  split
  · next hnan => exact .inl ⟨hnan, rfl⟩
  generalize hsign : (if x.toBits < 0x8000000000000000 then "" else "-") = sign
  have hsign : sign = "" ∨ sign = "-" := by
    rw [← hsign]
    split
    · exact .inl rfl
    · exact .inr rfl
  refine .inr ?_
  split
  · next hinf =>
    refine .inl ⟨hinf, ?_⟩
    rcases hsign with rfl | rfl
    · exact .inl rfl
    · exact .inr rfl
  refine .inr ?_
  have hsigned {s : String} (hs : ∀ c ∈ s.toList, c.isDigit = true ∨ c = '.') :
      ∀ c ∈ (sign ++ s).toList, c.isDigit = true ∨ c = '.' ∨ c = '-' := by
    rw [String.toList_append]
    refine List.forall_mem_append.2 ⟨?_, fun c hc => (hs c hc).imp_right .inl⟩
    rcases hsign with rfl | rfl
    · exact fun c hc => absurd hc List.not_mem_nil
    · exact List.forall_mem_singleton.2 (.inr (.inr rfl))
  have hzero : ∀ c ∈ ['.', '0'], c.isDigit = true ∨ c = '.' :=
    List.forall_mem_cons.2 ⟨.inr rfl, List.forall_mem_singleton.2 (.inl rfl)⟩
  split
  · exact hsigned (List.forall_mem_cons.2 ⟨.inl rfl, hzero⟩)
  · refine hsigned ?_
    rw [String.toList_ofList]
    dsimp only
    split
    · refine List.forall_mem_append.2 ⟨fun c hc => .inl ?_, hzero⟩
      exact Nat.isDigit_of_mem_toDigits (by decide) (by decide) hc
    · exact Decimal.isDigit_of_mem_text

theorem endsInside_floatLiteral (x : Float) :
    endsInside false (floatLiteral x).toList = false := by
  obtain ⟨-, htext⟩ | ⟨-, htext | htext⟩ | hchars := floatLiteral_cases x
  · rw [htext]
    rfl
  · rw [htext]
    rfl
  · rw [htext]
    rfl
  · exact endsInside_of_notMem fun hquote => absurd (hchars _ hquote) (by decide)

/-- The text of a double is a name only if the double is not finite, and then it is the name. -/
theorem name_mem_floatLiteral {x : Float} {s : String}
    (hnone : none ∉ pieces (floatLiteral x).toList)
    (h : some (.name s) ∈ pieces (floatLiteral x).toList) :
    (x.isNaN = true ∨ x.isInf = true) ∧ s = floatLiteral x := by
  have hname {text : String} (htext : pieces text.toList = [some (.name text)])
      (h : some (.name s) ∈ pieces text.toList) : s = text := by
    rw [htext, List.mem_singleton] at h
    exact Token.name.inj (Option.some.inj h)
  obtain ⟨hnan, htext⟩ | ⟨hinf, htext | htext⟩ | hchars := floatLiteral_cases x
  · rw [htext] at h ⊢
    exact ⟨.inl hnan, hname (by decide +kernel) h⟩
  · rw [htext] at h ⊢
    exact ⟨.inr hinf, hname (by decide +kernel) h⟩
  · rw [htext] at hnone
    exact absurd hnone (by decide +kernel)
  · obtain ⟨c, hc, hstart⟩ := exists_isStart_of_mem_pieces h
    obtain hdigit | rfl | rfl := hchars c hc
    · rw [isStart_of_isDigit hdigit] at hstart
      cases hstart
    · exact absurd hstart (by decide)
    · exact absurd hstart (by decide)

/-! ### Values -/

theorem Token.name?_of_operand? {t : Token} {v : Value} (h : t.operand? = some (.literal v)) :
    t.name? = none := by
  cases t with
  | name s => cases h
  | _ => rfl

theorem names_of_operands {ts : List Token} {vs : List Value}
    (h : Operands ts (vs.map .literal)) : ∀ t ∈ ts, t.name? = none := by
  generalize hos : vs.map Operand.literal = os at h
  induction h generalizing vs with
  | last ht =>
    obtain ⟨v, rfl, rfl⟩ := List.map_eq_singleton_iff.1 hos
    exact List.forall_mem_singleton.2 (Token.name?_of_operand? ht)
  | more ht _ ih =>
    obtain ⟨v, ws, rfl, rfl, hws⟩ := List.map_eq_cons_iff.1 hos
    rw [List.forall_mem_cons, List.forall_mem_cons]
    exact ⟨Token.name?_of_operand? ht, rfl, ih hws⟩

namespace Value

/-- The text of a value other than a double is made of tokens that are no names. -/
theorem exists_tokens_sql {v : Value} (hdouble : ∀ x, v ≠ .float x) :
    ∃ ts : List Token, pieces v.sql.toList = ts.map some ∧ ∀ t ∈ ts, t.name? = none := by
  have hlistable := isListable_orNull hdouble
  have htext : TextOf Operands v.orNull.sql (v.orNull.elements.map .literal) :=
    @Operand.textOf_scalars isOrdinary (fun _ => isIdentifier_of_isOrdinary) (.literal v.orNull)
      hlistable
  obtain ⟨ts, hts, hos⟩ := htext
  rw [sql_orNull] at hts
  exact ⟨ts, hts.pieces_eq, names_of_operands hos⟩

theorem endsInside_sql (v : Value) : endsInside false v.sql.toList = false := by
  by_cases hdouble : ∃ x, v = .float x
  · obtain ⟨x, rfl⟩ := hdouble
    exact endsInside_floatLiteral x
  · obtain ⟨ts, hts, -⟩ := exists_tokens_sql fun x hx => hdouble ⟨x, hx⟩
    refine endsInside_of_none_notMem ?_
    rw [hts]
    simp

theorem name_mem_sql {v : Value} {s : String} (hnone : none ∉ pieces v.sql.toList)
    (h : some (.name s) ∈ pieces v.sql.toList) :
    ∃ x, v = .float x ∧ (x.isNaN = true ∨ x.isInf = true) ∧ s = floatLiteral x := by
  by_cases hdouble : ∃ x, v = .float x
  · obtain ⟨x, rfl⟩ := hdouble
    exact ⟨x, rfl, name_mem_floatLiteral hnone h⟩
  · obtain ⟨ts, hts, hnames⟩ := exists_tokens_sql fun x hx => hdouble ⟨x, hx⟩
    rw [hts] at h
    obtain ⟨t, ht, heq⟩ := List.mem_map.1 h
    obtain rfl := Option.some.inj heq
    exact absurd (hnames _ ht) (by simp [Token.name?])

end Value

/-! ### Bindings -/

namespace Binding

/-- The values that a placeholder stands for. -/
def held : Binding → List Value
  | column _ => []
  | value v => [v]
  | values vs => vs

variable {b : Binding} {s : String}

/-- What is bound is written as the name of a column or as some literals. -/
theorem sql_cases (b : Binding) (missing : String) :
    (∃ c, b = .column c ∧ b.sql missing = c) ∨ b.sql missing = missing ∨
      b.sql missing = ", ".intercalate (b.held.map Value.sql) := by
  cases b with
  | column c => exact .inl ⟨c, rfl, rfl⟩
  | value v =>
    rw [sql, held, List.map_singleton, String.intercalate_singleton]
    split
    · exact .inr (.inl rfl)
    · exact .inr (.inr rfl)
  | values vs =>
    rw [sql]
    split
    · exact .inr (.inl rfl)
    · exact .inr (.inr rfl)

theorem endsInside_sql (hcolumn : ∀ c, b = .column c → Name.isColumn c = true) :
    endsInside false (b.sql Settings.standard.missing).toList = false := by
  obtain ⟨c, hb, hsql⟩ | hsql | hsql := sql_cases b Settings.standard.missing
  · rw [hsql]
    exact endsInside_of_pieces (pieces_of_isColumn (hcolumn c hb))
  · rw [hsql]
    decide
  · rw [hsql]
    refine endsInside_intercalate (by decide) ?_
    rw [List.forall_mem_map]
    exact fun v _ => v.endsInside_sql

/-- A name in the text of what is bound is the column, or the text of a double that is not
finite. -/
theorem name_mem_sql (hcolumn : ∀ c, b = .column c → Name.isColumn c = true)
    (hnone : none ∉ pieces (b.sql Settings.standard.missing).toList)
    (h : some (.name s) ∈ pieces (b.sql Settings.standard.missing).toList) :
    b = .column s ∨
      ∃ x, .float x ∈ b.held ∧ (x.isNaN = true ∨ x.isInf = true) ∧ s = floatLiteral x := by
  obtain ⟨c, rfl, hsql⟩ | hsql | hsql := sql_cases b Settings.standard.missing
  · rw [hsql, pieces_of_isColumn (hcolumn c rfl), List.mem_singleton, Option.some.injEq] at h
    cases hk : Keyword.ofName? c.toList with
    | some k => simp [hk] at h
    | none =>
      rw [hk] at h
      exact .inl (congrArg column (Token.name.inj h).symm)
  · have hmissing : pieces Settings.standard.missing.toList = [some (.int (-1))] := by
      decide +kernel
    rw [hsql, hmissing] at h
    simp at h
  · have hends : ∀ s ∈ b.held.map Value.sql, endsInside false s.toList = false := by
      rw [List.forall_mem_map]
      exact fun v _ => v.endsInside_sql
    rw [hsql, mem_pieces_commas (by simp) hends] at hnone h
    obtain ⟨_, hmem, hname⟩ := h
    obtain ⟨v, hv, rfl⟩ := List.mem_map.1 hmem
    obtain ⟨x, rfl, hx⟩ := v.name_mem_sql (fun hpiece => hnone ⟨_, hmem, hpiece⟩) hname
    exact .inr ⟨x, hv, hx⟩

end Binding

/-! ### Templates -/

/-- The words of the templates that are no placeholders. -/
def fixedWords : List String :=
  [Keyword.spelling .member, "(", ")", Keyword.spelling .or, Comparison.symbol .eq]

theorem endsInside_of_mem_fixedWords :
    ∀ word ∈ fixedWords, endsInside false word.toList = false := by
  decide

theorem namesIn_of_mem_fixedWords : ∀ word ∈ fixedWords, namesIn word.toList = [] := by
  decide +kernel

theorem Scope.mem_words {scope : Scope} {text : String → String} {word : String}
    (h : word ∈ scope.words text) : word ∈ fixedWords ∨ ∃ name, word = text name := by
  have hids (dept ids : String) (hword : word ∈ idsWords (text dept) (text ids)) :
      word ∈ fixedWords ∨ ∃ name, word = text name := by
    simp only [idsWords, List.mem_cons, List.not_mem_nil, or_false] at hword
    rcases hword with rfl | rfl | rfl | rfl
    · exact .inr ⟨dept, rfl⟩
    · exact .inl (by decide)
    · exact .inl (by decide)
    · exact .inr ⟨ids, rfl⟩
  have hequal (column value : String)
      (hword : word ∈ equalWords (text column) ++ [text value]) :
      word ∈ fixedWords ∨ ∃ name, word = text name := by
    simp only [equalWords, List.cons_append, List.nil_append, List.mem_cons, List.not_mem_nil,
      or_false] at hword
    rcases hword with rfl | rfl | rfl
    · exact .inr ⟨column, rfl⟩
    · exact .inl (by decide)
    · exact .inr ⟨value, rfl⟩
  cases scope with
  | all => exact absurd h List.not_mem_nil
  | custom | deptAndChild =>
    rcases List.mem_append.1 h with h | h
    · exact hids _ _ h
    · rw [List.mem_singleton.1 h]
      exact .inl (by decide)
  | dept => exact hequal _ _ h
  | own => exact hequal _ _ h
  | deptAndChildOrOwn =>
    rw [Scope.words, List.append_assoc] at h
    rcases List.mem_append.1 h with h | h
    · rcases List.mem_append.1 h with h | h
      · exact hids _ _ h
      · exact .inl (List.cons_subset.2 ⟨by decide, List.cons_subset.2 ⟨by decide, by simp⟩⟩ h)
    · exact hequal _ _ h

section Words

variable {scope : Scope} {text : String → String} {s : String}

theorem Scope.endsInside_words (htext : ∀ name, endsInside false (text name).toList = false) :
    ∀ word ∈ scope.words text, endsInside false word.toList = false := by
  intro word hword
  obtain hfixed | ⟨name, rfl⟩ := Scope.mem_words hword
  · exact endsInside_of_mem_fixedWords word hfixed
  · exact htext name

/-- The names in the text of a template are those in the texts of its placeholders. -/
theorem Scope.exists_of_name_mem_words
    (htext : ∀ name, endsInside false (text name).toList = false)
    (hnone : none ∉ pieces (" ".intercalate (scope.words text)).toList)
    (h : some (.name s) ∈ pieces (" ".intercalate (scope.words text)).toList) :
    ∃ name, none ∉ pieces (text name).toList ∧ some (.name s) ∈ pieces (text name).toList := by
  rw [mem_pieces_blanks (scope.endsInside_words htext)] at h hnone
  obtain ⟨word, hword, hname⟩ := h
  obtain hfixed | ⟨name, rfl⟩ := Scope.mem_words hword
  · rw [← mem_namesIn, namesIn_of_mem_fixedWords word hfixed] at hname
    exact absurd hname List.not_mem_nil
  · exact ⟨name, fun hpiece => hnone ⟨_, hword, hpiece⟩, hname⟩

end Words

namespace Template

variable {scope : Scope} {t : Template} {layers : List Bindings} {f : Filter}
  {source fallback column : String}

/-- **Only what is bound becomes a column** of the condition of a built-in template: a column that
is bound, or the text of a double that is bound and not finite. -/
theorem columns_of_condition (hsource : scope.template? = some (source, fallback))
    (ht : parse source = .ok t)
    (hcolumns : ∀ name c, Bindings.first? layers name = some (.column c) →
      Name.isColumn c = true)
    (hf : t.condition Settings.standard.missing layers = .ok f)
    (hmem : .column column ∈ f.operands) :
    (∃ name, Bindings.first? layers name = some (.column column)) ∨
      ∃ name b x, Bindings.first? layers name = some b ∧ .float x ∈ b.held ∧
        (x.isNaN = true ∨ x.isInf = true) ∧ column = floatLiteral x := by
  have hcondition : t.condition Settings.standard.missing layers
      = if t.IsFilled (Grantee.text? Settings.standard.missing layers)
        then Filter.parse (t.spell (Grantee.text? Settings.standard.missing layers))
        else .ok .never := condition_eq fun _ => rfl
  rw [hcondition] at hf
  split at hf
  case isFalse =>
    obtain rfl := Except.ok.inj hf
    exact absurd hmem List.not_mem_nil
  rw [spell_eq_words hsource ht] at hf
  generalize htexts : (fun name =>
    (Grantee.text? Settings.standard.missing layers name).getD "") = texts at hf
  -- a placeholder without a text is not reached here, and would have no tokens
  have htext (name : String) : texts name = "" ∨
      ∃ b, (∀ c, b = .column c → Name.isColumn c = true) ∧
        Bindings.first? layers name = some b ∧ texts name = b.sql Settings.standard.missing := by
    rw [← htexts]
    cases hb : Bindings.first? layers name with
    | none => exact .inl (by simp [Grantee.text?, hb])
    | some b =>
      refine .inr ⟨b, ?_, rfl, by simp [Grantee.text?, hb]⟩
      rintro c rfl
      exact hcolumns name c hb
  have hends (name : String) : endsInside false (texts name).toList = false := by
    obtain hempty | ⟨b, hcolumn, -, hsql⟩ := htext name
    · rw [hempty]
      rfl
    · rw [hsql]
      exact Binding.endsInside_sql hcolumn
  have hcolumn : column ∈ f.columns := List.mem_filterMap.2 ⟨_, hmem, rfl⟩
  rw [Filter.columns_of_parse hf, mem_namesIn] at hcolumn
  obtain ⟨name, hnone, hname⟩ :=
    Scope.exists_of_name_mem_words hends (Filter.none_notMem_of_parse hf) hcolumn
  obtain hempty | ⟨b, hcolumn, hb, hsql⟩ := htext name
  · rw [hempty] at hname
    exact absurd hname (by simp)
  · rw [hsql] at hnone hname
    obtain rfl | ⟨x, hx⟩ := Binding.name_mem_sql hcolumn hnone hname
    · exact .inl ⟨name, hb⟩
    · exact .inr ⟨name, b, x, hb, hx⟩

/-- A text like that of a double, a list without elements and a quote do not become columns. -/
theorem columns_of_condition_mixed :
    let bound : List (String × Binding) :=
      [("deptName", .column "o.dept_id"), ("userName", .column "owner"),
        (scopeIdsName, .values [.int 1, .texts ["a", "o'b"], .ints [], .float 0.5]),
        ("user.userId", .value (.text "NaN"))]
    ∃ t f, parse "$deptName IN ( $scopeIds ) OR $userName = $user.userId" = .ok t ∧
      t.condition Settings.standard.missing [.ofList bound] = .ok f ∧
        ∀ column, .column column ∈ f.operands → column = "o.dept_id" ∨ column = "owner" := by
  intro bound
  have hbound {name : String} {b : Binding} (h : Bindings.first? [.ofList bound] name = some b) :
      (name, b) ∈ bound := by
    have hfind : KeyMap.find? (.ofList bound) name = some b := by
      simpa [Bindings.first?] using h
    rw [KeyMap.find?_ofList] at hfind
    exact List.mem_reverse.1 (mem_of_lookup hfind)
  have hcolumn {name c : String} (h : (name, .column c) ∈ bound) :
      c = "o.dept_id" ∨ c = "owner" := by
    simp only [bound, List.mem_cons, Prod.mk.injEq, Binding.column.injEq, reduceCtorEq, and_false,
      List.not_mem_nil, or_false] at h
    exact h.imp And.right And.right
  have hfinite {name : String} {b : Binding} {x : Float} (h : (name, b) ∈ bound)
      (hx : .float x ∈ b.held) : x.isNaN = false ∧ x.isInf = false := by
    have hheld : .float x ∈ bound.flatMap fun e => e.2.held := List.mem_flatMap.2 ⟨_, h, hx⟩
    simp only [bound, List.flatMap_cons, List.flatMap_nil, Binding.held, List.nil_append,
      List.append_nil, List.cons_append, List.mem_cons, Value.float.injEq, reduceCtorEq,
      List.not_mem_nil, false_or, or_false] at hheld
    rw [hheld]
    decide +kernel
  have hsome : ((parse "$deptName IN ( $scopeIds ) OR $userName = $user.userId").bind
      (·.condition Settings.standard.missing [.ofList bound])).toOption.isSome = true := by
    decide +kernel
  obtain ⟨f, hsome⟩ := Option.isSome_iff_exists.1 hsome
  obtain ⟨t, ht, hf⟩ := Except.bind_eq_ok_iff.1 (Except.toOption_eq_some_iff.1 hsome)
  refine ⟨t, f, ht, hf, fun column hmem => ?_⟩
  have hsource : Scope.deptAndChildOrOwn.template?
      = some ("$deptName IN ( $scopeIds ) OR $userName = $user.userId", Scope.denyFragment) := rfl
  obtain ⟨name, hname⟩ | ⟨name, b, x, hb, hx, hinfinite, -⟩ :=
    columns_of_condition hsource ht
      (fun name c hname => by
        obtain rfl | rfl := hcolumn (hbound hname)
        · decide
        · decide)
      hf hmem
  · exact hcolumn (hbound hname)
  · obtain ⟨hnan, hinf⟩ := hfinite (hbound hb) hx
    rw [hnan, hinf] at hinfinite
    exact absurd hinfinite (by decide)

/-- A value that is not a number and an infinite one are read as columns that no one bound. -/
theorem doubles_read_as_columns :
    let columns (source : String) (b : Binding) : Option (List String) :=
      ((parse source).bind (·.condition Settings.standard.missing [.ofList
        [("deptName", .column "dept_id"), ("user.deptId", b), (scopeIdsName, b)]])).toOption.map
          Filter.columns
    columns "$deptName = $user.deptId" (.value (.float (0.0 / 0.0)))
        = some ["dept_id", "NaN"] ∧
      columns "$deptName IN ( $scopeIds )" (.values [.int 1, .float (1.0 / 0.0)])
        = some ["dept_id", "inf"] := by
  intro columns
  exact ⟨by decide +kernel, by decide +kernel⟩

end Template

end RowScope
