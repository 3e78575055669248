/-
The conditions of the built-in templates.

Columns, ids and the id of a user are spliced into a template as text, and the text is
read.  Whatever characters the values have, what is read is the condition on the values.

* `Grantee` — columns and values that the placeholders can stand for;
* `Grantee.condition?` — the condition that a scope means for them;
* `Grantee.condition_of_template?` — the template of the scope gives this condition.
-/
import RowScope.Proofs.Filter.Rereading
import RowScope.Proofs.Template.Filling
import RowScope.Template.Scoped

namespace RowScope

/-- What the placeholders of the built-in templates stand for.  The columns are names, and
all values are nulls or scalars other than doubles. -/
structure Grantee where
  -- The column of the department.
  dept : String
  -- The column of the owner.
  owner : String
  -- The ids of the role.
  ids : List Value
  -- The department of the user.
  department : Int64
  -- The id of the user.
  user : Value
  dept_ordinary : isOrdinary dept = true
  owner_ordinary : isOrdinary owner = true
  ids_ne_nil : ids ≠ []
  ids_plain : ∀ v ∈ ids, v.isPlain = true
  user_plain : user.isPlain = true

namespace Grantee

/-- The layers bind the placeholders as the grantee says. -/
structure BoundBy (s : Grantee) (layers : List Bindings) : Prop where
  dept : Bindings.first? layers "deptName" = some (.column s.dept)
  owner : Bindings.first? layers "userName" = some (.column s.owner)
  ids : Bindings.first? layers scopeIdsName = some (.values s.ids)
  department : Bindings.first? layers "user.deptId" = some (.value (.int s.department))
  user : Bindings.first? layers "user.userId" = some (.value s.user)

/-- The condition that a scope means; none for every row. -/
def condition? (s : Grantee) : Scope → Option Filter
  | .all => none
  | .custom | .deptAndChild => some (.memberOf s.dept s.ids)
  | .dept => some (.compareColumn s.dept .eq (.int s.department))
  | .own => some (.compareColumn s.owner .eq s.user)
  | .deptAndChildOrOwn =>
    some (.or [.memberOf s.dept s.ids, .compareColumn s.owner .eq s.user])

variable (s : Grantee) {layers : List Bindings}

/-! ### The texts -/

/-- The text of the condition on the department. -/
def idsText : String :=
  s.dept ++ " IN ( " ++ ", ".intercalate (s.ids.map Value.sql) ++ " )"

/-- The text of a column compared with a value. -/
def equalText (column : String) (v : Value) : String :=
  column ++ " = " ++ v.sql

theorem textOf_idsText : TextOf Predicate s.idsText (.memberOf s.dept s.ids) := by
  obtain ⟨ts, hts, hos⟩ := textOf_values s.ids_plain s.ids_ne_nil
  have hdept := spells_name (isIdentifier_of_isOrdinary s.dept_ordinary)
  have hcolumn : (Token.name s.dept).operand? = some (.column s.dept) := rfl
  refine ⟨_, ?_, .member false hcolumn hos⟩
  have htext : s.idsText.toList
      = s.dept.toList ++ ' ' :: (Keyword.member.spelling.toList ++ ' ' ::
        '(' :: ((' ' :: ((", ".intercalate (s.ids.map Value.sql)).toList ++ [' '])) ++ [')'])) := by
    simp [idsText, Keyword.spelling]
  rw [htext]
  exact hdept.blank ((spells_keyword .member).blank hts.blank_right.blank_left.parenthesized)

theorem textOf_equalText {column : String} {v : Value} (hc : isOrdinary column = true)
    (hv : v.isPlain = true) :
    TextOf Predicate (equalText column v) (.compareColumn column .eq v) := by
  have htext : equalText column v
      = (Filter.compare (.column column) .eq (.literal v)).sql := by
    rw [← String.toList_inj]
    simp [equalText, Filter.sql, Operand.sql, Comparison.symbol]
  rw [htext]
  exact Filter.textOf_compare (fun _ => isIdentifier_of_isOrdinary) .eq hc hv

end Grantee

/-! ### The templates -/

theorem Filter.parse_denyFragment : parse Scope.denyFragment = .ok .never :=
  parse_eq_ok_iff.2 ⟨[.int 1, .comparison .eq, .int 0], by decide +kernel, rfl⟩

namespace Template

theorem parse_idsTemplate : parse "$deptName IN ( $scopeIds )"
    = .ok ⟨"$deptName IN ( $scopeIds )", [.placeholder "deptName" ⟨0, 9⟩, .text " IN ( ",
      .placeholder "scopeIds" ⟨15, 24⟩, .text " )"]⟩ :=
  Except.toOption_eq_some_iff.1 (by decide +kernel)

theorem parse_deptTemplate : parse "$deptName = $user.deptId"
    = .ok ⟨"$deptName = $user.deptId", [.placeholder "deptName" ⟨0, 9⟩, .text " = ",
      .placeholder "user.deptId" ⟨12, 24⟩]⟩ :=
  Except.toOption_eq_some_iff.1 (by decide +kernel)

theorem parse_ownTemplate : parse "$userName = $user.userId"
    = .ok ⟨"$userName = $user.userId", [.placeholder "userName" ⟨0, 9⟩, .text " = ",
      .placeholder "user.userId" ⟨12, 24⟩]⟩ :=
  Except.toOption_eq_some_iff.1 (by decide +kernel)

theorem parse_idsOrOwnTemplate :
    parse "$deptName IN ( $scopeIds ) OR $userName = $user.userId"
    = .ok ⟨"$deptName IN ( $scopeIds ) OR $userName = $user.userId",
      [.placeholder "deptName" ⟨0, 9⟩, .text " IN ( ", .placeholder "scopeIds" ⟨15, 24⟩,
        .text " ) OR ", .placeholder "userName" ⟨30, 39⟩, .text " = ",
        .placeholder "user.userId" ⟨42, 54⟩]⟩ :=
  Except.toOption_eq_some_iff.1 (by decide +kernel)

end Template

namespace Grantee

variable {s : Grantee} {layers : List Bindings} (h : s.BoundBy layers) (missing : String)

/-- The text of a placeholder in layers. -/
def text? (missing : String) (layers : List Bindings) (name : String) : Option String :=
  (Bindings.first? layers name).map (Binding.sql missing)

theorem sql_ids : Binding.sql missing (.values s.ids)
    = ", ".intercalate (s.ids.map Value.sql) :=
  if_neg (by simpa using s.ids_ne_nil)

theorem sql_value {v : Value} (hv : v.isPlain = true) :
    Binding.sql missing (.value v) = v.sql := by
  refine if_neg ?_
  cases v with
  | ints ns => exact absurd hv (by simp [Value.isPlain])
  | texts ss => exact absurd hv (by simp [Value.isPlain])
  | _ => simp [Value.isEmptyList]

include h

theorem text?_dept : text? missing layers "deptName" = some s.dept := by
  rw [text?, h.dept]
  rfl

theorem text?_owner : text? missing layers "userName" = some s.owner := by
  rw [text?, h.owner]
  rfl

theorem text?_ids : text? missing layers "scopeIds"
    = some (", ".intercalate (s.ids.map Value.sql)) := by
  have hids : Bindings.first? layers "scopeIds" = some (.values s.ids) := h.ids
  rw [text?, hids, Option.map_some, sql_ids]

theorem text?_department :
    text? missing layers "user.deptId" = some (Value.int s.department).sql := by
  rw [text?, h.department, Option.map_some, sql_value missing rfl]

theorem text?_user : text? missing layers "user.userId" = some s.user.sql := by
  rw [text?, h.user, Option.map_some, sql_value missing s.user_plain]

/-- A template whose names are bound gives what its text spells. -/
theorem condition_of_spell {t : Template} {text : String} {f : Filter}
    (hnames : t.segments.filterMap Segment.name? ⊆
      ["deptName", "userName", "scopeIds", "user.deptId", "user.userId"])
    (htext : t.spell (text? missing layers) = text) (hf : Filter.parse text = .ok f) :
    t.condition missing layers = .ok f := by
  have hfilled : t.IsFilled (text? missing layers) := by
    intro name hname
    have := hnames hname
    simp only [List.mem_cons, List.not_mem_nil, or_false] at this
    rcases this with rfl | rfl | rfl | rfl | rfl
    · rw [text?_dept h]; rfl
    · rw [text?_owner h]; rfl
    · rw [text?_ids h]; rfl
    · rw [text?_department h]; rfl
    · rw [text?_user h]; rfl
  have hcondition : t.condition missing layers
      = if t.IsFilled (text? missing layers) then Filter.parse (t.spell (text? missing layers))
        else .ok .never := Template.condition_eq fun _ => rfl
  rw [hcondition, if_pos hfilled, htext, hf]

theorem condition_ids :
    (Template.parse "$deptName IN ( $scopeIds )").bind (·.condition missing layers)
      = .ok (.memberOf s.dept s.ids) := by
  rw [Template.parse_idsTemplate]
  refine condition_of_spell h missing (by decide) ?_ (Filter.parse_of_predicate s.textOf_idsText)
  simp [Template.spell, Segment.spell, text?_dept h, text?_ids h, idsText,
    String.append_assoc]

theorem condition_dept :
    (Template.parse "$deptName = $user.deptId").bind (·.condition missing layers)
      = .ok (.compareColumn s.dept .eq (.int s.department)) := by
  rw [Template.parse_deptTemplate]
  refine condition_of_spell h missing (by decide) ?_
    (Filter.parse_of_predicate (textOf_equalText s.dept_ordinary rfl))
  simp [Template.spell, Segment.spell, text?_dept h, text?_department h, equalText,
    String.append_assoc]

theorem condition_own :
    (Template.parse "$userName = $user.userId").bind (·.condition missing layers)
      = .ok (.compareColumn s.owner .eq s.user) := by
  rw [Template.parse_ownTemplate]
  refine condition_of_spell h missing (by decide) ?_
    (Filter.parse_of_predicate (textOf_equalText s.owner_ordinary s.user_plain))
  simp [Template.spell, Segment.spell, text?_owner h, text?_user h, equalText,
    String.append_assoc]

theorem condition_idsOrOwn :
    (Template.parse "$deptName IN ( $scopeIds ) OR $userName = $user.userId").bind
        (·.condition missing layers)
      = .ok (.or [.memberOf s.dept s.ids, .compareColumn s.owner .eq s.user]) := by
  rw [Template.parse_idsOrOwnTemplate]
  refine condition_of_spell h missing (by decide) ?_
    (Filter.parse_or s.textOf_idsText (textOf_equalText s.owner_ordinary s.user_plain))
  simp [Template.spell, Segment.spell, text?_dept h, text?_ids h, text?_owner h, text?_user h,
    idsText, equalText, String.append_assoc]

/-- **The template of a scope gives the condition that the scope means**, whatever
characters the values have. -/
theorem condition_of_template? {scope : Scope} {source fallback : String}
    (ht : scope.template? = some (source, fallback)) :
    ∃ f, s.condition? scope = some f ∧
      (Template.parse source).bind (·.condition missing layers) = .ok f := by
  cases scope with
  | all => exact absurd ht (by simp [Scope.template?])
  | custom | deptAndChild =>
    obtain ⟨rfl, -⟩ := Prod.mk.inj (Option.some.inj ht)
    exact ⟨_, rfl, condition_ids h missing⟩
  | dept =>
    obtain ⟨rfl, -⟩ := Prod.mk.inj (Option.some.inj ht)
    exact ⟨_, rfl, condition_dept h missing⟩
  | own =>
    obtain ⟨rfl, -⟩ := Prod.mk.inj (Option.some.inj ht)
    exact ⟨_, rfl, condition_own h missing⟩
  | deptAndChildOrOwn =>
    obtain ⟨rfl, -⟩ := Prod.mk.inj (Option.some.inj ht)
    exact ⟨_, rfl, condition_idsOrOwn h missing⟩

omit h in
/-- Ids that look like the end of the text they are spliced into. -/
theorem condition_of_template?_quotes :
    let s : Grantee := ⟨"o.dept_id", "owner", [.text "x') OR $y = '", .int (-9), .null], 2,
      .text "it's\n", by decide +kernel, by decide +kernel, by simp, by decide, rfl⟩
    let layers : List Bindings :=
      [.ofList [("deptName", .column "o.dept_id"), ("userName", .column "owner")],
        .ofList [("scopeIds", .values s.ids), ("user.deptId", .value (.int 2)),
          ("user.userId", .value s.user)]]
    s.BoundBy layers ∧ Scope.deptAndChildOrOwn.template? = some
        ("$deptName IN ( $scopeIds ) OR $userName = $user.userId", Scope.denyFragment) ∧
      ∃ f, s.condition? .deptAndChildOrOwn = some f ∧
        (Template.parse "$deptName IN ( $scopeIds ) OR $userName = $user.userId").bind
          (·.condition "-1" layers) = .ok f := by
  intro s layers
  have hbound : s.BoundBy layers :=
    ⟨by decide +kernel, by decide +kernel, by decide +kernel, by decide +kernel, by decide +kernel⟩
  exact ⟨hbound, rfl, condition_of_template? hbound "-1" rfl⟩

end Grantee

end RowScope
