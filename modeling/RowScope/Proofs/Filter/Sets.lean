/-
Sets of values as a tree and as text.

A set in a tree may have lists among its members, and each of them stands for its elements.  As
text the elements stand one after the other, and a list without elements is written as a null.

* `Value.orNull` — a value with a null in the place of a list without elements;
* `Value.among_orNull` — what such nulls change: a value that is not found is unknown;
* `Filter.exists_parse_member` — a set means the same as a tree and as text, apart from them.

Design notes: a null is in no set, so a list without elements still finds nothing as a null.  But
no value is known to be outside of a set with a null in it.
-/
import RowScope.Proofs.Connectives
import RowScope.Proofs.Filter.Rereading

namespace RowScope

namespace Value

/-- The value that the text of a value stands for in a set. -/
def orNull (v : Value) : Value :=
  if v.isEmptyList then null else v

variable {v w : Value} {ws : List Value}

theorem orNull_of_elements (h : v.isEmptyList = false) : v.orNull = v := by
  rw [orNull, h]
  rfl

theorem orNull_of_isEmptyList (h : v.isEmptyList = true) : v.orNull = null := by
  rw [orNull, if_pos h]

theorem elements_of_isEmptyList (h : v.isEmptyList = true) : v.elements = [] := by
  cases v with
  | ints ns => rw [elements, List.isEmpty_iff.1 h, List.map_nil]
  | texts ss => rw [elements, List.isEmpty_iff.1 h, List.map_nil]
  | _ => cases h

theorem sql_orNull (v : Value) : v.orNull.sql = v.sql := by
  cases h : v.isEmptyList with
  | false => rw [orNull_of_elements h]
  | true =>
    rw [orNull_of_isEmptyList h]
    cases v with
    | ints ns => exact (if_pos h).symm
    | texts ss => exact (if_pos h).symm
    | _ => cases h

theorem isListable_orNull (hdouble : ∀ x, v ≠ .float x) : v.orNull.isListable = true := by
  cases h : v.isEmptyList with
  | true =>
    rw [orNull_of_isEmptyList h]
    rfl
  | false =>
    rw [orNull_of_elements h]
    cases v with
    | float x => exact absurd rfl (hdouble x)
    | ints ns => simp [isListable, isList, h]
    | texts ss => simp [isListable, isList, h]
    | _ => rfl

/-- A null finds nothing, no more than the list in whose place it stands. -/
theorem any_equals_orNull_iff :
    Truth.any (w.orNull.elements.map v.equals) = .holds
      ↔ Truth.any (w.elements.map v.equals) = .holds := by
  cases h : w.isEmptyList with
  | false => rw [orNull_of_elements h]
  | true =>
    rw [orNull_of_isEmptyList h, any_equals_null, elements_of_isEmptyList h, List.map_nil,
      Truth.any_nil]
    decide

/-- Nulls in the place of lists without elements: a value that was found is found, and of any
other value nothing is known. -/
theorem among_orNull (v : Value) (h : ∃ w ∈ ws, w.isEmptyList = true) :
    v.among ((ws.map orNull).flatMap elements)
      = if v.among (ws.flatMap elements) = .holds then .holds else .unknown := by
  cases hv : v.isNull with
  | true =>
    have hunknown (us : List Value) : v.among us = .unknown := if_pos hv
    rw [hunknown, hunknown, if_neg (by decide)]
  | false =>
    rw [among_elements hv, among_elements hv]
    split
    · next hfound =>
      rw [Truth.any_eq_holds_iff] at hfound ⊢
      obtain ⟨w, hw, hholds⟩ := List.mem_map.1 hfound
      exact List.mem_map.2 ⟨w.orNull, List.mem_map_of_mem hw, any_equals_orNull_iff.2 hholds⟩
    · next hmissed =>
      refine Truth.eq_unknown_of_ne ?_ ?_
      · rw [Ne, Truth.any_eq_holds_iff, List.map_map, List.mem_map]
        rintro ⟨w, hw, hholds⟩
        rw [Truth.any_eq_holds_iff] at hmissed
        exact hmissed (List.mem_map.2 ⟨w, hw, any_equals_orNull_iff.1 hholds⟩)
      · rw [Ne, Truth.any_eq_fails_iff]
        intro hall
        obtain ⟨w, hw, hempty⟩ := h
        have hnull := hall _ (List.mem_map_of_mem (List.mem_map_of_mem hw))
        rw [orNull_of_isEmptyList hempty, any_equals_null] at hnull
        cases hnull

end Value

namespace Filter

variable {column : String} {values : List Value}

theorem truth_member (column : String) (values : List Value) (negated : Bool) (row : Row) :
    (member (.column column) (values.map .literal) negated).truth row
      = ((row.value column).among (values.flatMap Value.elements)).negateIf negated := by
  rw [truth, List.flatMap_map]
  rfl

/-- **A set means the same as a tree and as text**, for a column and values other than doubles,
if no value is a list without elements.  With such a list among the values the text has the
outcome of the tree where the column is in the set, and elsewhere its outcome is unknown. -/
theorem exists_parse_member (hcolumn : isOrdinary column = true)
    (hdouble : ∀ x, Value.float x ∉ values) (negated : Bool) :
    let e : Filter := .member (.column column) (values.map .literal) negated
    ∃ f, parse e.sql = .ok f ∧
      ((∀ v ∈ values, v.isEmptyList = false) → ∀ row, f.truth row = e.truth row) ∧
      ((∃ v ∈ values, v.isEmptyList = true) → ∀ row, f.truth row
        = if e.truth row = .ofBool (!negated) then .ofBool (!negated) else .unknown) := by
  intro e
  let e' : Filter := .member (.column column) ((values.map Value.orNull).map .literal) negated
  -- the text is that of the set with nulls in the place of lists without elements
  have hsql : e.sql = e'.sql := by
    have hlist : (values.map Operand.literal).map Operand.sql
        = ((values.map Value.orNull).map Operand.literal).map Operand.sql := by
      rw [List.map_map, List.map_map, List.map_map]
      exact List.map_congr_left fun v _ => (Value.sql_orNull v).symm
    show (member _ _ _).sql = (member _ _ _).sql
    rw [sql, sql, hlist]
  have hwritable : e'.isWritable isOrdinary = true := by
    have hlistable : ∀ v ∈ values, v.orNull.isListable = true := by
      rintro v hv
      refine Value.isListable_orNull fun x hx => hdouble x ?_
      rwa [← hx]
    simpa [e', isWritable, leaves, isWritableLeaf, Operand.isPlain, Operand.isListable, hcolumn]
      using hlistable
  refine ⟨e'.reread, hsql ▸ parse_sql (fun _ => isIdentifier_of_isOrdinary) hwritable,
    fun hnone row => ?_, fun hsome row => ?_⟩
  · have hsame : values.map Value.orNull = values :=
      (List.map_congr_left fun v hv => Value.orNull_of_elements (hnone v hv)).trans
        (List.map_id values)
    rw [truth_reread]
    show (member _ (List.map _ _) _).truth row = _
    rw [hsame]
  · rw [truth_reread, truth_member, truth_member, Value.among_orNull _ hsome]
    cases (row.value column).among (values.flatMap Value.elements) <;> cases negated <;> decide

/-- Lists of several elements, a null and texts with quotes and commas, in a set that a value is
not to be in. -/
theorem exists_parse_member_mixed :
    let values : List Value :=
      [.ints [3, -9], .null, .texts ["a', 'b", "NULL"], .bool true, .ints []]
    let e : Filter := .member (.column "o.dept") (values.map .literal) true
    isOrdinary "o.dept" = true ∧ (∀ x, Value.float x ∉ values) ∧
      ∃ f, parse e.sql = .ok f ∧ f.truth [("dept", .text "NULL")] = .fails ∧
        f.truth [("dept", .int 9)] = .unknown := by
  intro values e
  have hcolumn : isOrdinary "o.dept" = true := by decide
  have hdouble : ∀ x, Value.float x ∉ values := by
    intro x
    simp [values]
  have hempty : ∃ v ∈ values, v.isEmptyList = true := ⟨.ints [], by simp [values], rfl⟩
  obtain ⟨f, hf, -, htruth⟩ := exists_parse_member hcolumn hdouble true
  refine ⟨hcolumn, hdouble, f, hf, ?_, ?_⟩
  · rw [htruth hempty]
    decide +kernel
  · rw [htruth hempty]
    decide +kernel

/-- Every value is outside of a set whose only member is a list without elements, and the text of
the set leaves that open. -/
theorem empty_list_reads_as_null :
    let e (negated : Bool) : Filter := .member (.column "dept") [.literal (.ints [])] negated
    let row : Row := [("dept", .int 7)]
    let read (negated : Bool) : Option Truth := (parse (e negated).sql).toOption.map (truth row)
    isOrdinary "dept" = true ∧ (∀ x, Value.float x ∉ [Value.ints []]) ∧
      (e false).truth row = .fails ∧ read false = some .unknown ∧
      (e true).truth row = .holds ∧ read true = some .unknown := by
  intro e row read
  refine ⟨by decide, fun x => by simp, ?_, ?_, ?_, ?_⟩
  all_goals decide +kernel

end Filter

end RowScope
