/-
The columns of a rule in fragments.

A column is written into a fragment as it is, so what it means there is up to the reader of
fragments.

* `isIdentifier_iff_tokens?` — an identifier is a text of which the only token is itself;
* `Mapping.columns_read_back` — a column of a mapping that is no keyword is one token wherever
  a fragment has it apart from other words, and the condition refers to it there;
* `Mapping.columns_misread` — a keyword is admitted as a column, and is read as what it is.

Design notes: a mapping looks at the characters of a column only, and the reader of fragments
knows keywords in any case.  The reader in turn takes a dot without a word after it for a part
of a name, and so it does with a second one, which is why dots are a condition here.
-/
import RowScope.Policy.Rule
import RowScope.Proofs.Fragment.Insertion
import RowScope.Proofs.Fragment.References

namespace RowScope

theorem isIdentifier_iff_tokens? {s : String} :
    isIdentifier s = true ↔ ∃ span, tokens? s = .ok [⟨.name s, span⟩] := by
  have hpieces : (∃ placed, tokens? s = .ok placed ∧ placed.map PlacedToken.token = [.name s]) ↔
      pieces s.toList = [Token.name s].map some := exists_tokens?_iff
  constructor
  · intro h
    obtain ⟨placed, htokens, hplaced⟩ := hpieces.2 (isIdentifier_iff.1 h)
    obtain ⟨p, hp, htoken⟩ := List.map_eq_singleton_iff.1 hplaced
    obtain ⟨token, span⟩ := p
    obtain rfl : token = .name s := htoken
    exact ⟨span, by rw [htokens, hp]⟩
  · rintro ⟨span, htokens⟩
    exact isIdentifier_iff.2 (hpieces.1 ⟨_, htokens, rfl⟩)

namespace Mapping

theorem isColumn_of_ofLists {keys columns : List String} {capability : Option String}
    {m : Mapping} (h : ofLists keys columns capability = .ok m) {c : String} (hc : c ∈ columns) :
    Name.isColumn c = true := by
  unfold ofLists at h
  split at h
  · split at h
    · cases h
    · next hfind => simpa using List.find?_eq_none.1 hfind c hc
  · cases h

/-- **The names of columns that are no keywords are the texts that the reader of fragments
takes for one name**, but for texts with a dot that no word follows.  **Such a column of a
mapping is one token in every fragment that has it apart from other words, and the condition
that the fragment spells refers to it**: its columns are those that the text before names, this
one, and those that the text after names. -/
theorem columns_read_back :
    (∀ s : String, (Name.isColumn s = true ∧ Keyword.ofName? s.toList = none) ↔
      (∃ span, tokens? s = .ok [⟨.name s, span⟩]) ∧ s.toList.getLast? ≠ some '.' ∧
        ¬['.', '.'] <:+: s.toList) ∧
    ∀ (keys columns : List String) (capability : Option String) (m : Mapping),
      ofLists keys columns capability = .ok m →
      ∀ c ∈ columns, Keyword.ofName? c.toList = none →
      ∀ before after : String, IsApart before.toList after.toList →
        pieces (before ++ c ++ after).toList
          = pieces before.toList ++ some (.name c) :: pieces after.toList ∧
        ∀ f, Filter.parse (before ++ c ++ after) = .ok f →
          f.columns = namesIn before.toList ++ c :: namesIn after.toList := by
  constructor
  · intro s
    rw [isColumn_iff_isIdentifier, isIdentifier_iff_tokens?]
    exact and_congr_right' ⟨fun h => ⟨h.last, h.single⟩, fun h => ⟨h.1, h.2⟩⟩
  · intro keys columns capability m hm c hc hkeyword before after hapart
    have hidentifier := isIdentifier_of_isColumn (isColumn_of_ofLists hm hc) hkeyword
    have hpieces := pieces_insert hidentifier hapart
    rw [← String.toList_append, ← String.toList_append] at hpieces
    refine ⟨hpieces, fun f hf => ?_⟩
    rw [Filter.columns_of_parse hf, namesIn, hpieces, List.filterMap_append]
    rfl

/-- A qualified column after a quoted text and before a list. -/
theorem columns_read_back_qualified :
    ∃ f, Filter.parse "a = 'or' AND d.dept_id IN (2)" = .ok f ∧ f.columns = ["a", "d.dept_id"] := by
  have hread : (Filter.parse "a = 'or' AND d.dept_id IN (2)").toOption.isSome = true := by
    decide +kernel
  obtain ⟨f, hf⟩ := Option.isSome_iff_exists.1 hread
  rw [Except.toOption_eq_some_iff] at hf
  refine ⟨f, hf, ?_⟩
  have hapart : IsApart "a = 'or' AND ".toList " IN (2)".toList := by
    refine ⟨⟨by decide, ?_⟩, ?_⟩
    · rintro c ⟨⟩
      decide
    · rintro c ⟨⟩
      decide
  have hcolumns := (columns_read_back.2 ["deptName"] ["d.dept_id"] none
    ⟨[("deptName", "d.dept_id")], none, by decide⟩ rfl "d.dept_id" List.mem_cons_self (by decide)
    "a = 'or' AND " " IN (2)" hapart).2 f hf
  rw [hcolumns]
  have hbefore : namesIn "a = 'or' AND ".toList = ["a"] := by decide +kernel
  have hafter : namesIn " IN (2)".toList = [] := by decide +kernel
  rw [hbefore, hafter]
  rfl

/-- A keyword is admitted as a column and is read as what it is, and two dots in a row are read
as a part of a name. -/
theorem columns_misread :
    ¬(Name.isColumn "null" = true ↔
      (∃ span, tokens? "null" = .ok [⟨.name "null", span⟩]) ∧ "null".toList.getLast? ≠ some '.') ∧
    (ofLists ["deptName"] ["null"] none).toOption.isSome = true ∧
    Filter.parse "null = 2" = .ok (.compare (.literal .null) .eq (.literal (.int 2))) ∧
    ¬(Name.isColumn "e..a" = true ↔
      (∃ span, tokens? "e..a" = .ok [⟨.name "e..a", span⟩]) ∧ "e..a".toList.getLast? ≠ some '.') := by
  refine ⟨fun h => ?_, by decide, ?_, fun h => ?_⟩
  · have hidentifier := isIdentifier_iff_tokens?.2 (h.1 (by decide)).1
    exact absurd hidentifier (by decide)
  · have hpieces : pieces "null = 2".toList
        = [Token.keyword .null, .comparison .eq, .int 2].map some := by decide +kernel
    exact Filter.parse_eq_ok_iff.2 ⟨_, hpieces, rfl⟩
  · have hidentifier : isIdentifier "e..a" = true := by decide
    have hcolumn := h.2 ⟨isIdentifier_iff_tokens?.1 hidentifier, by decide⟩
    exact absurd hcolumn (by decide)

end Mapping

end RowScope
