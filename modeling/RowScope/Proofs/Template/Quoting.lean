/-
Values do not change what a template says.

A value is spliced into a template as a quoted text.  Where the template has no quotes around
its placeholder, this is one text, whatever characters the value has.

* `Template.isUnquoted` — no placeholder stands between quotes of the template;
* `Template.parallel_spell` — with other texts bound, such a template differs between quotes
  only;
* `Template.outline_of_condition` — the conditions differ in their texts at most;
* `Template.values_break_out` — not so for a placeholder between quotes.

Design notes: a template is tried out with a number for each placeholder, and a number fits
between quotes.  The quotes of a value do not: the first of them closes the text that the
template has opened, and the value is read as a part of the condition.
-/
import RowScope.Proofs.Fragment.Parallel
import RowScope.Proofs.Template.Filling
import RowScope.Template.Scoped

namespace RowScope

/-- Whether no placeholder of some pieces stands between quotes. -/
def Segment.areUnquoted (inside : Bool) : List Segment → Bool
  | [] => true
  | .text s :: segments => areUnquoted (endsInside inside s.toList) segments
  | .placeholder _ _ :: segments => !inside && areUnquoted inside segments

section Parallel

variable {cs ds : List Char} {inside : Bool}

theorem parallel_text (text : List Char) (h : Parallel (endsInside inside text) cs ds) :
    Parallel inside (text ++ cs) (text ++ ds) := by
  induction text generalizing inside with
  | nil => exact h
  | cons c text ih =>
    have hrest : Parallel (if c = '\'' then !inside else inside) (text ++ cs) (text ++ ds) :=
      ih h
    by_cases hc : c = '\''
    · subst hc
      rw [if_pos rfl] at hrest
      cases inside with
      | false => exact .opening hrest
      | true => exact .closing hrest
    · rw [if_neg hc] at hrest
      cases inside with
      | false => exact .same hc hrest
      | true => exact .left hc (.right hc hrest)

theorem parallel_encode_left (text : List Char) (h : Parallel true cs ds) :
    Parallel true (Quoted.encode text ++ cs) ds := by
  induction text with
  | nil => exact h
  | cons c text ih =>
    rw [Quoted.encode]
    by_cases hc : c = '\''
    · rw [if_pos hc]
      exact .leftTwice ih
    · rw [if_neg hc]
      exact .left hc ih

theorem parallel_encode_right (text : List Char) (h : Parallel true cs ds) :
    Parallel true cs (Quoted.encode text ++ ds) := by
  induction text with
  | nil => exact h
  | cons c text ih =>
    rw [Quoted.encode]
    by_cases hc : c = '\''
    · rw [if_pos hc]
      exact .rightTwice ih
    · rw [if_neg hc]
      exact .right hc ih

/-- Two quoted texts are parallel, whatever characters they have. -/
theorem parallel_literal (a b : String) (h : Parallel false cs ds) :
    Parallel false ((Quoted.literal a).toList ++ cs) ((Quoted.literal b).toList ++ ds) := by
  have htext (s : String) (rest : List Char) :
      (Quoted.literal s).toList ++ rest = '\'' :: (Quoted.encode s.toList ++ '\'' :: rest) := by
    simp [Quoted.literal]
  rw [htext, htext]
  exact .opening (parallel_encode_left _ (parallel_encode_right _ (.closing h)))

/-- Pieces without a placeholder between quotes are parallel for any two texts of each
placeholder. -/
theorem parallel_segments {segments : List Segment} {text? text?' : String → Option String}
    (hquotes : Segment.areUnquoted inside segments = true)
    (htexts : ∀ name ∈ segments.filterMap Segment.name?, ∃ a b,
      text? name = some (Quoted.literal a) ∧ text?' name = some (Quoted.literal b)) :
    Parallel inside (segments.flatMap fun segment => (segment.spell text?).toList)
      (segments.flatMap fun segment => (segment.spell text?').toList) := by
  induction segments generalizing inside with
  | nil => exact .nil inside
  | cons segment segments ih =>
    rw [List.flatMap_cons, List.flatMap_cons]
    cases segment with
    | text s => exact parallel_text s.toList (ih hquotes htexts)
    | placeholder name span =>
      obtain ⟨hinside, hquotes⟩ := Bool.and_eq_true_iff.1 hquotes
      rw [Bool.not_eq_true'] at hinside
      subst hinside
      obtain ⟨⟨a, b, ha, hb⟩, htexts⟩ := List.forall_mem_cons.1 htexts
      rw [Segment.spell, Segment.spell, ha, hb]
      exact parallel_literal a b (ih hquotes htexts)

end Parallel

namespace Template

variable {t : Template} {missing : String} {layers layers' : List Bindings} {f g : Filter}

/-- Whether no placeholder stands between quotes. -/
def isUnquoted (t : Template) : Bool :=
  Segment.areUnquoted false t.segments

/-- Every placeholder is bound to a text. -/
def BindsTexts (t : Template) (layers : List Bindings) : Prop :=
  ∀ name ∈ t.names, ∃ s, Bindings.first? layers name = some (.value (.text s))

theorem toList_spell (text? : String → Option String) :
    (t.spell text?).toList = t.segments.flatMap fun segment => (segment.spell text?).toList := by
  rw [spell, String.toList_join, List.flatMap_map]

theorem text?_of_bindsTexts (h : t.BindsTexts layers) {name : String}
    (hname : name ∈ t.segments.filterMap Segment.name?) (missing : String) :
    ∃ s, (Bindings.first? layers name).map (Binding.sql missing) = some (Quoted.literal s) := by
  obtain ⟨s, hs⟩ := h name (List.mem_eraseDups.2 hname)
  exact ⟨s, by rw [hs]; rfl⟩

/-- A template spells the text with its placeholders replaced, if all are bound to texts. -/
theorem parse_of_bindsTexts (h : t.BindsTexts layers) (hf : t.condition missing layers = .ok f) :
    Filter.parse (t.spell fun name => (Bindings.first? layers name).map (Binding.sql missing))
      = .ok f := by
  have hfilled :
      t.IsFilled fun name => (Bindings.first? layers name).map (Binding.sql missing) := by
    intro name hname
    obtain ⟨s, hs⟩ := text?_of_bindsTexts h hname missing
    exact Option.isSome_iff_exists.2 ⟨_, hs⟩
  rwa [condition_eq fun _ => rfl, if_pos hfilled] at hf

/-- **Values cannot change what a template says**: with other texts bound to its placeholders a
template spells a condition that differs in its texts only, if no placeholder stands between
quotes. -/
theorem outline_of_condition (hquotes : t.isUnquoted = true) (h : t.BindsTexts layers)
    (h' : t.BindsTexts layers') (hf : t.condition missing layers = .ok f)
    (hg : t.condition missing layers' = .ok g) : f.outline = g.outline := by
  refine Filter.outline_of_parallel ?_ (parse_of_bindsTexts h hf) (parse_of_bindsTexts h' hg)
  rw [toList_spell, toList_spell]
  refine parallel_segments hquotes fun name hname => ?_
  obtain ⟨a, ha⟩ := text?_of_bindsTexts h hname missing
  obtain ⟨b, hb⟩ := text?_of_bindsTexts h' hname missing
  exact ⟨a, b, ha, hb⟩

/-- Two texts in the place of a name that is looked for twice, one of them like a condition. -/
theorem outline_of_condition_twice :
    let source := "name = $a AND (owner = $b OR note IN ('it''s', $a))"
    let layers (a b : String) : List Bindings :=
      [.ofList [("a", .value (.text a)), ("b", .value (.text b))]]
    ∃ t f g, ScopeTemplate.compile .own source "1 = 0" "-1" = .ok t ∧
      t.template.isUnquoted = true ∧ (∀ a b, t.template.BindsTexts (layers a b)) ∧
      t.template.condition "-1" (layers "x" "y") = .ok f ∧
      t.template.condition "-1" (layers "' OR 1 = 1 OR name = '" "") = .ok g ∧
      f.outline = g.outline := by
  intro source layers
  have hrun : (ScopeTemplate.compile .own source "1 = 0" "-1").toOption.any (fun t =>
      t.template.isUnquoted && t.template.names == ["a", "b"] &&
      (t.template.condition "-1" (layers "x" "y")).toOption.isSome &&
      (t.template.condition "-1" (layers "' OR 1 = 1 OR name = '" "")).toOption.isSome) = true := by
    decide +kernel
  obtain ⟨t, ht, hrun⟩ := (Option.any_eq_true _ _).1 hrun
  simp only [Bool.and_eq_true, beq_iff_eq, Option.isSome_iff_exists,
    Except.toOption_eq_some_iff] at ht hrun
  obtain ⟨⟨⟨hquotes, hnames⟩, f, hf⟩, g, hg⟩ := hrun
  have htexts (a b : String) : t.template.BindsTexts (layers a b) := by
    intro name hname
    rw [hnames] at hname
    simp only [List.mem_cons, List.not_mem_nil, or_false] at hname
    rcases hname with rfl | rfl
    · exact ⟨a, rfl⟩
    · exact ⟨b, rfl⟩
  exact ⟨t, f, g, ht, hquotes, htexts, hf, hg,
    outline_of_condition hquotes (htexts _ _) (htexts _ _) hf hg⟩

/-- Between quotes a value closes the text around it, and says what it wants. -/
theorem values_break_out :
    let layers (a : String) : List Bindings := [.ofList [("a", .value (.text a))]]
    ∃ t f g, ScopeTemplate.compile .own "name = '$a'" "1 = 0" "-1" = .ok t ∧
      (∀ a, t.template.BindsTexts (layers a)) ∧
      t.template.condition "-1" (layers "") = .ok f ∧
      t.template.condition "-1" (layers " OR 1 = 1 OR name = ") = .ok g ∧
      f.outline ≠ g.outline := by
  intro layers
  have hrun : (ScopeTemplate.compile .own "name = '$a'" "1 = 0" "-1").toOption.any (fun t =>
      t.template.names == ["a"] &&
      (t.template.condition "-1" (layers "")).toOption.any (fun f => !f.outline.isOr) &&
      (t.template.condition "-1" (layers " OR 1 = 1 OR name = ")).toOption.any
        (fun g => g.outline.isOr)) = true := by
    decide +kernel
  obtain ⟨t, ht, hrun⟩ := (Option.any_eq_true _ _).1 hrun
  simp only [Bool.and_eq_true, beq_iff_eq, Option.any_eq_true, Bool.not_eq_true',
    Except.toOption_eq_some_iff] at ht hrun
  obtain ⟨⟨hnames, f, hf, hnone⟩, g, hg, hor⟩ := hrun
  refine ⟨t, f, g, ht, fun a name hname => ⟨a, ?_⟩, hf, hg, fun heq => ?_⟩
  · rw [hnames, List.mem_singleton] at hname
    rw [hname]
    rfl
  · rw [heq, hor] at hnone
    exact absurd hnone (by simp)

end Template

end RowScope
