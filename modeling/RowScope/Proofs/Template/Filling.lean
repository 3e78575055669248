/-
Templates with texts in the place of their placeholders.

* `Template.spell` — the text of a template whose placeholders all have a text;
* `Template.condition_eq` — the condition that a template spells, by the texts of its
  placeholders alone;
* `KeyMap.find?_ofList` — of entries with one key the last counts.
-/
import Mathlib.Data.List.Induction
import Mathlib.Logic.Basic
import RowScope.Template.Binding

namespace RowScope

theorem lookup_map_snd {κ α β : Type} [BEq κ] (f : α → β) (es : List (κ × α)) (k : κ) :
    (es.map fun e => (e.1, f e.2)).lookup k = (es.lookup k).map f := by
  induction es with
  | nil => rfl
  | cons e es ih =>
    rw [List.map_cons, List.lookup_cons, List.lookup_cons, ih]
    split <;> rfl

theorem mem_of_lookup {κ α : Type} [BEq κ] [LawfulBEq κ] {es : List (κ × α)} {k : κ} {a : α}
    (h : es.lookup k = some a) : (k, a) ∈ es := by
  obtain ⟨before, after, rfl, -⟩ := List.lookup_eq_some_iff.1 h
  exact List.mem_append_right _ List.mem_cons_self

theorem KeyMap.find?_ofList {κ α : Type} [DecidableEq κ] (es : List (κ × α)) (k : κ) :
    (ofList es).find? k = es.reverse.lookup k := by
  induction es using List.reverseRecOn with
  | nil => rfl
  | append_singleton es e ih =>
    have hfold : ofList (es ++ [e]) = (ofList es).insert e.1 e.2 := by
      rw [ofList, List.foldl_append]
      rfl
    rw [hfold, find?_insert, ih, List.reverse_append, List.reverse_singleton,
      List.singleton_append, List.lookup_cons]
    by_cases hk : k = e.1
    · simp [hk]
    · simp [hk, beq_eq_false_iff_ne.2 hk]

theorem NameSet.isEmpty_ofList {names : List String} :
    (NameSet.ofList names).isEmpty = true ↔ names = [] := by
  rw [NameSet.isEmpty, NameSet.ofList, List.isEmpty_iff]
  constructor
  · intro h
    refine List.eq_nil_iff_forall_not_mem.2 fun name hname => ?_
    have hmem : name ∈ ascending names := mem_ascending.2 hname
    have hnil : ascending names = [] := h
    rw [hnil] at hmem
    exact absurd hmem List.not_mem_nil
  · rintro rfl
    rfl

/-- The text of a piece, by the texts of placeholders. -/
def Segment.spell (text? : String → Option String) : Segment → String
  | text s => s
  | placeholder name _ => (text? name).getD ""

namespace Template

variable {t : Template} {text? : String → Option String}

/-- Whether every placeholder has a text. -/
def IsFilled (t : Template) (text? : String → Option String) : Prop :=
  ∀ name ∈ t.segments.filterMap Segment.name?, (text? name).isSome = true

instance : Decidable (t.IsFilled text?) :=
  inferInstanceAs (Decidable (∀ name ∈ t.segments.filterMap Segment.name?,
    (text? name).isSome = true))

/-- The text of a template, by the texts of its placeholders. -/
def spell (t : Template) (text? : String → Option String) : String :=
  String.join (t.segments.map (Segment.spell text?))

theorem isComplete_render_iff {missing : String} :
    (t.render text? missing).isComplete = true ↔ t.IsFilled text? := by
  rw [render, Rendering.isComplete, NameSet.isEmpty_ofList, List.filter_eq_nil_iff]
  refine forall₂_congr fun name _ => ?_
  cases text? name <;> simp

theorem text_render {missing : String} (h : t.IsFilled text?) :
    (t.render text? missing).text = t.spell text? := by
  show String.join (t.segments.map (Segment.render text? missing)) = _
  rw [spell]
  refine congrArg String.join (List.map_congr_left fun segment hsegment => ?_)
  cases segment with
  | text s => rfl
  | placeholder name span =>
    have hname := h name (List.mem_filterMap.2 ⟨_, hsegment, rfl⟩)
    obtain ⟨text, htext⟩ := Option.isSome_iff_exists.1 hname
    rw [Segment.render, Segment.spell, htext]
    rfl

/-- The condition of a template depends on the texts of its placeholders alone. -/
theorem condition_eq {missing : String} {layers : List Bindings}
    (h : ∀ name, (Bindings.first? layers name).map (Binding.sql missing) = text? name) :
    t.condition missing layers
      = if t.IsFilled text? then Filter.parse (t.spell text?) else .ok .never := by
  have htext : (fun name => (Bindings.first? layers name).map (Binding.sql missing)) = text? :=
    funext h
  unfold condition fill
  simp only [htext, isComplete_render_iff]
  split
  · next hf => rw [text_render hf]
  · rfl

end Template

end RowScope
