/-
How a template is cut up.

* `Template.Nameless` — a dollar sign of a text that no name follows;
* `Segment.Fits`, `Template.IsCut` — pieces that make a text up, each name as long as it can be;
* `Template.scanned_segmentsFrom` — a text is cut so, or its first nameless dollar sign is found;
* `Template.Replaced` — a text with each name after a dollar sign replaced;
* `Template.parse_scans` — all that reading and rendering a template comes to.

Design notes: what a piece is depends on what follows it, since a name reaches as far as it can.
So the conditions on the pieces speak of what stands before a piece and after it, and a text is
put together from its end: a piece goes in front of pieces that are cut right.
-/
import RowScope.Proofs.Sequences
import RowScope.Proofs.Text.Names
import RowScope.Template.Basic

namespace RowScope

namespace Segment

/-- The text of the source that a piece stands for. -/
def source : Segment → List Char
  | text s => s.toList
  | placeholder name _ => '$' :: name.toList

/-- A piece is right between the pieces before and after it, where the first piece starts at an
offset. -/
inductive Fits (offset : Nat) (before : List Segment) : Segment → List Segment → Prop
  -- A text has characters but no dollar sign, and no other text comes next.
  | text {s : String} {after : List Segment} (hne : s.toList ≠ []) (hdollar : '$' ∉ s.toList)
      (hnext : ∀ s', .text s' ∉ after.head?) : Fits offset before (.text s) after
  -- A name is taken whole, and its span is where it stands with its dollar sign.
  | placeholder {name : String} {after : List Segment} (hname : Name.isColumn name = true)
      (hend : ¬ Name.GoesOn (after.flatMap source)) :
      Fits offset before (.placeholder name ⟨offset + byteLength (before.flatMap source),
        offset + byteLength (before.flatMap source ++ '$' :: name.toList)⟩) after

end Segment

namespace Template

/-- A dollar sign of the source, with the texts before and after it, that no letter and no
underscore follows. -/
def Nameless (source before after : List Char) : Prop :=
  source = before ++ '$' :: after ∧ ¬ ∃ c ∈ after.head?, Name.isStart c = true

/-- The pieces of a source that starts at an offset: they make it up, and each of them is right
where it stands. -/
structure IsCut (offset : Nat) (source : List Char) (segments : List Segment) : Prop where
  flatMap_source : segments.flatMap Segment.source = source
  fits : ∀ before piece after, segments = before ++ piece :: after →
    piece.Fits offset before after

/-! ### Dollar signs -/

section Dollars

variable {source before after text rest name : List Char} {c : Char}

theorem not_nameless_of_not_mem (h : '$' ∉ text) : ¬ Nameless text before after := by
  rintro ⟨rfl, -⟩
  exact h (List.mem_append_right _ List.mem_cons_self)

theorem not_nameless_name (hc : Name.isStart c = true) (hname : '$' ∉ c :: name) :
    ¬ Nameless ('$' :: c :: name) before after := by
  rintro ⟨h, hnone⟩
  cases before with
  | nil =>
    obtain rfl := (List.cons.inj h).2
    exact hnone ⟨c, rfl, hc⟩
  | cons b before =>
    have htail := (List.cons.inj h).2
    exact hname (htail ▸ List.mem_append_right _ List.mem_cons_self)

/-- Behind a text without nameless dollar signs the others stay what they are. -/
theorem nameless_append_iff (htext : ∀ b a, ¬ Nameless text b a) :
    Nameless (text ++ rest) before after
      ↔ ∃ before', before = text ++ before' ∧ Nameless rest before' after := by
  constructor
  · rintro ⟨h, hnone⟩
    rcases List.append_eq_append_iff.1 h with ⟨before', rfl, hrest⟩ | ⟨cs, htail, hrest⟩
    · exact ⟨before', rfl, hrest, hnone⟩
    cases cs with
    | nil => exact ⟨[], by simpa using htail.symm, hrest.symm, hnone⟩
    | cons d cs =>
      -- the dollar sign is one of the first text, and what follows it there names it
      obtain ⟨rfl, rfl⟩ := List.cons.inj hrest
      refine absurd ⟨htail, ?_⟩ (htext before cs)
      rintro ⟨c, hhead, hc⟩
      refine hnone ⟨c, ?_, hc⟩
      show c ∈ (cs ++ rest).head?
      rw [List.head?_append, Option.mem_def.1 hhead]
      rfl
  · rintro ⟨before', rfl, rfl, hnone⟩
    exact ⟨(List.append_assoc _ _ _).symm, hnone⟩

end Dollars

/-! ### Pieces -/

section Pieces

variable {offset : Nat} {rest : List Char} {piece first : Segment}
  {before after segments : List Segment}

theorem fits_cons (h : piece.Fits (offset + byteLength first.source) before after) :
    piece.Fits offset (first :: before) after := by
  cases h with
  | text hne hdollar hnext => exact .text hne hdollar hnext
  | @placeholder name _ hname hend =>
    have : Segment.Fits offset (first :: before) _ after := .placeholder hname hend
    simpa only [List.flatMap_cons, List.append_assoc, byteLength_append, Nat.add_assoc] using this

theorem isCut_nil (offset : Nat) : IsCut offset [] [] where
  flatMap_source := rfl
  fits := by simp

/-- A piece that fits goes in front of the others. -/
theorem IsCut.cons (hpiece : piece.Fits offset [] segments)
    (h : IsCut (offset + byteLength piece.source) rest segments) :
    IsCut offset (piece.source ++ rest) (piece :: segments) where
  flatMap_source := by rw [List.flatMap_cons, h.flatMap_source]
  fits := by
    intro before other after heq
    cases before with
    | nil =>
      obtain ⟨rfl, rfl⟩ := List.cons.inj heq
      exact hpiece
    | cons first before =>
      obtain ⟨rfl, hsegments⟩ := List.cons.inj heq
      exact fits_cons (h.fits before other after hsegments)

/-- No text is cut off before a dollar sign. -/
theorem IsCut.text_not_mem_head? (h : IsCut offset rest segments)
    (hrest : ∀ c ∈ rest.head?, c = '$') (s : String) : .text s ∉ segments.head? := by
  intro hhead
  obtain ⟨after, rfl⟩ := List.head?_eq_some_iff.1 hhead
  cases h.fits [] (.text s) after rfl with | text hne hdollar =>
  obtain ⟨c, cs, hcs⟩ := List.exists_cons_of_ne_nil hne
  have hc : c ∈ rest.head? := by
    rw [← h.flatMap_source, List.flatMap_cons]
    show c ∈ (s.toList ++ _).head?
    rw [hcs]
    rfl
  rw [hcs, hrest c hc] at hdollar
  exact hdollar List.mem_cons_self

/-- A text is cut into its pieces, or its first nameless dollar sign is found. -/
inductive Scanned (offset : Nat) (source : List Char) : Except Diagnostic (List Segment) → Prop
  | ok {segments : List Segment} (hcut : IsCut offset source segments)
      (hnamed : ∀ before after, ¬ Nameless source before after) :
      Scanned offset source (.ok segments)
  | error {before after : List Char} (h : Nameless source before after)
      (hfirst : ∀ b a, Nameless source b a → before.length ≤ b.length) :
      Scanned offset source (.error (nameless (offset + byteLength before)))

/-- A piece goes in front of a text that was scanned. -/
theorem Scanned.cons {r : Except Diagnostic (List Segment)} (piece : Segment)
    (h : Scanned (offset + byteLength piece.source) rest r)
    (hpiece : ∀ b a, ¬ Nameless piece.source b a)
    (hfits : ∀ segments, IsCut (offset + byteLength piece.source) rest segments →
      piece.Fits offset [] segments) :
    Scanned offset (piece.source ++ rest) (r.map (piece :: ·)) := by
  cases h with
  | ok hcut hnamed =>
    refine .ok (.cons (hfits _ hcut) hcut) fun before after hnone => ?_
    obtain ⟨before', -, hnone⟩ := (nameless_append_iff hpiece).1 hnone
    exact hnamed before' after hnone
  | @error before after hnone hfirst =>
    have hfirst' (b a : List Char) (hb : Nameless (piece.source ++ rest) b a) :
        (piece.source ++ before).length ≤ b.length := by
      obtain ⟨b', rfl, hb'⟩ := (nameless_append_iff hpiece).1 hb
      have := hfirst b' a hb'
      simp only [List.length_append]
      omega
    have herror : Scanned offset _ _ :=
      .error ((nameless_append_iff hpiece).2 ⟨before, rfl, hnone⟩) hfirst'
    rwa [byteLength_append, ← Nat.add_assoc] at herror

/-- A name goes in front of what does not go on with it. -/
theorem Scanned.placeholder {name : String} {r : Except Diagnostic (List Segment)}
    (h : Scanned (offset + byteLength ('$' :: name.toList)) rest r)
    (hname : Name.isColumn name = true) (hend : ¬ Name.GoesOn rest)
    (hnamed : ∀ b a, ¬ Nameless ('$' :: name.toList) b a) :
    Scanned offset ('$' :: name.toList ++ rest)
      (r.map (.placeholder name ⟨offset, offset + byteLength ('$' :: name.toList)⟩ :: ·)) := by
  refine Scanned.cons (.placeholder name _) h hnamed fun segments hcut => ?_
  rw [← hcut.flatMap_source] at hend
  exact .placeholder hname hend

/-- A text goes in front of a dollar sign. -/
theorem Scanned.text {s : String} {r : Except Diagnostic (List Segment)}
    (h : Scanned (offset + byteLength s.toList) rest r) (hne : s.toList ≠ [])
    (hdollar : '$' ∉ s.toList) (hrest : ∀ c ∈ rest.head?, c = '$') :
    Scanned offset (s.toList ++ rest) (r.map (.text s :: ·)) :=
  Scanned.cons (.text s) h (fun _ _ => not_nameless_of_not_mem hdollar) fun _ hcut =>
    .text hne hdollar (hcut.text_not_mem_head? hrest)

theorem dollar_not_mem_name {c : Char} (hc : Name.isStart c = true) (cs : List Char) :
    '$' ∉ c :: (Name.tail cs).1 := by
  rw [List.mem_cons, not_or]
  constructor
  · rintro rfl
    exact absurd hc (by decide)
  · intro h
    rcases Name.isPart_of_mem_tail _ h with hpart | hdot
    · exact absurd hpart (by decide)
    · exact absurd hdot (by decide)

/-- A dollar sign at the start that no name follows. -/
theorem scanned_nameless {cs : List Char} (h : ¬ ∃ c ∈ cs.head?, Name.isStart c = true) :
    Scanned offset ('$' :: cs) (.error (nameless offset)) := by
  have hnone : Nameless ('$' :: cs) [] cs := ⟨rfl, h⟩
  exact .error hnone fun _ _ _ => Nat.zero_le _

/-- **Scanning is exact**, from any offset. -/
theorem scanned_segmentsFrom (offset : Nat) (cs : List Char) :
    Scanned offset cs (segmentsFrom offset cs) := by
  fun_induction segmentsFrom offset cs with
  | case1 offset =>
    exact .ok (isCut_nil offset) fun before after => not_nameless_of_not_mem List.not_mem_nil
  | case2 offset c cs hc name stop _ ih =>
    have hscan := @Scanned.placeholder offset (Name.tail cs).2 (String.ofList name)
      (segmentsFrom stop (Name.tail cs).2)
    rw [String.toList_ofList] at hscan
    have := hscan ih (Name.isColumn_tail hc cs) (Name.not_goesOn_tail cs)
      fun b a => not_nameless_name hc (dollar_not_mem_name hc cs)
    rwa [List.cons_append, List.cons_append, Name.tail_append] at this
  | case3 offset c cs hc =>
    refine scanned_nameless ?_
    rintro ⟨d, hd, hstart⟩
    obtain rfl := Option.some.inj hd
    exact hc hstart
  | case4 offset =>
    refine scanned_nameless ?_
    rintro ⟨d, hd, -⟩
    cases hd
  | case5 offset c cs hnext hlast text _ ih =>
    have hc : c ≠ '$' := by
      rintro rfl
      cases cs with
      | nil => exact hlast rfl rfl
      | cons d ds => exact hnext d ds rfl rfl
    have hdollar : '$' ∉ text := by
      rw [List.mem_cons, not_or]
      refine ⟨hc.symm, fun h => ?_⟩
      have := List.all_eq_true.1 List.all_takeWhile '$' h
      simp at this
    have hrest : ∀ d ∈ (cs.dropWhile (· != '$')).head?, d = '$' := by
      intro d hd
      have := List.head?_dropWhile_not (· != '$') cs
      rw [Option.mem_def.1 hd] at this
      simpa using this
    have hscan := @Scanned.text offset (cs.dropWhile (· != '$')) (String.ofList text)
      (segmentsFrom (offset + byteLength text) (cs.dropWhile (· != '$')))
    rw [String.toList_ofList] at hscan
    have := hscan ih (List.cons_ne_nil _ _) hdollar hrest
    rwa [List.cons_append, List.takeWhile_append_dropWhile] at this

end Pieces

/-! ### Texts in the place of names -/

/-- A text with every name after a dollar sign replaced by its value or by `missing`, each name
taken as long as it can be. -/
inductive Replaced (value? : String → Option String) (missing : String) :
    List Char → List Char → Prop
  | nil : Replaced value? missing [] []
  | other {c : Char} {cs out : List Char} (hc : c ≠ '$') (h : Replaced value? missing cs out) :
      Replaced value? missing (c :: cs) (c :: out)
  | name {name : String} {rest out : List Char} (hname : Name.isColumn name = true)
      (hrest : ¬ Name.GoesOn rest) (h : Replaced value? missing rest out) :
      Replaced value? missing ('$' :: name.toList ++ rest)
        (((value? name).getD missing).toList ++ out)

section Replacing

variable {value? : String → Option String} {missing : String} {rest out : List Char}

theorem Replaced.text {text : List Char} (hdollar : '$' ∉ text)
    (h : Replaced value? missing rest out) :
    Replaced value? missing (text ++ rest) (text ++ out) := by
  induction text with
  | nil => exact h
  | cons c text ih =>
    rw [List.mem_cons, not_or] at hdollar
    exact .other (Ne.symm hdollar.1) (ih hdollar.2)

/-- Pieces that are right where they stand can be replaced one by one. -/
theorem replaced_of_fits {segments : List Segment}
    (h : ∀ before piece after, segments = before ++ piece :: after →
      ∃ offset before', piece.Fits offset before' after) :
    Replaced value? missing (segments.flatMap Segment.source)
      (segments.flatMap fun segment => (segment.render value? missing).toList) := by
  induction segments with
  | nil => exact .nil
  | cons first segments ih =>
    have hrest : Replaced value? missing _ _ := ih fun before piece after hsegments =>
      h (first :: before) piece after (congrArg (first :: ·) hsegments)
    obtain ⟨offset, before, hfits⟩ := h [] first segments rfl
    rw [List.flatMap_cons, List.flatMap_cons]
    cases hfits with
    | text _ hdollar _ => exact hrest.text hdollar
    | placeholder hname hend => exact .name hname hend hrest

end Replacing

theorem toList_render (t : Template) (value? : String → Option String) (missing : String) :
    (t.render value? missing).text.toList
      = t.segments.flatMap fun segment => (segment.render value? missing).toList := by
  rw [render, String.toList_join, List.flatMap_map]

theorem mem_unresolved_iff {t : Template} {value? : String → Option String} {missing : String}
    {name : String} : name ∈ (t.render value? missing).unresolved.names
      ↔ (∃ span, .placeholder name span ∈ t.segments) ∧ value? name = none := by
  rw [render, NameSet.ofList, mem_ascending, List.mem_filter, List.mem_filterMap,
    Option.isNone_iff_eq_none]
  refine and_congr_left fun _ => ?_
  constructor
  · rintro ⟨segment, hmem, hsegment⟩
    cases segment with
    | text s => cases hsegment
    | placeholder name' span =>
      obtain rfl := Option.some.inj hsegment
      exact ⟨span, hmem⟩
  · rintro ⟨span, hmem⟩
    exact ⟨_, hmem, rfl⟩

/-- A source text is read as it is scanned. -/
theorem parse_cases (source : String) :
    (∃ segments, parse source = .ok ⟨source, segments⟩ ∧
      Scanned 0 source.toList (.ok segments)) ∨
    ∃ d, parse source = .error d ∧ Scanned 0 source.toList (.error d) := by
  have h := scanned_segmentsFrom 0 source.toList
  unfold parse
  cases hscan : segmentsFrom 0 source.toList with
  | ok segments => exact .inl ⟨segments, rfl, hscan ▸ h⟩
  | error d => exact .inr ⟨d, rfl, hscan ▸ h⟩

/-- **Templates are read without loss**: a source is a template if and only if a name follows
each of its dollar signs, and the finding speaks of the first that has none.  The pieces of a
template make its source up, with each name as long as it can be, and the rendered text is the
source with the names replaced.  The names without a value are those that were left open. -/
theorem parse_scans (source : String) :
    ((∃ t, parse source = .ok t) ↔ ∀ before after, ¬ Nameless source.toList before after) ∧
      (∀ d, parse source = .error d → ∃ before after, Nameless source.toList before after ∧
        (∀ b a, Nameless source.toList b a → before.length ≤ b.length) ∧
        d.span = ⟨byteLength before, byteLength before + 1⟩) ∧
      ∀ t, parse source = .ok t → t.source = source ∧ IsCut 0 source.toList t.segments ∧
        ∀ value? missing,
          Replaced value? missing source.toList (t.render value? missing).text.toList ∧
          ∀ name, name ∈ (t.render value? missing).unresolved.names
            ↔ (∃ span, .placeholder name span ∈ t.segments) ∧ value? name = none := by
  rcases parse_cases source with ⟨segments, hparse, hscan⟩ | ⟨d, hparse, hscan⟩
  · rw [hparse]
    cases hscan with | ok hcut hnamed =>
    refine ⟨⟨fun _ => hnamed, fun _ => ⟨_, rfl⟩⟩, nofun, fun t h => ?_⟩
    obtain rfl := Except.ok.inj h
    refine ⟨rfl, hcut, fun value? missing => ⟨?_, fun name => mem_unresolved_iff⟩⟩
    have hreplaced : Replaced value? missing _ _ :=
      replaced_of_fits fun before piece after h => ⟨0, before, hcut.fits before piece after h⟩
    rwa [hcut.flatMap_source, ← toList_render ⟨source, segments⟩] at hreplaced
  · rw [hparse]
    cases hscan with | @error before after hnone hfirst =>
    refine ⟨⟨nofun, fun h => absurd hnone (h before after)⟩, fun d h => ?_, nofun⟩
    obtain rfl := Except.error.inj h
    refine ⟨before, after, hnone, hfirst, ?_⟩
    rw [nameless, Nat.zero_add]

/-- A dot without a word after it is text, and a dollar sign in a value is no name. -/
theorem parse_scans_dots :
    let source := "é = $user.userId. OR $a.1$a"
    let value? (name : String) : Option String := if name = "a" then some "$b" else none
    ∃ t, parse source = .ok t ∧ IsCut 0 source.toList t.segments ∧
      Replaced value? "-1" source.toList "é = -1. OR $b.1$b".toList ∧
      (∀ name, name ∈ ["user.userId"]
        ↔ (∃ span, .placeholder name span ∈ t.segments) ∧ value? name = none) ∧
      ∃ d before after, parse "é$a $1" = .error d ∧ d.span = ⟨5, 6⟩ ∧
        Nameless "é$a $1".toList before after ∧
        d.span = ⟨byteLength before, byteLength before + 1⟩ := by
  intro source value?
  have hrun : (parse source).toOption.any (fun t =>
      (t.render value? "-1").text == "é = -1. OR $b.1$b" &&
      (t.render value? "-1").unresolved.names == ["user.userId"]) = true := by
    decide +kernel
  have hfail : (errorOf? (parse "é$a $1")).any (fun d => d.span == ⟨5, 6⟩) = true := by
    decide +kernel
  obtain ⟨t, ht, hrun⟩ := (Option.any_eq_true _ _).1 hrun
  obtain ⟨d, hd, hspan⟩ := (Option.any_eq_true _ _).1 hfail
  simp only [Bool.and_eq_true, beq_iff_eq, Except.toOption_eq_some_iff, errorOf?_eq_some_iff]
    at ht hrun hd hspan
  obtain ⟨htext, hnames⟩ := hrun
  obtain ⟨-, hcut, hrender⟩ := (parse_scans source).2.2 t ht
  obtain ⟨hreplaced, hunresolved⟩ := hrender value? "-1"
  rw [htext] at hreplaced
  rw [hnames] at hunresolved
  obtain ⟨before, after, hnameless, -, hplace⟩ := (parse_scans "é$a $1").2.1 d hd
  exact ⟨t, ht, hcut, hreplaced, hunresolved, d, before, after, hd, hspan, hnameless, hplace⟩

end Template

end RowScope
