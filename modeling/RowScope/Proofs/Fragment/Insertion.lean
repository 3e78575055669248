/-
A name inside a text.

What a name is read as does not depend on the text around it, as long as that text neither has
it between quotes nor goes on with it.

* `IsApart` — a name may be written between two texts and is apart from both;
* `SetsOff` — a character that no token goes on with, but perhaps a name;
* `pieces_append_of_setsOff` — the tokens before it are cut off as if it were not there;
* `pieces_append_blank` — a blank outside of quotes keeps two texts apart;
* `pieces_insert` — a name that is apart is a token of its own between those of the two texts.

Design notes: a text is cut from its start, so the tokens before the name are followed one
after the other, and after each of them it is still true that the text up to the name ends
outside of quotes and with no part of a name.  A blank may follow a name, so for it the first
of the two is enough.
-/
import RowScope.Proofs.Fragment.Identifiers
import RowScope.Proofs.Fragment.Parallel

namespace RowScope

/-- A text after which a name may start: it does not end between quotes, nor with a name. -/
structure MayPrecede (cs : List Char) : Prop where
  outside : endsInside false cs = false
  last : ∀ c ∈ cs.getLast?, Name.isPart c = false ∧ c ≠ '.'

/-- A character that neither a number nor a sign goes on with, and that opens no quote. -/
def SetsOff (d : Char) : Prop :=
  d.isDigit = false ∧ d ∉ ['.', '=', '>', '\'']

instance (d : Char) : Decidable (SetsOff d) :=
  inferInstanceAs (Decidable (_ ∧ _))

/-- A text before a character: it does not end between quotes, nor with a name that goes on with
the character. -/
structure EndsBefore (d : Char) (cs : List Char) : Prop where
  outside : endsInside false cs = false
  last : Name.isPart d = true → ∀ c ∈ cs.getLast?, Name.isPart c = false ∧ c ≠ '.'

theorem MayPrecede.endsBefore {cs : List Char} (h : MayPrecede cs) (d : Char) :
    EndsBefore d cs :=
  ⟨h.outside, fun _ => h.last⟩

/-- A name that is written between the two texts is apart from both. -/
structure IsApart (before after : List Char) : Prop where
  before : MayPrecede before
  after : EndsName after

/-! ### Quotes -/

theorem endsInside_cons (inside : Bool) (c : Char) (cs : List Char) :
    endsInside inside (c :: cs) = endsInside (if c = '\'' then !inside else inside) cs :=
  rfl

theorem endsInside_append (inside : Bool) (cs ds : List Char) :
    endsInside inside (cs ++ ds) = endsInside (endsInside inside cs) ds :=
  List.foldl_append

theorem endsInside_of_notMem {inside : Bool} {cs : List Char} (h : '\'' ∉ cs) :
    endsInside inside cs = inside := by
  induction cs with
  | nil => rfl
  | cons c cs ih =>
    rw [List.mem_cons, not_or] at h
    rw [endsInside_cons, if_neg (Ne.symm h.1), ih h.2]

namespace Quoted

/-- A quote that is closed is closed at the same place before any text that does not go on
with it. -/
theorem close?_append {cs rest : List Char} (h : endsInside true cs = false)
    (hrest : ∀ c ∈ rest.head?, c ≠ '\'') :
    ∃ body cs', close? cs = some (body, cs') ∧ close? (cs ++ rest) = some (body, cs' ++ rest) ∧
      endsInside false cs' = false := by
  fun_induction close? cs with
  | case1 => cases h
  | case2 cs ih =>
    obtain ⟨body, cs', hclose, happend, hends⟩ := ih h
    refine ⟨'\'' :: '\'' :: body, cs', by rw [hclose]; rfl, ?_, hends⟩
    rw [List.cons_append, List.cons_append, close?, happend]
    rfl
  | case3 cs hcs =>
    refine ⟨[], cs, rfl, ?_, h⟩
    rw [List.cons_append, close?]
    intro ds hds
    cases cs with
    | nil =>
      rw [List.nil_append] at hds
      exact hrest '\'' (by rw [hds]; rfl) rfl
    | cons c cs => exact hcs cs (by rw [(List.cons.inj hds).1])
  | case4 c cs _ hc ih =>
    have hc : c ≠ '\'' := hc
    rw [endsInside_cons, if_neg hc] at h
    obtain ⟨body, cs', hclose, happend, hends⟩ := ih h
    refine ⟨c :: body, cs', by rw [hclose]; rfl, ?_, hends⟩
    rw [List.cons_append, close?, happend]
    · rfl
    · intro ds hds
      exact absurd hds hc
    · intro hds
      exact absurd hds hc

theorem endsInside_of_close? {cs body rest : List Char} (h : close? cs = some (body, rest)) :
    endsInside true cs = endsInside false rest := by
  fun_induction close? cs generalizing body with
  | case1 => cases h
  | case2 cs ih =>
    obtain ⟨⟨body', rest'⟩, hclose, heq⟩ := Option.map_eq_some_iff.1 h
    obtain ⟨-, rfl⟩ := Prod.mk.inj heq
    exact ih hclose
  | case3 cs =>
    obtain ⟨-, rfl⟩ := Prod.mk.inj (Option.some.inj h)
    rfl
  | case4 c cs _ hc ih =>
    obtain ⟨⟨body', rest'⟩, hclose, heq⟩ := Option.map_eq_some_iff.1 h
    obtain ⟨-, rfl⟩ := Prod.mk.inj heq
    rw [endsInside_cons, if_neg hc]
    exact ih hclose

end Quoted

/-! ### Tokens before a character -/

namespace Cut

variable {c d : Char} {cs ds : List Char}

theorem mem_nameTail {dots : Nat} {inWord : Bool} :
    ∀ x ∈ (nameTail dots inWord cs).1, Name.isPart x = true ∨ x = '.' := by
  fun_induction nameTail dots inWord cs with
  | case1 => exact fun x hx => absurd hx List.not_mem_nil
  | case2 dots inWord c cs hdot more rest hmore ih =>
    rw [hmore] at ih
    exact List.forall_mem_cons.2 ⟨.inr hdot.1, ih⟩
  | case3 dots inWord c cs hdot hc more rest hmore ih =>
    rw [hmore] at ih
    refine List.forall_mem_cons.2 ⟨.inl ?_, ih⟩
    cases inWord with
    | true => exact hc
    | false => exact Name.isPart_of_isStart hc
  | case4 => exact fun x hx => absurd hx List.not_mem_nil

theorem mem_text_name (hc : Name.isStart c = true) :
    ∀ x ∈ (name c cs).text, Name.isPart x = true ∨ x = '.' := by
  intro x hx
  rcases List.mem_append.1 hx with hx | hx
  · rcases List.mem_cons.1 hx with rfl | hx
    · exact .inl (Name.isPart_of_isStart hc)
    · exact .inl (List.mem_takeWhile_imp hx)
  · exact mem_nameTail x hx

theorem notMem_text_number {x : Char} {sign : List Char} (hsign : x ∉ sign)
    (hdigit : x.isDigit = false) (hdot : x ≠ '.') : x ∉ (number sign cs).text := by
  have hdigits (cs : List Char) : x ∉ cs.takeWhile Char.isDigit := by
    intro hx
    rw [List.mem_takeWhile_imp hx] at hdigit
    cases hdigit
  unfold number
  split
  · dsimp only
    split
    · simp [hsign, hdigits]
    · simp [hsign, hdigits, hdot]
  · simp [hsign, hdigits]

/-- No number goes on with the character, not even after a decimal point. -/
theorem number_append_of_setsOff (hd : SetsOff d) (sign cs : List Char) :
    number sign (cs ++ d :: ds)
      = { number sign cs with rest := (number sign cs).rest ++ d :: ds } := by
  have hdigit : ∀ x ∈ (d :: ds).head?, x.isDigit = false := by
    rintro x ⟨⟩
    exact hd.1
  have htake (cs : List Char) : (cs ++ d :: ds).takeWhile Char.isDigit = cs.takeWhile Char.isDigit :=
    takeWhile_append_of_head fun _ => hdigit
  have hdrop (cs : List Char) :
      (cs ++ d :: ds).dropWhile Char.isDigit = cs.dropWhile Char.isDigit ++ d :: ds :=
    dropWhile_append_of_head fun _ => hdigit
  have hdot : d ≠ '.' := fun hdot => hd.2 (by simp [hdot])
  unfold number
  rw [htake, hdrop]
  cases cs.dropWhile Char.isDigit with
  | nil =>
    split
    · next heq => exact absurd (List.cons.inj heq).1 hdot
    · rfl
  | cons e rest =>
    by_cases he : e = '.'
    · subst he
      simp only [List.cons_append, htake, hdrop]
      split
      · rfl
      · rfl
    · split
      · next heq => exact absurd (List.cons.inj heq).1 he
      · split
        · next heq => exact absurd (List.cons.inj heq).1 he
        · rfl

/-- A sign does not go on with the character. -/
theorem first_sign_of_setsOff (hstart : Name.isStart c = false) (hdigit : c.isDigit = false)
    (hc : c ≠ '\'') (hd : SetsOff d) :
    first c (d :: ds) = { first c [] with rest := d :: ds } := by
  have hne : d ≠ '=' ∧ d ≠ '>' ∧ d.isDigit = false :=
    ⟨fun heq => hd.2 (by simp [heq]), fun hgt => hd.2 (by simp [hgt]), hd.1⟩
  by_cases hone : c ∈ ['=', ',', '(', ')', '<', '>', '-', '!']
  · simp only [List.mem_cons, List.not_mem_nil, or_false] at hone
    rcases hone with rfl | rfl | rfl | rfl | rfl | rfl | rfl | rfl
    all_goals simp_all [first]
  · unfold first
    rw [if_neg (by simp [hstart]), if_neg (by simp [hdigit]), if_neg (by simp [hstart]),
      if_neg (by simp [hdigit])]
    split
    all_goals simp_all

/-- A token before the character, which is no quoted text, has no quotes and is cut off as if the
character were not there. -/
theorem first_append_of_ne_quote (hc : c ≠ '\'') (hd : SetsOff d)
    (hlast : Name.isPart d = true →
      ∀ x ∈ (c :: cs).getLast?, Name.isPart x = false ∧ x ≠ '.') :
    first c (cs ++ d :: ds) = { first c cs with rest := (first c cs).rest ++ d :: ds } ∧
      '\'' ∉ (first c cs).text := by
  by_cases hstart : Name.isStart c = true
  · rw [first_of_isStart hstart, first_of_isStart hstart]
    refine ⟨name_append_of_ends fun hrest x hx => ?_, fun hmem => ?_⟩
    · obtain rfl : d = x := Option.some.inj hx
      refine ⟨Bool.eq_false_iff.2 fun hd => ?_, fun hdot => hd.2 (by simp [hdot])⟩
      -- a name that is all of the text would be its last part
      have hmem := List.getLast?_eq_some_getLast (List.cons_ne_nil c cs)
      obtain ⟨hpart, hdot⟩ := hlast hd _ hmem
      have htext := mem_text_name hstart ((c :: cs).getLast (List.cons_ne_nil c cs)) (by
        rw [name_text_of_rest hrest]
        exact List.getLast_mem _)
      rcases htext with h | h
      · rw [hpart] at h
        cases h
      · exact absurd h hdot
    · exact absurd (mem_text_name hstart _ hmem) (by decide)
  rw [Bool.not_eq_true] at hstart
  by_cases hdigit : c.isDigit = true
  · rw [first_of_isDigit hdigit, first_of_isDigit hdigit]
    exact ⟨number_append_of_setsOff hd [] (c :: cs),
      notMem_text_number List.not_mem_nil (by decide) (by decide)⟩
  rw [Bool.not_eq_true] at hdigit
  cases cs with
  | nil =>
    have htext : (first c []).text ++ (first c []).rest = [c] := first_append c []
    obtain ⟨hnil, -⟩ | ⟨htext, hrest⟩ := List.append_eq_singleton_iff.1 htext
    · exact absurd hnil (first_text_ne_nil c [])
    · rw [List.nil_append, first_sign_of_setsOff hstart hdigit hc hd, hrest, htext]
      exact ⟨rfl, by simpa using Ne.symm hc⟩
  | cons e cs =>
    by_cases hminus : c = '-' ∧ e.isDigit = true
    · obtain ⟨rfl, he⟩ := hminus
      rw [List.cons_append, first_minus_of_isDigit he, first_minus_of_isDigit he]
      exact ⟨number_append_of_setsOff hd ['-'] (e :: cs),
        notMem_text_number (by decide) (by decide) (by decide)⟩
    · obtain ⟨token?, ⟨he, hfirst⟩ | hfirst⟩ := first_sign hstart hdigit hc e fun hc => by
        simpa [hc] using hminus
      · rw [List.cons_append, hfirst, hfirst]
        exact ⟨rfl, by simpa using ⟨Ne.symm hc, Ne.symm he⟩⟩
      · rw [List.cons_append, hfirst, hfirst]
        exact ⟨rfl, by simpa using Ne.symm hc⟩

/-- A token before the character is cut off as if the character were not there, and so may be the
next one. -/
theorem first_append_of_setsOff (hd : SetsOff d) (ds : List Char) (h : EndsBefore d (c :: cs)) :
    first c (cs ++ d :: ds) = { first c cs with rest := (first c cs).rest ++ d :: ds } ∧
      EndsBefore d (first c cs).rest := by
  have happend := first_append c cs
  have hlast : Name.isPart d = true →
      ∀ x ∈ (first c cs).rest.getLast?, Name.isPart x = false ∧ x ≠ '.' := by
    intro hpart x hx
    refine h.last hpart x ?_
    rw [← happend, List.getLast?_append, hx]
    rfl
  by_cases hc : c = '\''
  · subst hc
    have hquote : ∀ x ∈ (d :: ds).head?, x ≠ '\'' := by
      rintro x ⟨⟩ rfl
      exact hd.2 (by simp)
    obtain ⟨body, rest, hclose, hclose', hends⟩ := Quoted.close?_append h.outside hquote
    have hfirst (cs : List Char) : first '\'' cs = quoted cs := rfl
    have hrest : (first '\'' cs).rest = rest := by rw [hfirst, quoted, hclose]
    rw [hrest] at hlast ⊢
    refine ⟨?_, hends, hlast⟩
    rw [hfirst, hfirst, quoted, quoted, hclose, hclose']
  · obtain ⟨hfirst, hquote⟩ := first_append_of_ne_quote hc hd h.last
    have hends := h.outside
    rw [← happend, endsInside_append, endsInside_of_notMem hquote] at hends
    exact ⟨hfirst, hends, hlast⟩

end Cut

/-- The tokens before the character are cut off as if it were not there. -/
theorem pieces_append_of_setsOff {d : Char} (hd : SetsOff d) (ds : List Char) :
    ∀ {cs : List Char}, EndsBefore d cs → pieces (cs ++ d :: ds) = pieces cs ++ pieces (d :: ds)
  | [], _ => by rw [List.nil_append, pieces_nil, List.nil_append]
  | c :: cs, h => by
    by_cases hblank : Lexeme.isBlank c = true
    · have hc : c ≠ '\'' := by
        rintro rfl
        exact absurd hblank (by decide)
      have hcs : EndsBefore d cs := by
        refine ⟨?_, fun hpart x hx => h.last hpart x ?_⟩
        · have hends := h.outside
          rwa [endsInside_cons, if_neg hc] at hends
        · rw [List.getLast?_cons, hx]
          rfl
      rw [List.cons_append, pieces_blank hblank, pieces_blank hblank,
        pieces_append_of_setsOff hd ds hcs]
    · rw [Bool.not_eq_true] at hblank
      obtain ⟨hfirst, hrest⟩ := Cut.first_append_of_setsOff hd ds h
      have hlt : (Cut.first c cs).rest.length < cs.length + 1 := Cut.first_rest_lt c cs
      rw [List.cons_append, pieces_first hblank, pieces_first hblank, hfirst,
        pieces_append_of_setsOff hd ds hrest, List.cons_append]
termination_by cs => cs.length

/-- A blank outside of quotes keeps two texts apart. -/
theorem pieces_append_blank {d : Char} (hd : Lexeme.isBlank d = true) {cs : List Char}
    (h : endsInside false cs = false) (ds : List Char) :
    pieces (cs ++ d :: ds) = pieces cs ++ pieces ds := by
  have hsets : SetsOff d ∧ Name.isPart d = false := by
    simp only [Lexeme.isBlank, Bool.or_eq_true, beq_iff_eq] at hd
    rcases hd with ((rfl | rfl) | rfl) | rfl
    all_goals decide
  rw [pieces_append_of_setsOff hsets.1 ds ⟨h, fun hpart => by simp [hsets.2] at hpart⟩,
    pieces_blank hd]

/-- A text that ends between quotes has a piece that is no token. -/
theorem none_mem_pieces : ∀ {cs : List Char}, endsInside false cs = true → none ∈ pieces cs
  | [], h => absurd h (by simp [endsInside])
  | c :: cs, h => by
    by_cases hblank : Lexeme.isBlank c = true
    · have hc : c ≠ '\'' := by
        rintro rfl
        exact absurd hblank (by decide)
      rw [endsInside_cons, if_neg hc] at h
      rw [pieces_blank hblank]
      exact none_mem_pieces h
    rw [Bool.not_eq_true] at hblank
    have hlt : (Cut.first c cs).rest.length < cs.length + 1 := Cut.first_rest_lt c cs
    rw [pieces_first hblank, List.mem_cons]
    by_cases hc : c = '\''
    · subst hc
      have hfirst : Cut.first '\'' cs = Cut.quoted cs := rfl
      rw [hfirst]
      rcases hclose : Quoted.close? cs with _ | ⟨body, rest⟩
      · exact .inl (by rw [Cut.quoted, hclose])
      · have hrest : (Cut.quoted cs).rest = rest := by rw [Cut.quoted, hclose]
        have hshorter : rest.length < cs.length + 1 := by rwa [hfirst, hrest] at hlt
        rw [hrest]
        rw [endsInside_cons, if_pos rfl, Bool.not_false, Quoted.endsInside_of_close? hclose] at h
        exact .inr (none_mem_pieces h)
    · obtain ⟨-, hquote⟩ : Cut.first c (cs ++ [' ']) = _ ∧ '\'' ∉ (Cut.first c cs).text :=
        Cut.first_append_of_ne_quote hc (by decide) fun hpart => absurd hpart (by decide)
      rw [← Cut.first_append c cs, endsInside_append, endsInside_of_notMem hquote] at h
      exact .inr (none_mem_pieces h)
termination_by cs => cs.length

/-- A text with all its pieces tokens does not end between quotes. -/
theorem endsInside_of_none_notMem {cs : List Char} (h : none ∉ pieces cs) :
    endsInside false cs = false :=
  Bool.eq_false_iff.2 fun hopen => h (none_mem_pieces hopen)

theorem endsInside_of_pieces {cs : List Char} {t : Token} (h : pieces cs = [some t]) :
    endsInside false cs = false :=
  endsInside_of_none_notMem (by simp [h])

theorem setsOff_of_isStart {d : Char} (hd : Name.isStart d = true) : SetsOff d := by
  refine ⟨Bool.eq_false_iff.2 fun hdigit => ?_, ?_⟩
  · rw [isStart_of_isDigit hdigit] at hd
    cases hd
  · have hall : ['.', '=', '>', '\''].all (fun c => !Name.isStart c) = true := by decide
    intro hmem
    have hnot := List.all_eq_true.1 hall d hmem
    rw [hd] at hnot
    cases hnot

/-- A name that is apart from the texts around it is a token of its own between theirs. -/
theorem pieces_insert {s : String} (hs : isIdentifier s = true) {before after : List Char}
    (h : IsApart before after) :
    pieces (before ++ s.toList ++ after) = pieces before ++ some (.name s) :: pieces after := by
  obtain ⟨c, cs, hcs, hstart, hrest, htoken⟩ := exists_of_isIdentifier hs
  rw [hcs, List.append_assoc, List.cons_append, pieces_append_of_setsOff (setsOff_of_isStart hstart) _
      (h.before.endsBefore c),
    ← List.cons_append, pieces_name_append hstart hrest htoken h.after]

end RowScope
