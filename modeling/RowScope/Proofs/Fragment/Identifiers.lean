/-
Identifiers: the texts that are one name.

* `Cut.nameTail_nameTail` — what a name takes of a text, it takes whole when it is all there is;
* `isIdentifier_of_mem_pieces` — every name among the tokens of a text is an identifier;
* `isIdentifier_iff` — an identifier is a text of which the only piece is itself;
* `spells_of_isColumn` — the name of a column is one token, a name or a keyword;
* `isColumn_iff_isIdentifier` — the names of columns are the identifiers and keywords that have
  a word after each dot.
-/
import RowScope.Proofs.Fragment.Words

namespace RowScope

namespace Cut

theorem nameTail_nameTail (dots : Nat) (inWord : Bool) (cs : List Char) :
    nameTail dots inWord (nameTail dots inWord cs).1 = ((nameTail dots inWord cs).1, []) := by
  fun_induction nameTail dots inWord cs with
  | case1 => rfl
  | case2 dots inWord c cs hdot more rest hmore ih =>
    rw [hmore] at ih
    rw [nameTail, if_pos hdot, ih]
  | case3 dots inWord c cs hdot hc more rest hmore ih =>
    rw [hmore] at ih
    rw [nameTail, if_neg hdot, if_pos hc, ih]
  | case4 => rfl

/-- The rest of a name starts with a dot or is empty, after a word that is read to its end. -/
theorem isPart_nameTail_dropWhile (dots : Nat) (cs : List Char) :
    ∀ c ∈ (nameTail dots true (cs.dropWhile Name.isPart)).1.head?, Name.isPart c = false := by
  intro c hc
  have happend := nameTail_append dots true (cs.dropWhile Name.isPart)
  obtain ⟨more, hmore⟩ := List.head?_eq_some_iff.1 hc
  rw [hmore, List.cons_append] at happend
  have := List.head?_dropWhile_not Name.isPart cs
  rw [← happend] at this
  simpa using this

/-- The text of a name is read as this name, if it stands alone. -/
theorem name_text (c : Char) (cs : List Char) :
    ∃ ds, (name c cs).text = c :: ds ∧ (name c ds).rest = [] := by
  refine ⟨cs.takeWhile Name.isPart ++ (nameTail (dotsAfter (c :: cs.takeWhile Name.isPart)) true
    (cs.dropWhile Name.isPart)).1, rfl, ?_⟩
  have hword : ∀ d ∈ cs.takeWhile Name.isPart, Name.isPart d = true :=
    fun d hd => List.mem_takeWhile_imp hd
  generalize hdots : dotsAfter (c :: cs.takeWhile Name.isPart) = dots
  have hhead := isPart_nameTail_dropWhile dots cs
  have hidem := nameTail_nameTail dots true (cs.dropWhile Name.isPart)
  generalize (nameTail dots true (cs.dropWhile Name.isPart)).1 = more at hhead hidem ⊢
  generalize cs.takeWhile Name.isPart = word at hword hdots ⊢
  have hmore : more.takeWhile Name.isPart = [] ∧ more.dropWhile Name.isPart = more := by
    cases more with
    | nil => exact ⟨rfl, rfl⟩
    | cons d ds =>
      have hd : ¬Name.isPart d = true := by simp [hhead d rfl]
      exact ⟨List.takeWhile_cons_of_neg hd, List.dropWhile_cons_of_neg hd⟩
  have htake : (word ++ more).takeWhile Name.isPart = word := by
    rw [List.takeWhile_append_of_pos hword, hmore.1, List.append_nil]
  have hdrop : (word ++ more).dropWhile Name.isPart = more := by
    rw [List.dropWhile_append_of_pos hword, hmore.2]
  simp only [name, htake, hdrop, hdots, hidem]

theorem token?_number_ne_name (sign cs : List Char) (s : String) :
    (number sign cs).token? ≠ some (.name s) := by
  unfold number
  split
  · dsimp only
    split
    · simp
    · simp
  · simp

/-- Only a name starts as a name does. -/
theorem token?_first_eq_name {c : Char} {cs : List Char} {s : String}
    (h : (first c cs).token? = some (.name s)) :
    Name.isStart c = true ∧ (name c cs).token? = some (.name s) := by
  unfold first at h
  split at h
  · next hc => exact ⟨hc, h⟩
  · split at h
    · exact absurd h (token?_number_ne_name _ _ s)
    · split at h
      case h_1 =>
        unfold quoted at h
        split at h
        · cases h
        · cases h
      case h_2 =>
        split at h
        · exact absurd h (token?_number_ne_name _ _ s)
        · cases h
      all_goals cases h

theorem token?_name (c : Char) (cs : List Char) :
    (name c cs).token? = some ((Keyword.ofName? (name c cs).text).elim
      (.name (String.ofList (name c cs).text)) .keyword) := by
  unfold name
  dsimp only
  cases Keyword.ofName? _ with
  | none => rfl
  | some k => rfl

theorem isIdentifier_of_token?_name {c : Char} {cs : List Char} {s : String}
    (hc : Name.isStart c = true) (h : (name c cs).token? = some (.name s)) :
    isIdentifier s = true := by
  obtain ⟨ds, htext, hrest⟩ := name_text c cs
  rw [token?_name, htext] at h
  cases hk : Keyword.ofName? (c :: ds) with
  | some k =>
    rw [hk] at h
    cases h
  | none =>
    rw [hk] at h
    obtain rfl := Token.name.inj (Option.some.inj h)
    simp [isIdentifier, hc, hrest, hk]

end Cut

/-- Every name among the tokens of a text is an identifier. -/
theorem isIdentifier_of_mem_pieces {s : String} : ∀ {cs : List Char},
    some (.name s) ∈ pieces cs → isIdentifier s = true
  | [], h => absurd h (by simp)
  | c :: cs, h => by
    by_cases hc : Lexeme.isBlank c = true
    · rw [pieces_blank hc] at h
      exact isIdentifier_of_mem_pieces h
    · have hlt : (Cut.first c cs).rest.length < cs.length + 1 := Cut.first_rest_lt c cs
      rw [pieces_first (by simpa using hc)] at h
      rcases List.mem_cons.1 h with h | h
      · obtain ⟨hstart, hname⟩ := Cut.token?_first_eq_name h.symm
        exact Cut.isIdentifier_of_token?_name hstart hname
      · exact isIdentifier_of_mem_pieces h
termination_by cs => cs.length

/-- A text with a name in it has a character that a name may start with. -/
theorem exists_isStart_of_mem_pieces {s : String} : ∀ {cs : List Char},
    some (.name s) ∈ pieces cs → ∃ c ∈ cs, Name.isStart c = true
  | [], h => absurd h (by simp)
  | c :: cs, h => by
    by_cases hc : Lexeme.isBlank c = true
    · rw [pieces_blank hc] at h
      obtain ⟨d, hd, hstart⟩ := exists_isStart_of_mem_pieces h
      exact ⟨d, List.mem_cons_of_mem c hd, hstart⟩
    · have hlt : (Cut.first c cs).rest.length < cs.length + 1 := Cut.first_rest_lt c cs
      rw [pieces_first (by simpa using hc)] at h
      rcases List.mem_cons.1 h with h | h
      · exact ⟨c, List.mem_cons_self, (Cut.token?_first_eq_name h.symm).1⟩
      · obtain ⟨d, hd, hstart⟩ := exists_isStart_of_mem_pieces h
        refine ⟨d, ?_, hstart⟩
        rw [← Cut.first_append c cs]
        exact List.mem_append_right _ hd
termination_by cs => cs.length

/-- An identifier is a text of which the only token is itself. -/
theorem isIdentifier_iff {s : String} :
    isIdentifier s = true ↔ pieces s.toList = [some (.name s)] := by
  constructor
  · exact fun h => (spells_name h).pieces_eq
  · intro h
    have hmem : some (Token.name s) ∈ pieces s.toList := by
      rw [h]
      exact List.mem_cons_self
    exact isIdentifier_of_mem_pieces hmem

/-! ### Columns -/

/-- The name of a column is one token: a name, or a keyword. -/
theorem spells_of_isColumn {s : String} (h : Name.isColumn s = true) :
    Spells s.toList [(Keyword.ofName? s.toList).elim (.name s) .keyword] := by
  obtain ⟨c, cs, hs, hstart, hrest⟩ := exists_name_of_isColumn h
  have htoken := Cut.token?_name c cs
  rw [Cut.name_text_of_rest hrest, ← hs, String.ofList_toList] at htoken
  have hspells := spells_of_name hstart hrest htoken
  rwa [← hs] at hspells

theorem pieces_of_isColumn {s : String} (h : Name.isColumn s = true) :
    pieces s.toList = [some ((Keyword.ofName? s.toList).elim (.name s) .keyword)] :=
  (spells_of_isColumn h).pieces_eq

/-- A text without dots at its end and without two dots in a row. -/
structure DotsPart (cs : List Char) : Prop where
  last : cs.getLast? ≠ some '.'
  single : ¬['.', '.'] <:+: cs

theorem DotsPart.of_suffix {cs ds : List Char} (h : DotsPart ds) (hsuffix : cs <:+ ds) :
    DotsPart cs where
  last hlast := by
    obtain ⟨before, rfl⟩ := hsuffix
    refine h.last ?_
    rw [List.getLast?_append, hlast]
    rfl
  single htwo := h.single (htwo.trans hsuffix.isInfix)

/-- What the reader takes to its end as the rest of a name is words with dots between them. -/
theorem Cut.parts_of_nameTail : ∀ {cs : List Char} {dots : Nat},
    (nameTail dots true cs).2 = [] → DotsPart cs →
      ∃ p ps, Name.parts cs = p :: ps ∧ p.all Name.isPart = true ∧
        ∀ q ∈ ps, Name.isWord q = true
  | [], _, _, _ => ⟨[], [], rfl, rfl, fun _ hq => absurd hq List.not_mem_nil⟩
  | c :: cs, dots, hrest, h => by
    rw [nameTail] at hrest
    by_cases hc : c = '.'
    · subst hc
      by_cases hdots : 0 < dots
      · rw [if_pos ⟨rfl, hdots⟩] at hrest
        cases cs with
        | nil => exact absurd rfl h.last
        | cons d ds =>
          -- after the dot there is a word, and what is left is the rest of a name again
          have hd : d ≠ '.' := by
            rintro rfl
            exact h.single ⟨[], ds, rfl⟩
          have hrest : (nameTail (dots - 1) false (d :: ds)).2 = [] := hrest
          rw [nameTail, if_neg fun hdot => hd hdot.1] at hrest
          by_cases hstart : Name.isStart d = true
          · rw [if_neg Bool.false_ne_true, if_pos hstart] at hrest
            obtain ⟨p, ps, hparts, hp, hps⟩ :=
              parts_of_nameTail hrest (h.of_suffix ⟨['.', d], rfl⟩)
            refine ⟨[], (d :: p) :: ps, ?_, rfl, List.forall_mem_cons.2 ⟨?_, hps⟩⟩
            · rw [Name.parts_dot, Name.parts_cons hd hparts]
            · rw [Name.isWord, hstart, hp]
              rfl
          · rw [if_neg Bool.false_ne_true, if_neg hstart] at hrest
            cases hrest
      · rw [if_neg fun hdot => hdots hdot.2, if_pos rfl, if_neg (by decide)] at hrest
        cases hrest
    · rw [if_neg fun hdot => hc hdot.1, if_pos rfl] at hrest
      by_cases hpart : Name.isPart c = true
      · rw [if_pos hpart] at hrest
        obtain ⟨p, ps, hparts, hp, hps⟩ := parts_of_nameTail hrest (h.of_suffix ⟨[c], rfl⟩)
        exact ⟨c :: p, ps, Name.parts_cons hc hparts, by rw [List.all_cons, hpart, hp]; rfl, hps⟩
      · rw [if_neg hpart] at hrest
        cases hrest

theorem dotsPart_of_isColumn {s : String} (h : Name.isColumn s = true) : DotsPart s.toList := by
  have hnil : [] ∉ Name.parts s.toList := by
    intro hmem
    have hword : Name.isWord [] = true := List.all_eq_true.1 h [] hmem
    cases hword
  constructor
  · intro hlast
    obtain ⟨before, hs⟩ := List.getLast?_eq_some_iff.1 hlast
    refine hnil ?_
    rw [hs, Name.parts_append_dot]
    exact List.mem_append_right _ List.mem_cons_self
  · rintro ⟨before, after, hs⟩
    refine hnil ?_
    rw [← hs, List.append_assoc]
    show [] ∈ Name.parts (before ++ '.' :: '.' :: after)
    rw [Name.parts_append_dot, Name.parts_dot]
    exact List.mem_append_right _ List.mem_cons_self

theorem isColumn_of_isIdentifier {s : String} (h : isIdentifier s = true)
    (hdots : DotsPart s.toList) : Name.isColumn s = true := by
  obtain ⟨c, cs, hs, hstart, hrest, -⟩ := exists_of_isIdentifier h
  have hc : c ≠ '.' := Name.ne_dot_of_isPart (Name.isPart_of_isStart hstart)
  rw [hs] at hdots
  have hsuffix : cs.dropWhile Name.isPart <:+ c :: cs :=
    (List.dropWhile_suffix _).trans (List.suffix_cons c cs)
  obtain ⟨q, ps, hq, hall, hps⟩ := Cut.parts_of_nameTail hrest (hdots.of_suffix hsuffix)
  obtain ⟨p, ps', hp⟩ := Name.exists_parts cs
  obtain ⟨q', hq', hsame⟩ := Name.parts_dropWhile hp
  obtain ⟨rfl, rfl⟩ := List.cons.inj (hq.symm.trans hq')
  rw [Name.isColumn, hs, Name.parts_cons hc hp, List.all_cons, Name.isWord, hstart, hsame, hall]
  simpa using hps

theorem keyword_of_isIdentifier {s : String} (h : isIdentifier s = true) :
    Keyword.ofName? s.toList = none := by
  unfold isIdentifier at h
  split at h
  · cases h
  · next c cs hs =>
    rw [Bool.and_eq_true, Option.isNone_iff_eq_none] at h
    rw [hs]
    exact h.2

/-- A text is the name of a column and no keyword if it is read as one name, and its dots have
words between them. -/
theorem isColumn_iff_isIdentifier {s : String} :
    (Name.isColumn s = true ∧ Keyword.ofName? s.toList = none)
      ↔ isIdentifier s = true ∧ DotsPart s.toList :=
  ⟨fun h => ⟨isIdentifier_of_isColumn h.1 h.2, dotsPart_of_isColumn h.1⟩,
    fun h => ⟨isColumn_of_isIdentifier h.1 h.2, keyword_of_isIdentifier h.1⟩⟩

end RowScope
