/-
The tokens of a source text cover it, up to blanks.

* `Lexeme.all_text` — the text of a lexeme has that lexeme alone;
* `Lookahead.Reads` — a source text is read token by token, to its end or to a piece that is none;
* `Lookahead.reads_iff` — every text is read, in one way;
* `Tiling` — spans that follow each other in a text, with only blanks between them;
* `tiling_readUpTo`, `tokens_tile` — the tokens that are read tile the text.

Design notes: the longest token is cut off, so where a token ends depends on the text after it.
The text of a token read alone has nothing after it, and gives the same token since a token is cut
off no earlier when there is less that it could go on with.
-/
import RowScope.Proofs.Fragment.Faults
import RowScope.Proofs.Fragment.Identifiers
import RowScope.Proofs.Fragment.Peeking
import RowScope.Proofs.Text.Offsets

namespace RowScope

/-! ### Lexemes alone -/

theorem Quoted.close?_of_close? {cs body rest : List Char} (h : close? cs = some (body, rest)) :
    close? (body ++ ['\'']) = some (body, []) := by
  fun_induction close? cs generalizing body with
  | case1 => cases h
  | case2 cs ih =>
    obtain ⟨⟨body', rest'⟩, hclose, heq⟩ := Option.map_eq_some_iff.1 h
    obtain ⟨rfl, rfl⟩ := Prod.mk.inj heq
    rw [List.cons_append, List.cons_append, close?, ih hclose]
    rfl
  | case3 cs hcs =>
    obtain ⟨rfl, -⟩ := Prod.mk.inj (Option.some.inj h)
    rfl
  | case4 c cs _ hc ih =>
    obtain ⟨⟨body', rest'⟩, hclose, heq⟩ := Option.map_eq_some_iff.1 h
    obtain ⟨rfl, rfl⟩ := Prod.mk.inj heq
    rw [List.cons_append, close?, ih hclose]
    · rfl
    · intro ds hds
      exact absurd hds hc
    · intro hds
      exact absurd hds hc

namespace Cut

theorem quoted_text (cs : List Char) :
    ∃ ds, (quoted cs).text = '\'' :: ds ∧ quoted ds = { quoted cs with rest := [] } := by
  unfold quoted
  cases hclose : Quoted.close? cs with
  | none => exact ⟨cs, rfl, by rw [hclose]⟩
  | some found => exact ⟨found.1 ++ ['\''], rfl, by rw [Quoted.close?_of_close? hclose]⟩

theorem number_of_digits (sign : List Char) {ds : List Char} (h : ∀ d ∈ ds, d.isDigit = true) :
    number sign ds
      = ⟨sign ++ ds, [], (toInt64? (signed (!sign.isEmpty) (digitsValue ds))).map .int⟩ := by
  unfold number
  rw [List.takeWhile_eq_self_iff.2 h, List.dropWhile_eq_nil_iff.2 h]

theorem number_of_decimal (sign : List Char) {ds fraction : List Char}
    (h : ∀ d ∈ ds, d.isDigit = true) (hne : fraction ≠ [])
    (hfraction : ∀ d ∈ fraction, d.isDigit = true) :
    number sign (ds ++ '.' :: fraction)
      = ⟨sign ++ (ds ++ '.' :: fraction), [],
        some (.float (readFloat (!sign.isEmpty) ds fraction))⟩ := by
  have hdot : ¬ '.'.isDigit = true := by decide
  unfold number
  rw [List.takeWhile_append_of_pos h, List.dropWhile_append_of_pos h,
    List.takeWhile_cons_of_neg hdot, List.dropWhile_cons_of_neg hdot]
  simp only [List.takeWhile_eq_self_iff.2 hfraction, List.dropWhile_eq_nil_iff.2 hfraction,
    List.append_nil, List.append_assoc]
  rw [if_neg (by simpa using hne)]

/-- The text of a number is the same number when it stands alone: digits, or digits with a point
among them. -/
theorem number_alone (sign : List Char) {d : Char} (hd : d.isDigit = true) (cs : List Char) :
    ∃ ds, (number sign (d :: cs)).text = sign ++ d :: ds ∧
      number sign (d :: ds) = { number sign (d :: cs) with rest := [] } := by
  have hdigits (cs : List Char) : ∀ e ∈ cs.takeWhile Char.isDigit, e.isDigit = true :=
    fun e he => List.mem_takeWhile_imp he
  have hwhole : ∀ e ∈ d :: cs.takeWhile Char.isDigit, e.isDigit = true :=
    List.forall_mem_cons.2 ⟨hd, hdigits cs⟩
  have hinteger := number_of_digits sign hwhole
  generalize hcut : number sign (d :: cs) = cut
  unfold number at hcut
  rw [List.takeWhile_cons_of_pos hd] at hcut
  split at hcut
  · next rest hrest =>
    dsimp only at hcut
    split at hcut
    · subst hcut
      exact ⟨_, rfl, hinteger⟩
    · next hne =>
      subst hcut
      have hdecimal := number_of_decimal sign hwhole (by simpa using hne) (hdigits rest)
      exact ⟨_, List.append_assoc _ _ _, hdecimal.trans (by rw [List.append_assoc])⟩
  · subst hcut
    exact ⟨_, rfl, hinteger⟩

/-- The text of a name is the same name when it stands alone. -/
theorem name_alone (c : Char) (cs : List Char) :
    ∃ ds, (name c cs).text = c :: ds ∧ name c ds = { name c cs with rest := [] } := by
  obtain ⟨ds, htext, hrest⟩ := name_text c cs
  have htoken : (name c ds).token? = (name c cs).token? := by
    rw [token?_name c ds, token?_name c cs, name_text_of_rest hrest, htext]
  refine ⟨ds, htext, ?_⟩
  show Cut.mk (name c ds).text (name c ds).rest (name c ds).token? = ⟨(name c cs).text, [], _⟩
  rw [name_text_of_rest hrest, hrest, htoken, htext]

/-- What is cut off a text is cut off whole when it stands alone. -/
theorem first_text (c : Char) (cs : List Char) :
    ∃ ds, (first c cs).text = c :: ds ∧ first c ds = { first c cs with rest := [] } := by
  by_cases hstart : Name.isStart c = true
  · obtain ⟨ds, htext, halone⟩ := name_alone c cs
    rw [first_of_isStart hstart]
    exact ⟨ds, htext, by rw [first_of_isStart hstart, halone]⟩
  by_cases hdigit : c.isDigit = true
  · obtain ⟨ds, htext, halone⟩ := number_alone [] hdigit cs
    rw [first_of_isDigit hdigit]
    exact ⟨ds, htext, by rw [first_of_isDigit hdigit, halone]⟩
  generalize hcut : first c cs = cut
  unfold first at hcut
  rw [if_neg hstart, if_neg hdigit] at hcut
  split at hcut
  case h_1 =>
    subst hcut
    exact quoted_text _
  case h_2 d ds =>
    split at hcut
    · next hd =>
      subst hcut
      obtain ⟨es, htext, halone⟩ := number_alone ['-'] hd ds
      exact ⟨d :: es, htext, (first_minus_of_isDigit hd es).trans halone⟩
    · subst hcut
      exact ⟨[], rfl, rfl⟩
  case h_13 =>
    subst hcut
    refine ⟨[], rfl, ?_⟩
    unfold first
    rw [if_neg hstart, if_neg hdigit]
    split
    all_goals simp_all
  all_goals
    subst hcut
    exact ⟨_, rfl, rfl⟩

end Cut

namespace Lexeme

variable {offset : Nat} {cs rest : List Char} {l : Lexeme}

theorem all_text_of_next? (h : next? offset cs = some (l, rest)) :
    all l.text = [⟨0, l.text, l.token?⟩] := by
  obtain ⟨blanks, c, ds, -, -, hc, -, rfl⟩ := exists_cut_of_next? h
  obtain ⟨es, htext, halone⟩ := Cut.first_text c ds
  dsimp only
  rw [htext, all, allFrom_eq, next?, List.dropWhile_cons_of_neg (by simp [hc]),
    List.takeWhile_cons_of_neg (by simp [hc])]
  simp only [halone, htext]
  rw [allFrom_eq]
  rfl

/-- The text of a lexeme has that lexeme alone. -/
theorem all_text (h : l ∈ allFrom offset cs) : all l.text = [⟨0, l.text, l.token?⟩] := by
  fun_induction allFrom offset cs with
  | case1 => exact absurd h List.not_mem_nil
  | case2 offset cs first rest hfirst _ ih =>
    rcases List.mem_cons.1 h with rfl | h
    · exact all_text_of_next? hfirst
    · exact ih h

end Lexeme

/-! ### Reading to the end -/

/-- A source text is read from a place on: the tokens up to the first piece that is none, and where
that piece is, or all tokens up to the end. -/
inductive Lookahead.Reads : Lookahead → List PlacedToken → Option Span → Prop
  | ends {a : Lookahead} (h : a.next.1 = none) : Reads a [] none
  | stops {a : Lookahead} {l : Lexeme} (h : a.next.1 = some l) (ht : l.token? = none) :
      Reads a [] (some l.span)
  | token {a : Lookahead} {l : Lexeme} {t : Token} {ps : List PlacedToken} {fault : Option Span}
      (h : a.next.1 = some l) (ht : l.token? = some t) (hrest : Reads a.next.2 ps fault) :
      Reads a (⟨t, l.span⟩ :: ps) fault

/-- The tokens among some lexemes up to the first that is none, and where that one is. -/
def readUpTo : List Lexeme → List PlacedToken × Option Span
  | [] => ([], none)
  | l :: ls =>
    match l.token? with
    | none => ([], some l.span)
    | some t =>
      let (ps, fault) := readUpTo ls
      (⟨t, l.span⟩ :: ps, fault)

/-- Reading comes to an end, and there is one way to read. -/
theorem Lookahead.reads_iff {a : Lookahead} {ls : List Lexeme} (h : StandsAt a ls)
    {ps : List PlacedToken} {fault : Option Span} : Reads a ps fault ↔ readUpTo ls = (ps, fault) := by
  constructor
  · intro hreads
    induction hreads generalizing ls with
    | ends hend =>
      rw [h.next.1, List.head?_eq_none_iff] at hend
      rw [hend]
      rfl
    | stops hl ht =>
      rw [h.next.1] at hl
      obtain ⟨ls, rfl⟩ := List.head?_eq_some_iff.1 hl
      rw [readUpTo, ht]
    | token hl ht _ ih =>
      have hrest := ih h.next.2
      rw [h.next.1] at hl
      obtain ⟨ls, rfl⟩ := List.head?_eq_some_iff.1 hl
      rw [List.tail_cons] at hrest
      rw [readUpTo, ht, hrest]
  · intro hread
    induction ls generalizing a ps with
    | nil =>
      obtain ⟨rfl, rfl⟩ := Prod.mk.inj hread
      exact .ends h.next.1
    | cons l ls ih =>
      rw [readUpTo] at hread
      split at hread
      · next ht =>
        obtain ⟨rfl, rfl⟩ := Prod.mk.inj hread
        exact .stops h.next.1 ht
      · next t ht =>
        obtain ⟨rfl, rfl⟩ := Prod.mk.inj hread
        exact .token h.next.1 ht (ih h.next.2 rfl)

/-- The tokens of some lexemes are those that are read, if all of them are tokens. -/
theorem mapM_placed (source : List Char) (ls : List Lexeme) :
    ls.mapM (Lexeme.placed source) = (readUpTo ls).2.elim (.ok (readUpTo ls).1)
      fun span => .error (.invalidInput source span) := by
  induction ls with
  | nil => rfl
  | cons l ls ih =>
    rw [List.mapM_cons, ih, readUpTo, Lexeme.placed]
    cases l.token? with
    | none => rfl
    | some t =>
      dsimp only
      cases (readUpTo ls).2 with
      | none => rfl
      | some span => rfl

theorem exists_of_mem_readUpTo {ls : List Lexeme} {p : PlacedToken} (h : p ∈ (readUpTo ls).1) :
    ∃ l ∈ ls, l.token? = some p.token ∧ l.span = p.span := by
  induction ls with
  | nil => cases h
  | cons l ls ih =>
    rw [readUpTo] at h
    split at h
    · cases h
    · next t ht =>
      rcases List.mem_cons.1 h with rfl | h
      · exact ⟨l, List.mem_cons_self, ht, rfl⟩
      · obtain ⟨l', hl', hp⟩ := ih h
        exact ⟨l', List.mem_cons_of_mem _ hl', hp⟩

/-! ### Tilings -/

/-- What is left between spans that follow each other, from an offset up to another one. -/
def gaps (start stop : Nat) : List Span → List Span
  | [] => [⟨start, stop⟩]
  | s :: ss => ⟨start, s.start⟩ :: gaps s.stop stop ss

/-- There are only blanks in the span of a text. -/
def HoldsBlanks (source : String) (span : Span) : Prop :=
  ∃ blanks, slice source.toList span = some blanks ∧ ∀ c ∈ blanks, Lexeme.isBlank c = true

/-- Spans that follow each other in a text, with only blanks between them, from an offset up to
another one. -/
structure Tiling (source : String) (start stop : Nat) (spans : List Span) : Prop where
  -- None of them is empty.
  nonempty : ∀ s ∈ spans, s.start < s.stop
  -- They are in bounds.
  bounds : ∀ s ∈ spans, start ≤ s.start ∧ s.stop ≤ source.utf8ByteSize
  -- They start and end between characters.
  boundaries : ∀ s ∈ spans,
    (String.Pos.Raw.mk s.start).IsValid source ∧ (String.Pos.Raw.mk s.stop).IsValid source
  -- Each one ends before the next one starts.
  increasing : spans.Pairwise fun s t => s.start < t.start ∧ s.stop ≤ t.start
  -- There are only blanks before the first, between two of them and after the last.
  blanks : ∀ gap ∈ gaps start stop spans, HoldsBlanks source gap

namespace Tiling

variable {source : String} {start stop : Nat} {s : Span} {spans : List Span}

theorem nil (h : HoldsBlanks source ⟨start, stop⟩) : Tiling source start stop [] where
  nonempty := fun _ hs => absurd hs List.not_mem_nil
  bounds := fun _ hs => absurd hs List.not_mem_nil
  boundaries := fun _ hs => absurd hs List.not_mem_nil
  increasing := .nil
  blanks := by simpa [gaps] using h

theorem cons {text : List Char} (hgap : HoldsBlanks source ⟨start, s.start⟩)
    (hs : slice source.toList s = some text) (hne : text ≠ [])
    (h : Tiling source s.stop stop spans) : Tiling source start stop (s :: spans) := by
  have hstart : start ≤ s.start := by
    obtain ⟨blanks, hblanks, -⟩ := hgap
    have hlength : s.start = start + byteLength blanks := (stop_of_slice hblanks).1
    omega
  obtain ⟨hstop, hend⟩ := stop_of_slice hs
  rw [byteLength_toList] at hend
  have hpos : 0 < byteLength text :=
    (List.length_pos_iff.2 hne).trans_le (length_le_byteLength text)
  constructor
  case nonempty => exact List.forall_mem_cons.2 ⟨by omega, h.nonempty⟩
  case bounds =>
    refine List.forall_mem_cons.2 ⟨⟨hstart, hend⟩, fun t ht => ?_⟩
    obtain ⟨hle, hbound⟩ := h.bounds t ht
    exact ⟨by omega, hbound⟩
  case boundaries => exact List.forall_mem_cons.2 ⟨isValid_of_slice hs, h.boundaries⟩
  case increasing =>
    refine List.pairwise_cons.2 ⟨fun t ht => ?_, h.increasing⟩
    obtain ⟨hle, -⟩ := h.bounds t ht
    exact ⟨by omega, hle⟩
  case blanks => exact List.forall_mem_cons.2 ⟨hgap, h.blanks⟩

end Tiling

theorem holdsBlanks_of_append {source : String} {before blanks after : List Char}
    (hsource : source.toList = before ++ (blanks ++ after))
    (hblanks : ∀ c ∈ blanks, Lexeme.isBlank c = true) :
    HoldsBlanks source ⟨byteLength before, byteLength (before ++ blanks)⟩ :=
  ⟨blanks, slice_eq_some_iff.2 ⟨before, after, by rw [hsource, List.append_assoc], rfl⟩, hblanks⟩

theorem Lexeme.isBlank_of_next?_none {offset : Nat} {cs : List Char}
    (h : next? offset cs = none) : ∀ c ∈ cs, isBlank c = true := by
  unfold next? at h
  split at h
  · next hdrop => exact List.dropWhile_eq_nil_iff.1 hdrop
  · cases h

/-- The tokens that are read from an offset on tile the rest of the text, up to the first piece that
is no token. -/
theorem tiling_readUpTo {source : String} {before cs : List Char} {offset : Nat}
    (hsource : source.toList = before ++ cs) (hoffset : offset = byteLength before) :
    Tiling source offset
      ((readUpTo (Lexeme.allFrom offset cs)).2.elim source.utf8ByteSize Span.start)
      ((readUpTo (Lexeme.allFrom offset cs)).1.map PlacedToken.span) := by
  fun_induction Lexeme.allFrom offset cs generalizing before with
  | case1 offset cs hnext =>
    have hend : source.toList = before ++ (cs ++ []) := by rwa [List.append_nil]
    have hgap := holdsBlanks_of_append hend (Lexeme.isBlank_of_next?_none hnext)
    rw [← hoffset, ← hsource, byteLength_toList] at hgap
    exact .nil hgap
  | case2 offset cs l rest hnext _ ih =>
    obtain ⟨blanks, rfl, hblanks, hne, hstart⟩ := Lexeme.exists_of_next? hnext
    have hgap := holdsBlanks_of_append hsource hblanks
    have hcut : source.toList = before ++ blanks ++ l.text ++ rest := by
      rw [hsource, ← List.append_assoc, ← List.append_assoc]
    have hspan : l.span
        = ⟨byteLength (before ++ blanks), byteLength (before ++ blanks ++ l.text)⟩ := by
      rw [Lexeme.span, hstart, hoffset, ← byteLength_append, ← byteLength_append]
    have hstop : byteLength (before ++ blanks) = l.span.start := congrArg Span.start hspan.symm
    rw [← hoffset, hstop] at hgap
    have hrest := ih hcut (congrArg Span.stop hspan)
    rw [readUpTo]
    split
    · exact .nil hgap
    · exact .cons hgap (slice_eq_some_iff.2 ⟨_, _, hcut, hspan⟩) hne hrest

/-- **The tokens tile the source.**  Reading comes to an end in one way, and it is what the tokens of
a text are.  The tokens that are read stand one after the other, with only blanks before and between
them, and up to the end or the first piece that is no token.  The text of each one is that token
alone. -/
theorem tokens_tile (source : String) :
    ∃ ps fault,
      (∀ ps' fault', Lookahead.Reads (.ofSource source) ps' fault' ↔ ps' = ps ∧ fault' = fault) ∧
      tokens? source
        = fault.elim (.ok ps) (fun span => .error (.invalidInput source.toList span)) ∧
      Tiling source 0 (fault.elim source.utf8ByteSize Span.start) (ps.map PlacedToken.span) ∧
      ∀ p ∈ ps, ∃ text : String, slice source.toList p.span = some text.toList ∧
        tokens? text = .ok [⟨p.token, ⟨0, text.utf8ByteSize⟩⟩] := by
  have hstart := Lookahead.standsAt_ofSource source
  refine ⟨(readUpTo (Lexeme.all source.toList)).1, (readUpTo (Lexeme.all source.toList)).2,
    fun ps' fault' => ?_, mapM_placed _ _, tiling_readUpTo (List.nil_append _).symm rfl, fun p hp => ?_⟩
  · rw [Lookahead.reads_iff hstart, Prod.ext_iff, eq_comm, eq_comm (b := fault')]
  · obtain ⟨l, hl, htoken, hspan⟩ := exists_of_mem_readUpTo hp
    refine ⟨String.ofList l.text, ?_, ?_⟩
    · rw [String.toList_ofList, ← hspan, slice_eq_some_iff]
      exact Lexeme.exists_of_mem_all hl
    · have hsize := byteLength_toList (String.ofList l.text)
      rw [String.toList_ofList] at hsize
      rw [tokens?, String.toList_ofList, Lexeme.all_text hl, List.mapM_cons, Lexeme.placed, htoken,
        Lexeme.span, hsize, Nat.zero_add]
      rfl

/-- A name with a dot, a signed number after an operator, a quote within a text, and then a piece
that is no token. -/
theorem tokens_tile_no_token :
    let source := "o.x>=-4 \n'a''b'é"
    let spans : List Span := [⟨0, 3⟩, ⟨3, 5⟩, ⟨5, 7⟩, ⟨9, 15⟩]
    tokens? source = .error (.invalidInput source.toList ⟨15, 17⟩) ∧
    (∃ ps, Lookahead.Reads (.ofSource source) ps (some ⟨15, 17⟩) ∧
      ps.map PlacedToken.span = spans) ∧
    Tiling source 0 15 spans ∧
    tokens? "'a''b'" = .ok [⟨.text "a'b", ⟨0, 6⟩⟩] := by
  intro source spans
  have hread : readUpTo (Lexeme.all source.toList)
      = ([⟨.name "o.x", ⟨0, 3⟩⟩, ⟨.comparison .ge, ⟨3, 5⟩⟩, ⟨.int (-4), ⟨5, 7⟩⟩,
        ⟨.text "a'b", ⟨9, 15⟩⟩], some ⟨15, 17⟩) := by
    decide +kernel
  obtain ⟨ps, fault, hreads, htokens, htiling, halone⟩ := tokens_tile source
  have hsource := (Lookahead.reads_iff (Lookahead.standsAt_ofSource source)).2 hread
  obtain ⟨rfl, rfl⟩ := (hreads _ _).1 hsource
  obtain ⟨text, hslice, htext⟩ := halone ⟨.text "a'b", ⟨9, 15⟩⟩ (by simp)
  have hquoted : slice source.toList ⟨9, 15⟩ = some "'a''b'".toList := by decide
  obtain rfl := String.toList_inj.1 (Option.some.inj (hslice.symm.trans hquoted))
  exact ⟨htokens, ⟨_, hsource, rfl⟩, htiling, htext⟩

end RowScope
