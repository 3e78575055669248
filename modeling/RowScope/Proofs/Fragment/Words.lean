/-
The words of a fragment: each is one token, whatever ends it.

* `spells_name`, `spells_keyword`, `spells_symbol` — names and operators;
* `spells_int`, `spells_literal` — whole numbers and quoted texts, any of them;
* `isIdentifier_of_isColumn` — the name of a column is one token, if it is no keyword.

Design notes: the reader of names goes further than `Name.isColumn`, since it takes a dot
without a word after it.  Within the name of a column it never has to.
-/
import Mathlib.Data.List.TakeWhile
import RowScope.Proofs.Fragment.Pieces
import RowScope.Proofs.Text.Names

namespace RowScope

/-! ### Names -/

/-- No name goes on into the text. -/
def EndsName (rest : List Char) : Prop :=
  ∀ c ∈ rest.head?, Name.isPart c = false ∧ c ≠ '.'

theorem Stops.endsName {rest : List Char} (h : Stops rest) : EndsName rest := by
  have hstops : ∀ c ∈ stops, Name.isPart c = false ∧ c ≠ '.' := forall_stops.2 (by decide)
  exact fun c hc => hstops c (h c hc)

namespace Cut

variable {rest : List Char}

theorem nameTail_append_of_ends {dots : Nat} {inWord : Bool} {cs : List Char}
    (h : (nameTail dots inWord cs).2 = [] → EndsName rest) :
    nameTail dots inWord (cs ++ rest)
      = ((nameTail dots inWord cs).1, (nameTail dots inWord cs).2 ++ rest) := by
  fun_induction nameTail dots inWord cs with
  | case1 dots inWord =>
    -- the name is at its end, so the text after it is looked at
    cases rest with
    | nil => rfl
    | cons c rest =>
      obtain ⟨hpart, hdot⟩ := h rfl c rfl
      have hstart : Name.isStart c = false := by
        rw [Bool.eq_false_iff]
        intro hstart
        rw [Name.isPart_of_isStart hstart] at hpart
        cases hpart
      simp [nameTail, hpart, hdot, hstart]
  | case2 dots inWord c cs hdot more rest' hmore ih => simp_all [nameTail]
  | case3 dots inWord c cs hdot hc more rest' hmore ih => simp_all [nameTail]
  | case4 dots inWord c cs hdot hc =>
    rw [List.cons_append, nameTail, if_neg hdot, if_neg hc]

/-- A name ends where it did, if the text after it does not go on with it. -/
theorem name_append_of_ends {c : Char} {cs : List Char}
    (h : (name c cs).rest = [] → EndsName rest) :
    name c (cs ++ rest) = { name c cs with rest := (name c cs).rest ++ rest } := by
  have hword : cs.dropWhile Name.isPart = [] → ∀ d ∈ rest.head?, Name.isPart d = false := by
    intro hnil d hd
    refine (h ?_ d hd).1
    show (nameTail _ true (cs.dropWhile Name.isPart)).2 = []
    rw [hnil]
    rfl
  simp only [name, takeWhile_append_of_head hword, dropWhile_append_of_head hword,
    nameTail_append_of_ends h]

end Cut

theorem Cut.first_of_isStart {c : Char} (h : Name.isStart c = true) (cs : List Char) :
    first c cs = name c cs :=
  if_pos h

/-- The text is one token, and that is a name. -/
def isIdentifier (s : String) : Bool :=
  match s.toList with
  | [] => false
  | c :: cs => Name.isStart c && (Cut.name c cs).rest.isEmpty && (Keyword.ofName? (c :: cs)).isNone

theorem isBlank_of_isStart {c : Char} (h : Name.isStart c = true) : Lexeme.isBlank c = false := by
  rw [Bool.eq_false_iff]
  intro hc
  simp only [Lexeme.isBlank, Bool.or_eq_true, beq_iff_eq] at hc
  rcases hc with ((rfl | rfl) | rfl) | rfl
  all_goals exact absurd h (by decide)

theorem Cut.name_text_of_rest {c : Char} {cs : List Char} (h : (name c cs).rest = []) :
    (name c cs).text = c :: cs := by
  have := name_append c cs
  rwa [h, List.append_nil] at this

/-- A text that is one name, before anything that does not go on with it. -/
theorem pieces_name_append {c : Char} {cs rest : List Char} {t : Token}
    (hc : Name.isStart c = true) (hrest : (Cut.name c cs).rest = [])
    (ht : (Cut.name c cs).token? = some t) (h : EndsName rest) :
    pieces (c :: cs ++ rest) = some t :: pieces rest := by
  rw [List.cons_append, pieces_first (isBlank_of_isStart hc), Cut.first_of_isStart hc,
    Cut.name_append_of_ends fun _ => h, ht]
  show some t :: pieces ((Cut.name c cs).rest ++ rest) = _
  rw [hrest, List.nil_append]

theorem spells_of_name {c : Char} {cs : List Char} {t : Token} (hc : Name.isStart c = true)
    (hrest : (Cut.name c cs).rest = []) (ht : (Cut.name c cs).token? = some t) :
    Spells (c :: cs) [t] :=
  fun _ h => pieces_name_append hc hrest ht h.endsName

theorem exists_of_isIdentifier {s : String} (h : isIdentifier s = true) :
    ∃ c cs, s.toList = c :: cs ∧ Name.isStart c = true ∧ (Cut.name c cs).rest = [] ∧
      (Cut.name c cs).token? = some (.name s) := by
  unfold isIdentifier at h
  split at h
  · exact absurd h (by simp)
  · next c cs hs =>
    simp only [Bool.and_eq_true, List.isEmpty_iff, Option.isNone_iff_eq_none] at h
    obtain ⟨⟨hc, hrest⟩, hk⟩ := h
    refine ⟨c, cs, hs, hc, hrest, ?_⟩
    have htext := Cut.name_text_of_rest hrest
    unfold Cut.name at htext ⊢
    simp only at htext ⊢
    rw [htext, hk, ← hs, String.ofList_toList]

theorem spells_name {s : String} (h : isIdentifier s = true) : Spells s.toList [.name s] := by
  obtain ⟨c, cs, hs, hc, hrest, ht⟩ := exists_of_isIdentifier h
  rw [hs]
  exact spells_of_name hc hrest ht

theorem spells_keyword (k : Keyword) : Spells k.spelling.toList [.keyword k] := by
  cases k
  all_goals exact spells_of_name (by decide) (by decide) (by decide)

/-- Words with dots between them are read to their end. -/
theorem Cut.nameTail_of_parts (cs : List Char) {dots : Nat} (hdots : 0 < dots) {p : List Char}
    {ps : List (List Char)} (h : Name.parts cs = p :: ps) (hp : p.all Name.isPart = true)
    (hps : ∀ q ∈ ps, Name.isWord q = true) : (nameTail dots true cs).2 = [] := by
  match cs with
  | [] => rfl
  | c :: cs =>
    by_cases hc : c = '.'
    · -- the word after the dot is taken together with the dot
      subst hc
      rw [Name.parts_dot] at h
      obtain ⟨rfl, rfl⟩ := List.cons.inj h
      obtain ⟨q, qs, hq⟩ := Name.exists_parts cs
      rw [hq, List.forall_mem_cons] at hps
      obtain ⟨d, ds, p', rfl, hd, hstart, hp', hall⟩ := Name.exists_of_isWord hq hps.1
      have ih := nameTail_of_parts ds Nat.two_pos hp' hall hps.2
      rw [nameTail, if_pos ⟨rfl, hdots⟩]
      show (nameTail (dots - 1) false (d :: ds)).2 = []
      rw [nameTail, if_neg (by simp [hd])]
      simpa [hstart] using ih
    · obtain ⟨q, qs, hq⟩ := Name.exists_parts cs
      rw [Name.parts_cons hc hq] at h
      obtain ⟨rfl, rfl⟩ := List.cons.inj h
      rw [List.all_cons, Bool.and_eq_true] at hp
      have ih := nameTail_of_parts cs Nat.two_pos hq hp.2 hps
      rw [nameTail, if_neg (by simp [hc])]
      simpa [hp.1] using ih
termination_by cs.length

/-- The name of a column is read to its end. -/
theorem exists_name_of_isColumn {s : String} (h : Name.isColumn s = true) :
    ∃ c cs, s.toList = c :: cs ∧ Name.isStart c = true ∧ (Cut.name c cs).rest = [] := by
  obtain ⟨p, ps, hparts⟩ := Name.exists_parts s.toList
  rw [Name.isColumn, hparts, List.all_eq_true, List.forall_mem_cons] at h
  obtain ⟨c, cs, p', hs, -, hstart, hp', hall⟩ := Name.exists_of_isWord hparts h.1
  obtain ⟨q, hq, hsame⟩ := Name.parts_dropWhile hp'
  have hdots : 0 < Cut.dotsAfter (c :: cs.takeWhile Name.isPart) := by
    unfold Cut.dotsAfter
    split
    · omega
    · omega
  exact ⟨c, cs, hs, hstart, Cut.nameTail_of_parts _ hdots hq (hsame ▸ hall) h.2⟩

/-- The name of a column is one token, unless it is a keyword. -/
theorem isIdentifier_of_isColumn {s : String} (h : Name.isColumn s = true)
    (hk : Keyword.ofName? s.toList = none) : isIdentifier s = true := by
  obtain ⟨c, cs, hs, hstart, hrest⟩ := exists_name_of_isColumn h
  rw [hs] at hk
  simp [isIdentifier, hs, hstart, hrest, hk]

/-- The name of a column that is no keyword. -/
def isOrdinary (s : String) : Bool :=
  Name.isColumn s && (Keyword.ofName? s.toList).isNone

theorem isIdentifier_of_isOrdinary {s : String} (h : isOrdinary s = true) :
    isIdentifier s = true := by
  rw [isOrdinary, Bool.and_eq_true, Option.isNone_iff_eq_none] at h
  exact isIdentifier_of_isColumn h.1 h.2

/-! ### Operators -/

theorem spells_symbol (c : Comparison) : Spells c.symbol.toList [.comparison c] := by
  cases c with
  | eq => exact .of_first rfl fun rest _ => ⟨rfl, rfl⟩
  | ne => exact .of_first rfl fun rest _ => ⟨rfl, rfl⟩
  | le => exact .of_first rfl fun rest _ => ⟨rfl, rfl⟩
  | ge => exact .of_first rfl fun rest _ => ⟨rfl, rfl⟩
  | lt =>
    -- `<` goes on with `>` and with `=`, and neither ends a word
    refine .of_first rfl fun rest h => ?_
    rcases h.eq_nil_or_cons with rfl | ⟨rest, rfl | rfl | rfl | rfl⟩
    all_goals exact ⟨rfl, rfl⟩
  | gt =>
    refine .of_first rfl fun rest h => ?_
    rcases h.eq_nil_or_cons with rfl | ⟨rest, rfl | rfl | rfl | rfl⟩
    all_goals exact ⟨rfl, rfl⟩

/-- A keyword with blanks around it joins texts. -/
theorem spells_between (k : Keyword) {cs ds : List Char} {ts us : List Token} (h : Spells cs ts)
    (h' : Spells ds us) :
    Spells (cs ++ (' ' :: k.spelling.toList ++ [' ']) ++ ds) (ts ++ .keyword k :: us) := by
  have := h.blank ((spells_keyword k).blank h')
  simpa using this

/-! ### Literals -/

theorem toInt64?_toInt (n : Int64) : toInt64? n.toInt = some n := by
  unfold toInt64?
  rw [if_pos ⟨n.minValue_le_toInt, n.toInt_le⟩, Int64.ofInt_toInt]

theorem Cut.number_append_of_stops {rest : List Char} (h : Stops rest) (sign : List Char)
    {ds : List Char} {n : Int64} (hds : ∀ d ∈ ds, d.isDigit = true)
    (hn : signed (!sign.isEmpty) (digitsValue ds) = n.toInt) :
    number sign (ds ++ rest) = ⟨sign ++ ds, rest, some (.int n)⟩ := by
  have hdigit : ∀ c ∈ stops, c.isDigit = false := forall_stops.2 (by decide)
  have htake : (ds ++ rest).takeWhile Char.isDigit = ds := by
    rw [takeWhile_append_of_head fun _ => h.head hdigit, List.takeWhile_eq_self_iff.2 hds]
  have hdrop : (ds ++ rest).dropWhile Char.isDigit = rest := by
    rw [dropWhile_append_of_head fun _ => h.head hdigit, List.dropWhile_eq_nil_iff.2 hds,
      List.nil_append]
  unfold number
  simp only [htake, hdrop, hn, toInt64?_toInt]
  -- what ends a word is no decimal point
  rcases h.eq_nil_or_cons with rfl | ⟨rest, rfl | rfl | rfl | rfl⟩
  all_goals rfl

theorem isStart_of_isDigit {c : Char} (h : c.isDigit = true) : Name.isStart c = false := by
  have hall : ∀ n < 58, 48 ≤ n → Name.isStart (Char.ofNat n) = false := by decide
  obtain ⟨hlower, hupper⟩ := Char.isDigit_iff_toNat.1 h
  rw [← Char.ofNat_toNat c]
  exact hall c.toNat (Nat.lt_succ_of_le hupper) hlower

theorem Cut.first_of_isDigit {c : Char} (h : c.isDigit = true) (cs : List Char) :
    first c cs = number [] (c :: cs) := by
  unfold first
  rw [if_neg (by simp [isStart_of_isDigit h]), if_pos h]

theorem Cut.first_minus_of_isDigit {d : Char} (h : d.isDigit = true) (cs : List Char) :
    first '-' (d :: cs) = number ['-'] (d :: cs) :=
  if_pos h

theorem isBlank_of_isDigit {c : Char} (h : c.isDigit = true) : Lexeme.isBlank c = false := by
  rw [Bool.eq_false_iff]
  intro hc
  simp only [Lexeme.isBlank, Bool.or_eq_true, beq_iff_eq] at hc
  rcases hc with ((rfl | rfl) | rfl) | rfl
  all_goals exact absurd h (by decide)

section Digits

variable {n : Int64} {ds : List Char} (hne : ds ≠ []) (hds : ∀ d ∈ ds, d.isDigit = true)

include hne hds

theorem spells_digits (hn : (digitsValue ds : Int) = n.toInt) : Spells ds [.int n] := by
  obtain ⟨d, ds, rfl⟩ := List.exists_cons_of_ne_nil hne
  have hd := hds d List.mem_cons_self
  refine .of_first (isBlank_of_isDigit hd) fun rest h => ?_
  rw [Cut.first_of_isDigit hd, ← List.cons_append, Cut.number_append_of_stops h [] hds hn]
  exact ⟨rfl, rfl⟩

theorem spells_minus_digits (hn : -(digitsValue ds : Int) = n.toInt) :
    Spells ('-' :: ds) [.int n] := by
  obtain ⟨d, ds, rfl⟩ := List.exists_cons_of_ne_nil hne
  have hd := hds d List.mem_cons_self
  refine .of_first rfl fun rest h => ?_
  rw [List.cons_append, Cut.first_minus_of_isDigit hd, ← List.cons_append,
    Cut.number_append_of_stops h ['-'] hds hn]
  exact ⟨rfl, rfl⟩

end Digits

/-- Every integer is one token, the least one too. -/
theorem spells_int (n : Int64) : Spells (toString n.toInt).toList [.int n] := by
  have hvalue (k : Nat) : digitsValue (Nat.toDigits 10 k) = k := Nat.ofDigitChars_ten_toDigits
  have hdigits (k : Nat) : ∀ d ∈ Nat.toDigits 10 k, d.isDigit = true :=
    fun _ hd => Nat.isDigit_of_mem_toDigits (by omega) (by omega) hd
  cases h : n.toInt with
  | ofNat k =>
    have htext : (toString (Int.ofNat k)).toList = Nat.toDigits 10 k := Nat.toList_repr
    rw [htext]
    exact spells_digits Nat.toDigits_ne_nil (hdigits k) (by rw [hvalue, h]; rfl)
  | negSucc k =>
    have htext : (toString (Int.negSucc k)).toList = '-' :: Nat.toDigits 10 (k + 1) := by
      show ("-" ++ (k + 1).repr).toList = _
      rw [String.toList_append, Nat.toList_repr]
      rfl
    rw [htext]
    exact spells_minus_digits Nat.toDigits_ne_nil (hdigits (k + 1)) (by rw [hvalue, h]; rfl)

namespace Quoted

theorem decode_encode (cs : List Char) : decode (encode cs) = cs := by
  induction cs with
  | nil => rfl
  | cons c cs ih =>
    rw [encode]
    by_cases hc : c = '\''
    · rw [if_pos hc, decode, ih, hc]
    · rw [if_neg hc, decode, ih]
      intro cs' h
      exact absurd h hc

/-- A quoted text ends at its closing quote, if no quote follows. -/
theorem close?_encode {rest : List Char} (h : Stops rest) (cs : List Char) :
    close? (encode cs ++ '\'' :: rest) = some (encode cs, rest) := by
  induction cs with
  | nil =>
    rcases h.eq_nil_or_cons with rfl | ⟨rest, rfl | rfl | rfl | rfl⟩
    all_goals rfl
  | cons c cs ih =>
    rw [encode]
    by_cases hc : c = '\''
    · rw [if_pos hc, List.cons_append, List.cons_append, close?, ih]
      rfl
    · rw [if_neg hc, List.cons_append, close?, ih]
      · rfl
      · intro cs' h
        exact absurd h hc
      · intro h
        exact absurd h hc

end Quoted

/-- Every text is one token between quotes, whatever characters it has. -/
theorem spells_literal (s : String) : Spells (Quoted.literal s).toList [.text s] := by
  have htext : (Quoted.literal s).toList = '\'' :: (Quoted.encode s.toList ++ ['\'']) := by
    simp [Quoted.literal]
  rw [htext]
  refine .of_first rfl fun rest h => ?_
  have hfirst : Cut.first '\'' (Quoted.encode s.toList ++ ['\''] ++ rest)
      = Cut.quoted (Quoted.encode s.toList ++ '\'' :: rest) := by
    rw [List.append_assoc]
    rfl
  rw [hfirst, Cut.quoted, Quoted.close?_encode h]
  refine ⟨?_, rfl⟩
  show some (Token.text (String.ofList (Quoted.decode (Quoted.encode s.toList)))) = _
  rw [Quoted.decode_encode, String.ofList_toList]

end RowScope
