/-
The text for a missing value.

A granter is made from settings only if each built-in template spells a condition with this text in
the place of all its placeholders.  That is the case for a single operand, and for nothing else.

* `readTokens_append_rightParen` — after a condition there is no parenthesis to close;
* `operand_of_readTokens` — what stands before `IN`, and alike between its parentheses, is one
  operand;
* `endsInside_of_trials` — no quote is left open in a text with which the templates spell
  conditions;
* `Granter.exists_ofSettings_iff` — a text is accepted if and only if it is one operand, and blanks
  around it make no difference.

Design notes: a quote that the text leaves open is closed where the text stands for the second
time, so what the template has between the two is quoted.  A comparison and the start of a set
differ there alone.  So they would come to the same tokens, and only the set goes on with a
parenthesis.
-/
import RowScope.Proofs.Access.Templates
import RowScope.Proofs.Fragment.Insertion
import RowScope.Proofs.Template.Quoting
import RowScope.Proofs.Template.Scopes

namespace RowScope

/-! ### Tokens -/

namespace Reader

variable {outer : List Level} {level : Level} {o : Operand} {negated : Bool} {r r' r'' : Reader}
  {t : Token}

theorem accept_rightParen_of_finish {f : Filter} (h : r.finish = .ok f) :
    r.accept .rightParen = none := by
  rcases r with ⟨_ | ⟨l, outer⟩, level, phase⟩
  · cases phase with
    | connective => rfl
    | operator left text =>
      cases hleft : left.condition? with
      | none => simp [accept, stepToken, stepOperator, hleft, Except.toOption]
      | some c => simp [accept, stepToken, stepOperator, hleft, stepConnective, complete,
          Except.toOption]
    | _ => cases h
  · cases phase with
    | operator left text =>
      cases hleft : left.condition? with
      | none => simp [finish, hleft] at h
      | some c => simp [finish, hleft, close, complete] at h
    | _ => cases h

/-- After `IN` and a parenthesis comes the first member of a list. -/
theorem phase_of_accept_member (h : r.accept (.keyword .member) = some r')
    (h' : r'.accept .leftParen = some r'') :
    ∃ outer level o negated, r'' = ⟨outer, level, .listFirst o negated⟩ := by
  rcases r with ⟨outer, level, phase⟩
  have hopen : ∃ o negated, r' = ⟨outer, level, .listOpen o negated⟩ := by
    cases phase with
    | operator left text => exact ⟨left, false, (Option.some.inj h).symm⟩
    | afterNot left => exact ⟨left, true, (Option.some.inj h).symm⟩
    | connective =>
      cases outer with
      | nil => cases h
      | cons l outer => cases h
    | _ => cases h
  obtain ⟨o, negated, rfl⟩ := hopen
  exact ⟨outer, level, o, negated, (Option.some.inj h').symm⟩

/-- What may start a condition, and is the first member of a list as well, is an operand. -/
theorem operand_of_accept (h : start.accept t = some r)
    (h' : accept ⟨outer, level, .listFirst o negated⟩ t = some r') :
    ∃ m, t.operand? = some m ∧ r' = ⟨outer, level, .listNext o negated [m]⟩ := by
  have hstep := Except.toOption_eq_some_iff.1 h'
  dsimp only [stepToken] at hstep
  split at hstep
  · cases h
  · obtain ⟨m, hm, rfl⟩ := exists_of_stepMember hstep
    exact ⟨m, hm, rfl⟩

/-- What follows the first operand of a condition cannot follow a member of a list. -/
theorem accept_operator_eq_none {members : List Operand} {m : Operand} {l : Level}
    (h : accept ⟨outer, level, .listNext o negated members⟩ t = some r) :
    accept ⟨[], l, .operator m ""⟩ t = none := by
  have hstep := Except.toOption_eq_some_iff.1 h
  dsimp only [stepToken] at hstep
  split at hstep
  · cases hm : m.condition? <;>
      simp [accept, stepToken, stepOperator, hm, stepConnective, complete, Except.toOption]
  · cases hm : m.condition? <;>
      simp [accept, stepToken, stepOperator, hm, stepConnective, complete, Except.toOption]
  · cases hstep

end Reader

open Reader

/-- After a condition there is no parenthesis to close. -/
theorem readTokens_append_rightParen {ts : List Token} {f : Filter}
    (h : readTokens ts = some f) : readTokens (ts ++ [.rightParen]) = none := by
  obtain ⟨r, hr, hfinish⟩ := Option.bind_eq_some_iff.1 h
  rw [readTokens, acceptAll_append, hr, Option.bind_some, acceptAll_cons,
    accept_rightParen_of_finish (Except.toOption_eq_some_iff.1 hfinish)]
  rfl

/-- Nor is there one after tokens of the same outline. -/
theorem readTokens_append_of_outline {ts us : List Token} {f : Filter}
    (h : ts.map Token.outline = us.map Token.outline) (hf : readTokens ts = some f) :
    readTokens (us ++ [.rightParen]) = none := by
  refine Option.eq_none_iff_forall_ne_some.2 fun g hg => ?_
  have hf := Language.phrase_outline (Language.readTokens_eq_some_iff_phrase.1 hf)
  have hg := Language.phrase_outline (Language.readTokens_eq_some_iff_phrase.1 hg)
  rw [List.map_append, ← h] at hg
  have hnone := readTokens_append_rightParen (Language.readTokens_eq_some_iff_phrase.2 hf)
  have hsome := Language.readTokens_eq_some_iff_phrase.2 hg
  exact absurd (hsome.symm.trans hnone) (by simp)

/-- What stands before `IN`, and alike between its parentheses, is one operand. -/
theorem operand_of_readTokens {ts : List Token} {f : Filter}
    (h : readTokens (ts ++ .keyword .member :: .leftParen :: (ts ++ [.rightParen])) = some f) :
    ∃ t, ts = [t] ∧ t.operand?.isSome = true := by
  obtain ⟨last, hlast, -⟩ := Option.bind_eq_some_iff.1 h
  rw [acceptAll_append] at hlast
  obtain ⟨before, hbefore, hlast⟩ := Option.bind_eq_some_iff.1 hlast
  rw [acceptAll_cons] at hlast
  obtain ⟨member, hmember, hlast⟩ := Option.bind_eq_some_iff.1 hlast
  rw [acceptAll_cons] at hlast
  obtain ⟨first, hfirst, hlast⟩ := Option.bind_eq_some_iff.1 hlast
  obtain ⟨outer, level, o, negated, rfl⟩ := phase_of_accept_member hmember hfirst
  cases ts with
  | nil =>
    obtain rfl := Option.some.inj hbefore
    cases hmember
  | cons t ts =>
    -- both runs over the tokens begin alike
    rw [acceptAll_cons] at hbefore
    rw [List.cons_append, acceptAll_cons] at hlast
    obtain ⟨r, hr, hbefore⟩ := Option.bind_eq_some_iff.1 hbefore
    obtain ⟨r', hr', hlast⟩ := Option.bind_eq_some_iff.1 hlast
    obtain ⟨m, hm, rfl⟩ := operand_of_accept hr hr'
    obtain rfl : _ = r := Option.some.inj ((accept_operand hm).symm.trans hr)
    refine ⟨t, ?_, by rw [hm]; rfl⟩
    cases ts with
    | nil => rfl
    | cons t' ts =>
      rw [acceptAll_cons] at hbefore
      rw [List.cons_append, acceptAll_cons] at hlast
      obtain ⟨r', hr', -⟩ := Option.bind_eq_some_iff.1 hlast
      rw [accept_operator_eq_none hr'] at hbefore
      cases hbefore

/-! ### Texts -/

/-- A comparison of two texts. -/
def equalText (left right : String) : String :=
  left ++ " = " ++ right

/-- A set, for a text. -/
def setText (left members : String) : String :=
  left ++ " IN ( " ++ members ++ " )"

/-- A set or a comparison, with one text for all. -/
def setOrEqualText (text : String) : String :=
  setText text text ++ " OR " ++ equalText text text

theorem pieces_keyword (k : Keyword) (cs : List Char) :
    pieces (k.spelling.toList ++ ' ' :: cs) = some (.keyword k) :: pieces cs := by
  rw [spells_keyword k _ (stops_cons.2 (by decide)), pieces_blank rfl]
  rfl

theorem pieces_equalText {left : String} (h : endsInside false left.toList = false)
    (right : String) :
    pieces (equalText left right).toList
      = pieces left.toList ++ some (.comparison .eq) :: pieces right.toList := by
  have htext : (equalText left right).toList = left.toList ++ ' ' :: '=' :: ' ' :: right.toList := by
    simp [equalText]
  have hequal (cs : List Char) : pieces ('=' :: ' ' :: cs) = some (.comparison .eq) :: pieces cs :=
    (pieces_first rfl _).trans (congrArg _ (pieces_blank rfl cs))
  rw [htext, pieces_append_blank rfl h, hequal]

theorem pieces_setText {left members : String} (h : endsInside false left.toList = false)
    (h' : endsInside false members.toList = false) (cs : List Char) :
    pieces ((setText left members).toList ++ cs)
      = pieces left.toList ++ some (.keyword .member) :: some .leftParen ::
        (pieces members.toList ++ some .rightParen :: pieces cs) := by
  have htext : (setText left members).toList ++ cs
      = left.toList ++ ' ' :: (Keyword.member.spelling.toList ++
        ' ' :: '(' :: ' ' :: (members.toList ++ ' ' :: ')' :: cs)) := by
    simp [setText, Keyword.spelling]
  have hopen (ds : List Char) : pieces ('(' :: ' ' :: ds) = some .leftParen :: pieces ds :=
    (pieces_first rfl _).trans (congrArg _ (pieces_blank rfl ds))
  have hclose : pieces (')' :: cs) = some .rightParen :: pieces cs := pieces_first rfl cs
  rw [htext, pieces_append_blank rfl h, pieces_keyword, hopen, pieces_append_blank rfl h', hclose]

theorem endsInside_not (inside : Bool) (cs : List Char) :
    endsInside (!inside) cs = !endsInside inside cs := by
  induction cs generalizing inside with
  | nil => rfl
  | cons c cs ih =>
    rw [endsInside_cons, endsInside_cons, ← ih]
    split <;> rfl

section Open

variable {text : String} (h : endsInside false text.toList = true)

include h

/-- With an open quote, what stands between the two places of the text is quoted. -/
theorem parallel_trials :
    Parallel false (equalText text text).toList (text ++ " IN ( " ++ text).toList := by
  have hsame : Parallel true text.toList text.toList := by
    simpa using parallel_text text.toList (.nil _)
  have hequal : (equalText text text).toList = text.toList ++ (" = ".toList ++ text.toList) := by
    simp [equalText]
  rw [hequal, String.toList_append, String.toList_append, List.append_assoc]
  refine parallel_text text.toList ?_
  rw [h]
  refine .left (by decide) (.left (by decide) (.left (by decide) ?_))
  refine .right (by decide) (.right (by decide) (.right (by decide) ?_))
  exact .right (by decide) (.right (by decide) (.right (by decide) hsame))

theorem pieces_setText_of_open : pieces (setText text text).toList
    = pieces (text ++ " IN ( " ++ text).toList ++ [some .rightParen] := by
  have hends : endsInside false (text ++ " IN ( " ++ text).toList = false := by
    have hblank : endsInside true " IN ( ".toList = true := by decide
    rw [String.toList_append, String.toList_append, endsInside_append, endsInside_append, h,
      hblank, ← Bool.not_false, endsInside_not, h]
    rfl
  have htext : (setText text text).toList = (text ++ " IN ( " ++ text).toList ++ ' ' :: [')'] := by
    simp [setText]
  have hclose : pieces [')'] = some .rightParen :: pieces [] := pieces_first rfl []
  rw [htext, pieces_append_blank rfl hends, hclose, pieces_nil]

end Open

/-- No quote is left open in a text with which a comparison and a set are conditions. -/
theorem endsInside_of_trials {text : String} {f f' : Filter}
    (hequal : Filter.parse (equalText text text) = .ok f)
    (hids : Filter.parse (setText text text) = .ok f') : endsInside false text.toList = false := by
  rw [Bool.eq_false_iff]
  intro hopen
  obtain ⟨ts, hts, hread⟩ := Filter.parse_eq_ok_iff.1 hequal
  obtain ⟨us, hus, hread'⟩ := Filter.parse_eq_ok_iff.1 hids
  -- the set has the tokens of the comparison, and one parenthesis more
  rw [pieces_setText_of_open hopen] at hus
  obtain ⟨us, last, rfl, hset, hlast⟩ := List.map_eq_append_iff.1 hus.symm
  obtain ⟨t, rfl, ht⟩ := List.map_eq_singleton_iff.1 hlast
  obtain rfl := Option.some.inj ht
  have houtline : ts.map Token.outline = us.map Token.outline := by
    have hpieces := pieces_of_parallel (parallel_trials hopen)
    rw [hts, ← hset, List.map_map, List.map_map] at hpieces
    refine (List.map_inj_right fun _ _ => Option.some.inj).1 ?_
    rw [List.map_map, List.map_map]
    exact hpieces
  rw [readTokens_append_of_outline houtline hread] at hread'
  cases hread'

/-- Blanks around a text have no tokens. -/
theorem pieces_between_blanks {before cs after : List Char}
    (hblank : ∀ c ∈ before ++ after, Lexeme.isBlank c = true) (h : endsInside false cs = false) :
    pieces (before ++ cs ++ after) = pieces cs := by
  have hblanks {bs : List Char} (hbs : ∀ c ∈ bs, Lexeme.isBlank c = true) (ds : List Char) :
      pieces (bs ++ ds) = pieces ds := by
    induction bs with
    | nil => rfl
    | cons b bs ih =>
      rw [List.forall_mem_cons] at hbs
      rw [List.cons_append, pieces_blank hbs.1, ih hbs.2]
  rw [List.forall_mem_append] at hblank
  rw [List.append_assoc, hblanks hblank.1]
  cases after with
  | nil => rw [List.append_nil]
  | cons c after =>
    obtain ⟨hc, hafter⟩ := List.forall_mem_cons.1 hblank.2
    have hnone := hblanks hafter []
    rw [List.append_nil, pieces_nil] at hnone
    rw [pieces_append_blank hc h, hnone, List.append_nil]

/-- Whether a text is one token does not depend on blanks around it. -/
theorem pieces_eq_between_blanks_iff {before cs after : List Char} {t : Token}
    (hblank : ∀ c ∈ before ++ after, Lexeme.isBlank c = true) :
    pieces (before ++ cs ++ after) = [some t] ↔ pieces cs = [some t] := by
  -- blanks neither open a quote nor close one
  have hquote : '\'' ∉ before ++ after := fun hmem => absurd (hblank _ hmem) (by decide)
  rw [List.mem_append, not_or] at hquote
  have hquotes : endsInside false (before ++ cs ++ after) = endsInside false cs := by
    rw [endsInside_append, endsInside_append, endsInside_of_notMem hquote.1,
      endsInside_of_notMem hquote.2]
  constructor
  · intro h
    have hends := endsInside_of_pieces h
    rw [hquotes] at hends
    rwa [pieces_between_blanks hblank hends] at h
  · intro h
    rwa [pieces_between_blanks hblank (endsInside_of_pieces h)]

theorem operand_of_trials {text : String} {f f' : Filter}
    (hequal : Filter.parse (equalText text text) = .ok f)
    (hids : Filter.parse (setText text text) = .ok f') :
    ∃ t, pieces text.toList = [some t] ∧ t.operand?.isSome = true := by
  have hends := endsInside_of_trials hequal hids
  obtain ⟨us, hus, hread⟩ := Filter.parse_eq_ok_iff.1 hids
  have hpieces := pieces_setText hends hends []
  rw [List.append_nil, hus, pieces_nil] at hpieces
  obtain ⟨ts, vs, rfl, hts, hvs⟩ := List.map_eq_append_iff.1 hpieces
  rw [← hts] at hvs ⊢
  have hvs : vs = .keyword .member :: .leftParen :: (ts ++ [.rightParen]) :=
    (List.map_inj_right fun _ _ => Option.some.inj).1 (by simpa using hvs)
  rw [hvs] at hread
  obtain ⟨t, rfl, ht⟩ := operand_of_readTokens hread
  exact ⟨t, rfl, ht⟩

theorem exists_parse {s : String} {ts : List Token} {clauses : List (List Filter)}
    (hs : pieces s.toList = ts.map some) (h : Disjuncts ts clauses) :
    ∃ f, Filter.parse s = .ok f :=
  ⟨_, Filter.parse_eq_ok_iff.2 ⟨ts, hs, readTokens_of_disjuncts h⟩⟩

/-- A text that is one operand is that operand wherever the templates have it. -/
theorem parse_trials {text : String} {t : Token} {o : Operand}
    (ht : pieces text.toList = [some t]) (ho : t.operand? = some o) :
    (∃ f, Filter.parse (equalText text text) = .ok f) ∧
      (∃ f, Filter.parse (setText text text) = .ok f) ∧
      ∃ f, Filter.parse (setOrEqualText text) = .ok f := by
  have hends : endsInside false text.toList = false := endsInside_of_pieces ht
  have hequal : pieces (equalText text text).toList = [t, .comparison .eq, t].map some := by
    rw [pieces_equalText hends, ht]
    rfl
  have hids : pieces (setText text text).toList
      = [t, .keyword .member, .leftParen, t, .rightParen].map some := by
    simpa [ht] using pieces_setText hends hends []
  have hboth : pieces (setOrEqualText text).toList = ([t, .keyword .member, .leftParen, t,
      .rightParen] ++ .keyword .or :: [t, .comparison .eq, t]).map some := by
    have htext : (setOrEqualText text).toList = (setText text text).toList ++
        ' ' :: (Keyword.or.spelling.toList ++ ' ' :: (equalText text text).toList) := by
      simp [setOrEqualText, Keyword.spelling]
    rw [htext, pieces_setText hends hends, pieces_blank rfl, pieces_keyword, hequal, ht]
    rfl
  have hcompare := Conjuncts.last (.primary (.predicate (.compare .eq ho ho)))
  have hmember := Conjuncts.last (.primary (.predicate (.member false ho (.last ho))))
  exact ⟨exists_parse hequal (.last hcompare), exists_parse hids (.last hmember),
    exists_parse hboth (.more hmember (.last hcompare))⟩

/-! ### Templates -/

theorem exists_mapM_iff {ε α β : Type} {f : α → Except ε β} {xs : List α} :
    (∃ ys, xs.mapM f = .ok ys) ↔ ∀ x ∈ xs, ∃ y, f x = .ok y := by
  simp only [mapM_eq_ok_iff]
  constructor
  · rintro ⟨ys, h⟩ x hx
    obtain ⟨y, -, hy⟩ := exists_of_forall₂_of_mem h.flip hx
    exact ⟨y, hy⟩
  · intro h
    induction xs with
    | nil => exact ⟨[], .nil⟩
    | cons x xs ih =>
      obtain ⟨y, hy⟩ := h x List.mem_cons_self
      obtain ⟨ys, hys⟩ := ih fun x hx => h x (List.mem_cons_of_mem _ hx)
      exact ⟨y :: ys, .cons hy hys⟩

namespace ScopeTemplate

/-- A template compiles if it spells a condition with the text in all places. -/
theorem exists_compile_iff {scope : Scope} {template missing text : String} {t : Template}
    (ht : Template.parse template = .ok t)
    (htext : (t.render (fun _ => none) missing).text = text) :
    (∃ c, compile scope template Scope.denyFragment missing = .ok c) ↔
      ∃ f, Filter.parse text = .ok f := by
  unfold compile
  rw [ht]
  simp only [Except.mapError, Except.bind, bind, htext, Filter.parse_denyFragment]
  cases Filter.parse text with
  | error e => simp
  | ok f => exact ⟨fun _ => ⟨f, rfl⟩, fun _ => ⟨_, rfl⟩⟩

/-- The built-in templates compile if a comparison, a set and both of them are conditions. -/
theorem exists_builtin_iff {missing : String} :
    (∃ ts, builtin missing = .ok ts) ↔
      (∃ f, Filter.parse (setText missing missing) = .ok f) ∧
        (∃ f, Filter.parse (equalText missing missing) = .ok f) ∧
        ∃ f, Filter.parse (setOrEqualText missing) = .ok f := by
  have hids (scope : Scope) :
      (∃ c, compile scope "$deptName IN ( $scopeIds )" Scope.denyFragment missing = .ok c) ↔
        ∃ f, Filter.parse (setText missing missing) = .ok f :=
    exists_compile_iff Template.parse_idsTemplate
      (by simp [Template.render, Segment.render, setText, String.append_assoc])
  have hdept :
      (∃ c, compile .dept "$deptName = $user.deptId" Scope.denyFragment missing = .ok c) ↔
        ∃ f, Filter.parse (equalText missing missing) = .ok f :=
    exists_compile_iff Template.parse_deptTemplate
      (by simp [Template.render, Segment.render, equalText, String.append_assoc])
  have hown :
      (∃ c, compile .own "$userName = $user.userId" Scope.denyFragment missing = .ok c) ↔
        ∃ f, Filter.parse (equalText missing missing) = .ok f :=
    exists_compile_iff Template.parse_ownTemplate
      (by simp [Template.render, Segment.render, equalText, String.append_assoc])
  have hboth : (∃ c, compile .deptAndChildOrOwn
        "$deptName IN ( $scopeIds ) OR $userName = $user.userId" Scope.denyFragment missing
          = .ok c) ↔ ∃ f, Filter.parse (setOrEqualText missing) = .ok f :=
    exists_compile_iff Template.parse_idsOrOwnTemplate (by
      simp [Template.render, Segment.render, setOrEqualText, setText, equalText,
        String.append_assoc])
  have hall : (∃ ts, builtin missing = .ok ts) ↔ ∀ source ∈ sources,
      ∃ c, compile source.1 source.2.1 source.2.2 missing = .ok c := exists_mapM_iff
  have hsources : sources = [(.custom, "$deptName IN ( $scopeIds )", Scope.denyFragment),
      (.dept, "$deptName = $user.deptId", Scope.denyFragment),
      (.deptAndChild, "$deptName IN ( $scopeIds )", Scope.denyFragment),
      (.own, "$userName = $user.userId", Scope.denyFragment),
      (.deptAndChildOrOwn, "$deptName IN ( $scopeIds ) OR $userName = $user.userId",
        Scope.denyFragment)] := rfl
  rw [hall, hsources]
  simp only [List.forall_mem_cons, hids, hdept, hown, hboth]
  constructor
  · rintro ⟨h, h', -, -, h'', -⟩
    exact ⟨h, h', h''⟩
  · rintro ⟨h, h', h''⟩
    exact ⟨h, h', h, h', h'', by simp⟩

end ScopeTemplate

namespace Granter

/-- The settings have a granter if the text for a missing value is one operand. -/
theorem exists_ofSettings_iff_pieces {settings : Settings} :
    (∃ g, ofSettings settings = .ok g) ↔
      ∃ t, pieces settings.missing.toList = [some t] ∧ t.operand?.isSome = true := by
  have hbuiltin : (∃ g, ofSettings settings = .ok g) ↔
      ∃ ts, ScopeTemplate.builtin settings.missing = .ok ts := by
    constructor
    · rintro ⟨g, hg⟩
      exact ⟨g.templates, (builtin_of_ofSettings hg).1⟩
    · rintro ⟨ts, hts⟩
      exact ⟨⟨ts, settings.missing, settings.privileged⟩, by rw [ofSettings, hts]; rfl⟩
  rw [hbuiltin, ScopeTemplate.exists_builtin_iff]
  constructor
  · rintro ⟨⟨f, hids⟩, ⟨f', hequal⟩, -⟩
    exact operand_of_trials hequal hids
  · rintro ⟨t, ht, hoperand⟩
    obtain ⟨o, ho⟩ := Option.isSome_iff_exists.1 hoperand
    obtain ⟨hequal, hids, hboth⟩ := parse_trials ht ho
    exact ⟨hids, hequal, hboth⟩

/-- **A text stands for missing values if and only if it is one operand**: no settings have a
granter with a text of several tokens, or with one that leaves a quote open.  Blanks around the text
make no difference. -/
theorem exists_ofSettings_iff (settings : Settings) :
    ((∃ g, ofSettings settings = .ok g) ↔
      ∃ t span, tokens? settings.missing = .ok [⟨t, span⟩] ∧ t.operand?.isSome = true) ∧
    ((∃ g, ofSettings settings = .ok g) → endsInside false settings.missing.toList = false) ∧
    ∀ before after : String, (∀ c ∈ before.toList ++ after.toList, Lexeme.isBlank c = true) →
      ((∃ g, ofSettings { settings with missing := before ++ settings.missing ++ after } = .ok g) ↔
        ∃ g, ofSettings settings = .ok g) := by
  refine ⟨?_, ?_, fun before after hblank => ?_⟩
  · rw [exists_ofSettings_iff_pieces]
    constructor
    · rintro ⟨t, ht, hoperand⟩
      have hone : pieces settings.missing.toList = [t].map some := ht
      obtain ⟨placed, hplaced, hmap⟩ := exists_tokens?_iff.2 hone
      obtain ⟨⟨t, span⟩, rfl, rfl⟩ := List.map_eq_singleton_iff.1 hmap
      exact ⟨t, span, hplaced, hoperand⟩
    · rintro ⟨t, span, htokens, hoperand⟩
      exact ⟨t, exists_tokens?_iff.1 ⟨_, htokens, rfl⟩, hoperand⟩
  · rw [exists_ofSettings_iff_pieces]
    rintro ⟨t, ht, -⟩
    exact endsInside_of_pieces ht
  · rw [exists_ofSettings_iff_pieces, exists_ofSettings_iff_pieces]
    simp only [String.toList_append]
    exact exists_congr fun t => and_congr_left fun _ => pieces_eq_between_blanks_iff hblank

/-- A quoted text with blanks around it is accepted, and two quotes are not if they are not those
of one text. -/
theorem exists_ofSettings_iff_quoted :
    (∃ g, ofSettings ⟨"\t" ++ "'no dept'" ++ " \n", .empty⟩ = .ok g) ∧
      ¬∃ g, ofSettings ⟨"a' = 'b", .empty⟩ = .ok g := by
  constructor
  · have hblank : ∀ c ∈ "\t".toList ++ " \n".toList, Lexeme.isBlank c = true :=
      List.all_eq_true.1 (by decide)
    refine ((exists_ofSettings_iff ⟨"'no dept'", .empty⟩).2.2 "\t" " \n" hblank).2 ?_
    exact (exists_ofSettings_iff _).1.2
      ⟨.text "no dept", ⟨0, 9⟩, Except.toOption_eq_some_iff.1 (by decide +kernel), rfl⟩
  · rw [(exists_ofSettings_iff _).1]
    rintro ⟨t, span, htokens, -⟩
    have hlength : (tokens? "a' = 'b").toOption.map List.length = some 3 := by decide +kernel
    rw [htokens] at hlength
    cases hlength

end Granter

end RowScope
