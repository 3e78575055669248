/-
What an explanation shows.

An explanation shows a condition as text.  The text spells the condition that is enforced,
so a reader of the text is not misled about the rows.

* `Explanation.Inputs` — what an explanation is made from, as it is read from the files;
* `Explanation.explain_eq_ok_iff` — an explanation shows the verdict on its inputs;
* `Explanation.Inputs.verdict_eq_uncached` — the cache makes no difference to the verdict;
* `Explanation.Inputs.ReadFrom.isWritable_verdict` — the condition of the verdict has a text of
  its own;
* `Explanation.parse_after` — the text that is shown spells a condition with the outcome of
  the one that is enforced, and admits no row that the given text does not.

Design notes: the condition that is enforced is put together from trees.  In its text the given
condition stands in parentheses only if it is a disjunction; a conjunction is merged into the one
around it when the text is read, and no row tells the two apart.
-/
import RowScope.Command.Explanation
import RowScope.Proofs.Access.Caching
import RowScope.Proofs.Access.Enforcement
import RowScope.Proofs.Access.Writing

namespace RowScope

namespace Explanation

/-- What an explanation is made from. -/
structure Inputs where
  rules : RuleBook
  granter : Granter
  user : User
  directory : Directory
  existing : Option Filter

/-- The inputs are what some files and the text of a condition contain. -/
structure Inputs.ReadFrom (i : Inputs) (settings : Settings) (files : Files)
    (policies user directory : String) (filter : Option String) : Prop where
  rules : ∃ table, files.read PolicyTable.read policies = .ok table ∧
    RuleBook.ofTable table = .ok i.rules
  user : readInput files User.ofJson user = .ok i.user
  directory : readInput files Directory.ofJson directory = .ok i.directory
  existing : filter.mapM readFilter = .ok i.existing
  granter : Granter.ofSettings settings = .ok i.granter

namespace Inputs

def resolver (i : Inputs) (settings : Settings) : Resolver Unit :=
  Resolver.ofFunction (i.directory.resolve settings.sentinel)

/-- The rules of the inputs put into force. -/
def enforcer (i : Inputs) (settings : Settings) : Enforcer (Cache × Unit) where
  rules := i.rules
  granter := i.granter
  resolver := (i.resolver settings).cached
  lookup? := none

/-- What is done to a statement of the user. -/
def verdict (i : Inputs) (settings : Settings) (query : String) (statement : Statement) :
    Verdict :=
  ((i.enforcer settings).enforce query i.existing statement (Session.ofUser i.user)
    (.empty, ())).1

/-- What is shown of it. -/
def explanation (i : Inputs) (settings : Settings) (query : String) (statement : Statement) :
    Explanation where
  query := query
  statement := statement
  before := i.existing.map Filter.sql
  after := (i.verdict settings query statement).filter.map Filter.sql
  outcome := (i.verdict settings query statement).outcome.text

/-- The rules of the inputs put into force without a cache. -/
def uncached (i : Inputs) (settings : Settings) : Enforcer Unit where
  rules := i.rules
  granter := i.granter
  resolver := i.resolver settings
  lookup? := none

/-- The cache makes no difference to a verdict. -/
theorem verdict_eq_uncached (i : Inputs) (settings : Settings) (query : String)
    (statement : Statement) :
    i.verdict settings query statement
      = ((i.uncached settings).enforce query i.existing statement (Session.ofUser i.user) ()).1 := by
  have hkeyed : Cache.IsKeyed (i.directory.resolve settings.sentinel) :=
    i.directory.isKeyed_resolve settings.sentinel
  have hsimulates : (i.enforcer settings).resolver.Simulates (i.uncached settings).resolver _ :=
    (Resolver.answersIn_ofFunction _).cached_simulates fun _ => hkeyed
  exact (Enforcer.enforce_of_simulates hsimulates rfl rfl rfl ⟨rfl, rfl, Cache.isCurrent_empty⟩
    query i.existing statement).1

end Inputs

variable {settings : Settings} {files : Files} {policies user directory query : String}
  {statement : Statement} {filter : Option String} {e : Explanation} {i : Inputs}

/-- An explanation shows the verdict on its inputs. -/
theorem explain_eq_ok_iff :
    explain settings files policies user directory query statement filter = .ok e ↔
      ∃ i : Inputs, i.ReadFrom settings files policies user directory filter ∧
        i.explanation settings query statement = e := by
  unfold explain ofStatement
  simp only [Except.bind_eq_ok_iff, Except.mapError_eq_ok_iff]
  constructor
  · rintro ⟨table, htable, rules, hrules, u, hu, d, hd, existing, hexisting, g, hg, h⟩
    exact ⟨⟨rules, g, u, d, existing⟩, ⟨⟨table, htable, hrules⟩, hu, hd, hexisting, hg⟩,
      Except.ok.inj h⟩
  · rintro ⟨i, ⟨⟨table, htable, hrules⟩, hu, hd, hexisting, hg⟩, rfl⟩
    exact ⟨table, htable, i.rules, hrules, i.user, hu, i.directory, hd, i.existing, hexisting,
      i.granter, hg, rfl⟩

namespace Inputs.ReadFrom

variable (h : i.ReadFrom settings files policies user directory filter)

include h

/-- The given condition is what the given text spells. -/
theorem existing_cases : (filter = none ∧ i.existing = none) ∨
    ∃ text f, filter = some text ∧ i.existing = some f ∧ Filter.parse text = .ok f := by
  have hread := h.existing
  cases filter with
  | none => exact .inl ⟨rfl, (Except.ok.inj hread).symm⟩
  | some text =>
    obtain ⟨f, hf, hsome⟩ := Except.map_eq_ok_iff.1 hread
    exact .inr ⟨text, f, rfl, hsome.symm, Except.mapError_eq_ok_iff.1 hf⟩

/-- The condition of the verdict has a text of its own. -/
theorem isWritable_verdict (hmissing : Filter.isDecimalFree settings.missing = true)
    (huser : i.user.isDoubleFree = true)
    (hexisting : ∀ f ∈ i.existing, f.isDoubleFree = true) {tree : Filter}
    (htree : (i.verdict settings query statement).filter = some tree) :
    tree.isWritable isIdentifier = true := by
  rw [Inputs.verdict_eq_uncached] at htree
  refine Enforcer.isWritable_of_enforce (e := i.uncached settings) h.granter hmissing
    (Resolver.answersBy_ofFunction _) (fun u role r hr => ?_) (fun rule u s' w' hid => ?_)
    (fun f hf => ?_) htree
  · exact Directory.isSpelled_of_resolve settings.isPlain_sentinel hr
  · -- the session starts with the user of the inputs, and without bindings
    have hlooked : ((.ok (some i.user) : Except ResolveError (Option User)),
        (Session.ofUser i.user).takeForced.2, ()) = (.ok (some u), s', w') := hid.looked
    simp only [Prod.mk.injEq, Except.ok.injEq, Option.some.injEq] at hlooked
    obtain ⟨rfl, rfl, -⟩ := hlooked
    exact ⟨huser, fun name b hb => nomatch hb⟩
  · rcases h.existing_cases with ⟨-, hnone⟩ | ⟨text, f', -, hsome, hparse⟩
    · exact absurd hf (by simp [hnone])
    · obtain rfl : f' = f := Option.some.inj (hsome.symm.trans hf)
      exact Filter.isWritable_of_isCanonical
        (Filter.isCanonical_of_parse hparse (hexisting f' hf))

/-- A row that meets the condition of the verdict meets what the given text spells. -/
theorem admits_of_verdict {tree : Filter} {row : Row}
    (htree : (i.verdict settings query statement).filter = some tree)
    (hrow : tree.admits row = true) :
    ∀ text ∈ filter, ∃ f, Filter.parse text = .ok f ∧ f.admits row = true := by
  intro text htext
  have hadmits := Enforcer.admitsIf_of_enforce (e := i.enforcer settings) htree hrow
  rcases h.existing_cases with ⟨hnone, -⟩ | ⟨text', f, hsome, hf, hparse⟩
  · exact absurd htext (by simp [hnone])
  · obtain rfl : text' = text := Option.some.inj (hsome.symm.trans htext)
    rw [hf] at hadmits
    exact ⟨f, hparse, hadmits⟩

end Inputs.ReadFrom

/-- **The text of an explanation is faithful**: it spells a condition with the outcome of the
one that is enforced on every row, and admits only rows that the given text admits.  No double
may be in the given condition, in the user or in the text for a missing value. -/
theorem parse_after {text : String}
    (h : explain settings files policies user directory query statement filter = .ok e)
    (hafter : e.after = some text)
    (hmissing : Filter.isDecimalFree settings.missing = true)
    (hfilter : ∀ given ∈ filter, ∀ f, Filter.parse given = .ok f → f.isDoubleFree = true)
    (huser : ∀ u, readInput files User.ofJson user = .ok u → u.isDoubleFree = true) :
    ∃ i : Inputs, i.ReadFrom settings files policies user directory filter ∧
      ∃ tree f, (i.verdict settings query statement).filter = some tree ∧
        Filter.parse text = .ok f ∧ (∀ row, f.truth row = tree.truth row) ∧
        ∀ row, f.admits row = true →
          ∀ given ∈ filter, ∃ f', Filter.parse given = .ok f' ∧ f'.admits row = true := by
  obtain ⟨i, hi, rfl⟩ := explain_eq_ok_iff.1 h
  obtain ⟨tree, htree, rfl⟩ := Option.map_eq_some_iff.1 hafter
  have hexisting : ∀ f ∈ i.existing, f.isDoubleFree = true := by
    intro f hf
    rcases hi.existing_cases with ⟨-, hnone⟩ | ⟨given, f', hgiven, hsome, hparse⟩
    · exact absurd hf (by simp [hnone])
    · obtain rfl : f' = f := Option.some.inj (hsome.symm.trans hf)
      exact hfilter given hgiven f' hparse
  have hwritable := hi.isWritable_verdict hmissing (huser i.user hi.user) hexisting htree
  have htruth := Filter.truth_reread tree
  refine ⟨i, hi, tree, tree.reread, htree, Filter.parse_sql (fun _ => id) hwritable, htruth,
    fun row hrow => hi.admits_of_verdict htree ?_⟩
  rw [Filter.admits_iff, ← htruth row]
  exact Filter.admits_iff.1 hrow

/-- A disjunction is given, and two roles grant one disjunction more. -/
theorem parse_after_disjunctions :
    let files : Files := fun path =>
      if path = "policies" then .ok "[\x7b\"target\": \"orders\", \"mappings\": [\x7b\"keys\":
        [\"deptName\", \"userName\"], \"values\": [\"o.dept\", \"owner\"]\x7d]\x7d]"
      else if path = "user" then .ok "\x7b\"user_id\": \"o'brien\", \"roles\":
        [\x7b\"id\": 1, \"key\": \"clerk\", \"data_scope\": \"6\"\x7d,
          \x7b\"id\": 2, \"key\": \"lead\", \"data_scope\": \"2\"\x7d]\x7d"
      else .ok "\x7b\"roles\": [\x7b\"id\": 2, \"dept_ids\": [2, 3]\x7d]\x7d"
    let given := "price > 5 OR open = TRUE"
    let text := "(price > 5 OR open = TRUE) AND " ++
      "((o.dept IN (-1) OR owner = 'o''brien') OR (o.dept IN (2, 3)))"
    ∃ e, explain .standard files "policies" "user" "directory" "orders.list" .select given
        = .ok e ∧ e.after = some text ∧
      Filter.isDecimalFree Settings.standard.missing = true ∧
      (∀ g ∈ some given, ∀ f, Filter.parse g = .ok f → f.isDoubleFree = true) ∧
      (∀ u, readInput files User.ofJson "user" = .ok u → u.isDoubleFree = true) ∧
      ∃ f, Filter.parse text = .ok f ∧ ∀ row, f.admits row = true →
        ∀ g ∈ some given, ∃ f', Filter.parse g = .ok f' ∧ f'.admits row = true := by
  intro files given text
  have hrun : (explain .standard files "policies" "user" "directory" "orders.list" .select
      given).toOption.bind (·.after) = some text := by decide +kernel
  obtain ⟨e, he, hafter⟩ := Option.bind_eq_some_iff.1 hrun
  rw [Except.toOption_eq_some_iff] at he
  have hmissing : Filter.isDecimalFree Settings.standard.missing = true := by decide +kernel
  have hgiven : ∀ g ∈ some given, ∀ f, Filter.parse g = .ok f → f.isDoubleFree = true := by
    intro g hg f hf
    obtain rfl : given = g := Option.some.inj hg
    exact Filter.isDoubleFree_of_parse (by decide +kernel) hf
  have huser : ∀ u, readInput files User.ofJson "user" = .ok u → u.isDoubleFree = true := by
    have hread : (readInput files User.ofJson "user").toOption.all User.isDoubleFree = true := by
      decide +kernel
    intro u hu
    rwa [hu] at hread
  obtain ⟨_, -, _, f, -, hf, -, hadmits⟩ := parse_after he hafter hmissing hgiven huser
  exact ⟨e, he, hafter, hmissing, hgiven, huser, f, hf, hadmits⟩

end Explanation

end RowScope
