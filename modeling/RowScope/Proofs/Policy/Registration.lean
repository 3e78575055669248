/-
A book of rules is a finite map.

Rules are registered one by one or all at once from a table, taken out, or replaced by those of
another book.  After any history of this kind a book answers as the map of targets to rules
that the history describes.

* `RuleBook.History` — how a book came about, and the map that it describes;
* `RuleBook.Refines` — a book answers as a map of targets to rules;
* `RuleBook.Registers` — some rules are registered in order, and none is refused;
* `RuleBook.find?_of_registers` — what a book holds afterwards;
* `PolicyTable.Loads` — when a table is a book, and which one;
* `RuleBook.refines_map` — every book refines its map, and every table loads.

Design notes: the map of a history is given without books.  A table of which two entries have one
target leads to no book, so the map of a table may take the first entry of a target.
-/
import RowScope.Policy.RuleBook
import RowScope.Proofs.Sequences
import RowScope.Proofs.Text.Names

namespace RowScope

namespace RuleBook

variable {b b' : RuleBook} {target : String} {rule : Rule} {rules : List (String × Rule)}

/-- The book after a rule was registered; a rule that is refused leaves it as it is. -/
def registered (b : RuleBook) (target : String) (rule : Rule) : RuleBook :=
  (b.register target rule).toOption.getD b

/-- How a book came about: how it began, and what was done to it since. -/
inductive History where
  | empty
  | ofTable (t : PolicyTable) (b : RuleBook) (h : RuleBook.ofTable t = .ok b)
  -- A rule was registered or refused.
  | register (es : History) (target : String) (rule : Rule)
  -- All rules were taken out.
  | clear (es : History)
  -- The rules of another book took the place of all rules.
  | replace (es other : History)

namespace History

/-- The book that a history leads to. -/
def book : History → RuleBook
  | empty => .empty
  | ofTable _ b _ => b
  | register es target rule => es.book.registered target rule
  | clear _ => .empty
  | replace _ other => other.book

/-- The rule of a target by a history.  A target keeps the rule that it has. -/
def rule? : History → String → Option Rule
  | empty, _ => none
  | ofTable t _ _, target => (t.entries.find? (·.target == target)).bind (·.toRule.toOption)
  | register es target' rule, target =>
    (es.rule? target).or (if target = target' then some rule else none)
  | clear _, _ => none
  | replace _ other, target => other.rule? target

end History

/-- The book answers as a map of targets to rules. -/
structure Refines (b : RuleBook) (m : String → Option Rule) : Prop where
  -- A rule that is given for a statement comes first, then the one for its full name.
  given : ∀ query rule, b.lookup query (some rule) = some rule
  own : ∀ query rule, m query = some rule → b.lookup query none = some rule
  -- Else it is the one for the name before the last dot, if there is a dot.
  owner : ∀ owner last, '.' ∉ last.toList → m (owner ++ "." ++ last) = none →
    b.lookup (owner ++ "." ++ last) none = m owner
  alone : ∀ query, '.' ∉ query.toList → m query = none → b.lookup query none = none
  -- A target that has a rule keeps it, and the book stays as it is.
  refuses : ∀ target rule, m target ≠ none →
    b.register target rule = .error (.duplicateRule target) ∧ b.registered target rule = b
  accepts : ∀ target rule, m target = none →
    b.register target rule = .ok (b.registered target rule)
  -- The targets are those that have a rule, in ascending order.
  mem_targets : ∀ target, target ∈ b.targets ↔ m target ≠ none
  ascending : b.targets.Pairwise (· < ·)
  length_targets : b.targets.length = b.size

/-- Some rules are registered in order, and none of them is refused. -/
inductive Registers : RuleBook → List (String × Rule) → RuleBook → Prop
  | nil (b : RuleBook) : Registers b [] b
  | cons {b b' b'' : RuleBook} {target : String} {rule : Rule} {rules : List (String × Rule)}
      (h : b.register target rule = .ok b') (hs : Registers b' rules b'') :
      Registers b ((target, rule) :: rules) b''

theorem register_eq_ok_iff :
    b.register target rule = .ok b' ↔
      b.rules.find? target = none ∧ ⟨b.rules.insert target rule⟩ = b' := by
  unfold register KeyMap.contains
  cases b.rules.find? target with
  | none => simp
  | some old => simp

theorem register_of_none (rule : Rule) (h : b.rules.find? target = none) :
    b.register target rule = .ok ⟨b.rules.insert target rule⟩ :=
  register_eq_ok_iff.2 ⟨h, rfl⟩

theorem register_of_some (rule : Rule) {old : Rule} (h : b.rules.find? target = some old) :
    b.register target rule = .error (.duplicateRule target) := by
  rw [register, if_pos (by rw [KeyMap.contains, h]; rfl)]

theorem find?_of_register (h : b.register target rule = .ok b') (target' : String) :
    b'.rules.find? target'
      = (b.rules.find? target').or (if target' = target then some rule else none) := by
  obtain ⟨hnone, rfl⟩ := register_eq_ok_iff.1 h
  rw [KeyMap.find?_insert]
  by_cases ht : target' = target
  · rw [if_pos ht, if_pos ht, ht, hnone]
    rfl
  · rw [if_neg ht, if_neg ht, Option.or_none]

theorem find?_registered (b : RuleBook) (target : String) (rule : Rule) (target' : String) :
    (b.registered target rule).rules.find? target'
      = (b.rules.find? target').or (if target' = target then some rule else none) := by
  cases hold : b.rules.find? target with
  | none =>
    have hok := register_of_none rule hold
    rw [registered, hok, ← find?_of_register hok]
    rfl
  | some old =>
    rw [registered, register_of_some rule hold]
    by_cases ht : target' = target
    · rw [ht, hold]
      exact hold
    · rw [if_neg ht, Option.or_none]
      rfl

/-! ### Tables -/

theorem foldlM_register_iff :
    rules.foldlM (fun b (target, rule) => b.register target rule) b = .ok b' ↔
      Registers b rules b' := by
  induction rules generalizing b with
  | nil =>
    constructor
    · intro h
      obtain rfl := Except.ok.inj h
      exact .nil b
    · rintro ⟨⟩
      rfl
  | cons r rules ih =>
    rw [List.foldlM_cons, Except.bind_eq_ok_iff]
    constructor
    · rintro ⟨b₁, h, hs⟩
      exact .cons h (ih.1 hs)
    · rintro (_ | ⟨h, hs⟩)
      exact ⟨_, h, ih.2 hs⟩

/-- What a book holds after some rules were registered. -/
theorem find?_of_registers (h : Registers b rules b') (target : String) :
    b'.rules.find? target = (b.rules.find? target).or (rules.lookup target) := by
  induction h with
  | nil b => rw [List.lookup_nil, Option.or_none]
  | @cons b b₁ b' target' rule rules h _ ih =>
    rw [ih, find?_of_register h, Option.or_assoc, List.lookup_cons]
    by_cases ht : target = target'
    · simp [ht]
    · simp [ht, beq_eq_false_iff_ne.2 ht]

/-- Rules can be registered if their targets are distinct, and new to the book. -/
theorem exists_registers_iff :
    (∃ b', Registers b rules b') ↔
      (rules.map Prod.fst).Nodup ∧ ∀ target ∈ rules.map Prod.fst, b.rules.find? target = none := by
  induction rules generalizing b with
  | nil => exact ⟨fun _ => ⟨List.nodup_nil, by simp⟩, fun _ => ⟨b, .nil b⟩⟩
  | cons r rules ih =>
    obtain ⟨target, rule⟩ := r
    simp only [List.map_cons, List.nodup_cons, List.forall_mem_cons]
    constructor
    · rintro ⟨b', _ | ⟨h, hs⟩⟩
      obtain ⟨hnodup, hnew⟩ := ih.1 ⟨b', hs⟩
      have hnew : ∀ target' ∈ rules.map Prod.fst,
          b.rules.find? target' = none ∧ target' ≠ target := by
        intro target' ht
        have := hnew target' ht
        rw [find?_of_register h, Option.or_eq_none_iff] at this
        exact ⟨this.1, by simpa using this.2⟩
      exact ⟨⟨fun ht => (hnew target ht).2 rfl, hnodup⟩, (register_eq_ok_iff.1 h).1,
        fun target' ht => (hnew target' ht).1⟩
    · rintro ⟨⟨hnot, hnodup⟩, hnone, hnew⟩
      have h := register_of_none rule hnone
      have hnew' : ∀ target' ∈ rules.map Prod.fst,
          (RuleBook.mk (b.rules.insert target rule)).rules.find? target' = none := by
        intro target' ht
        have hne : target' ≠ target := by
          rintro rfl
          exact hnot ht
        rw [find?_of_register h, hnew target' ht, if_neg hne]
        rfl
      obtain ⟨b', hs⟩ := ih.2 ⟨hnodup, hnew'⟩
      exact ⟨b', .cons h hs⟩

end RuleBook

namespace PolicyTable

open RuleBook (Registers)

/-- The rules of a table: what its entries stand for, in order. -/
def Stands (t : PolicyTable) (rules : List (String × Rule)) : Prop :=
  List.Forall₂ (fun p r => r.1 = p.target ∧ p.toRule = .ok r.2) t.entries rules

/-- What becomes of a table of policies. -/
structure Loads (t : PolicyTable) : Prop where
  -- A table is a book if all its entries are rules and no two of them have one target.
  exists_iff : (∃ b, RuleBook.ofTable t = .ok b) ↔
    (∀ p ∈ t.entries, ∃ rule, p.toRule = .ok rule) ∧ (t.entries.map PolicyEntry.target).Nodup
  -- The book is the one to which registering the rules in order leads.
  registers : ∀ b, RuleBook.ofTable t = .ok b → ∃ rules, t.Stands rules ∧ Registers .empty rules b

variable {t : PolicyTable} {rules : List (String × Rule)} {b : RuleBook}

theorem toRules_eq_ok_iff : t.toRules = .ok rules ↔ t.Stands rules := by
  rw [toRules, mapM_eq_ok_iff, Stands]
  have hentry : ∀ (p : PolicyEntry) (r : String × Rule),
      p.toRule.map (p.target, ·) = .ok r ↔ r.1 = p.target ∧ p.toRule = .ok r.2 := by
    rintro p ⟨target, rule⟩
    rw [Except.map_eq_ok_iff]
    constructor
    · rintro ⟨rule', h, heq⟩
      obtain ⟨rfl, rfl⟩ := Prod.mk.inj heq
      exact ⟨rfl, h⟩
    · rintro ⟨rfl, h⟩
      exact ⟨rule, h, rfl⟩
  simp only [hentry]

theorem ofTable_eq_ok_iff :
    RuleBook.ofTable t = .ok b ↔ ∃ rules, t.Stands rules ∧ Registers .empty rules b := by
  rw [RuleBook.ofTable, Except.bind_eq_ok_iff]
  simp only [toRules_eq_ok_iff, RuleBook.ofRules, RuleBook.foldlM_register_iff]

theorem Stands.targets (h : t.Stands rules) :
    rules.map Prod.fst = t.entries.map PolicyEntry.target := by
  obtain ⟨entries⟩ := t
  change List.Forall₂ _ entries rules at h
  show rules.map Prod.fst = entries.map PolicyEntry.target
  induction h with
  | nil => rfl
  | cons h _ ih => rw [List.map_cons, List.map_cons, h.1, ih]

theorem exists_stands_iff :
    (∃ rules, t.Stands rules) ↔ ∀ p ∈ t.entries, ∃ rule, p.toRule = .ok rule := by
  obtain ⟨entries⟩ := t
  show (∃ rules, List.Forall₂ _ entries rules) ↔ ∀ p ∈ entries, _
  induction entries with
  | nil => exact ⟨by simp, fun _ => ⟨[], .nil⟩⟩
  | cons p entries ih =>
    rw [List.forall_mem_cons, ← ih]
    constructor
    · rintro ⟨_, _ | ⟨h, hs⟩⟩
      exact ⟨⟨_, h.2⟩, _, hs⟩
    · rintro ⟨⟨rule, h⟩, rules, hs⟩
      exact ⟨(p.target, rule) :: rules, .cons ⟨rfl, h⟩ hs⟩

theorem loads (t : PolicyTable) : t.Loads where
  exists_iff := by
    rw [← exists_stands_iff]
    constructor
    · rintro ⟨b, h⟩
      obtain ⟨rules, hrules, hb⟩ := ofTable_eq_ok_iff.1 h
      obtain ⟨hnodup, -⟩ := RuleBook.exists_registers_iff.1 ⟨b, hb⟩
      exact ⟨⟨rules, hrules⟩, hrules.targets ▸ hnodup⟩
    · rintro ⟨⟨rules, hrules⟩, hnodup⟩
      have hnew : ∀ target ∈ rules.map Prod.fst, RuleBook.empty.rules.find? target = none :=
        fun _ _ => rfl
      obtain ⟨b, hb⟩ := RuleBook.exists_registers_iff.2 ⟨hrules.targets.symm ▸ hnodup, hnew⟩
      exact ⟨b, ofTable_eq_ok_iff.2 ⟨rules, hrules, hb⟩⟩
  registers := fun _ => ofTable_eq_ok_iff.1

end PolicyTable

namespace RuleBook

variable {b : RuleBook} {m : String → Option Rule}

/-- The rule of a target in the book of a table is that of the first entry with the target. -/
theorem find?_of_ofTable {t : PolicyTable} (h : ofTable t = .ok b) (target : String) :
    b.rules.find? target
      = (t.entries.find? (·.target == target)).bind (·.toRule.toOption) := by
  obtain ⟨rules, hrules, hb⟩ := PolicyTable.ofTable_eq_ok_iff.1 h
  rw [find?_of_registers hb]
  obtain ⟨entries⟩ := t
  change List.Forall₂ _ entries rules at hrules
  show rules.lookup target = (entries.find? _).bind _
  clear hb h
  induction hrules with
  | nil => rfl
  | @cons p r entries rules hr _ ih =>
    obtain ⟨target', rule⟩ := r
    obtain ⟨rfl, hrule⟩ := hr
    rw [List.lookup_cons, List.find?_cons]
    by_cases ht : p.target = target
    · simp [ht, hrule, Except.toOption]
    · simp [beq_eq_false_iff_ne.2 ht, beq_eq_false_iff_ne.2 (Ne.symm ht), ih]

/-- A book holds what its history says. -/
theorem find?_book (es : History) (target : String) :
    es.book.rules.find? target = es.rule? target := by
  induction es with
  | empty => rfl
  | ofTable t b h => exact find?_of_ofTable h target
  | register es target' rule ih => rw [History.book, History.rule?, find?_registered, ih]
  | clear es => rfl
  | replace es other _ ih => exact ih

theorem mem_targets_iff : target ∈ b.targets ↔ b.rules.find? target ≠ none := by
  rw [targets, mem_ascending, KeyMap.keys, KeyMap.find?, Option.ne_none_iff_isSome,
    List.lookup_isSome_iff, List.mem_map]
  simp only [beq_iff_eq, eq_comm (a := target)]

theorem length_targets (b : RuleBook) : b.targets.length = b.size := by
  have hnodup : b.targets.Nodup := (pairwise_ascending b.rules.keys).imp fun h => Std.ne_of_lt h
  have hperm : b.targets.Perm b.rules.keys :=
    (List.perm_ext_iff_of_nodup hnodup b.rules.nodup).2 fun _ => mem_ascending
  rw [hperm.length_eq, KeyMap.keys, List.length_map]
  rfl

theorem refines_of_find? (h : ∀ target, b.rules.find? target = m target) : b.Refines m where
  given := fun _ _ => rfl
  own := fun query rule hrule => by
    rw [lookup, h query, hrule]
    rfl
  owner := fun owner last hlast hnone => by
    rw [lookup, h, hnone, Name.owner?_append hlast]
    exact h owner
  alone := fun query hdot hnone => by
    rw [lookup, h, hnone, Name.owner?_of_not_mem hdot]
    rfl
  refuses := fun target rule hsome => by
    obtain ⟨old, hold⟩ := Option.ne_none_iff_exists'.1 hsome
    have hrefused := register_of_some rule ((h target).trans hold)
    exact ⟨hrefused, by rw [registered, hrefused]; rfl⟩
  accepts := fun target rule hnone => by
    have hok := register_of_none rule ((h target).trans hnone)
    rw [registered, hok]
    rfl
  mem_targets := fun target => by rw [mem_targets_iff, h]
  ascending := pairwise_ascending _
  length_targets := length_targets b

/-- **A book of rules is a finite map**: after every history it answers as the map that the history
describes.  A table is a book exactly if its entries are rules for distinct targets, and the
book is the one to which registering these rules in order leads. -/
theorem refines_map :
    (∀ es : History, es.book.Refines es.rule?) ∧ ∀ t : PolicyTable, t.Loads :=
  ⟨fun es => refines_of_find? (find?_book es), PolicyTable.loads⟩

-- A rule that is refused, after the rules of an empty book took the place of all others.
example :
    let dept : Rule := ⟨[⟨[("deptName", "dept_id")], none, by decide⟩], none, by decide⟩
    let own : Rule := ⟨[⟨[("userName", "owner")], none, by decide⟩], none, by decide⟩
    let es := (((History.empty.register "orders" own).replace .empty).register "orders" dept)
    (es.register "orders" own).book.lookup "orders.list" none = some dept ∧
      (es.register "orders" own).book.targets = ["orders"] := by
  decide +kernel

end RuleBook

end RowScope
