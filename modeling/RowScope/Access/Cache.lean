/-
Remembered resolutions.

* `Cache.key?` — what the ids of a role depend on: the role alone, or the scope and the
  department of the user;
* `Resolver.cached` — a resolver that is asked only for what is not remembered;
* `Cache.clear`, `Cache.forget` — what to do when the organisation changes.

Design notes: failures are not remembered, and neither are scopes without ids.  Hits and misses
are counted without a bound.  Counters of 64 bits start again from zero after 2 ^ 64 of either, so
they agree with the numbers here up to a multiple of that.
-/
import RowScope.Access.Resolver

namespace RowScope

/-- What the ids of a role depend on. -/
inductive CacheKey where
  | role (id : Int64)
  | tree (scope : Scope) (department : Int64)
deriving DecidableEq

/-- Resolutions, and how often one was remembered or was not. -/
structure Cache where
  found : KeyMap CacheKey Resolution
  hits : Nat
  misses : Nat

namespace Cache

def empty : Cache := ⟨.empty, 0, 0⟩

/-- What the ids of a role depend on; none if it has no ids. -/
def key? (role : Role) (user : User) : Option CacheKey :=
  match role.scope with
  | .custom => some (.role role.id)
  | .deptAndChild | .deptAndChildOrOwn => user.department.map (.tree role.scope)
  | .all | .dept | .own => none

def hit (c : Cache) : Cache :=
  { c with hits := c.hits + 1 }

def miss (c : Cache) : Cache :=
  { c with misses := c.misses + 1 }

def store (c : Cache) (k : CacheKey) (r : Resolution) : Cache :=
  { c with found := c.found.insert k r }

def clear (c : Cache) : Cache :=
  { c with found := .empty }

/-- Forgets the resolution of the departments granted to a role. -/
def forget (c : Cache) (role : Int64) : Cache :=
  { c with found := c.found.restrict (· != .role role) }

end Cache

/-- A resolver that is asked only for what is not remembered. -/
def Resolver.cached {σ : Type} (r : Resolver σ) : Resolver (Cache × σ) :=
  fun role user s (c, w) =>
    match Cache.key? role user with
    | none =>
      let (answer, s, w) := r role user s w
      (answer, s, (c, w))
    | some k =>
      match c.found.find? k with
      | some resolution => (.ok resolution, s, (c.hit, w))
      | none =>
        match r role user s w with
        | (.ok resolution, s, w) => (.ok resolution, s, (c.miss.store k resolution, w))
        | (.error e, s, w) => (.error e, s, (c.miss, w))

end RowScope
