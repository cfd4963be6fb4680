import UptimeChecker.Assertions.Compiled

/-!
# The cache of compiled assertions

A direct-mapped cache: an assertion has one place, its hash modulo the capacity, and putting it
there throws out whatever else was in that place. Only assertions that compile are kept. The locks
and the timestamps (which a direct-mapped cache never looks at) are not part of it.
-/

namespace UptimeChecker.Assertions.Compiled

/-- The cache. What it holds for an assertion was compiled from it, under some budget. -/
structure Cache (lib : Externals) where
  /-- The place of an assertion. -/
  index : Assertions.Assertion → Nat
  get : Assertions.Assertion → Option (Assertion lib)
  compiled : ∀ {key entry}, get key = some entry → ∃ maxOps, compile lib key maxOps = .ok entry

namespace Cache

variable {lib : Externals}

/-- An empty cache. -/
def new (index : Assertions.Assertion → Nat) : Cache lib where
  index := index
  get _ := none
  compiled h := nomatch h

/-- Keep a compiled assertion, in the place of whatever was there. -/
def insert (cache : Cache lib) (key : Assertions.Assertion) (entry : Assertion lib) {maxOps : Nat}
    (h : compile lib key maxOps = .ok entry) : Cache lib where
  index := cache.index
  get k :=
    if k = key then some entry
    else if cache.index k = cache.index key then none else cache.get k
  compiled hk := by
    split at hk
    · cases hk
      subst_vars
      exact ⟨maxOps, h⟩
    · split at hk
      · cases hk
      · exact cache.compiled hk

/-- `get_or_compile`: the compiled form of an assertion, and the cache after it. -/
def getOrCompile (cache : Cache lib) (key : Assertions.Assertion) (maxAssertionOps : Nat) :
    Except CompilationError (Assertion lib) × Cache lib :=
  match cache.get key with
  | some entry => (.ok entry, cache)
  | none =>
    match h : compile lib key maxAssertionOps with
    | .ok comp => (.ok comp, cache.insert key comp h)
    | .error err => (.error err, cache)

/-- What the cache answers was compiled from the assertion, under some budget. -/
theorem compiled_of_getOrCompile {cache : Cache lib} {key : Assertions.Assertion}
    {maxAssertionOps : Nat} {entry : Assertion lib}
    (h : (cache.getOrCompile key maxAssertionOps).1 = .ok entry) :
    ∃ maxOps, compile lib key maxOps = .ok entry := by
  unfold getOrCompile at h
  split at h
  · rename_i hget
    cases h
    exact cache.compiled hget
  · split at h
    · rename_i hcompile
      cases h
      exact ⟨maxAssertionOps, hcompile⟩
    · cases h

/-- An assertion that is not in the cache is compiled. -/
theorem getOrCompile_of_get_eq_none {cache : Cache lib} {key : Assertions.Assertion}
    (h : cache.get key = none) (maxAssertionOps : Nat) :
    (cache.getOrCompile key maxAssertionOps).1 = compile lib key maxAssertionOps := by
  unfold getOrCompile
  split
  · rename_i hget
    cases h.symm.trans hget
  · split <;> (rename_i hcompile; exact hcompile.symm)

end Cache

end UptimeChecker.Assertions.Compiled
