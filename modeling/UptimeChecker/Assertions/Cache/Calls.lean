import UptimeChecker.Assertions.Cache
import UptimeChecker.Lib.Memo

/-!
# Concurrent calls of the cache

`get_or_compile` takes the lock twice: to read the cache, and to insert what it has compiled since.
Between the two any other call may read and insert, the same assertion included. The lock is never
poisoned, since nothing panics under it.
-/

namespace UptimeChecker.Assertions.Compiled.Cache

variable {lib : Externals}

/-- An insertion under the write lock. -/
def Inserts (maxAssertionOps : Nat) (cache : Cache lib) (key : Assertions.Assertion)
    (entry : Assertion lib) (cache' : Cache lib) : Prop :=
  ∃ h : compile lib key maxAssertionOps = .ok entry, cache' = cache.insert key entry h

/-- Any number of calls of `get_or_compile`, with the budget of the process, on a cache that starts
out empty. -/
def calls (lib : Externals) (maxAssertionOps : Nat) :
    Transition (Memo.State (Cache lib) Assertions.Assertion (Assertion lib) CompilationError)
      Memo.Action :=
  Memo.system (fun key => compile lib key maxAssertionOps) Cache.get (Inserts maxAssertionOps)
    fun cache => ∃ index, cache = new index

end UptimeChecker.Assertions.Compiled.Cache
