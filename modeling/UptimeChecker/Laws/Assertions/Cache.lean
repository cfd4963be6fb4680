import UptimeChecker.Assertions.Cache.Calls
import UptimeChecker.Checker.ReqwestChecker
import UptimeChecker.Laws.Assertions.Compile
import UptimeChecker.Laws.Checker.ReqwestChecker

/-!
# The cache changes nothing

However the calls of a process interleave, and whatever they throw out of the cache meanwhile, each
of them answers what compiling would answer; and a check comes to the same on the cache as it is
then, and on an empty one.
-/

namespace UptimeChecker

open Assertions.Compiled (Externals Cache CompilationError compile plainExternals notTwoHundred
  notTwoHundredSource)

namespace Assertions.Compiled.Cache

variable {lib : Externals}

/-- What the cache holds was compiled under this budget. -/
def Coherent (cache : Cache lib) (maxAssertionOps : Nat) : Prop :=
  ∀ key entry, cache.get key = some entry → compile lib key maxAssertionOps = .ok entry

theorem coherent_new (index : Assertions.Assertion → Nat) (maxAssertionOps : Nat) :
    (new index : Cache lib).Coherent maxAssertionOps :=
  nofun

/-- An insertion adds only its key, in the place of what it throws out. -/
theorem inserting (maxAssertionOps : Nat) :
    Memo.Inserting Cache.get (@Inserts lib maxAssertionOps) := by
  rintro cache key entry cache' ⟨h, rfl⟩ k v hget
  unfold insert at hget
  dsimp only at hget
  split at hget
  · rename_i hkey
    exact .inl ⟨hkey, (Option.some_inj.mp hget).symm⟩
  · split at hget
    · cases hget
    · exact .inr hget

/-- Calls that interleave answer what compiling answers, and keep the cache coherent. -/
theorem sound_of_calls {maxAssertionOps : Nat}
    {s : Memo.State (Cache lib) Assertions.Assertion (Assertion lib) CompilationError}
    (hs : (calls lib maxAssertionOps).Reachable s) :
    s.table.Coherent maxAssertionOps ∧
      ∀ {key answer}, .answered key answer ∈ s.calls →
        compile lib key maxAssertionOps = answer := by
  have hsound := Memo.sound_of_reachable
    (fun key => compile lib key maxAssertionOps) Cache.get (Inserts maxAssertionOps)
    (by
      rintro cache ⟨index, rfl⟩
      exact coherent_new index maxAssertionOps _ _)
    (inserting maxAssertionOps) hs
  exact ⟨fun _ _ => hsound.table, fun hcall => hsound.calls _ hcall⟩

/-- On a coherent cache one call answers what compiling answers. -/
theorem getOrCompile_of_coherent {cache : Cache lib} {maxAssertionOps : Nat}
    (h : cache.Coherent maxAssertionOps) (key : Assertions.Assertion) :
    (cache.getOrCompile key maxAssertionOps).1 = compile lib key maxAssertionOps := by
  cases hget : cache.get key with
  | none => exact getOrCompile_of_get_eq_none hget maxAssertionOps
  | some entry =>
    rw [h key entry hget]
    unfold getOrCompile
    split
    · rename_i hfound
      rw [Option.some_inj.mp (hget.symm.trans hfound)]
    · rename_i hmissing
      cases hget.symm.trans hmissing

end Assertions.Compiled.Cache

namespace ReqwestChecker

variable {lib : Externals} {checker : ReqwestChecker lib} {cache₁ cache₂ : Cache lib}

/-- The checker, on another cache. -/
def withCache (checker : ReqwestChecker lib) (cache : Cache lib) : ReqwestChecker lib :=
  { checker with assertCache := cache }

/-- What `to_check_result` makes of a response does not depend on the cache. -/
theorem toCheckResult_withCache (h₁ : cache₁.Coherent checker.maxAssertionOps.toNat)
    (h₂ : cache₂.Coherent checker.maxAssertionOps.toNat) (ext : CheckerExternals)
    (config : CheckConfig) (r : HttpResponse) :
    (toCheckResult ext (checker.withCache cache₁) config r).check =
        (toCheckResult ext (checker.withCache cache₂) config r).check ∧
      (toCheckResult ext (checker.withCache cache₁) config r).body =
        (toCheckResult ext (checker.withCache cache₂) config r).body := by
  unfold toCheckResult
  by_cases hdisabled : checker.disableAssertions = true
  · simp [withCache, hdisabled]
  · cases hassertion : config.assertion with
    | none => simp [withCache, hdisabled]
    | some assertion =>
      have hanswer₁ := Cache.getOrCompile_of_coherent h₁ assertion
      have hanswer₂ := Cache.getOrCompile_of_coherent h₂ assertion
      simp only [withCache, hdisabled, Bool.false_eq_true, if_false]
      generalize cache₁.getOrCompile assertion checker.maxAssertionOps.toNat = call₁
        at hanswer₁ ⊢
      generalize cache₂.getOrCompile assertion checker.maxAssertionOps.toNat = call₂
        at hanswer₂ ⊢
      obtain ⟨answer₁, rest₁⟩ := call₁
      obtain ⟨answer₂, rest₂⟩ := call₂
      obtain rfl : answer₁ = answer₂ := hanswer₁.trans hanswer₂.symm
      cases answer₁ <;> exact ⟨rfl, rfl⟩

theorem checkResponse_withCache (h₁ : cache₁.Coherent checker.maxAssertionOps.toNat)
    (h₂ : cache₂.Coherent checker.maxAssertionOps.toNat) (ext : CheckerExternals)
    (check : ScheduledCheck) (r : HttpResponse) (stats : List RedirectStats) :
    (checkResponse ext (checker.withCache cache₁) check r stats).1 =
      (checkResponse ext (checker.withCache cache₂) check r stats).1 := by
  obtain ⟨hcheck, hbody⟩ := toCheckResult_withCache h₁ h₂ ext check.config r
  simp only [checkResponse, hcheck, hbody]
  rfl

/-- What a check of a URL comes to does not depend on the cache. -/
theorem checkUrl_withCache (h₁ : cache₁.Coherent checker.maxAssertionOps.toNat)
    (h₂ : cache₂.Coherent checker.maxAssertionOps.toNat) (ext : CheckerExternals)
    (check : ScheduledCheck) (region : String) (readings : UrlReadings) :
    (checkUrl ext (checker.withCache cache₁) check region readings).1 =
      (checkUrl ext (checker.withCache cache₂) check region readings).1 := by
  unfold checkUrl
  cases readings.response with
  | error err => rfl
  | ok r => simp only [checkResponse_withCache h₁ h₂ ext check r readings.stats]

/-- The cache is transparent: in every run of concurrent calls, each call that has its answer has
what compiling answers, and a check made on the cache as it is then comes to what it comes to on an
empty one. -/
theorem checkUrl_eq_uncached {s : Memo.State (Cache lib) Assertions.Assertion
      (Assertions.Compiled.Assertion lib) CompilationError}
    (hs : (Cache.calls lib checker.maxAssertionOps.toNat).Reachable s) :
    (∀ key answer, .answered key answer ∈ s.calls →
        answer = compile lib key checker.maxAssertionOps.toNat) ∧
      ∀ (ext : CheckerExternals) (check : ScheduledCheck) (region : String)
        (readings : UrlReadings) (index : Assertions.Assertion → Nat),
        (checkUrl ext (checker.withCache s.table) check region readings).1 =
          (checkUrl ext (checker.withCache (.new index)) check region readings).1 := by
  obtain ⟨hcoherent, hanswers⟩ := Cache.sound_of_calls hs
  refine ⟨fun key answer hcall => (hanswers hcall).symm, ?_⟩
  intro ext check region readings index
  exact checkUrl_withCache hcoherent (Cache.coherent_new index _) ext check region readings

/-- One call, which misses, compiles and inserts. -/
private theorem reachable_cached :
    ∃ s, (Cache.calls plainExternals 16).Reachable s ∧
      .answered notTwoHundredSource (.ok notTwoHundred) ∈ s.calls := by
  have hinit : (Cache.calls plainExternals 16).Reachable ⟨.new fun _ => 0, []⟩ :=
    .init ⟨⟨_, rfl⟩, rfl⟩
  have hcalled := Transition.Reachable.step hinit (.call notTwoHundredSource)
  have hcomputed := hcalled.step (.compute (i := 0) rfl rfl (show compile _ _ 16 = _ from rfl))
  have hinserted := hcomputed.step (.insert (i := 0) rfl ⟨rfl, rfl⟩)
  exact ⟨_, hinserted, List.mem_singleton_self _⟩

theorem checkUrl_eq_uncached_notTwoHundred :
    ∃ s, (Cache.calls plainExternals 16).Reachable s ∧
      .answered notTwoHundredSource (.ok notTwoHundred) ∈ s.calls ∧
      .ok notTwoHundred = compile plainExternals notTwoHundredSource 16 ∧
      (checkUrl plainCheckerExternals (plainChecker.withCache s.table) hugeCheck "us-west"
          hiReadings).1 =
        (checkUrl plainCheckerExternals (plainChecker.withCache (.new fun _ => 0)) hugeCheck
          "us-west" hiReadings).1 := by
  obtain ⟨s, hs, hanswered⟩ := reachable_cached
  have h := @checkUrl_eq_uncached plainExternals plainChecker s hs
  exact ⟨s, hs, hanswered, h.1 _ _ hanswered, h.2 _ _ _ _ _⟩

end ReqwestChecker

end UptimeChecker
