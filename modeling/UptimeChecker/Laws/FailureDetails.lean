import UptimeChecker.Types.FailureDetails

/-!
# Failure details over the wire

Either error reads back what it wrote. Read without a tag, a compilation error does so as well,
being the first alternative; and a runtime error does unless the compilation errors have a variant
of the same name and fields.
-/

namespace UptimeChecker

open TaggedUnion

namespace Assertions.Compiled

@[simp] theorem Json.asU32_ofU32 (n : UInt32) : (Json.ofU32 n).asU32 = some n := by
  have hlt : n.toUInt64.toNat < 4294967296 := by
    rw [UInt32.toNat_toUInt64]
    exact n.toNat_lt
  show (if _ then _ else _) = _
  rw [if_pos hlt, UInt32.toUInt32_toUInt64]

@[simp] theorem Json.asPath_ofPath (path : List UInt32) :
    (Json.ofPath path).asPath = some path := by
  show (path.map Json.ofU32).mapM Json.asU32 = some path
  induction path with
  | nil => rfl
  | cons n path ih => simp [ih]

@[simp] theorem Json.asUsize_ofUsize (n : UInt64) : (Json.ofUsize n).asUsize = some n := rfl

@[simp] theorem Json.asStr_string (s : String) : (Json.string s).asStr = some s := rfl

/-- An object behind its tag. -/
private theorem readTagged_object {α : Type} {variants : List (Variant Json α)} {name : String}
    {fields : List (String × Json)} (hfields : ∀ f ∈ fields, f.1 ≠ "type") :
    (Json.object (("type", .string name) :: fields)).asObject.bind
        (readTagged "type" Json.asStr variants) =
      (variants.find? (·.name = name)).bind (·.read fields) :=
  readTagged_cons rfl hfields

theorem CompilationError.deserialize_serialize (error : CompilationError) :
    deserialize error.serialize = some error := by
  cases error with
  | invalidGlob assertPath glob msg =>
    refine (readTagged_object (by simp)).trans ?_
    simp [variants]
  | jsonPathParser assertPath msg path pos =>
    refine (readTagged_object (by simp)).trans ?_
    simp [variants]
  | invalidJsonPath assertPath msg =>
    refine (readTagged_object (by simp)).trans ?_
    simp [variants]
  | tooManyOperations assertPath =>
    refine (readTagged_object (by simp)).trans ?_
    simp [variants]

theorem RuntimeError.deserialize_serialize (error : RuntimeError) :
    deserialize error.serialize = some error := by
  cases error with
  | invalidJsonPath assertPath msg =>
    refine (readTagged_object (by simp)).trans ?_
    simp [variants]
  | tookTooLong assertPath =>
    refine (readTagged_object (by simp)).trans ?_
    simp [variants]
  | invalidJsonBody body =>
    refine (readTagged_object (by simp)).trans ?_
    simp [variants]
  | invalidTypeComparison assertPath msg =>
    refine (readTagged_object (by simp)).trans ?_
    simp [variants]

/-- The compilation errors read one runtime error: the one they have themselves. -/
theorem CompilationError.deserialize_runtimeError (error : RuntimeError) :
    deserialize error.serialize = none ↔ ∀ path msg, error ≠ .invalidJsonPath path msg := by
  cases error with
  | invalidJsonPath assertPath msg =>
    have hread : deserialize (RuntimeError.invalidJsonPath assertPath msg).serialize =
        some (.invalidJsonPath assertPath msg) :=
      deserialize_serialize (.invalidJsonPath assertPath msg)
    rw [hread]
    simp
  | tookTooLong assertPath =>
    refine iff_of_true ((readTagged_object (by simp)).trans ?_) nofun
    simp [variants]
  | invalidJsonBody body =>
    refine iff_of_true ((readTagged_object (by simp)).trans ?_) nofun
    simp [variants]
  | invalidTypeComparison assertPath msg =>
    refine iff_of_true ((readTagged_object (by simp)).trans ?_) nofun
    simp [variants]

end Assertions.Compiled

open Assertions.Compiled

namespace CheckFailureDetails

/-- Details come back from the wire unless they are a runtime error that reads as a compilation
error. -/
theorem deserialize_serialize_iff (details : CheckFailureDetails) :
    deserialize details.serialize = some details ↔
      ∀ path msg, details ≠ .assertionEvaluationError (.invalidJsonPath path msg) := by
  cases details with
  | assertionCompilationError error =>
    have hread : readCompilationError error.serialize =
        some (.assertionCompilationError error) := by
      rw [readCompilationError, CompilationError.deserialize_serialize, Option.map_some]
    refine iff_of_true ?_ nofun
    exact (@readUntagged_eq_some_iff _ _ [] [readEvaluationError] _ _ _ hread nofun).mpr nofun
  | assertionEvaluationError error =>
    have hread : readEvaluationError error.serialize = some (.assertionEvaluationError error) := by
      rw [readEvaluationError, RuntimeError.deserialize_serialize, Option.map_some]
    have hfirst : readCompilationError error.serialize = none ↔
        ∀ path msg, error ≠ .invalidJsonPath path msg := by
      rw [readCompilationError, Option.map_eq_none_iff,
        CompilationError.deserialize_runtimeError]
    refine (@readUntagged_eq_some_iff _ _ [readCompilationError] [] _ _ _ hread ?_).trans ?_
    · simp [readCompilationError]
    · simpa using hfirst

/-- A runtime error about a JSONPath comes back as a compilation error. -/
theorem deserialize_serialize_invalidJsonPath :
    deserialize (serialize (.assertionEvaluationError (.invalidJsonPath [0] "no such path"))) =
      some (.assertionCompilationError (.invalidJsonPath [0] "no such path")) := by
  decide

end CheckFailureDetails

end UptimeChecker
