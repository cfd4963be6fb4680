import UptimeChecker.Lib.TaggedUnion
import UptimeChecker.Types.Result

/-!
# Failure details as JSON

What `derive(Serialize, Deserialize)` makes of the errors of an assertion. Both enums are tagged by
the field `type`, with the names of their variants in snake case; the enum around them is untagged.
JSON is taken as a tree, which serde reads back from what it has written.
-/

namespace UptimeChecker

open TaggedUnion

namespace Assertions.Compiled

/-- The fields of an object. -/
def Json.asObject : Json → Option (List (String × Json))
  | object fields => some fields
  | _ => none

def Json.ofU32 (n : UInt32) : Json := number (.posInt n.toUInt64)

/-- A number that fits a `u32`. -/
def Json.asU32 : Json → Option UInt32
  | number (.posInt n) => if n.toNat < 4294967296 then some n.toUInt32 else none
  | _ => none

/-- `Vec<u32>`. -/
def Json.ofPath (path : List UInt32) : Json := array (path.map ofU32)

def Json.asPath : Json → Option (List UInt32)
  | array elements => elements.mapM asU32
  | _ => none

def Json.ofUsize (n : UInt64) : Json := number (.posInt n)

def Json.asUsize : Json → Option UInt64
  | number (.posInt n) => some n
  | _ => none

/-- `Serialize` of a `RuntimeError`. -/
def RuntimeError.serialize : RuntimeError → Json
  | invalidJsonPath assertPath msg => .object [("type", .string "invalid_json_path"),
      ("assert_path", .ofPath assertPath), ("msg", .string msg)]
  | tookTooLong assertPath => .object [("type", .string "took_too_long"),
      ("assert_path", .ofPath assertPath)]
  | invalidJsonBody body => .object [("type", .string "invalid_json_body"),
      ("body", .string body)]
  | invalidTypeComparison assertPath msg => .object [("type", .string "invalid_type_comparison"),
      ("assert_path", .ofPath assertPath), ("msg", .string msg)]

/-- The variants of a `RuntimeError`. -/
def RuntimeError.variants : List (Variant Json RuntimeError) :=
  [⟨"invalid_json_path", fun fields => do
      let assertPath ← (← field "assert_path" fields).asPath
      let msg ← (← field "msg" fields).asStr
      some (invalidJsonPath assertPath msg)⟩,
    ⟨"took_too_long", fun fields => do
      let assertPath ← (← field "assert_path" fields).asPath
      some (tookTooLong assertPath)⟩,
    ⟨"invalid_json_body", fun fields => do
      let body ← (← field "body" fields).asStr
      some (invalidJsonBody body)⟩,
    ⟨"invalid_type_comparison", fun fields => do
      let assertPath ← (← field "assert_path" fields).asPath
      let msg ← (← field "msg" fields).asStr
      some (invalidTypeComparison assertPath msg)⟩]

/-- `Deserialize` of a `RuntimeError`. -/
def RuntimeError.deserialize (json : Json) : Option RuntimeError :=
  json.asObject.bind (readTagged "type" Json.asStr variants)

/-- `Serialize` of a `CompilationError`. -/
def CompilationError.serialize : CompilationError → Json
  | invalidGlob assertPath glob msg => .object [("type", .string "invalid_glob"),
      ("assert_path", .ofPath assertPath), ("glob", .string glob), ("msg", .string msg)]
  | jsonPathParser assertPath msg path pos => .object [("type", .string "json_path_parser"),
      ("assert_path", .ofPath assertPath), ("msg", .string msg), ("path", .string path),
      ("pos", .ofUsize pos)]
  | invalidJsonPath assertPath msg => .object [("type", .string "invalid_json_path"),
      ("assert_path", .ofPath assertPath), ("msg", .string msg)]
  | tooManyOperations assertPath => .object [("type", .string "too_many_operations"),
      ("assert_path", .ofPath assertPath)]

/-- The variants of a `CompilationError`. -/
def CompilationError.variants : List (Variant Json CompilationError) :=
  [⟨"invalid_glob", fun fields => do
      let assertPath ← (← field "assert_path" fields).asPath
      let glob ← (← field "glob" fields).asStr
      let msg ← (← field "msg" fields).asStr
      some (invalidGlob assertPath glob msg)⟩,
    ⟨"json_path_parser", fun fields => do
      let assertPath ← (← field "assert_path" fields).asPath
      let msg ← (← field "msg" fields).asStr
      let path ← (← field "path" fields).asStr
      let pos ← (← field "pos" fields).asUsize
      some (jsonPathParser assertPath msg path pos)⟩,
    ⟨"invalid_json_path", fun fields => do
      let assertPath ← (← field "assert_path" fields).asPath
      let msg ← (← field "msg" fields).asStr
      some (invalidJsonPath assertPath msg)⟩,
    ⟨"too_many_operations", fun fields => do
      let assertPath ← (← field "assert_path" fields).asPath
      some (tooManyOperations assertPath)⟩]

/-- `Deserialize` of a `CompilationError`. -/
def CompilationError.deserialize (json : Json) : Option CompilationError :=
  json.asObject.bind (readTagged "type" Json.asStr variants)

end Assertions.Compiled

open Assertions.Compiled

namespace CheckFailureDetails

/-- `Serialize`: the error alone. -/
def serialize : CheckFailureDetails → Json
  | assertionCompilationError error => error.serialize
  | assertionEvaluationError error => error.serialize

/-- The alternatives of the untagged enum. -/
def readCompilationError (json : Json) : Option CheckFailureDetails :=
  (CompilationError.deserialize json).map assertionCompilationError

def readEvaluationError (json : Json) : Option CheckFailureDetails :=
  (RuntimeError.deserialize json).map assertionEvaluationError

/-- `Deserialize`: the alternatives in the order of their declaration. -/
def deserialize : Json → Option CheckFailureDetails :=
  readUntagged [readCompilationError, readEvaluationError]

end CheckFailureDetails

end UptimeChecker
