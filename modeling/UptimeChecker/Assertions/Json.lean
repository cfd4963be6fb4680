import UptimeChecker.Types.FailureDetails

/-!
# Assertions as JSON

What `derive(Serialize, Deserialize)` makes of the tree a user writes. Every enum in it is tagged,
each by a field of its own: `op`, `cmp`, `header_op`, `jsonpath_op`. JSON is taken as the tree that
its text is parsed to, which may be of any depth, and in which every record is an object; serde
would read a record from a sequence of its fields as well.
-/

namespace UptimeChecker

open TaggedUnion

namespace Assertions.Compiled

def Json.ofU16 (n : UInt16) : Json := number (.posInt n.toUInt64)

/-- A number that fits a `u16`. -/
def Json.asU16 : Json → Option UInt16
  | number (.posInt n) => if n.toNat < 65536 then some n.toUInt16 else none
  | _ => none

end Assertions.Compiled

namespace Assertions

open Compiled (Json)

/-- The name of a variant in snake case. -/
def Comparison.name : Comparison → String
  | always => "always"
  | never => "never"
  | lessThan => "less_than"
  | greaterThan => "greater_than"
  | equals => "equals"
  | notEqual => "not_equal"

def Comparison.serialize (comparison : Comparison) : Json :=
  .object [("cmp", .string comparison.name)]

/-- The variants of a `Comparison`, none of which has fields. -/
def Comparison.variants : List (Variant Json Comparison) :=
  [always, never, lessThan, greaterThan, equals, notEqual].map fun comparison =>
    ⟨comparison.name, fun _ => some comparison⟩

def Comparison.deserialize (json : Json) : Option Comparison :=
  json.asObject.bind (readTagged "cmp" Json.asStr variants)

def GlobPattern.serialize (pattern : GlobPattern) : Json :=
  .object [("value", .string pattern.value)]

def GlobPattern.deserialize (json : Json) : Option GlobPattern := do
  let value ← (← field "value" (← json.asObject)).asStr
  some ⟨value⟩

def HeaderOperand.serialize : HeaderOperand → Json
  | none => .object [("header_op", .string "none")]
  | literal value => .object [("header_op", .string "literal"), ("value", .string value)]
  | glob pattern => .object [("header_op", .string "glob"), ("pattern", pattern.serialize)]

def HeaderOperand.variants : List (Variant Json HeaderOperand) :=
  [⟨"none", fun _ => some none⟩,
    ⟨"literal", fun fields => do
      let value ← (← field "value" fields).asStr
      some (literal value)⟩,
    ⟨"glob", fun fields => do
      let pattern ← GlobPattern.deserialize (← field "pattern" fields)
      some (glob pattern)⟩]

def HeaderOperand.deserialize (json : Json) : Option HeaderOperand :=
  json.asObject.bind (readTagged "header_op" Json.asStr variants)

def JSONPathOperand.serialize : JSONPathOperand → Json
  | none => .object [("jsonpath_op", .string "none")]
  | literal value => .object [("jsonpath_op", .string "literal"), ("value", .string value)]
  | glob pattern => .object [("jsonpath_op", .string "glob"), ("pattern", pattern.serialize)]

def JSONPathOperand.variants : List (Variant Json JSONPathOperand) :=
  [⟨"none", fun _ => some none⟩,
    ⟨"literal", fun fields => do
      let value ← (← field "value" fields).asStr
      some (literal value)⟩,
    ⟨"glob", fun fields => do
      let pattern ← GlobPattern.deserialize (← field "pattern" fields)
      some (glob pattern)⟩]

def JSONPathOperand.deserialize (json : Json) : Option JSONPathOperand :=
  json.asObject.bind (readTagged "jsonpath_op" Json.asStr variants)

mutual

/-- `Serialize` of an `Op`. -/
def Op.serialize : Op → Json
  | .and children =>
    .object [("op", .string "and"), ("children", .array (Op.serializeAll children))]
  | .or children =>
    .object [("op", .string "or"), ("children", .array (Op.serializeAll children))]
  | .not operand => .object [("op", .string "not"), ("operand", operand.serialize)]
  | .statusCodeCheck value operator => .object [("op", .string "status_code_check"),
      ("value", .ofU16 value), ("operator", operator.serialize)]
  | .jsonPath value operator operand => .object [("op", .string "json_path"),
      ("value", .string value), ("operator", operator.serialize), ("operand", operand.serialize)]
  | .headerCheck keyOp keyOperand valueOp valueOperand => .object [("op", .string "header_check"),
      ("key_op", keyOp.serialize), ("key_operand", keyOperand.serialize),
      ("value_op", valueOp.serialize), ("value_operand", valueOperand.serialize)]

/-- `Serialize` of a `Vec<Op>`. -/
def Op.serializeAll : List Op → List Json
  | [] => []
  | c :: cs => c.serialize :: Op.serializeAll cs

end

/-- A field of an object, with what it reads as where an `Op` or a `Vec<Op>` is asked for. -/
structure Op.Reading where
  json : Json
  op : Option Op
  ops : Option (List Op)

/-- The variants of an `Op`. The comparison and the operand of a JSONPath were added later, and have
defaults. -/
def Op.variants : List (Variant Op.Reading Op) :=
  [⟨"and", fun fields => do
      let children ← (← field "children" fields).ops
      some (.and children)⟩,
    ⟨"or", fun fields => do
      let children ← (← field "children" fields).ops
      some (.or children)⟩,
    ⟨"not", fun fields => do
      let operand ← (← field "operand" fields).op
      some (.not operand)⟩,
    ⟨"status_code_check", fun fields => do
      let value ← (← field "value" fields).json.asU16
      let operator ← Comparison.deserialize (← field "operator" fields).json
      some (.statusCodeCheck value operator)⟩,
    ⟨"json_path", fun fields => do
      let value ← (← field "value" fields).json.asStr
      let operator ← fieldOr "operator" (fun f => Comparison.deserialize f.json) .always fields
      let operand ← fieldOr "operand" (fun f => JSONPathOperand.deserialize f.json) .none fields
      some (.jsonPath value operator operand)⟩,
    ⟨"header_check", fun fields => do
      let keyOp ← Comparison.deserialize (← field "key_op" fields).json
      let keyOperand ← HeaderOperand.deserialize (← field "key_operand" fields).json
      let valueOp ← Comparison.deserialize (← field "value_op" fields).json
      let valueOperand ← HeaderOperand.deserialize (← field "value_operand" fields).json
      some (.headerCheck keyOp keyOperand valueOp valueOperand)⟩]

mutual

/-- `Deserialize` of an `Op`. -/
def Op.deserialize : Json → Option Op
  | .object fields => readTagged "op" (·.json.asStr) Op.variants (Op.deserializeFields fields)
  | _ => none

/-- `Deserialize` of a `Vec<Op>`. -/
def Op.deserializeVec : Json → Option (List Op)
  | .array elements => Op.deserializeAll elements
  | _ => none

def Op.deserializeAll : List Json → Option (List Op)
  | [] => some []
  | e :: es => do
    let op ← Op.deserialize e
    let ops ← Op.deserializeAll es
    some (op :: ops)

def Op.deserializeFields : List (String × Json) → List (String × Op.Reading)
  | [] => []
  | (name, value) :: fields =>
    (name, ⟨value, Op.deserialize value, Op.deserializeVec value⟩) :: Op.deserializeFields fields

end

def Assertion.serialize (assertion : Assertion) : Json :=
  .object [("root", assertion.root.serialize)]

def Assertion.deserialize (json : Json) : Option Assertion := do
  let root ← Op.deserialize (← field "root" (← json.asObject))
  some ⟨root⟩

end Assertions

end UptimeChecker
