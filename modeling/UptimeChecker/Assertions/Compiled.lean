import UptimeChecker.Assertions.Source
import UptimeChecker.Lib.Metered
import UptimeChecker.Numeric

/-!
# Compiled assertions

A compiled assertion is the user's tree with its globs and JSONPaths read and its literals coerced.
Compiling counts the nodes against a budget; evaluating draws on a gas budget and answers, next to
the verdict, the path in the tree that led to it. Both keep the path of the node they are at, which
is what an error is stamped with: a node pushes its index when it is entered and pops it only when
it succeeds, so on an error the path still leads to the node that raised it.

The libraries underneath (the glob matcher, JSONPath, serde_json) are the fields of `Externals`. The
parts of a run that only time it, and the `tracing` calls, are not kept.
-/

namespace UptimeChecker.Assertions.Compiled

open Metered

/-! ## What comes from outside -/

/-- `serde_json::Number`. -/
inductive Number where
  | posInt (n : UInt64)
  | negInt (n : Int64)
  | float (x : Float)
deriving DecidableEq

/-- `serde_json::Value`. -/
inductive Json where
  | null
  | bool (b : Bool)
  | number (n : Number)
  | string (s : String)
  | array (elements : List Json)
  | object (fields : List (String × Json))

/-- `Value::as_f64`: every number has a nearest double. -/
def Json.asF64 : Json → Option Float
  | number (.posInt n) => some n.toFloat
  | number (.negInt n) => some (Float.ofInt n.toInt)
  | number (.float x) => some x
  | _ => none

/-- `Value::as_i64`: a positive number has to fit. -/
def Json.asI64 : Json → Option Int64
  | number (.posInt n) => if n.toNat < 9223372036854775808 then some (Int64.ofNat n.toNat) else none
  | number (.negInt n) => some n
  | _ => none

/-- `Value::as_str`. -/
def Json.asStr : Json → Option String
  | string s => some s
  | _ => none

/-- `pest::error::InputLocation`. -/
inductive InputLocation where
  | pos (pos : UInt64)
  | span (start stop : UInt64)

/-- `JsonPathError`, with the parts of it that a conversion reads. -/
inductive JsonPathError where
  | tookTooLong
  | pestError (location : InputLocation) (line : String) (display : String)
  | invalidGlob (glob reason : String)
  | other (display : String)

/-- The libraries under an assertion: relay-pattern, jsonpath-rust and serde_json. -/
structure Externals where
  /-- `relay_pattern::Pattern`. -/
  Pattern : Type
  /-- `Pattern::builder(text).max_complexity(limit).build()`, an error being its text. -/
  buildPattern : String → Nat → Except String Pattern
  /-- `Pattern::is_match`. -/
  isMatch : Pattern → String → Bool
  /-- `jsonpath_rust::parser::model::JpQuery`. -/
  JpQuery : Type
  /-- `parse_json_path`. -/
  parseJsonPath : String → Nat → Except JsonPathError JpQuery
  /-- `js_path_process`, which draws on the gas it is lent. -/
  jsPathProcess : JpQuery → Json → Meter JsonPathError (List Json)
  /-- `Display` of a `JsonPathError`. -/
  displayJsonPathError : JsonPathError → String
  /-- `serde_json::from_slice`, an error being its text. -/
  fromSlice : List UInt8 → Except String Json
  /-- `Display` of a `serde_json::Value`. -/
  displayJson : Json → String

/-- `HeaderValue`: any bytes. -/
abbrev HeaderValue := List UInt8

/-- `HeaderValue::to_str`: visible ASCII and tabs only. -/
def HeaderValue.toStr (v : HeaderValue) : Option String :=
  if v.all fun b => (32 ≤ b && b < 127) || b = 9 then
    some (String.ofList (v.map fun b => Char.ofNat b.toNat))
  else none

/-- `HeaderMap`, as its iterator yields it: a name comes once for each of its values. -/
abbrev HeaderMap := List (String × HeaderValue)

/-! ## Errors -/

inductive RuntimeError where
  | invalidJsonPath (assertPath : List UInt32) (msg : String)
  | tookTooLong (assertPath : List UInt32)
  | invalidJsonBody (body : String)
  | invalidTypeComparison (assertPath : List UInt32) (msg : String)
deriving DecidableEq, Repr

/-- Stamp the path of the node on an error. The path of `tookTooLong` is left as it is. -/
def RuntimeError.setPath (path : List UInt32) : RuntimeError → RuntimeError
  | invalidJsonPath _ msg => invalidJsonPath path msg
  | invalidTypeComparison _ msg => invalidTypeComparison path msg
  | other => other

/-- `Display` of a `RuntimeError`. -/
def RuntimeError.display : RuntimeError → String
  | invalidJsonPath _ msg => "Invalid JSONPath: " ++ msg
  | tookTooLong _ => "Assertion took too long"
  | invalidJsonBody body => "Invalid Body JSON: " ++ body
  | invalidTypeComparison _ msg => "Invalid type in comparison: " ++ msg

inductive CompilationError where
  | invalidGlob (assertPath : List UInt32) (glob msg : String)
  | jsonPathParser (assertPath : List UInt32) (msg path : String) (pos : UInt64)
  | invalidJsonPath (assertPath : List UInt32) (msg : String)
  | tooManyOperations (assertPath : List UInt32)
deriving DecidableEq, Repr

/-- Stamp the path of the node on an error. -/
def CompilationError.setPath (path : List UInt32) : CompilationError → CompilationError
  | invalidGlob _ glob msg => invalidGlob path glob msg
  | jsonPathParser _ msg text pos => jsonPathParser path msg text pos
  | invalidJsonPath _ msg => invalidJsonPath path msg
  | tooManyOperations _ => tooManyOperations path

/-- `Display` of a `CompilationError`. -/
def CompilationError.display : CompilationError → String
  | invalidGlob _ glob msg => "Invalid glob " ++ glob ++ ": " ++ msg
  | jsonPathParser _ msg _ _ => "JSONPath Parser Error: " ++ msg
  | invalidJsonPath _ msg => "Invalid JSONPath: " ++ msg
  | tooManyOperations _ => "Too many assertion operations"

/-- `From<ParseIntError>` and `From<ParseFloatError>`. -/
def RuntimeError.ofParseError (text : String) : RuntimeError :=
  .invalidTypeComparison [] text

/-- `From<JsonPathError>` for `RuntimeError`. -/
def RuntimeError.ofJsonPathError (lib : Externals) : JsonPathError → RuntimeError
  | .tookTooLong => .tookTooLong []
  | rest => .invalidJsonPath [] (lib.displayJsonPathError rest)

/-- `From<JsonPathError>` for `CompilationError`. -/
def CompilationError.ofJsonPathError (lib : Externals) : JsonPathError → CompilationError
  | .pestError location line display =>
    let pos := match location with
      | .pos pos => pos
      | .span start _ => start
    .jsonPathParser [] display line pos
  | .invalidGlob glob reason => .invalidGlob [] glob reason
  | rest => .invalidJsonPath [] (lib.displayJsonPathError rest)

/-! ## Results -/

/-- The path in the tree that led to a verdict. -/
inductive EvalPath where
  | leaf
  | allChildren
  | childIndex (index : Nat) (child : EvalPath)
deriving DecidableEq, Repr

@[ext] structure EvalResult where
  reasonPath : EvalPath
  result : Bool
deriving DecidableEq, Repr

namespace EvalResult

/-- A conjunction all of whose children hold. -/
def andNode : EvalResult := ⟨.allChildren, true⟩

/-- A disjunction none of whose children holds. -/
def orNode : EvalResult := ⟨.allChildren, false⟩

/-- A leaf that is itself responsible for the result. -/
def leaf (value : Bool) : EvalResult := ⟨.leaf, value⟩

/-- A node of which one child is responsible for the result. -/
def childIdx (index : Nat) (value : Bool) (path : EvalPath) : EvalResult :=
  ⟨.childIndex index path, value⟩

end EvalResult

/-- The part of the user's tree that a path leads through. No answer where the index is out of range
or the arm is the `unreachable!` one. -/
def extractFailureData : EvalPath → Assertions.Op → Option Assertions.Op
  | .leaf, op => some op
  | .allChildren, op => some op
  | .childIndex index child, .and children =>
    children[index]?.bind fun c => (extractFailureData child c).map fun s => .and [s]
  | .childIndex index child, .or children =>
    children[index]?.bind fun c => (extractFailureData child c).map fun s => .or [s]
  | .childIndex _ child, .not operand => (extractFailureData child operand).map .not
  | .childIndex .., _ => none

/-! ## Comparisons -/

/-- `Gas::consume`. -/
def Gas.consume (amount : Nat) : Meter RuntimeError Unit :=
  Metered.consume (.tookTooLong []) amount

inductive Comparison where
  | always
  | never
  | lessThan
  | greaterThan
  | equal
  | notEqual
deriving DecidableEq, Repr

/-- `From<&super::Comparison>`. -/
def Comparison.ofSource : Assertions.Comparison → Comparison
  | .always => .always
  | .never => .never
  | .lessThan => .lessThan
  | .greaterThan => .greaterThan
  | .equals => .equal
  | .notEqual => .notEqual

/-- A literal of a header check, read as a number where it can be. -/
inductive Value where
  | i64 (n : Int64)
  | f64 (x : Float)
  | string (s : String)

/-- `From<&String> for Value`. -/
def Value.ofString (value : String) : Value :=
  match parseF64 value with
  | .ok f => .f64 f
  | .error _ =>
    match parseI64 value with
    | .ok i => .i64 i
    | .error _ => .string value

/-- The two numeric types and strings, with the order and equality of Rust's `PartialOrd` and
`PartialEq`: IEEE comparison on doubles, the order of code points (which is the order of the UTF-8
bytes) on strings. -/
class Cmp (T : Type) where
  lt : T → T → Bool
  eq : T → T → Bool

instance : Cmp Float := ⟨fun a b => a.lt b, fun a b => a == b⟩
instance : Cmp Int64 := ⟨fun a b => decide (a < b), fun a b => a == b⟩
instance : Cmp String := ⟨fun a b => decide (a < b), fun a b => a == b⟩

section
variable {T : Type} [Cmp T]

def cmpEq (responseValue testValue : T) : Meter RuntimeError Bool := do
  Gas.consume 1
  return Cmp.eq responseValue testValue

def cmpLt (responseValue testValue : T) : Meter RuntimeError Bool := do
  Gas.consume 1
  return Cmp.lt responseValue testValue

def cmpGt (responseValue testValue : T) : Meter RuntimeError Bool := do
  Gas.consume 1
  return Cmp.lt testValue responseValue

end

variable {lib : Externals}

/-- `header_value.parse()?`, an error becoming a type comparison error. -/
def parsed {T : Type} (r : Except String T) : Meter RuntimeError T :=
  answer (r.mapError .ofParseError)

/-- Compare a JSON value with a literal at the first type both have: doubles, then integers, then
strings. -/
def cmpCoerceJson (lib : Externals) (jsonValue : Json) (testValue : String)
    (cmpF64 : Float → Float → Meter RuntimeError Bool)
    (cmpI64 : Int64 → Int64 → Meter RuntimeError Bool)
    (cmpStr : String → String → Meter RuntimeError Bool) : Meter RuntimeError Bool :=
  match jsonValue.asF64, parseF64 testValue with
  | some v, .ok tv => cmpF64 v tv
  | _, _ =>
    match jsonValue.asI64, parseI64 testValue with
    | some v, .ok tv => cmpI64 v tv
    | _, _ =>
      match jsonValue.asStr with
      | some v => cmpStr v testValue
      | none => fail (.invalidTypeComparison []
          ("could not coerce a comparison between " ++ lib.displayJson jsonValue ++ " and " ++
            testValue))

def cmpLtJson (lib : Externals) (jsonValue : Json) (testValue : String) :
    Meter RuntimeError Bool :=
  cmpCoerceJson lib jsonValue testValue cmpLt cmpLt cmpLt

def cmpGtJson (lib : Externals) (jsonValue : Json) (testValue : String) :
    Meter RuntimeError Bool :=
  cmpCoerceJson lib jsonValue testValue cmpGt cmpGt cmpGt

def cmpEqJson (lib : Externals) (jsonValue : Json) (testValue : String) :
    Meter RuntimeError Bool :=
  cmpCoerceJson lib jsonValue testValue cmpEq cmpEq cmpEq

/-! ## Operands -/

inductive HeaderOperand (lib : Externals) where
  | none
  | literal (value : Value)
  | glob (value : lib.Pattern)

inductive JSONPathOperand (lib : Externals) where
  | none
  | literal (value : String)
  | glob (pattern : lib.Pattern)

/-- The gas price of a glob match. -/
def globGas : Nat := 5

def cmpEqHeader (headerValue : String) : HeaderOperand lib → Meter RuntimeError Bool
  | .literal (.i64 value) => do cmpEq (← parsed (parseI64 headerValue)) value
  | .literal (.f64 value) => do cmpEq (← parsed (parseF64 headerValue)) value
  | .literal (.string value) => cmpEq headerValue value
  | .glob value => do
    Gas.consume globGas
    return lib.isMatch value headerValue
  | .none => return false

/-- A glob on a value that is no string answers the error of a run out of gas. -/
def cmpEqJsonpath (bodyValue : Json) : JSONPathOperand lib → Meter RuntimeError Bool
  | .literal value => cmpEqJson lib bodyValue value
  | .glob pattern => do
    Gas.consume globGas
    match bodyValue.asStr with
    | some text => return lib.isMatch pattern text
    | none => fail (.tookTooLong [])
  | .none => return false

def HeaderOperand.eval (operand : HeaderOperand lib) (op : Comparison) (headerValue : String) :
    Meter RuntimeError Bool :=
  match op with
  | .always => return true
  | .never => return false
  | .lessThan =>
    match operand with
    | .none => return false
    | .literal (.i64 value) => do cmpLt (← parsed (parseI64 headerValue)) value
    | .literal (.f64 value) => do cmpLt (← parsed (parseF64 headerValue)) value
    | .literal (.string value) => cmpLt headerValue value
    | .glob _ => return false
  | .greaterThan =>
    match operand with
    | .none => return false
    | .literal (.i64 value) => do cmpGt (← parsed (parseI64 headerValue)) value
    | .literal (.f64 value) => do cmpGt (← parsed (parseF64 headerValue)) value
    | .literal (.string value) => cmpGt headerValue value
    | .glob _ => return false
  | .equal => cmpEqHeader headerValue operand
  | .notEqual => do return !(← cmpEqHeader headerValue operand)

/-- The test of one query result. -/
def JSONPathOperand.evalOne (operand : JSONPathOperand lib) (op : Comparison) (v : Json) :
    Meter RuntimeError Bool :=
  match op with
  | .always => return true
  | .never => return false
  | .lessThan =>
    match operand with
    | .none => return false
    | .literal value => cmpLtJson lib v value
    | .glob _ => return false
  | .greaterThan =>
    match operand with
    | .none => return false
    | .literal value => cmpGtJson lib v value
    | .glob _ => return false
  | .equal => cmpEqJsonpath v operand
  | .notEqual => do return !(← cmpEqJsonpath v operand)

/-- Every result passes, from the first on. -/
def JSONPathOperand.evalAll (operand : JSONPathOperand lib) (op : Comparison) :
    List Json → Meter RuntimeError Bool
  | [] => return true
  | v :: rest => do
    if ← operand.evalOne op v then evalAll operand op rest else return false

/-- All results of a query pass, and there is one. -/
def JSONPathOperand.eval (operand : JSONPathOperand lib) (op : Comparison) (result : List Json) :
    Meter RuntimeError Bool :=
  if result.isEmpty then return false else operand.evalAll op result

/-! ## Evaluation -/

inductive Op (lib : Externals) where
  | and (children : List (Op lib))
  | or (children : List (Op lib))
  | not (operand : Op lib)
  | statusCodeCheck (value : UInt16) (operator : Comparison)
  | jsonPath (value : lib.JpQuery) (operator : Comparison) (operand : JSONPathOperand lib)
  | headerCheck (keyOp : Comparison) (keyOperand : HeaderOperand lib)
      (valueOp : Comparison) (valueOperand : HeaderOperand lib)

structure Assertion (lib : Externals) where
  root : Op lib

/-- What an assertion is evaluated on. -/
structure Response where
  statusCode : UInt16
  headers : HeaderMap
  body : List UInt8

def evalStatusCodeCheck (value : UInt16) (operator : Comparison) (response : Response) :
    Meter RuntimeError Bool := do
  Gas.consume 1
  return match operator with
    | .always => true
    | .never => false
    | .lessThan => decide (response.statusCode < value)
    | .greaterThan => decide (value < response.statusCode)
    | .equal => value == response.statusCode
    | .notEqual => value != response.statusCode

/-- A header passes both tests: the name first, then the value if it is text. -/
def evalHeaderCheck (keyOp : Comparison) (keyOperand : HeaderOperand lib)
    (valueOp : Comparison) (valueOperand : HeaderOperand lib) :
    HeaderMap → Meter RuntimeError Bool
  | [] => return false
  | (k, v) :: rest => do
    if ← keyOperand.eval keyOp k then
      match v.toStr with
      | some valueStr =>
        if ← valueOperand.eval valueOp valueStr then return true
        else evalHeaderCheck keyOp keyOperand valueOp valueOperand rest
      | none => evalHeaderCheck keyOp keyOperand valueOp valueOperand rest
    else evalHeaderCheck keyOp keyOperand valueOp valueOperand rest

/-- `js_path_process(..)?`: the query draws on the same gas. -/
def jsPathProcess (value : lib.JpQuery) (json : Json) : Meter RuntimeError (List Json) :=
  fun gas => (lib.jsPathProcess value json gas).mapError (.ofJsonPathError lib)

def evalJsonPath (value : lib.JpQuery) (operator : Comparison) (operand : JSONPathOperand lib)
    (response : Response) : Meter RuntimeError Bool := do
  let json ← answer ((lib.fromSlice response.body).mapError .invalidJsonBody)
  let result ← jsPathProcess value json
  operand.eval operator result

/-- The gas left, and the path of the node being evaluated. -/
structure EvalState where
  gas : Nat
  path : List UInt32
deriving DecidableEq, Repr

abbrev EvalM := EStateM RuntimeError EvalState

/-- Run a part of a leaf on the gas; on an error nobody reads the gas again. -/
def charge {α : Type} (m : Meter RuntimeError α) : EvalM α := fun s =>
  match m s.gas with
  | .ok (a, gas) => .ok a { s with gas }
  | .error e => .error e s

def pushPath (idx : UInt32) : EvalM Unit := modify fun s => { s with path := s.path ++ [idx] }

def popPath : EvalM Unit := modify fun s => { s with path := s.path.dropLast }

mutual

/-- Evaluate a node, the child `idx` of its parent. -/
def Op.eval (response : Response) (idx : UInt32) : Op lib → EvalM EvalResult
  | .and children => do
    pushPath idx
    let result ← Op.evalAnd response 0 children
    popPath
    return result
  | .or children => do
    pushPath idx
    let result ← Op.evalOr response 0 children
    popPath
    return result
  | .not operand => do
    pushPath idx
    let eval ← Op.eval response 0 operand
    let result := EvalResult.childIdx 0 (!eval.result) eval.reasonPath
    popPath
    return result
  | .statusCodeCheck value operator => do
    pushPath idx
    let result := EvalResult.leaf (← charge (evalStatusCodeCheck value operator response))
    popPath
    return result
  | .headerCheck keyOp keyOperand valueOp valueOperand => do
    pushPath idx
    let result := EvalResult.leaf
      (← charge (evalHeaderCheck keyOp keyOperand valueOp valueOperand response.headers))
    popPath
    return result
  | .jsonPath value operator operand => do
    pushPath idx
    let result := EvalResult.leaf (← charge (evalJsonPath value operator operand response))
    popPath
    return result

/-- The loop of a conjunction, at the child `idx`: it breaks at the first child that fails. -/
def Op.evalAnd (response : Response) (idx : Nat) : List (Op lib) → EvalM EvalResult
  | [] => return EvalResult.andNode
  | child :: rest => do
    let eval ← Op.eval response (UInt32.ofNat idx) child
    if !eval.result then return EvalResult.childIdx idx eval.result eval.reasonPath
    else Op.evalAnd response (idx + 1) rest

/-- The loop of a disjunction, at the child `idx`: it breaks at the first child that holds. -/
def Op.evalOr (response : Response) (idx : Nat) : List (Op lib) → EvalM EvalResult
  | [] => return EvalResult.orNode
  | child :: rest => do
    let eval ← Op.eval response (UInt32.ofNat idx) child
    if eval.result then return EvalResult.childIdx idx eval.result eval.reasonPath
    else Op.evalOr response (idx + 1) rest

end

/-- `Assertion::eval`: evaluate the root and stamp the path on an error. -/
def Assertion.eval (assertion : Assertion lib) (response : Response) (assertionComplexity : Nat) :
    Except RuntimeError EvalResult :=
  match assertion.root.eval response 0 ⟨assertionComplexity, []⟩ with
  | .ok result _ => .ok result
  | .error e s => .error (e.setPath s.path)

/-! ## Compilation -/

/-- `GLOB_COMPLEXITY_LIMIT`. -/
def globComplexityLimit : Nat := 20

/-- A glob, as both operands build it: the error is its own text twice. -/
def buildGlob (lib : Externals) (pattern : GlobPattern) : Except CompilationError lib.Pattern :=
  (lib.buildPattern pattern.value globComplexityLimit).mapError fun e => .invalidGlob [] e e

/-- `TryFrom<&super::JSONPathOperand>`. -/
def JSONPathOperand.tryFrom (lib : Externals) :
    Assertions.JSONPathOperand → Except CompilationError (JSONPathOperand lib)
  | .none => .ok .none
  | .literal value => .ok (.literal value)
  | .glob pattern => (buildGlob lib pattern).map .glob

/-- `TryFrom<&super::HeaderOperand>`. -/
def HeaderOperand.tryFrom (lib : Externals) :
    Assertions.HeaderOperand → Except CompilationError (HeaderOperand lib)
  | .none => .ok .none
  | .literal value => .ok (.literal (.ofString value))
  | .glob pattern => (buildGlob lib pattern).map .glob

/-- The operations left, and the path of the node being compiled. -/
structure CompileState where
  numOps : Nat
  path : List UInt32
deriving DecidableEq, Repr

abbrev CompileM := EStateM CompilationError CompileState

def decOps : CompileM Unit := fun s =>
  if 0 < s.numOps then .ok () { s with numOps := s.numOps - 1 }
  else .error (.tooManyOperations []) s

/-- A fallible conversion, at no cost. -/
def convert {α : Type} (r : Except CompilationError α) : CompileM α := fun s =>
  match r with
  | .ok a => .ok a s
  | .error e => .error e s

def pushCompilePath (idx : UInt32) : CompileM Unit :=
  modify fun s => { s with path := s.path ++ [idx] }

def popCompilePath : CompileM Unit := modify fun s => { s with path := s.path.dropLast }

def compileHeaderCheck (lib : Externals) (keyOp : Assertions.Comparison)
    (keyOperand : Assertions.HeaderOperand) (valueOp : Assertions.Comparison)
    (valueOperand : Assertions.HeaderOperand) : Except CompilationError (Op lib) := do
  let keyOperand ← HeaderOperand.tryFrom lib keyOperand
  let valueOperand ← HeaderOperand.tryFrom lib valueOperand
  return .headerCheck (.ofSource keyOp) keyOperand (.ofSource valueOp) valueOperand

def compileJsonPath (lib : Externals) (value : String) (operator : Assertions.Comparison)
    (operand : Assertions.JSONPathOperand) : Except CompilationError (Op lib) := do
  let value ← (lib.parseJsonPath value globComplexityLimit).mapError (.ofJsonPathError lib)
  let operand ← JSONPathOperand.tryFrom lib operand
  return .jsonPath value (.ofSource operator) operand

mutual

/-- Compile a node, the child `idx` of its parent. -/
def compileOp (lib : Externals) (idx : UInt32) : Assertions.Op → CompileM (Op lib)
  | .and children => do
    pushCompilePath idx
    decOps
    let op := Op.and (← visitChildren lib 0 children)
    popCompilePath
    return op
  | .or children => do
    pushCompilePath idx
    decOps
    let op := Op.or (← visitChildren lib 0 children)
    popCompilePath
    return op
  | .not operand => do
    pushCompilePath idx
    decOps
    let op := Op.not (← compileOp lib 0 operand)
    popCompilePath
    return op
  | .statusCodeCheck value operator => do
    pushCompilePath idx
    decOps
    let op := Op.statusCodeCheck value (.ofSource operator)
    popCompilePath
    return op
  | .headerCheck keyOp keyOperand valueOp valueOperand => do
    pushCompilePath idx
    decOps
    let op ← convert (compileHeaderCheck lib keyOp keyOperand valueOp valueOperand)
    popCompilePath
    return op
  | .jsonPath value operator operand => do
    pushCompilePath idx
    decOps
    let op ← convert (compileJsonPath lib value operator operand)
    popCompilePath
    return op

/-- Compile the children of a node, from the child `idx` on. -/
def visitChildren (lib : Externals) (idx : Nat) : List Assertions.Op → CompileM (List (Op lib))
  | [] => return []
  | c :: rest => do
    let op ← compileOp lib (UInt32.ofNat idx) c
    let ops ← visitChildren lib (idx + 1) rest
    return op :: ops

end

/-- `compile`: compile the root and stamp the path on an error. -/
def compile (lib : Externals) (assertion : Assertions.Assertion) (maxAssertionOps : Nat) :
    Except CompilationError (Assertion lib) :=
  match compileOp lib 0 assertion.root ⟨maxAssertionOps, []⟩ with
  | .ok op _ => .ok ⟨op⟩
  | .error e s => .error (e.setPath s.path)

end UptimeChecker.Assertions.Compiled
