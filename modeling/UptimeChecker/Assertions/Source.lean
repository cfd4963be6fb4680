import Mathlib.Init

/-!
# The assertion a subscription carries

The tree a user writes, as it arrives in a check config: boolean connectives over three kinds of
leaves. Nothing in it has been parsed yet; a JSONPath and a glob are the strings the user typed,
and `Assertions.Compiled` is where they are read.

Configs are compared field by field when they enter a bucket, so equality of trees is decided
here, by the same recursion the derived `PartialEq` runs.
-/

namespace UptimeChecker.Assertions

/-- How a leaf compares what the response holds with what the user wrote. -/
inductive Comparison where
  | always
  | never
  | lessThan
  | greaterThan
  | equals
  | notEqual
deriving DecidableEq, Repr

structure GlobPattern where
  value : String
deriving DecidableEq, Repr

inductive HeaderOperand where
  | none
  | literal (value : String)
  | glob (pattern : GlobPattern)
deriving DecidableEq, Repr

inductive JSONPathOperand where
  | none
  | literal (value : String)
  | glob (pattern : GlobPattern)
deriving DecidableEq, Repr

inductive Op where
  | and (children : List Op)
  | or (children : List Op)
  | not (operand : Op)
  | statusCodeCheck (value : UInt16) (operator : Comparison)
  | jsonPath (value : String) (operator : Comparison) (operand : JSONPathOperand)
  | headerCheck (keyOp : Comparison) (keyOperand : HeaderOperand)
      (valueOp : Comparison) (valueOperand : HeaderOperand)

structure Assertion where
  root : Op

mutual

/-- Whether the tree has a JSONPath in it. -/
def Assertion.requiresBodyImpl : Op → Bool
  | .and children => Assertion.anyRequiresBody children
  | .or children => Assertion.anyRequiresBody children
  | .not operand => Assertion.requiresBodyImpl operand
  | .statusCodeCheck .. => false
  | .jsonPath .. => true
  | .headerCheck .. => false

/-- `children.iter().any(Assertion::requires_body_impl)`. -/
def Assertion.anyRequiresBody : List Op → Bool
  | [] => false
  | c :: cs => Assertion.requiresBodyImpl c || Assertion.anyRequiresBody cs

end

def Assertion.requiresBody (assertion : Assertion) : Bool :=
  Assertion.requiresBodyImpl assertion.root

mutual

/-- Equality of two trees, decided constructor by constructor. -/
def Op.beq : Op → Op → Bool
  | .and cs, .and ds => Op.beqList cs ds
  | .or cs, .or ds => Op.beqList cs ds
  | .not a, .not b => Op.beq a b
  | .statusCodeCheck v o, .statusCodeCheck w p => v = w && o = p
  | .jsonPath v o x, .jsonPath w p y => v = w && o = p && x = y
  | .headerCheck k a v b, .headerCheck l c w d => k = l && a = c && v = w && b = d
  | _, _ => false

/-- Equality of two child lists. -/
def Op.beqList : List Op → List Op → Bool
  | [], [] => true
  | a :: as, b :: bs => Op.beq a b && Op.beqList as bs
  | _, _ => false

end

mutual

theorem Op.beq_iff : ∀ a b : Op, Op.beq a b = true ↔ a = b
  | .and cs, b => by cases b <;> simp [Op.beq, Op.beqList_iff cs]
  | .or cs, b => by cases b <;> simp [Op.beq, Op.beqList_iff cs]
  | .not a, b => by cases b <;> simp [Op.beq, Op.beq_iff a]
  | .statusCodeCheck .., b => by cases b <;> simp [Op.beq]
  | .jsonPath .., b => by cases b <;> simp [Op.beq, and_assoc]
  | .headerCheck .., b => by cases b <;> simp [Op.beq, and_assoc]

theorem Op.beqList_iff : ∀ as bs : List Op, Op.beqList as bs = true ↔ as = bs
  | [], bs => by cases bs <;> simp [Op.beqList]
  | a :: as, bs => by cases bs <;> simp [Op.beqList, Op.beq_iff a, Op.beqList_iff as]

end

instance : DecidableEq Op := fun a b => decidable_of_iff _ (Op.beq_iff a b)

instance : DecidableEq Assertion := fun a b =>
  decidable_of_iff (a.root = b.root)
    ⟨fun h => by cases a; cases b; cases h; rfl, fun h => by rw [h]⟩

end UptimeChecker.Assertions
