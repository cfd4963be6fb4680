import UptimeChecker.Assertions.Json
import UptimeChecker.Laws.FailureDetails

/-!
# Assertions over the wire

A document *tells* an assertion when its objects carry the assertion's fields, in any order and with
others beside them, at every depth; the two fields of a JSONPath that older writers do not know may
be left out where they hold their defaults. Every document that tells an assertion is read as that
assertion, and what is written of an assertion tells it.
-/

namespace UptimeChecker

open TaggedUnion

namespace Assertions.Compiled

@[simp] theorem Json.asU16_ofU16 (n : UInt16) : (Json.ofU16 n).asU16 = some n := by
  have hlt : n.toUInt64.toNat < 65536 := by
    rw [UInt16.toNat_toUInt64]
    exact n.toNat_lt
  show (if _ then _ else _) = _
  rw [if_pos hlt, UInt16.toUInt16_toUInt64]

/-- An object that carries the fields `known`. -/
def Json.IsRecord (known : List (String × Option Json)) (json : Json) : Prop :=
  ∃ fields, json = .object fields ∧ Carries known fields

/-- The object of just these fields. -/
theorem Json.IsRecord.of_present {known : List (String × Option Json)}
    (hnodup : (known.map (·.1)).Nodup) : (Json.object (present known)).IsRecord known :=
  ⟨_, rfl, .refl hnodup⟩

/-- A record behind its tag. -/
theorem Json.IsRecord.readTagged_eq {α : Type} (variants : List (Variant Json α))
    {tagField name : String} {known : List (String × Option Json)} {json : Json}
    (h : json.IsRecord ((tagField, some (.string name)) :: known)) :
    ∃ rest, Carries known rest ∧
      json.asObject.bind (readTagged tagField Json.asStr variants) =
        (variants.find? (·.name = name)).bind (·.read rest) := by
  obtain ⟨fields, rfl, hcarries⟩ := h
  exact hcarries.readTagged_eq rfl

/-- The field of a value: what tells it, or nothing where the value is the default. -/
def Json.MayOmit {α : Type} (default : α) (tells : α → Json → Prop) (value : α) :
    Option Json → Prop
  | none => value = default
  | some json => tells value json

/-- A field that may be left out has its value either way. -/
theorem Json.MayOmit.elim_eq {α : Type} {default value : α} {tells : α → Json → Prop}
    {read : Json → Option α} {json : Option Json} (h : Json.MayOmit default tells value json)
    (hread : ∀ {json}, tells value json → read json = some value) :
    json.elim (some default) read = some value := by
  cases json with
  | none => exact congrArg some h.symm
  | some json => exact hread h

end Assertions.Compiled

namespace Assertions

open Compiled (Json)

/-! ## What a document tells -/

def Comparison.Tells (comparison : Comparison) : Json → Prop :=
  Json.IsRecord [("cmp", some (.string comparison.name))]

def GlobPattern.Tells (pattern : GlobPattern) : Json → Prop :=
  Json.IsRecord [("value", some (.string pattern.value))]

def HeaderOperand.Tells : HeaderOperand → Json → Prop
  | none, json => json.IsRecord [("header_op", some (.string "none"))]
  | literal value, json =>
    json.IsRecord [("header_op", some (.string "literal")), ("value", some (.string value))]
  | glob pattern, json => ∃ patternJson, pattern.Tells patternJson ∧
    json.IsRecord [("header_op", some (.string "glob")), ("pattern", some patternJson)]

def JSONPathOperand.Tells : JSONPathOperand → Json → Prop
  | none, json => json.IsRecord [("jsonpath_op", some (.string "none"))]
  | literal value, json =>
    json.IsRecord [("jsonpath_op", some (.string "literal")), ("value", some (.string value))]
  | glob pattern, json => ∃ patternJson, pattern.Tells patternJson ∧
    json.IsRecord [("jsonpath_op", some (.string "glob")), ("pattern", some patternJson)]

mutual

/-- The documents that tell an `Op`. -/
def Op.Tells : Op → Json → Prop
  | .and children, json => ∃ elements, Op.AllTell children elements ∧
    json.IsRecord [("op", some (.string "and")), ("children", some (.array elements))]
  | .or children, json => ∃ elements, Op.AllTell children elements ∧
    json.IsRecord [("op", some (.string "or")), ("children", some (.array elements))]
  | .not operand, json => ∃ operandJson, operand.Tells operandJson ∧
    json.IsRecord [("op", some (.string "not")), ("operand", some operandJson)]
  | .statusCodeCheck value operator, json => ∃ operatorJson, operator.Tells operatorJson ∧
    json.IsRecord [("op", some (.string "status_code_check")), ("value", some (.ofU16 value)),
      ("operator", some operatorJson)]
  | .jsonPath value operator operand, json => ∃ operatorJson operandJson,
    Json.MayOmit .always Comparison.Tells operator operatorJson ∧
    Json.MayOmit .none JSONPathOperand.Tells operand operandJson ∧
    json.IsRecord [("op", some (.string "json_path")), ("value", some (.string value)),
      ("operator", operatorJson), ("operand", operandJson)]
  | .headerCheck keyOp keyOperand valueOp valueOperand, json =>
    ∃ keyOpJson keyOperandJson valueOpJson valueOperandJson,
    keyOp.Tells keyOpJson ∧ keyOperand.Tells keyOperandJson ∧
    valueOp.Tells valueOpJson ∧ valueOperand.Tells valueOperandJson ∧
    json.IsRecord [("op", some (.string "header_check")), ("key_op", some keyOpJson),
      ("key_operand", some keyOperandJson), ("value_op", some valueOpJson),
      ("value_operand", some valueOperandJson)]

/-- As many documents as children, each telling its child. -/
def Op.AllTell : List Op → List Json → Prop
  | [], elements => elements = []
  | c :: cs, elements => ∃ e es, elements = e :: es ∧ c.Tells e ∧ Op.AllTell cs es

end

def Assertion.Tells (assertion : Assertion) (json : Json) : Prop :=
  ∃ rootJson, assertion.root.Tells rootJson ∧ json.IsRecord [("root", some rootJson)]

/-! ## What is written tells what it was written from -/

theorem Comparison.tells_serialize (comparison : Comparison) :
    comparison.Tells comparison.serialize :=
  .of_present (by simp)

theorem GlobPattern.tells_serialize (pattern : GlobPattern) : pattern.Tells pattern.serialize :=
  .of_present (by simp)

theorem HeaderOperand.tells_serialize : ∀ operand : HeaderOperand, operand.Tells operand.serialize
  | none => ⟨_, rfl, .refl (by simp)⟩
  | literal _ => ⟨_, rfl, .refl (by simp)⟩
  | glob pattern => ⟨_, pattern.tells_serialize, .of_present (by simp)⟩

theorem JSONPathOperand.tells_serialize :
    ∀ operand : JSONPathOperand, operand.Tells operand.serialize
  | none => ⟨_, rfl, .refl (by simp)⟩
  | literal _ => ⟨_, rfl, .refl (by simp)⟩
  | glob pattern => ⟨_, pattern.tells_serialize, .of_present (by simp)⟩

mutual

theorem Op.tells_serialize : ∀ op : Op, op.Tells op.serialize
  | .and children => ⟨_, Op.allTell_serializeAll children, .of_present (by simp)⟩
  | .or children => ⟨_, Op.allTell_serializeAll children, .of_present (by simp)⟩
  | .not operand => ⟨_, Op.tells_serialize operand, .of_present (by simp)⟩
  | .statusCodeCheck _ operator => ⟨_, operator.tells_serialize, .of_present (by simp)⟩
  | .jsonPath _ operator operand =>
    ⟨some _, some _, operator.tells_serialize, operand.tells_serialize, .of_present (by simp)⟩
  | .headerCheck keyOp keyOperand valueOp valueOperand =>
    ⟨_, _, _, _, keyOp.tells_serialize, keyOperand.tells_serialize, valueOp.tells_serialize,
      valueOperand.tells_serialize, .of_present (by simp)⟩

theorem Op.allTell_serializeAll : ∀ children : List Op,
    Op.AllTell children (Op.serializeAll children)
  | [] => rfl
  | c :: cs => ⟨_, _, rfl, Op.tells_serialize c, Op.allTell_serializeAll cs⟩

end

theorem Assertion.tells_serialize (assertion : Assertion) : assertion.Tells assertion.serialize :=
  ⟨_, assertion.root.tells_serialize, .of_present (by simp)⟩

/-! ## What a document tells is what is read of it -/

theorem GlobPattern.deserialize_of_tells {pattern : GlobPattern} {json : Json}
    (h : pattern.Tells json) : GlobPattern.deserialize json = some pattern := by
  obtain ⟨fields, rfl, hfields⟩ := h
  have hvalue : field "value" fields = some (.string pattern.value) := hfields.field_eq (by simp)
  simp [GlobPattern.deserialize, Json.asObject, hvalue]

theorem Comparison.deserialize_of_tells {comparison : Comparison} {json : Json}
    (h : comparison.Tells json) : Comparison.deserialize json = some comparison := by
  obtain ⟨rest, -, hread⟩ := h.readTagged_eq variants
  refine hread.trans ?_
  cases comparison <;> rfl

theorem HeaderOperand.deserialize_of_tells {operand : HeaderOperand} {json : Json}
    (h : operand.Tells json) : HeaderOperand.deserialize json = some operand := by
  cases operand with
  | none =>
    obtain ⟨rest, -, hread⟩ := h.readTagged_eq variants
    exact hread
  | literal value =>
    obtain ⟨rest, hrest, hread⟩ := h.readTagged_eq variants
    have hvalue : field "value" rest = some (.string value) := hrest.field_eq (by simp)
    refine hread.trans ?_
    simp [variants, hvalue]
  | glob pattern =>
    obtain ⟨patternJson, hpattern, h⟩ := h
    obtain ⟨rest, hrest, hread⟩ := h.readTagged_eq variants
    have hvalue : field "pattern" rest = some patternJson := hrest.field_eq (by simp)
    refine hread.trans ?_
    simp [variants, hvalue, GlobPattern.deserialize_of_tells hpattern]

theorem JSONPathOperand.deserialize_of_tells {operand : JSONPathOperand} {json : Json}
    (h : operand.Tells json) : JSONPathOperand.deserialize json = some operand := by
  cases operand with
  | none =>
    obtain ⟨rest, -, hread⟩ := h.readTagged_eq variants
    exact hread
  | literal value =>
    obtain ⟨rest, hrest, hread⟩ := h.readTagged_eq variants
    have hvalue : field "value" rest = some (.string value) := hrest.field_eq (by simp)
    refine hread.trans ?_
    simp [variants, hvalue]
  | glob pattern =>
    obtain ⟨patternJson, hpattern, h⟩ := h
    obtain ⟨rest, hrest, hread⟩ := h.readTagged_eq variants
    have hvalue : field "pattern" rest = some patternJson := hrest.field_eq (by simp)
    refine hread.trans ?_
    simp [variants, hvalue, GlobPattern.deserialize_of_tells hpattern]

/-- What a value reads as. -/
private def Op.reading (json : Json) : Op.Reading :=
  ⟨json, Op.deserialize json, Op.deserializeVec json⟩

private theorem Op.deserializeFields_eq_map : ∀ fields : List (String × Json),
    Op.deserializeFields fields = fields.map fun f => (f.1, Op.reading f.2)
  | [] => rfl
  | (name, value) :: fields => by
    rw [Op.deserializeFields, Op.deserializeFields_eq_map fields]
    rfl

/-- An `Op` behind its tag. -/
private theorem Op.deserialize_record {name : String} {known : List (String × Option Json)}
    {json : Json} (h : json.IsRecord (("op", some (.string name)) :: known)) :
    ∃ rest, Carries (known.map fun f => (f.1, f.2.map Op.reading)) rest ∧
      Op.deserialize json = (Op.variants.find? (·.name = name)).bind (·.read rest) := by
  obtain ⟨fields, rfl, hcarries⟩ := h
  rw [Op.deserialize, Op.deserializeFields_eq_map]
  exact (hcarries.map Op.reading).readTagged_eq rfl

mutual

theorem Op.deserialize_of_tells : ∀ (op : Op) (json : Json), op.Tells json →
    Op.deserialize json = some op
  | .and children, json, h => by
    obtain ⟨elements, hall, h⟩ := h
    obtain ⟨rest, hrest, hread⟩ := Op.deserialize_record h
    have hchildren : field "children" rest = some (Op.reading (.array elements)) :=
      hrest.field_eq (by simp)
    refine hread.trans ?_
    simp [Op.variants, hchildren, Op.reading, Op.deserializeVec,
      Op.deserializeAll_of_allTell children elements hall]
  | .or children, json, h => by
    obtain ⟨elements, hall, h⟩ := h
    obtain ⟨rest, hrest, hread⟩ := Op.deserialize_record h
    have hchildren : field "children" rest = some (Op.reading (.array elements)) :=
      hrest.field_eq (by simp)
    refine hread.trans ?_
    simp [Op.variants, hchildren, Op.reading, Op.deserializeVec,
      Op.deserializeAll_of_allTell children elements hall]
  | .not operand, json, h => by
    obtain ⟨operandJson, hoperand, h⟩ := h
    obtain ⟨rest, hrest, hread⟩ := Op.deserialize_record h
    have hfield : field "operand" rest = some (Op.reading operandJson) := hrest.field_eq (by simp)
    refine hread.trans ?_
    simp [Op.variants, hfield, Op.reading, Op.deserialize_of_tells operand operandJson hoperand]
  | .statusCodeCheck value operator, json, h => by
    obtain ⟨operatorJson, hoperator, h⟩ := h
    obtain ⟨rest, hrest, hread⟩ := Op.deserialize_record h
    have hvalue : field "value" rest = some (Op.reading (.ofU16 value)) :=
      hrest.field_eq (by simp)
    have hfield : field "operator" rest = some (Op.reading operatorJson) :=
      hrest.field_eq (by simp)
    refine hread.trans ?_
    simp [Op.variants, hvalue, hfield, Op.reading, Comparison.deserialize_of_tells hoperator]
  | .jsonPath value operator operand, json, h => by
    obtain ⟨operatorJson, operandJson, hoperator, hoperand, h⟩ := h
    obtain ⟨rest, hrest, hread⟩ := Op.deserialize_record h
    have hvalue : field "value" rest = some (Op.reading (.string value)) :=
      hrest.field_eq (by simp)
    have hfield : fieldOr "operator" (fun f => Comparison.deserialize f.json) .always rest =
        some operator := by
      refine (hrest.fieldOr_eq
        (show ("operator", operatorJson.map Op.reading) ∈ _ by simp) _ _).trans ?_
      rw [Option.elim_map]
      exact hoperator.elim_eq Comparison.deserialize_of_tells
    have hfield' : fieldOr "operand" (fun f => JSONPathOperand.deserialize f.json) .none rest =
        some operand := by
      refine (hrest.fieldOr_eq
        (show ("operand", operandJson.map Op.reading) ∈ _ by simp) _ _).trans ?_
      rw [Option.elim_map]
      exact hoperand.elim_eq JSONPathOperand.deserialize_of_tells
    refine hread.trans ?_
    simp [Op.variants, hvalue, Op.reading, hfield, hfield']
  | .headerCheck keyOp keyOperand valueOp valueOperand, json, h => by
    obtain ⟨keyOpJson, keyOperandJson, valueOpJson, valueOperandJson, hkeyOp, hkeyOperand,
      hvalueOp, hvalueOperand, h⟩ := h
    obtain ⟨rest, hrest, hread⟩ := Op.deserialize_record h
    have h₁ : field "key_op" rest = some (Op.reading keyOpJson) := hrest.field_eq (by simp)
    have h₂ : field "key_operand" rest = some (Op.reading keyOperandJson) :=
      hrest.field_eq (by simp)
    have h₃ : field "value_op" rest = some (Op.reading valueOpJson) := hrest.field_eq (by simp)
    have h₄ : field "value_operand" rest = some (Op.reading valueOperandJson) :=
      hrest.field_eq (by simp)
    refine hread.trans ?_
    simp [Op.variants, h₁, h₂, h₃, h₄, Op.reading, Comparison.deserialize_of_tells hkeyOp,
      HeaderOperand.deserialize_of_tells hkeyOperand, Comparison.deserialize_of_tells hvalueOp,
      HeaderOperand.deserialize_of_tells hvalueOperand]

theorem Op.deserializeAll_of_allTell : ∀ (children : List Op) (elements : List Json),
    Op.AllTell children elements → Op.deserializeAll elements = some children
  | [], elements, h => by
    cases h
    rfl
  | c :: cs, elements, h => by
    obtain ⟨e, es, rfl, he, hes⟩ := h
    simp [Op.deserializeAll, Op.deserialize_of_tells c e he,
      Op.deserializeAll_of_allTell cs es hes]

end

theorem Assertion.deserialize_of_tells {assertion : Assertion} {json : Json}
    (h : assertion.Tells json) : Assertion.deserialize json = some assertion := by
  obtain ⟨rootJson, hroot, fields, rfl, hfields⟩ := h
  have hfield : field "root" fields = some rootJson := hfields.field_eq (by simp)
  simp [Assertion.deserialize, Json.asObject, hfield,
    Op.deserialize_of_tells assertion.root rootJson hroot]

/-- The wire format of an assertion: what is written of it tells it, and every document that tells
it is read as it. -/
theorem Assertion.wire_roundtrip (assertion : Assertion) :
    assertion.Tells assertion.serialize ∧
      ∀ json, assertion.Tells json → Assertion.deserialize json = some assertion :=
  ⟨assertion.tells_serialize, fun _ h => deserialize_of_tells h⟩

/-- An older document, its fields out of order and one of them unknown. -/
example : Assertion.deserialize (.object [("root", .object [("value", .string "$.ok"),
    ("note", .null), ("op", .string "json_path")])]) = some ⟨.jsonPath "$.ok" .always .none⟩ := by
  decide

end Assertions

end UptimeChecker
