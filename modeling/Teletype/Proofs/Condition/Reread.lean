import Teletype.Condition.Json
import Teletype.Proofs.Json.Reread
/-!
# Decoding written conditions

A condition that was read, with its comparators under any of their names, its operands as objects or
arrays and its parts in any order, reads as itself from what is written for it.
-/

namespace Teletype

/-- Every value is read from what is written for it. -/
theorem Value.ofJson?_toJson (value : Value) : ofJson? value.toJson = some value := by
  cases value <;> rfl

/-- A value is never written as `null`. -/
theorem Value.toJson_ne_null (value : Value) : value.toJson ≠ .null := by
  cases value <;> exact Json.noConfusion

/-- Every operand is read from what is written for it. -/
theorem Operand.ofJson?_toJson (operand : Operand) : ofJson? operand.toJson = some operand := by
  cases operand with
  | named name => rfl
  | literal value =>
    change (Value.ofJson? value.toJson).bind (some ∘ literal) = _
    rw [value.ofJson?_toJson]
    rfl

/-- Every part of a written value has a value. -/
theorem Value.isReadable_toJson (value : Value) : value.toJson.isReadable = true := by
  cases value <;> rfl

/-- Every part of a written operand has a value. -/
theorem Operand.isReadable_toJson (operand : Operand) : operand.toJson.isReadable = true := by
  cases operand with
  | named name => rfl
  | literal value => exact (Bool.and_true _).trans value.isReadable_toJson

/-- Every comparator has its own name. -/
theorem Comparator.named?_name (op : Comparator) : named? op.name = some op := by
  cases op <;> rfl

/-- Every comparison is read from what is written for it. -/
theorem Comparison.ofJson?_toJson (c : Comparison) : ofJson? c.toJson = some c := by
  obtain ⟨op, left, right, ignoreCase⟩ := c
  have written : Json.record? [.named "op", .named "left", .named "right", .named "caseInsensitive"]
      (toJson ⟨op, left, right, ignoreCase⟩) = some ⟨false, [
        ("op", some (.string op.name)),
        ("left", some left.toJson),
        ("right", some right.toJson),
        ("caseInsensitive", if ignoreCase then some (.bool true) else none)]⟩ := by
    cases ignoreCase <;> rfl
  rw [ofJson?, written]
  change (Comparator.named? op.name).bind _ = _
  rw [op.named?_name]
  change (Operand.ofJson? left.toJson).bind _ = _
  rw [left.ofJson?_toJson]
  change (Operand.ofJson? right.toJson).bind _ = _
  rw [right.ofJson?_toJson]
  cases ignoreCase <;> rfl

/-- Every part of a written comparison has a value. -/
theorem Comparison.isReadable_toJson (c : Comparison) : c.toJson.isReadable = true := by
  obtain ⟨op, left, right, _ | _⟩ := c <;>
    simp [toJson, Json.isReadable, Json.membersReadable, left.isReadable_toJson,
      right.isReadable_toJson]

namespace Condition

/-- A written comparison is read as nothing but a comparison. -/
private theorem read?_comparison (c : Comparison) :
    read? c.toJson = (Comparison.ofJson? c.toJson).map comparison := by
  obtain ⟨op, left, right, _ | _⟩ := c <;> rfl

mutual

/-- Every condition is read from what is written for it. -/
theorem read?_toJson (c : Condition) : read? c.toJson = some c := by
  cases c with
  | all parts =>
    change ((readAll? (toJsons parts)).map all <|> _) = _
    rw [readAll?_toJsons parts]
    rfl
  | any parts =>
    change ((readAll? (toJsons parts)).map any <|> _) = _
    rw [readAll?_toJsons parts]
    rfl
  | negation part =>
    change ((read? part.toJson).map negation <|> _) = _
    rw [read?_toJson part]
    rfl
  | comparison c =>
    rw [toJson, read?_comparison, c.ofJson?_toJson]
    rfl

/-- Conditions are read from what is written for each. -/
theorem readAll?_toJsons (parts : List Condition) : readAll? (toJsons parts) = some parts := by
  cases parts with
  | nil => rfl
  | cons part parts =>
    rw [toJsons, readAll?, read?_toJson part, readAll?_toJsons parts]
    rfl

end

mutual

/-- Every part of a written condition has a value. -/
theorem isReadable_toJson (c : Condition) : c.toJson.isReadable = true := by
  cases c with
  | all parts => exact (Bool.and_true _).trans (allReadable_toJsons parts)
  | any parts => exact (Bool.and_true _).trans (allReadable_toJsons parts)
  | negation part => exact (Bool.and_true _).trans (isReadable_toJson part)
  | comparison c => exact c.isReadable_toJson

/-- Every part of written conditions has a value. -/
theorem allReadable_toJsons (parts : List Condition) :
    Json.allReadable (toJsons parts) = true := by
  cases parts with
  | nil => rfl
  | cons part parts =>
    rw [toJsons, Json.allReadable, isReadable_toJson part, allReadable_toJsons parts]
    rfl

end

/-- Every condition is decoded from what is written for it. -/
theorem ofJson?_toJson (c : Condition) : ofJson? c.toJson = some c := by
  rw [ofJson?, Json.readable?, if_pos c.isReadable_toJson]
  exact c.read?_toJson

end Condition

end Teletype
