import Teletype.Content.Json
import Teletype.Proofs.Action.Reread
/-!
# Decoding what documents are made of

The parts of a document that are written as they were read: each of them, in whichever form it was
given, is decoded to the same thing from what is written for it.
-/

namespace Teletype

open Json (Rereads then_reads)
open Json.Record (required_again defaulted_again defaulted_of_true optional_again
  optional_ofOption_again)

/-- A whole number of 32 bits is read again. -/
theorem Json.rereads_word32 : Rereads ofNat word32? := rereads_natBelow (2 ^ 32)

/-- A whole number of 64 bits is read again. -/
theorem Json.rereads_word64 : Rereads ofNat word64? := rereads_natBelow (2 ^ 64)

/-- The pattern or patterns of a command are decoded again from what is written for them. -/
theorem CommandPattern.rereads : Rereads toJson ofJson? := by
  intro j p read
  cases p with
  | one pattern => rfl
  | many patterns =>
    unfold ofJson? at read
    split at read
    · cases read
    · obtain ⟨patterns, readAll, same⟩ := Option.map_eq_some_iff.mp read
      cases same
      change (Json.list? Json.string? (.array (patterns.map .string))).map many = _
      rw [Json.rereads_string.list _ patterns readAll]
      rfl

/-- A command is decoded again from what is written for it. -/
theorem Command.rereads : Rereads toJson ofJson? := by
  intro j c read
  simp only [ofJson?, Option.bind_eq_bind, Option.bind_eq_some_iff, Option.pure_def,
    Option.some.injEq] at read
  obtain ⟨r, -, pattern, readPattern, action, readAction, allowRegex, -, rfl⟩ := read
  have written : Json.record? [⟨"command", ["pattern"]⟩, .named "action", .named "allowRegex"]
      (toJson ⟨pattern, action, allowRegex⟩) = some ⟨false, [
        ("command", some pattern.toJson),
        ("action", some action.toJson),
        ("allowRegex", if allowRegex then some (.bool true) else none)]⟩ := by
    cases allowRegex <;> rfl
  refine then_reads written ?_
  refine then_reads (required_again CommandPattern.rereads readPattern rfl) ?_
  refine then_reads (required_again Action.rereads readAction rfl) ?_
  refine then_reads (defaulted_of_true rfl) ?_
  rfl

/-- The actions of a link are decoded again from what is written for them. -/
theorem LinkActions.rereads : Rereads toJson ofJson? := by
  intro j l read
  simp only [ofJson?, Option.bind_eq_bind, Option.bind_eq_some_iff, Option.pure_def,
    Option.some.injEq] at read
  obtain ⟨r, -, base, readBase, shift, readShift, rfl⟩ := read
  have written : Json.record? [.named "base", .named "shiftKey"] (toJson ⟨base, shift⟩) =
      some ⟨false, [("base", some base.toJson), ("shiftKey", shift.map Action.toJson)]⟩ := by
    cases shift <;> rfl
  refine then_reads written ?_
  refine then_reads (required_again Action.rereads readBase rfl) ?_
  refine then_reads (optional_again Action.rereads Action.toJson_ne_null readShift rfl) ?_
  rfl

/-- A toggle state is decoded again from what is written for it. -/
theorem ToggleState.rereads : Rereads toJson ofJson? := by
  intro j s read
  simp only [ofJson?, Option.bind_eq_bind, Option.bind_eq_some_iff, Option.pure_def,
    Option.some.injEq] at read
  obtain ⟨r, -, text, readText, active, readActive, delayMs, readMs, delayText, readDelay, rfl⟩ :=
    read
  have written : Json.record? [.named "text", .named "active", .named "delayMs", .named "delayText"]
      (toJson ⟨text, active, delayMs, delayText⟩) = some ⟨false, [
        ("text", some (.string text)),
        ("active", some (.bool active)),
        ("delayMs", delayMs.map Json.ofNat),
        ("delayText", delayText.map Json.string)]⟩ := by
    cases delayMs <;> cases delayText <;> rfl
  refine then_reads written ?_
  refine then_reads (required_again Json.rereads_string readText rfl) ?_
  refine then_reads (defaulted_again Json.rereads_bool rfl readActive rfl) ?_
  refine then_reads (optional_again Json.rereads_word64 (fun _ ↦ Json.noConfusion) readMs rfl) ?_
  refine then_reads (optional_again Json.rereads_string (fun _ ↦ Json.noConfusion) readDelay rfl) ?_
  rfl

/-- Every alignment has its own word. -/
theorem Align.named?_name (align : Align) : named? align.name = some align := by
  cases align <;> rfl

namespace TextOptions

/-- Text options are written as a record of all of them. -/
private theorem record?_toJson (o : TextOptions) :
    Json.record? fields o.toJson = some ⟨false, [
      ("speed", some (.ofOption .ofNat o.speed)),
      ("isPassword", some (.bool o.isPassword)),
      ("playSound", some (.ofOption .bool o.playSound)),
      ("preserveSpacing", some (.bool o.preserveSpacing)),
      ("bigFont", some (.ofOption .string o.bigFont)),
      ("fillWidth", some (.bool o.fillWidth)),
      ("align", some (.string o.align.name)),
      ("padChar", some (.ofOption .string o.padChar)),
      ("margin", some (.ofNat o.margin)),
      ("padding", some (.ofNat o.padding)),
      ("borderChar", some (.ofOption .string o.borderChar)),
      ("fillChar", some (.ofOption .string o.fillChar)),
      ("marginChar", some (.ofOption .string o.marginChar))]⟩ := rfl

/-- Text options are decoded again from what is written for them. -/
theorem rereads : Rereads toJson ofJson? := by
  intro j o read
  have glyph (text : String) : Json.string text ≠ .null := Json.noConfusion
  have number (n : Nat) : Json.ofNat n ≠ .null := Json.noConfusion
  have flag (b : Bool) : Json.bool b ≠ .null := Json.noConfusion
  have again_align : Rereads (fun align ↦ .string align.name) (Json.choice? Align.named?) :=
    .of_forall Align.named?_name
  obtain ⟨r, -, read⟩ := Option.bind_eq_some_iff.mp read
  obtain ⟨speed, readSpeed, read⟩ := Option.bind_eq_some_iff.mp read
  obtain ⟨isPassword, readPassword, read⟩ := Option.bind_eq_some_iff.mp read
  obtain ⟨playSound, readSound, read⟩ := Option.bind_eq_some_iff.mp read
  obtain ⟨preserveSpacing, readSpacing, read⟩ := Option.bind_eq_some_iff.mp read
  obtain ⟨bigFont, readFont, read⟩ := Option.bind_eq_some_iff.mp read
  obtain ⟨fillWidth, readWidth, read⟩ := Option.bind_eq_some_iff.mp read
  obtain ⟨align, readAlign, read⟩ := Option.bind_eq_some_iff.mp read
  obtain ⟨padChar, readPad, read⟩ := Option.bind_eq_some_iff.mp read
  obtain ⟨margin, readMargin, read⟩ := Option.bind_eq_some_iff.mp read
  obtain ⟨padding, readPadding, read⟩ := Option.bind_eq_some_iff.mp read
  obtain ⟨borderChar, readBorder, read⟩ := Option.bind_eq_some_iff.mp read
  obtain ⟨fillChar, readFill, read⟩ := Option.bind_eq_some_iff.mp read
  obtain ⟨marginChar, readMarginChar, read⟩ := Option.bind_eq_some_iff.mp read
  cases read
  refine then_reads (record?_toJson _) ?_
  refine then_reads (optional_ofOption_again Json.rereads_word32 number readSpeed rfl) ?_
  refine then_reads (defaulted_again Json.rereads_bool rfl readPassword rfl) ?_
  refine then_reads (optional_ofOption_again Json.rereads_bool flag readSound rfl) ?_
  refine then_reads (defaulted_again Json.rereads_bool rfl readSpacing rfl) ?_
  refine then_reads (optional_ofOption_again Json.rereads_string glyph readFont rfl) ?_
  refine then_reads (defaulted_again Json.rereads_bool rfl readWidth rfl) ?_
  refine then_reads (defaulted_again again_align rfl readAlign rfl) ?_
  refine then_reads (optional_ofOption_again Json.rereads_string glyph readPad rfl) ?_
  refine then_reads (defaulted_again Json.rereads_word64 rfl readMargin rfl) ?_
  refine then_reads (defaulted_again Json.rereads_word64 rfl readPadding rfl) ?_
  refine then_reads (optional_ofOption_again Json.rereads_string glyph readBorder rfl) ?_
  refine then_reads (optional_ofOption_again Json.rereads_string glyph readFill rfl) ?_
  refine then_reads (optional_ofOption_again Json.rereads_string glyph readMarginChar rfl) ?_
  rfl

end TextOptions

/-- Whatever JSON value a part of a document was decoded from, what is written for the part is
decoded again, and to the same part: values, operands, conditions, changes of variables, steps,
actions, commands, toggle states, the actions of links, and text options. -/
theorem rereads_written :
    Rereads Value.toJson Value.ofJson? ∧
      Rereads Operand.toJson Operand.ofJson? ∧
      Rereads Condition.toJson Condition.ofJson? ∧
      Rereads Mutation.toJson Mutation.ofJson? ∧
      Rereads Action.stepToJson Action.stepOfJson? ∧
      Rereads Action.toJson Action.ofJson? ∧
      Rereads Command.toJson Command.ofJson? ∧
      Rereads ToggleState.toJson ToggleState.ofJson? ∧
      Rereads LinkActions.toJson LinkActions.ofJson? ∧
      Rereads TextOptions.toJson TextOptions.ofJson? :=
  ⟨.of_forall Value.ofJson?_toJson, .of_forall Operand.ofJson?_toJson,
    .of_forall Condition.ofJson?_toJson, Mutation.rereads, Action.rereads_step, Action.rereads,
    Command.rereads, ToggleState.rereads, LinkActions.rereads, TextOptions.rereads⟩

/-- A branch under its number, with an array for its dialog by the other name, a variable change
that is not understood and a step that is not, is an action that is decoded again. -/
theorem rereads_written_alarm :
    let test : Json := .array [.string "not-contains", .array [.number (.int 0), .string "log"],
      .object [("value", .number (.int 3)), ("type", .string "value")]]
    let j : Json := .array [.number (.int 4), test,
      .array [.array [.string "alert", .string "siren"], .object [("type", .string "teleport")]],
      .array [.string "variable", .string "pulse", .array [.string "multiply", .null]]]
    ∃ a, Action.ofJson? j = some a ∧ Action.ofJson? a.toJson = some a := by
  intro test j
  have decoded : Action.ofJson? j = some (.single (.branch
      (.comparison ⟨.lacks, .named "log", .literal (.number (Decimal.ofInt 3)), false⟩)
      (.chain [.dialog "siren", .unknown])
      (.single (.mutate "pulse" ⟨.unsupported "multiply", none, none⟩)))) := rfl
  obtain ⟨-, -, -, -, -, again, -⟩ := rereads_written
  exact ⟨_, decoded, again j _ decoded⟩

end Teletype
