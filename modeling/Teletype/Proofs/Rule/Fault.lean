import Teletype.Rule
/-!
# Faults of rules

What is wrong with a rule can be told without drawing anything. The draws of a rule that fails in
the end may have moved the random source, but whether it fails, and with which fault, does not
depend on them.
-/

namespace Teletype.Rule

/-- The first fault of a template, if it has one. -/
def firstFault? : List Token → Option RuleFault
  | [] => none
  | .fault f :: _ => some f
  | .literal _ :: rest | .draw _ :: rest => firstFault? rest

/-- What is wrong with a rule, if anything is. -/
def fault? (rule : String) : Option RuleError :=
  let trimmed := Text.trimChars rule.toList
  match brackets? trimmed with
  | some b =>
    match bounds b with
    | .error f => some ⟨String.ofList trimmed, f⟩
    | .ok _ => none
  | none =>
    match plainNumber? trimmed with
    | some p => if 0 ≤ p ∧ p ≤ 1 then none else some ⟨String.ofList trimmed, .notProbability⟩
    | none => (firstFault? (tokens rule.toList)).map (⟨rule, ·⟩)

/-- A template fails with its first fault, whatever is drawn for the parts before it. -/
theorem expand_eq_error_iff (tokens : List Token) (source : Random.Source) (f : RuleFault) :
    (expand tokens source).1 = .error f ↔ firstFault? tokens = some f := by
  induction tokens generalizing source with
  | nil => simp [expand, firstFault?]
  | cons token rest ih =>
    cases token with
    | fault g => simp [expand, firstFault?]
    | literal c =>
      simp only [expand, firstFault?, ← ih source]
      cases (expand rest source).1 <;> simp [Except.map]
    | draw table =>
      simp only [expand, firstFault?, ← ih (drawChar table source).2]
      cases (expand rest (drawChar table source).2).1 <;> simp [Except.map]

/-- Making a value up fails exactly with the fault of the rule, whatever the random source is. -/
theorem generate_eq_error_iff (rule : String) (source : Random.Source) (e : RuleError) :
    (generate rule source).1 = .error e ↔ fault? rule = some e := by
  simp only [generate, fault?]
  cases hb : brackets? (Text.trimChars rule.toList) with
  | some b =>
    cases hr : bounds b with
    | error f => simp [hr]
    | ok range => simp [hr]
  | none =>
    cases hp : plainNumber? (Text.trimChars rule.toList) with
    | some p =>
      dsimp only
      split <;> simp
    | none =>
      have hf := expand_eq_error_iff (tokens rule.toList) source
      cases he : (expand (tokens rule.toList) source).1 with
      | ok cs =>
        have hn : firstFault? (tokens rule.toList) = none :=
          Option.eq_none_iff_forall_ne_some.mpr fun f h ↦ by
            rw [← hf, he] at h
            cases h
        simp [hn]
      | error f => simp [(hf f).mp he]

/-- A rule without a fault gives a value from every random source. -/
theorem exists_generate_eq_ok {rule : String} (h : fault? rule = none) (source : Random.Source) :
    ∃ value, (generate rule source).1 = .ok value := by
  cases hg : (generate rule source).1 with
  | ok value => exact ⟨value, rfl⟩
  | error e =>
    rw [generate_eq_error_iff, h] at hg
    cases hg

end Teletype.Rule
