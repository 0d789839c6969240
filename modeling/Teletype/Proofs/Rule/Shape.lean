import Teletype.Proofs.Rule.Fault
/-!
# The shape of what a rule gives

Draws decide over the number, the truth value or the characters that a rule gives, and over nothing
else: from every random source a rule fails in the same way, or gives values of one kind, and texts
of one length.
-/

namespace Teletype

/-- The kind of a value, and the number of characters of a text. -/
inductive Value.Shape where
  | truth
  | number
  | text (length : Nat)
  deriving DecidableEq

/-- The shape of a value. -/
def Value.shape : Value → Shape
  | bool _ => .truth
  | number _ => .number
  | text s => .text s.toList.length

namespace Rule

variable {rule : String} {source : Random.Source}

/-- The shape of what a rule gives. -/
def shapeOf (rule : String) : Value.Shape :=
  match brackets? (Text.trimChars rule.toList), plainNumber? (Text.trimChars rule.toList) with
  | some _, _ => .number
  | none, some _ => .truth
  | none, none => .text (tokens rule.toList).length

/-- A template gives one character for each of its parts. -/
theorem length_of_expand {tokens : List Token} {cs : List Char}
    (h : (expand tokens source).1 = .ok cs) : cs.length = tokens.length := by
  have behind {c : Char} {result : Except RuleFault (List Char)} {whole : List Char}
      (h : result.map (c :: ·) = .ok whole) : ∃ rest, result = .ok rest ∧ whole = c :: rest := by
    cases result with
    | ok rest =>
      cases h
      exact ⟨rest, rfl, rfl⟩
    | error f => cases h
  induction tokens generalizing source cs with
  | nil =>
    cases h
    rfl
  | cons token tokens ih =>
    cases token with
    | fault f => cases h
    | literal c | draw table =>
      obtain ⟨rest, expanded, rfl⟩ := behind h
      exact congrArg (· + 1) (ih expanded)

/-- What a rule gives has the shape of the rule, whatever is drawn. -/
theorem shape_of_generate {value : Value} (h : (generate rule source).1 = .ok value) :
    value.shape = shapeOf rule := by
  simp only [generate] at h
  unfold shapeOf
  cases hb : brackets? (Text.trimChars rule.toList) with
  | some b =>
    simp only [hb] at h
    cases hr : bounds b with
    | error f =>
      rw [hr] at h
      cases h
    | ok range =>
      rw [hr] at h
      cases h
      rfl
  | none =>
    simp only [hb] at h
    cases hp : plainNumber? (Text.trimChars rule.toList) with
    | some p =>
      simp only [hp] at h
      split at h
      · cases h
        rfl
      · cases h
    | none =>
      simp only [hp] at h
      cases he : (expand (tokens rule.toList) source).1 with
      | error f =>
        simp only [he] at h
        cases h
      | ok cs =>
        simp only [he] at h
        cases h
        simp [Value.shape, length_of_expand he]

/-- From any two random sources a rule fails in the same way, or gives values of the same shape. -/
theorem generate_alike (rule : String) (first second : Random.Source) :
    (∃ e, (generate rule first).1 = .error e ∧ (generate rule second).1 = .error e) ∨
      ∃ v w, (generate rule first).1 = .ok v ∧ (generate rule second).1 = .ok w ∧
        v.shape = w.shape := by
  cases faulty : fault? rule with
  | some e =>
    have fails (source : Random.Source) := (generate_eq_error_iff rule source e).mpr faulty
    exact .inl ⟨e, fails first, fails second⟩
  | none =>
    obtain ⟨v, given⟩ := exists_generate_eq_ok faulty first
    obtain ⟨w, given'⟩ := exists_generate_eq_ok faulty second
    exact .inr ⟨v, w, given, given',
      (shape_of_generate given).trans (shape_of_generate given').symm⟩

end Rule

end Teletype
