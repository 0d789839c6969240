import Teletype.Proofs.Command.History
import Teletype.Proofs.Regex.Alone
/-!
# Commands that ask for all of an input

A pattern of a command is put into a frame that asks for all of the input in any case. This is done
with its text, so it holds for patterns that keep to themselves there. One that closes a group that
it has not opened closes the frame, and answers to inputs that only begin or end as it asks for.
-/

namespace Teletype

namespace Regex

/-- Whether the text of a pattern keeps to itself where other text is put around it. -/
structure KeepsToItself (s : List Char) : Prop where
  /-- It closes no group that it has not opened. -/
  balanced : ofChars s ≠ .error .unopenedGroup
  /-- A bracket behind it is one too many, and not lost in a comment at its end. -/
  ended : ∀ r, ofChars s = .ok r → ofChars (s ++ frameEnd) = .error .unopenedGroup
  /-- It may be nested twice more. -/
  shallow : ∀ p, readAlone {} s = .ok p → p.depth + 2 ≤ maxDepth

end Regex

open Regex

/-- A pattern of a command is read in the frame. -/
private theorem wholePattern_eq (source : String) :
    wholePattern source = inFrame source.toList := by
  unfold wholePattern
  rw [List.append_assoc]
  rfl

variable {cache : PatternCache} {c : Command} {source : String}

/-- A command with one pattern that closes no group that it has not opened answers to the inputs
that the pattern matches all of, if the pattern does not end in a comment and may be nested twice
more. -/
theorem answers_iff_of_balanced (regex : c.allowRegex = true) (single : c.patterns = [source])
    (balanced : ofChars source.toList ≠ .error .unopenedGroup) (input : String) :
    c.answers input = true ↔
      MatchesAll source.toList (Text.trimChars input.toList) ∧
        ofChars (source.toList ++ frameEnd) = .error .unopenedGroup ∧
        ∀ p, readAlone {} source.toList = .ok p → p.depth + 2 ≤ maxDepth := by
  rw [← exists_occursIn_inFrame balanced, ← wholePattern_eq]
  simp only [Command.answers, single, regex, List.any_cons, List.any_nil, Bool.or_false, if_true]
  change (Except.toOption (ofChars (wholePattern source))).any _ = true ↔ _
  cases ofChars (wholePattern source) with
  | error e => simp [Except.toOption]
  | ok r => simp [Except.toOption]

end Teletype
