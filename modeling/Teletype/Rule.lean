import Teletype.Random.Source
import Teletype.Value.Basic
/-!
# Rules

A rule says how a value is made up: a range in brackets gives a whole number of it, a number alone
is the probability of true, and anything else is a template in which class letters draw characters.
Whether a rule is sound, and the shape of what it gives, does not depend on the draws.
-/

namespace Teletype

/-- What is wrong with a rule. -/
inductive RuleFault where
  | twoBounds
  | boundsNotNumbers
  | emptyRange
  | notProbability
  | unknownClass (letter : Char)
  | danglingPercent
  deriving DecidableEq, Repr

/-- What is said about a fault. -/
def RuleFault.message : RuleFault → String
  | twoBounds => "range needs two bounds"
  | boundsNotNumbers => "range bounds must be numbers"
  | emptyRange => "range is empty or inverted"
  | notProbability => "probability must be within [0,1]"
  | unknownClass letter => "unknown character class %" ++ String.singleton letter
  | danglingPercent => "dangling %"

/-- A rule that cannot be carried out. -/
structure RuleError where
  rule : String
  fault : RuleFault
  deriving DecidableEq, Repr

/-- What is said about a rule that cannot be carried out. -/
def RuleError.message (e : RuleError) : String :=
  "invalid rule \"" ++ e.rule ++ "\": " ++ e.fault.message

namespace Rule

/-- The ten digits. -/
def digits : List Char := "0123456789".toList

/-- The capital letters. -/
def capitals : List Char := "ABCDEFGHIJKLMNOPQRSTUVWXYZ".toList

/-- The small letters. -/
def smalls : List Char := "abcdefghijklmnopqrstuvwxyz".toList

/-- The hexadecimal digits. -/
def hexadecimals : List Char := "0123456789ABCDEF".toList

/-- Capital letters and digits that cannot be taken for one another. -/
def unambiguous : List Char := "ABCDEFGHJKLMNPQRSTUVWXYZ23456789".toList

/-- The capital letters and digits that can. -/
def confusable : List Char := "01IO".toList

/-- The characters a class letter draws from. Capital and small letters name the same classes. -/
def classTable? (letter : Char) : Option (List Char) :=
  match Text.asciiLower letter with
  | 'd' => some digits
  | 'u' => some capitals
  | 'l' => some smalls
  | 'a' => some (smalls ++ capitals ++ digits)
  | 'h' => some hexadecimals
  | 'e' => some unambiguous
  | 'c' => some confusable
  | _ => none

/-- A part of a template. -/
inductive Token where
  | literal (c : Char)
  | draw (table : List Char)
  | fault (f : RuleFault)
  deriving DecidableEq, Repr

/-- Whether a character is a small Latin letter. -/
def isSmall (c : Char) : Bool := decide ('a' ≤ c ∧ c ≤ 'z')

/-- Whether a character is a capital Latin letter. -/
def isCapital (c : Char) : Bool := decide ('A' ≤ c ∧ c ≤ 'Z')

/-- The parts of a template. A percent sign and a small letter name a class, a percent sign before
anything else keeps it as it is, and the capital class letters draw by themselves. -/
def tokens : List Char → List Token
  | [] => []
  | ['%'] => [.fault .danglingPercent]
  | '%' :: c :: rest =>
    (if isSmall c then
      match classTable? c with
      | some table => .draw table
      | none => .fault (.unknownClass c)
    else .literal c) :: tokens rest
  | c :: rest =>
    (if isCapital c then
      match classTable? c with
      | some table => .draw table
      | none => .literal c
    else .literal c) :: tokens rest

/-- Draws a character of a table. -/
def drawChar (table : List Char) (source : Random.Source) : Char × Random.Source :=
  let (i, source) := source.drawBelow table.length
  (table.getD i ' ', source)

/-- Carries out the parts of a template up to the first fault. -/
def expand : List Token → Random.Source → Except RuleFault (List Char) × Random.Source
  | [], source => (.ok [], source)
  | .fault f :: _, source => (.error f, source)
  | .literal c :: rest, source =>
    let (result, source) := expand rest source
    (result.map (c :: ·), source)
  | .draw table :: rest, source =>
    let (c, source) := drawChar table source
    let (result, source) := expand rest source
    (result.map (c :: ·), source)

/-- A range of whole numbers, taken apart at its brackets. -/
structure Brackets where
  /-- Whether the lower bound belongs to the range. -/
  lowClosed : Bool
  body : List Char
  /-- Whether the upper bound belongs to the range. -/
  highClosed : Bool
  deriving DecidableEq, Repr

/-- The brackets around a rule of two characters or more, if it has them. -/
def brackets? (cs : List Char) : Option Brackets :=
  match cs with
  | opening :: rest =>
    match rest.getLast? with
    | some closing =>
      if (opening = '[' ∨ opening = '(') ∧ (closing = ']' ∨ closing = ')') then
        some ⟨opening == '[', rest.dropLast, closing == ']'⟩
      else none
    | none => none
  | [] => none

/-- The bound that some characters write. -/
def bound? (cs : List Char) : Option Float :=
  if (Text.trimChars cs).isEmpty then none
  else (Value.readNumber? (String.ofList cs)).filter Decimal.isFinite

/-- The least whole number within a lower bound, as far as doubles tell. -/
def lowest (closed : Bool) (x : Float) : Int :=
  if closed then (Decimal.ceil? x).getD 0
  else Decimal.nearestInt ((Decimal.floor? x).getD 0 + 1)

/-- The greatest whole number within an upper bound, as far as doubles tell. -/
def highest (closed : Bool) (x : Float) : Int :=
  if closed then (Decimal.floor? x).getD 0
  else Decimal.nearestInt ((Decimal.ceil? x).getD 0 - 1)

/-- A whole number brought into the range of 64 bits. -/
def saturate (n : Int) : Int := max (-2 ^ 63) (min n (2 ^ 63 - 1))

/-- The least and the greatest number of a range. -/
def bounds (b : Brackets) : Except RuleFault (Int × Int) :=
  match Text.splitAtFirst ',' b.body with
  | none => .error .twoBounds
  | some (first, second) =>
    match bound? first, bound? second with
    | some x, some y =>
      let low := lowest b.lowClosed x
      let high := highest b.highClosed y
      if high < low then .error .emptyRange else .ok (saturate low, saturate high)
    | _, _ => .error .boundsNotNumbers

/-- The number that a rule made of digits, points and signs writes, if it is one. -/
def plainNumber? (cs : List Char) : Option Float :=
  if cs.any Decimal.isDigit && cs.all fun c ↦ Decimal.isDigit c || c == '.' || Value.isSign c then
    Decimal.floatOfChars? cs
  else none

/-- Makes a value up by a rule. Faults of ranges and probabilities quote the rule without blanks
around it, faults of templates quote it as it is. -/
def generate (rule : String) (source : Random.Source) : Except RuleError Value × Random.Source :=
  let trimmed := Text.trimChars rule.toList
  match brackets? trimmed with
  | some b =>
    match bounds b with
    | .error f => (.error ⟨String.ofList trimmed, f⟩, source)
    | .ok (low, high) =>
      let (n, source) := source.drawBetween low high
      (.ok (.number (Decimal.ofInt n)), source)
  | none =>
    match plainNumber? trimmed with
    | some p =>
      if 0 ≤ p ∧ p ≤ 1 then
        let (b, source) := source.drawChance p
        (.ok (.bool b), source)
      else (.error ⟨String.ofList trimmed, .notProbability⟩, source)
    | none =>
      let (result, source) := expand (tokens rule.toList) source
      match result with
      | .ok cs => (.ok (.text (String.ofList cs)), source)
      | .error f => (.error ⟨rule, f⟩, source)

end Rule

end Teletype
