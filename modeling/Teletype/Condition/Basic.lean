import Teletype.Store.Basic
/-!
# Conditions

A condition compares variables and literal values and joins comparisons by all, any and not. Its
meaning is a truth value over a store: what cannot be compared, because a variable is unset or a
value is of the wrong kind, is false.
-/

namespace Teletype

/-- One side of a comparison. -/
inductive Operand where
  | named (name : String)
  | literal (value : Value)

/-- The ways to compare two values. -/
inductive Comparator where
  | equal
  | notEqual
  | greater
  | less
  | atLeast
  | atMost
  | contains
  | lacks
  | startsWith
  | endsWith
  deriving DecidableEq, Repr

/-- A comparison of two operands. -/
structure Comparison where
  op : Comparator
  left : Operand
  right : Operand
  ignoreCase : Bool

/-- A truth-valued expression over variables and literals. -/
inductive Condition where
  | all (parts : List Condition)
  | any (parts : List Condition)
  | negation (part : Condition)
  | comparison (c : Comparison)

/-- Whether one list of characters occurs within another. -/
def occursIn (part : List Char) : List Char → Bool
  | [] => part.isEmpty
  | c :: cs => part.isPrefixOf (c :: cs) || occursIn part cs

namespace Comparator

/-- All comparators. -/
def every : List Comparator :=
  [equal, notEqual, greater, less, atLeast, atMost, contains, lacks, startsWith, endsWith]

/-- Compares two numbers. -/
def onNumbers (op : Comparator) (x y : Float) : Bool :=
  match op with
  | greater => y < x
  | less => x < y
  | atLeast => y ≤ x
  | _ => x ≤ y

/-- Looks for one text in another. -/
def onTexts (op : Comparator) (text part : String) : Bool :=
  match op with
  | contains => occursIn part.toList text.toList
  | lacks => !occursIn part.toList text.toList
  | startsWith => part.toList.isPrefixOf text.toList
  | _ => part.toList.isSuffixOf text.toList

/-- Compares two values. Order needs two numbers; looking into a text needs a text on the left and
takes the display text on the right. -/
def compare (op : Comparator) (left right : Value) : Bool :=
  match op with
  | equal => left.same right
  | notEqual => !left.same right
  | greater | less | atLeast | atMost =>
    match left.toNumber?, right.toNumber? with
    | some x, some y => op.onNumbers x y
    | _, _ => false
  | contains | lacks | startsWith | endsWith =>
    match left.asText? with
    | some text => op.onTexts text right.display
    | none => false

end Comparator

/-- The value of an operand. -/
def Operand.resolve? (store : Store) : Operand → Option Value
  | named name => store.get? name
  | literal value => some value

/-- The name of a variable operand. -/
def Operand.reads : Operand → List String
  | named name => [name]
  | literal _ => []

/-- Whether a comparison holds. -/
def Comparison.holds (store : Store) (c : Comparison) : Bool :=
  match c.left.resolve? store, c.right.resolve? store with
  | some left, some right =>
    let (left, right) := if c.ignoreCase then Value.foldPair left right else (left, right)
    c.op.compare left right
  | _, _ => false

/-- The variables a comparison reads. -/
def Comparison.reads (c : Comparison) : List String := c.left.reads ++ c.right.reads

namespace Condition

mutual

/-- Whether a condition holds over a store. -/
def holds (store : Store) : Condition → Bool
  | all parts => allHold store parts
  | any parts => anyHolds store parts
  | negation part => !part.holds store
  | comparison c => c.holds store

/-- Whether all of several conditions hold. -/
def allHold (store : Store) : List Condition → Bool
  | [] => true
  | part :: parts => part.holds store && allHold store parts

/-- Whether one of several conditions holds. -/
def anyHolds (store : Store) : List Condition → Bool
  | [] => false
  | part :: parts => part.holds store || anyHolds store parts

end

mutual

/-- The variables a condition reads, as they occur in it. -/
def reads : Condition → List String
  | all parts => readsOf parts
  | any parts => readsOf parts
  | negation part => part.reads
  | comparison c => c.reads

/-- The variables of several conditions. -/
def readsOf : List Condition → List String
  | [] => []
  | part :: parts => part.reads ++ readsOf parts

end

/-- A comparison of a variable with a value that respects case. -/
def simple (op : Comparator) (left right : Operand) : Condition :=
  comparison ⟨op, left, right, false⟩

end Condition

end Teletype
