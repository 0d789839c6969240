import Teletype.Regex.Escape
/-!
# Classes of patterns

A class lists characters, ranges, sets and other classes between square brackets, and may combine
them by the operations on sets. It is read with the depth of its nesting, which is bounded.
-/

namespace Teletype.Regex

/-- The depth of several parts together. -/
def depthOf (depths : List Nat) : Nat :=
  match depths with
  | [] => 0
  | [depth] => depth
  | depths => depths.foldl max 0 + 1

/-- A set of characters within a class, with the depth of its nesting. -/
structure ClassItem where
  set : CharSet
  depth : Nat

/-- The operations on sets within a class. -/
inductive ClassOperation where
  | intersection
  | difference
  | symmetricDifference

/-- The characters that an operation keeps. -/
def ClassOperation.apply : ClassOperation → CharSet → CharSet → CharSet
  | intersection => CharSet.intersection
  | difference => CharSet.difference
  | symmetricDifference => CharSet.symmetricDifference

/-- Several items of a class together. -/
def unionOf (items : List ClassItem) : ClassItem :=
  ⟨.union (items.map ClassItem.set), depthOf (items.map ClassItem.depth)⟩

/-- Applies the operation that waits for its second set. -/
def applyWaiting (f : Flags) (waiting : Option (ClassItem × ClassOperation)) (item : ClassItem) :
    ClassItem :=
  match waiting with
  | none => item
  | some (first, op) =>
    ⟨op.apply (f.fold first.set) (f.fold item.set), max first.depth item.depth + 1⟩

/-- Reads a class in double brackets behind its first bracket, if there is one. -/
def bracketClass? (cs : List Char) : Option ((CharSet × Bool) × List Char) := do
  let ':' :: rest := cs | none
  let (negated, rest) := match rest with
    | '^' :: rest => (true, rest)
    | rest => (false, rest)
  let (name, rest) ← Text.splitAtFirst ':' rest
  let ']' :: rest := rest | none
  let s ← CharSet.bracketClass? (String.ofList name)
  some ((s, negated), rest)

/-- Reads one end of a range, or an item of a class by itself. -/
def readClassPrimitive (f : Flags) : List Char → Reading (Primitive × List Char)
  | [] => .error .unclosedClass
  | '\\' :: rest => readEscape f rest
  | c :: rest => .ok (.literal c false, rest)

/-- A character as a member of a class. Without Unicode only plain characters may be members. -/
def classMember (f : Flags) (c : Char) : Reading Char :=
  if f.unicode || decide (c.toNat < 0x80) then .ok c else .error .notUnicode

/-- The set of an item that is not a range. -/
def classItemOf (f : Flags) : Primitive → Reading ClassItem
  | .literal c _ => return ⟨.only (← classMember f c), 0⟩
  | .set s => .ok ⟨s, 0⟩
  | .look _ => .error .badClass

/-- The character that a class looks ahead to behind a hyphen. Blanks do not count, but of a comment
the first character does. -/
def Flags.ahead? (f : Flags) (cs : List Char) : Option Char :=
  if !f.extended then cs.head?
  else
    match cs.dropWhile Text.isBlank with
    | '#' :: comment => comment.find? fun c ↦ !Text.isBlank c
    | cs => cs.head?

/-- Reads an item of a class: a character, a set or a range. A hyphen before the end of the class or
before another hyphen stands for itself. -/
def readClassItem (f : Flags) (cs : List Char) : Reading (ClassItem × List Char) := do
  let (first, rest) ← readClassPrimitive f cs
  match f.skip rest with
  | [] => throw .unclosedClass
  | '-' :: afterHyphen =>
    let ahead := f.ahead? afterHyphen
    if ahead = some ']' ∨ ahead = some '-' then
      return (← classItemOf f first, '-' :: afterHyphen)
    let (second, rest) ← readClassPrimitive f (f.skip afterHyphen)
    match first, second with
    | .literal a _, .literal b _ =>
      let a ← classMember f a
      let b ← classMember f b
      if a ≤ b then return (⟨.range a b, 0⟩, rest) else throw .badClass
    | _, _ => throw .badClass
  | rest => return (← classItemOf f first, rest)

/-- Reads the hyphens that a class may begin with. -/
def readLeadingHyphens (f : Flags) : Nat → List Char → List ClassItem × List Char
  | 0, cs => ([], cs)
  | fuel + 1, '-' :: cs =>
    let (items, rest) := readLeadingHyphens f fuel (f.skip cs)
    (⟨.only '-', 0⟩ :: items, rest)
  | _, cs => ([], cs)

/-- Reads the opening of a class behind its bracket: the sign of negation, and a hyphen or a closing
bracket that stands for itself. -/
def readClassOpening (f : Flags) (cs : List Char) :
    Reading ((Bool × List ClassItem) × List Char) :=
  let (negated, rest) := match f.skip cs with
    | '^' :: rest => (true, f.skip rest)
    | rest => (false, rest)
  let (items, rest) := readLeadingHyphens f (rest.length + 1) rest
  match items, rest with
  | _, [] => .error .unclosedClass
  | [], ']' :: rest =>
    match f.skip rest with
    | [] => .error .unclosedClass
    | rest => .ok ((negated, [⟨.only ']', 0⟩]), rest)
  | items, rest => .ok ((negated, items), rest)

/-- Reads a class from behind its opening to behind its closing bracket, given the items read so far
and the operation that waits for them. -/
def readClass (f : Flags) (negated : Bool) :
    Nat → List ClassItem → Option (ClassItem × ClassOperation) → List Char →
      Reading (ClassItem × List Char)
  | 0, _, _, _ => .error .unclosedClass
  | fuel + 1, items, waiting, cs =>
    let operation (op : ClassOperation) (rest : List Char) : Reading (ClassItem × List Char) :=
      readClass f negated fuel [] (some (applyWaiting f waiting (unionOf items), op)) rest
    match f.skip cs with
    | [] => .error .unclosedClass
    | '[' :: rest =>
      match bracketClass? rest with
      | some ((s, n), rest) => do
        let s ← f.finish n s
        readClass f negated fuel (⟨s, 0⟩ :: items) waiting rest
      | none => do
        let ((n, inner), rest) ← readClassOpening f rest
        let (item, rest) ← readClass f n fuel inner none rest
        readClass f negated fuel (item :: items) waiting rest
    | ']' :: rest => do
      let item := applyWaiting f waiting (unionOf items)
      return (⟨← f.finish negated item.set, item.depth + 1⟩, rest)
    | '&' :: '&' :: rest => operation .intersection rest
    | '-' :: '-' :: rest => operation .difference rest
    | '~' :: '~' :: rest => operation .symmetricDifference rest
    | rest => do
      let (item, rest) ← readClassItem f rest
      readClass f negated fuel (item :: items) waiting rest

end Teletype.Regex
