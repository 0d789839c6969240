import Teletype.Regex.Group
/-!
# Reading patterns

The written form of regular expressions: alternatives, groups with flags and names, counted
repetition, classes with nested classes and set operations, and escapes. Groups that look around
and references back to groups are refused. What a pattern means depends on the flags in force where
it is read, so sets of characters are built while reading.
-/

namespace Teletype.Regex

/-- A part of a pattern with the depth of its nesting. -/
structure Part where
  regex : Regex
  depth : Nat

/-- The deepest nesting of a pattern. -/
def maxDepth : Nat := 250

/-- The parts of a sequence, flags that were set between them counting as parts of their own. -/
inductive Item where
  | part (p : Part)
  | flags

/-- The regular expression and the depth of an item. -/
def Item.toPart : Item → Part
  | part p => p
  | flags => ⟨.empty, 0⟩

/-- Items in sequence, given in reverse. -/
def sequenceOf (items : List Item) : Part :=
  let parts := items.reverse.map Item.toPart
  ⟨parts.foldr (fun p r ↦ match p.regex, r with
      | .empty, r => r
      | first, .empty => first
      | first, r => .sequence first r) .empty,
    depthOf (parts.map Part.depth)⟩

/-- Alternatives, given in reverse with at least the last one. -/
def eitherOf (last : Part) (others : List Part) : Part :=
  ⟨others.foldl (fun r p ↦ .either p.regex r) last.regex,
    depthOf ((last :: others).map Part.depth)⟩

/-- The part of a pattern that a primitive is. -/
def primitivePart (f : Flags) : Primitive → Reading Part
  | .literal c byte =>
    if byte && !f.unicode && decide (0x80 ≤ c.toNat) then .error .notUnicode
    else .ok ⟨.one (f.literal c), 0⟩
  | .look a => .ok ⟨.look a, 0⟩
  | .set s => .ok ⟨.one s, 0⟩

/-- The part that a dot is. -/
def dotPart (f : Flags) : Reading Part :=
  if !f.unicode then .error .notUnicode
  else
    let ends := if f.dotAll then [] else if f.carriageReturns then ['\n', '\r'] else ['\n']
    .ok ⟨.one (CharSet.complement (.union (ends.map CharSet.only))), 0⟩

/-- The assertion of a caret. -/
def caret (f : Flags) : Assertion :=
  if f.multiLine then .lineStart f.carriageReturns else .textStart

/-- The assertion of a dollar sign. -/
def dollar (f : Flags) : Assertion := if f.multiLine then .lineEnd f.carriageReturns else .textEnd

/-- Passes over the question mark that makes a repetition prefer few. -/
def skipLazy : List Char → List Char
  | '?' :: cs => cs
  | cs => cs

/-- Repeats the last item of a sequence. -/
def repeatLast (items : List Item) (least : Nat) (most : Option Nat) :
    Reading (List Item) :=
  match items with
  | .part p :: items => .ok (.part ⟨.repeated p.regex least most, p.depth + 1⟩ :: items)
  | _ => .error .nothingToRepeat

/-- What is known behind the end of a group: its content and the group names so far. -/
structure Body where
  part : Part
  names : List (List Char)

/-- Reads alternatives up to the end of the group or the pattern, given the group names so far, the
items of the current alternative, and the alternatives before it, the latest first. -/
def readBody :
    Nat → Flags → List (List Char) → List Item → List Part → List Char →
      Reading (Body × List Char)
  | 0, _, _, _, _, _ => .error .tooDeep
  | fuel + 1, f, names, items, others, cs =>
    let push (p : Part) (rest : List Char) : Reading (Body × List Char) :=
      readBody fuel f names (.part p :: items) others rest
    let again (least : Nat) (most : Option Nat) (rest : List Char) :
        Reading (Body × List Char) := do
      readBody fuel f names (← repeatLast items least most) others rest
    match f.skip cs with
    | [] => .ok (⟨eitherOf (sequenceOf items) others, names⟩, [])
    | ')' :: rest => .ok (⟨eitherOf (sequenceOf items) others, names⟩, ')' :: rest)
    | '|' :: rest => readBody fuel f names [] (sequenceOf items :: others) rest
    | '(' :: rest => do
      let (start, rest) ← readGroupStart f rest
      match start with
      | .flags g => readBody fuel g names (.flags :: items) others rest
      | .group g name =>
        if name.any names.contains then throw .badGroupName
        let (body, rest) ← readBody fuel g (name.toList ++ names) [] [] rest
        let ')' :: rest := rest | throw .unclosedGroup
        let group : Part := ⟨body.part.regex, body.part.depth + 1⟩
        readBody fuel f body.names (.part group :: items) others rest
    | '[' :: rest => do
      let ((negated, opening), rest) ← readClassOpening f rest
      let (item, rest) ← readClass f negated (rest.length + 1) opening none rest
      push ⟨.one item.set, item.depth⟩ rest
    | '?' :: rest => again 0 (some 1) (skipLazy rest)
    | '*' :: rest => again 0 none (skipLazy rest)
    | '+' :: rest => again 1 none (skipLazy rest)
    | '\x7b' :: rest => do
      let ((least, most), rest) ← readCounts f rest
      again least most (skipLazy (f.skip rest))
    | '.' :: rest => do push (← dotPart f) rest
    | '^' :: rest => push ⟨.look (caret f), 0⟩ rest
    | '$' :: rest => push ⟨.look (dollar f), 0⟩ rest
    | '\\' :: rest => do
      let (primitive, rest) ← readEscape f rest
      push (← primitivePart f primitive) rest
    | c :: rest => do push (← primitivePart f (.literal c false)) rest

/-- Reads a text that is one pattern. -/
def ofChars (cs : List Char) : Reading Regex := do
  let (body, rest) ← readBody (cs.length + 1) {} [] [] [] cs
  if !rest.isEmpty then throw .unopenedGroup
  if maxDepth < body.part.depth then throw .tooDeep
  return body.part.regex

end Teletype.Regex
