import Mathlib.Data.List.Basic
import Teletype.Regex.Reader
/-!
# Patterns piece by piece

A pattern is read from left to right, one piece after the other. The pieces are named here: the
parts of a class, the beginning of a group, and what stands in a sequence. Each reader is the
reading of the next piece followed by the reading of the rest.
-/

namespace Teletype.Regex

section

variable (f : Flags)

/-! ## Escapes -/

/-- The character of a number that has been read. -/
def numbered (byte : Bool) (n : Nat) : Reading Primitive :=
  match charOfNumber? n with
  | some c => .ok (.literal c byte)
  | none => .error .badEscape

private theorem bind_numbered (byte : Bool) (x : Reading (Nat × List Char)) :
    (x >>= fun (n, rest) ↦ match charOfNumber? n with
      | some c => Except.ok (Primitive.literal c byte, rest)
      | none => .error .badEscape) =
    x >>= fun read ↦ (numbered byte read.1).map (·, read.2) := by
  refine congrArg (x >>= ·) (funext fun read ↦ ?_)
  unfold numbered
  dsimp only
  cases charOfNumber? read.1 <;> rfl

/-- The number of a character is read as its digits, up to a brace or as many as there are to be,
and the number that they make. -/
theorem readHex_eq (digits : Nat) (s : List Char) :
    readHex f digits s = match f.skip s with
      | '\x7b' :: rest => readHexBrace f (rest.length + 1) none (f.skip rest) >>=
          fun read ↦ (numbered false read.1).map (·, read.2)
      | rest => readHexDigits f digits 0 rest >>=
          fun read ↦ (numbered (digits == 2) read.1).map (·, read.2) := by
  unfold readHex
  cases f.skip s with
  | nil => exact bind_numbered (digits == 2) _
  | cons c rest =>
    by_cases brace : c = '\x7b'
    · subst brace
      exact bind_numbered false _
    · simp only [List.cons.injEq, brace, false_and, imp_self, implies_true]
      exact bind_numbered (digits == 2) _

/-- Reads the name of a property behind its letter. -/
def readPropertyName (s : List Char) : Reading (List Char × List Char) :=
  match f.skip s with
  | [] => .error .badEscape
  | '\\' :: _ => .error .unknownClass
  | '\x7b' :: rest => readBraceName f (rest.length + 1) (f.skip rest)
  | c :: rest => .ok ([c], f.skip rest)

/-- The set of a property whose name has been read. -/
def propertyOf (negated : Bool) (name : List Char) : Reading Primitive :=
  if !f.unicode then .error .notUnicode
  else match propertySet? name with
  | some (s, differs) => (f.finish (negated != differs) s).map .set
  | none => .error .unknownClass

private theorem map_propertyOf (negated : Bool) (read : List Char × List Char) : (do
    if !f.unicode then throw PatternError.notUnicode
    match propertySet? read.1 with
    | some (s, differs) => return (Primitive.set (← f.finish (negated != differs) s), read.2)
    | none => throw .unknownClass) = (propertyOf f negated read.1).map (·, read.2) := by
  unfold propertyOf
  cases f.unicode with
  | false => rfl
  | true =>
    rcases propertySet? read.1 with _ | ⟨s, differs⟩
    · rfl
    · change (f.finish (negated != differs) s >>= fun s ↦ pure (Primitive.set s, read.2)) =
        ((f.finish (negated != differs) s).map Primitive.set).map (·, read.2)
      cases f.finish (negated != differs) s <;> rfl

/-- A property is read as its name and the set that is named. -/
theorem readProperty_eq (negated : Bool) (s : List Char) :
    readProperty f negated s =
      readPropertyName f s >>= fun read ↦ (propertyOf f negated read.1).map (·, read.2) := by
  unfold readProperty readPropertyName
  cases f.skip s with
  | nil => rfl
  | cons c rest =>
    by_cases escape : c = '\\'
    · subst escape
      rfl
    · by_cases brace : c = '\x7b'
      · subst brace
        exact congrArg (_ >>= ·) (funext (map_propertyOf f negated))
      · simp only
        exact map_propertyOf f negated _

/-! ## Classes -/

/-- Reads the rest of a class in double brackets, behind its sign. -/
def bracketBody? (negated : Bool) (s : List Char) :
    Option ((CharSet × Bool) × List Char) :=
  match Text.splitAtFirst ':' s with
  | some (name, ']' :: rest) =>
    (CharSet.bracketClass? (String.ofList name)).map fun set ↦ ((set, negated), rest)
  | _ => none

private theorem bracketBody?_eq (negated : Bool) (rest : List Char) :
    bracketBody? negated rest = (do
      let (name, rest) ← Text.splitAtFirst ':' rest
      let ']' :: rest := rest | none
      let s ← CharSet.bracketClass? (String.ofList name)
      some ((s, negated), rest)) := by
  unfold bracketBody?
  rcases Text.splitAtFirst ':' rest with _ | ⟨name, _ | ⟨c, rest⟩⟩
  · rfl
  · rfl
  · by_cases bracket : c = ']'
    · subst bracket
      change (CharSet.bracketClass? (String.ofList name)).map _ =
        (CharSet.bracketClass? (String.ofList name)).bind _
      cases CharSet.bracketClass? (String.ofList name) <;> rfl
    · simp [bracket]

/-- A class in double brackets is read as its sign and the rest. -/
theorem bracketClass?_eq (s : List Char) :
    bracketClass? s = match s with
      | ':' :: '^' :: rest => bracketBody? true rest
      | ':' :: rest => bracketBody? false rest
      | _ => none := by
  rcases s with _ | ⟨c, s⟩
  · rfl
  · by_cases colon : c = ':'
    · subst colon
      rcases s with _ | ⟨d, s⟩
      · rfl
      · by_cases caret : d = '^'
        · subst caret
          exact (bracketBody?_eq true s).symm
        · simp only [bracketClass?, List.cons.injEq, caret, false_and, imp_self, implies_true]
          exact (bracketBody?_eq false (d :: s)).symm
    · simp [bracketClass?, colon]

/-- The range between two primitives. -/
def rangeOf : Primitive → Primitive → Reading ClassItem
  | .literal a _, .literal b _ => do
    let a ← classMember f a
    let b ← classMember f b
    if a ≤ b then return ⟨.range a b, 0⟩ else throw .badClass
  | _, _ => .error .badClass

/-- Reads the rest of an item whose beginning has been read. -/
def readItemEnd (first : Primitive) (s : List Char) : Reading (ClassItem × List Char) :=
  match f.skip s with
  | [] => .error .unclosedClass
  | '-' :: afterHyphen =>
    if f.ahead? afterHyphen = some ']' ∨ f.ahead? afterHyphen = some '-' then
      (classItemOf f first).map (·, '-' :: afterHyphen)
    else
      readClassPrimitive f (f.skip afterHyphen) >>= fun read ↦
        (rangeOf f first read.1).map (·, read.2)
  | rest => (classItemOf f first).map (·, rest)

/-- An item of a class is read as its beginning and the rest. -/
theorem readClassItem_eq (s : List Char) :
    readClassItem f s = readClassPrimitive f s >>= fun read ↦ readItemEnd f read.1 read.2 := by
  unfold readClassItem readItemEnd
  refine congrArg (_ >>= ·) (funext fun read ↦ ?_)
  obtain ⟨first, rest⟩ := read
  dsimp only
  cases f.skip rest with
  | nil => rfl
  | cons c rest =>
    by_cases hyphen : c = '-'
    · subst hyphen
      simp only
      split
      · cases classItemOf f first <;> rfl
      · refine congrArg (_ >>= ·) (funext fun read ↦ ?_)
        obtain ⟨second, rest⟩ := read
        cases first with
        | literal a _ =>
          cases second with
          | literal b _ =>
            simp only [rangeOf]
            cases classMember f a with
            | error e => rfl
            | ok a =>
              cases classMember f b with
              | error e => rfl
              | ok b =>
                simp only [bind, Except.bind]
                split <;> rfl
          | _ => rfl
        | _ => rfl
    · simp only [List.cons.injEq, hyphen, false_and, imp_self, implies_true]
      cases classItemOf f first <;> rfl

/-- A class that does not begin with a hyphen begins with none. -/
theorem readLeadingHyphens_cons {c : Char} (other : c ≠ '-') (fuel : Nat) (s : List Char) :
    readLeadingHyphens f (fuel + 1) (c :: s) = ([], c :: s) := by
  simp [readLeadingHyphens, other]

/-- The sign that a class may begin with. -/
def readSign (s : List Char) : Bool × List Char :=
  match f.skip s with
  | '^' :: rest => (true, f.skip rest)
  | rest => (false, rest)

/-- What a class begins with, behind its sign and its hyphens. -/
def readFirst (negated : Bool) (items : List ClassItem) (s : List Char) :
    Reading ((Bool × List ClassItem) × List Char) :=
  match items, s with
  | _, [] => .error .unclosedClass
  | [], ']' :: rest =>
    match f.skip rest with
    | [] => .error .unclosedClass
    | rest => .ok ((negated, [⟨.only ']', 0⟩]), rest)
  | items, rest => .ok ((negated, items), rest)

/-- The opening of a class is read as its sign, its hyphens, and what it begins with. -/
theorem readClassOpening_eq (s : List Char) :
    readClassOpening f s =
      .ok (readSign f s) >>= fun sign ↦
        .ok (readLeadingHyphens f (sign.2.length + 1) sign.2) >>= fun read ↦
          readFirst f sign.1 read.1 read.2 := rfl

/-- The operation on sets that comes next in a class. -/
def operation? : List Char → Option (ClassOperation × List Char)
  | '&' :: '&' :: rest => some (.intersection, rest)
  | '-' :: '-' :: rest => some (.difference, rest)
  | '~' :: '~' :: rest => some (.symmetricDifference, rest)
  | _ => none

/-- A class is read piece by piece: a class within it, its closing bracket, an operation on sets, or
an item. -/
theorem readClass_succ (negated : Bool) (fuel : Nat) (items : List ClassItem)
    (waiting : Option (ClassItem × ClassOperation)) (s : List Char) :
    readClass f negated (fuel + 1) items waiting s = match f.skip s with
      | [] => .error .unclosedClass
      | '[' :: rest =>
        match bracketClass? rest with
        | some ((set, n), rest) => f.finish n set >>= fun set ↦
          readClass f negated fuel (⟨set, 0⟩ :: items) waiting rest
        | none => readClassOpening f rest >>= fun opening ↦
          readClass f opening.1.1 fuel opening.1.2 none opening.2 >>= fun read ↦
            readClass f negated fuel (read.1 :: items) waiting read.2
      | ']' :: rest =>
        let item := applyWaiting f waiting (unionOf items)
        (f.finish negated item.set).map fun set ↦ (⟨set, item.depth + 1⟩, rest)
      | rest =>
        match operation? rest with
        | some (op, rest) =>
          readClass f negated fuel [] (some (applyWaiting f waiting (unionOf items), op)) rest
        | none => readClassItem f rest >>= fun read ↦
          readClass f negated fuel (read.1 :: items) waiting read.2 := by
  rw [readClass]
  generalize f.skip s = behind
  split
  · rfl
  · rfl
  · next rest =>
    simp only
    cases f.finish negated (applyWaiting f waiting (unionOf items)).set <;> rfl
  · rfl
  · rfl
  · rfl
  · next ended opened closed both less unlike =>
    have item : operation? behind = none := by
      unfold operation?
      split
      · next rest => exact (both rest rfl).elim
      · next rest => exact (less rest rfl).elim
      · next rest => exact (unlike rest rfl).elim
      · rfl
    split
    · exact (ended rfl).elim
    · next rest => exact (opened rest rfl).elim
    · next rest => exact (closed rest rfl).elim
    · rw [item]

end

/-! ## Groups -/

/-- What flags begin, by how they end. -/
def startOfFlags (read : Flags × FlagsEnd) : GroupStart :=
  match read.2 with
  | .group => .flags read.1
  | .body => .group read.1 none

/-- Reads the beginning of a group behind its question mark. -/
def readGroupMark (f : Flags) : List Char → Reading (GroupStart × List Char)
  | '=' :: _ | '!' :: _ | '<' :: '=' :: _ | '<' :: '!' :: _ => .error .badGroup
  | 'P' :: '<' :: rest | '<' :: rest =>
    (readGroupName true rest).map fun read ↦ (.group f (some read.1), read.2)
  | rest =>
    (readFlags f [] false false rest).map fun read ↦ (startOfFlags read.1, read.2)

/-- A group begins with a question mark, or at once with its content. -/
theorem readGroupStart_eq (f : Flags) (s : List Char) :
    readGroupStart f s = match f.skip s with
      | '?' :: rest => readGroupMark f rest
      | rest => .ok (.group f none, rest) := by
  unfold readGroupStart readGroupMark
  generalize f.skip s = behind
  split
  · rfl
  · rfl
  · rfl
  · rfl
  · rfl
  · simp only
  · simp only
    rfl
  · simp only

/-! ## Sequences -/

/-- Whether a character begins a piece of a sequence. -/
def beginsPiece (c : Char) : Prop := c ≠ ')' ∧ c ≠ '|' ∧ c ≠ '('

/-- What comes next in a pattern: its end, the end of a group, the end of an alternative, a group,
or a piece of a sequence. -/
inductive ComesNext : List Char → Prop
  | finish : ComesNext []
  | close (rest : List Char) : ComesNext (')' :: rest)
  | bar (rest : List Char) : ComesNext ('|' :: rest)
  | opening (rest : List Char) : ComesNext ('(' :: rest)
  | piece (c : Char) (rest : List Char) (begins : beginsPiece c) : ComesNext (c :: rest)

/-- Something of this comes next in every text. -/
theorem comesNext (s : List Char) : ComesNext s := by
  rcases s with _ | ⟨c, s⟩
  · exact .finish
  by_cases close : c = ')'
  · subst close
    exact .close s
  by_cases bar : c = '|'
  · subst bar
    exact .bar s
  by_cases opening : c = '('
  · subst opening
    exact .opening s
  · exact .piece c s ⟨close, bar, opening⟩

/-- Reads a piece of a sequence behind its first character, given the items before it. -/
def readPiece (f : Flags) (items : List Item) (c : Char) (rest : List Char) :
    Reading (List Item × List Char) :=
  match c with
  | '[' =>
    readClassOpening f rest >>= fun opening ↦
      (readClass f opening.1.1 (opening.2.length + 1) opening.1.2 none opening.2).map fun read ↦
        (.part ⟨.one read.1.set, read.1.depth⟩ :: items, read.2)
  | '?' => (repeatLast items 0 (some 1)).map (·, skipLazy rest)
  | '*' => (repeatLast items 0 none).map (·, skipLazy rest)
  | '+' => (repeatLast items 1 none).map (·, skipLazy rest)
  | '\x7b' =>
    readCounts f rest >>= fun counts ↦
      (repeatLast items counts.1.1 counts.1.2).map (·, skipLazy (f.skip counts.2))
  | '.' => (dotPart f).map fun p ↦ (.part p :: items, rest)
  | '^' => .ok (.part ⟨.look (caret f), 0⟩ :: items, rest)
  | '$' => .ok (.part ⟨.look (dollar f), 0⟩ :: items, rest)
  | '\\' =>
    readEscape f rest >>= fun read ↦
      (primitivePart f read.1).map fun p ↦ (.part p :: items, read.2)
  | c => (primitivePart f (.literal c false)).map fun p ↦ (.part p :: items, rest)

/-- Reads on behind the beginning of a group. -/
def readGroup (fuel : Nat) (f : Flags) (names : List (List Char)) (items : List Item)
    (others : List Part) (start : GroupStart) (rest : List Char) : Reading (Body × List Char) :=
  match start with
  | .flags g => readBody fuel g names (.flags :: items) others rest
  | .group g name =>
    if name.any names.contains then .error .badGroupName
    else
      readBody fuel g (name.toList ++ names) [] [] rest >>= fun inner ↦
        match inner.2 with
        | ')' :: rest =>
          readBody fuel f inner.1.names
            (.part ⟨inner.1.part.regex, inner.1.part.depth + 1⟩ :: items) others rest
        | _ => .error .unclosedGroup

variable {fuel : Nat} {f : Flags} {names : List (List Char)} {items : List Item}
  {others : List Part} {s rest : List Char}

/-- A pattern ends where nothing is left. -/
theorem readBody_end (h : f.skip s = []) :
    readBody (fuel + 1) f names items others s =
      .ok (⟨eitherOf (sequenceOf items) others, names⟩, []) := by
  rw [readBody, h]

/-- A group ends at a closing bracket. -/
theorem readBody_close (h : f.skip s = ')' :: rest) :
    readBody (fuel + 1) f names items others s =
      .ok (⟨eitherOf (sequenceOf items) others, names⟩, ')' :: rest) := by
  rw [readBody, h]
  rfl

/-- A bar is followed by another alternative. -/
theorem readBody_bar (h : f.skip s = '|' :: rest) :
    readBody (fuel + 1) f names items others s =
      readBody fuel f names [] (sequenceOf items :: others) rest := by
  rw [readBody, h]
  rfl

/-- An opening bracket is followed by a group. -/
theorem readBody_open (h : f.skip s = '(' :: rest) :
    readBody (fuel + 1) f names items others s =
      readGroupStart f rest >>= fun start ↦
        readGroup fuel f names items others start.1 start.2 := by
  rw [readBody, h]
  refine congrArg (readGroupStart f rest >>= ·) (funext fun read ↦ ?_)
  obtain ⟨start, rest⟩ := read
  cases start with
  | flags g => rfl
  | group g name =>
    simp only [readGroup]
    cases name.any names.contains with
    | true => rfl
    | false =>
      refine congrArg (readBody fuel g (name.toList ++ names) [] [] rest >>= ·)
        (funext fun read ↦ ?_)
      obtain ⟨body, _ | ⟨c, rest⟩⟩ := read
      · rfl
      by_cases close : c = ')'
      · subst close
        rfl
      · simp only
        rfl

/-- Any other character begins a piece. -/
theorem readBody_piece {c : Char} (begins : beginsPiece c) (h : f.skip s = c :: rest) :
    readBody (fuel + 1) f names items others s =
      readPiece f items c rest >>= fun read ↦ readBody fuel f names read.1 others read.2 := by
  obtain ⟨notClose, notBar, notOpen⟩ := begins
  have again (least : Nat) (most : Option Nat) (rest : List Char) :
      (repeatLast items least most >>= fun items ↦ readBody fuel f names items others rest) =
        (repeatLast items least most).map (·, rest) >>= fun read ↦
          readBody fuel f names read.1 others read.2 := by
    cases repeatLast items least most <;> rfl
  have push (x : Reading Part) (rest : List Char) :
      (x >>= fun p ↦ readBody fuel f names (.part p :: items) others rest) =
        x.map (fun p ↦ (Item.part p :: items, rest)) >>= fun read ↦
          readBody fuel f names read.1 others read.2 := by
    cases x <;> rfl
  rw [readBody, h]
  by_cases bracket : c = '['
  · subst bracket
    simp only [readPiece]
    cases readClassOpening f rest with
    | error e => rfl
    | ok opening =>
      obtain ⟨⟨negated, members⟩, rest⟩ := opening
      change readClass f negated (rest.length + 1) members none rest >>= _ =
        (readClass f negated (rest.length + 1) members none rest).map _ >>= _
      cases readClass f negated (rest.length + 1) members none rest <;> rfl
  by_cases optional : c = '?'
  · subst optional
    exact again 0 (some 1) (skipLazy rest)
  by_cases star : c = '*'
  · subst star
    exact again 0 none (skipLazy rest)
  by_cases plus : c = '+'
  · subst plus
    exact again 1 none (skipLazy rest)
  by_cases brace : c = '\x7b'
  · subst brace
    simp only [readPiece]
    cases readCounts f rest with
    | error e => rfl
    | ok counts => exact again counts.1.1 counts.1.2 (skipLazy (f.skip counts.2))
  by_cases dot : c = '.'
  · subst dot
    exact push (dotPart f) rest
  by_cases start : c = '^'
  · subst start
    rfl
  by_cases stop : c = '$'
  · subst stop
    rfl
  by_cases escape : c = '\\'
  · subst escape
    simp only [readPiece]
    cases readEscape f rest with
    | error e => rfl
    | ok read => exact push (primitivePart f read.1) read.2
  · simp only [readPiece, push]

end Teletype.Regex
