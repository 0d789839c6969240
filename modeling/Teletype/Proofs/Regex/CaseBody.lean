import Teletype.Proofs.Regex.CaseClass
/-!
# Patterns in any case

A text is a pattern in any case just when it is one otherwise, with the same nesting and the same
names of groups, and where it is none, the reason is the same. The flag for any case may be set and
cleared within a pattern, so the flags in force differ in it or do not.
-/

namespace Teletype.Regex

/-! ## Flags -/

/-- Flags that are the same but for letter case. -/
def SameButCase (f g : Flags) : Prop := ∃ b, g = f.withCase b

variable {f g : Flags}

/-- Setting a flag keeps the others the same. -/
private theorem sameButCase_set? (h : SameButCase f g) (c : Char) (value : Bool) :
    (f.set? c value = none ∧ g.set? c value = none) ∨
      ∃ f' g', f.set? c value = some f' ∧ g.set? c value = some g' ∧ SameButCase f' g' := by
  obtain ⟨b, rfl⟩ := h
  unfold Flags.set?
  split
  · exact .inr ⟨_, _, rfl, rfl, value, rfl⟩
  · exact .inr ⟨_, _, rfl, rfl, b, rfl⟩
  · exact .inr ⟨_, _, rfl, rfl, b, rfl⟩
  · exact .inr ⟨_, _, rfl, rfl, b, rfl⟩
  · exact .inr ⟨_, _, rfl, rfl, b, rfl⟩
  · exact .inr ⟨_, _, rfl, rfl, b, rfl⟩
  · exact .inr ⟨_, _, rfl, rfl, b, rfl⟩
  · exact .inl ⟨rfl, rfl⟩

/-- Lists of flags that end alike, and set the same but for letter case. -/
def FlagsAlike (x y : Flags × FlagsEnd) : Prop := SameButCase x.1 y.1 ∧ x.2 = y.2

private theorem alike_readFlags (h : SameButCase f g) (seen : List Char) (clearing fresh : Bool)
    (s : List Char) :
    Alike (WithRest FlagsAlike) (readFlags f seen clearing fresh s)
      (readFlags g seen clearing fresh s) := by
  induction s generalizing f g seen clearing fresh with
  | nil => exact .error _
  | cons c s ih =>
    by_cases close : c = ')'
    · subst close
      simp only [readFlags]
      split
      · exact .error _
      split
      · exact .error _
      · exact .ok ⟨⟨h, rfl⟩, rfl⟩
    by_cases colon : c = ':'
    · subst colon
      simp only [readFlags]
      split
      · exact .error _
      · exact .ok ⟨⟨h, rfl⟩, rfl⟩
    by_cases hyphen : c = '-'
    · subst hyphen
      simp only [readFlags]
      split
      · exact .error _
      · exact ih h _ _ _
    · simp only [readFlags]
      split
      · exact .error _
      rcases sameButCase_set? h c !clearing with ⟨unknown, unknown'⟩ | ⟨f', g', set, set', same⟩
      · rw [unknown, unknown']
        exact .error _
      · rw [set, set']
        exact ih same _ _ _

/-! ## Groups -/

/-- Groups that begin alike. -/
inductive StartsAlike : GroupStart → GroupStart → Prop
  | flags {f g : Flags} (h : SameButCase f g) : StartsAlike (.flags f) (.flags g)
  | group {f g : Flags} (h : SameButCase f g) (name : Option (List Char)) :
    StartsAlike (.group f name) (.group g name)

private theorem startsAlike_startOfFlags {x y : Flags × FlagsEnd} (h : FlagsAlike x y) :
    StartsAlike (startOfFlags x) (startOfFlags y) := by
  obtain ⟨f, stop⟩ := x
  obtain ⟨g, stop'⟩ := y
  obtain ⟨same, rfl⟩ := h
  cases stop with
  | group => exact .flags same
  | body => exact .group same none

private theorem alike_readGroupMark (h : SameButCase f g) (s : List Char) :
    Alike (WithRest StartsAlike) (readGroupMark f s) (readGroupMark g s) := by
  have named (s : List Char) : Alike (WithRest StartsAlike)
      ((readGroupName true s).map fun read ↦ (GroupStart.group f (some read.1), read.2))
      ((readGroupName true s).map fun read ↦ (GroupStart.group g (some read.1), read.2)) :=
    .map (R := (· = ·)) (.self fun _ _ ↦ rfl) fun read _ same ↦ same ▸ ⟨.group h _, rfl⟩
  unfold readGroupMark
  split
  · exact .error _
  · exact .error _
  · exact .error _
  · exact .error _
  · exact named _
  · exact named _
  · exact (alike_readFlags h [] false false s).map fun _ _ related ↦
      ⟨startsAlike_startOfFlags related.1, related.2⟩

private theorem alike_readGroupStart (h : SameButCase f g) (s : List Char) :
    Alike (WithRest StartsAlike) (readGroupStart f s) (readGroupStart g s) := by
  rw [readGroupStart_eq, readGroupStart_eq]
  obtain ⟨b, rfl⟩ := id h
  rw [skip_withCase]
  split
  · exact alike_readGroupMark h _
  · exact .ok ⟨.group h none, rfl⟩

/-! ## Counts -/

section

variable (f : Flags) (b : Bool)

@[simp] private theorem readCountDigits_withCase (fuel : Nat) (s : List Char) :
    readCountDigits (f.withCase b) fuel s = readCountDigits f fuel s := by
  induction fuel generalizing s with
  | zero => rfl
  | succ fuel ih => cases s <;> simp [readCountDigits, ih]

@[simp] private theorem readCounts_withCase (s : List Char) :
    readCounts (f.withCase b) s = readCounts f s := by
  have count (s : List Char) : readCount (f.withCase b) s = readCount f s := by
    simp only [readCount, skip_withCase, readCountDigits_withCase]
  simp only [readCounts, skip_withCase, count]

end

/-! ## Pieces -/

/-- Items of a sequence that are nested alike. -/
inductive Item.Alike : Item → Item → Prop
  | part {p q : Part} (h : p.depth = q.depth) : Item.Alike (.part p) (.part q)
  | flags : Item.Alike .flags .flags

/-- Sequences of items that are nested alike. -/
abbrev SequencesAlike : List Item → List Item → Prop := List.Forall₂ Item.Alike

variable {items items' : List Item}

private theorem alike_repeatLast (h : SequencesAlike items items') (least : Nat)
    (most : Option Nat) :
    Alike SequencesAlike (repeatLast items least most) (repeatLast items' least most) := by
  cases h with
  | nil => exact .error _
  | cons first rest =>
    cases first with
    | part nested => exact .ok (.cons (.part (congrArg (· + 1) nested)) rest)
    | flags => exact .error _

/-- The same depth of two parts. -/
def PartsAlike (p q : Part) : Prop := p.depth = q.depth

private theorem alike_primitivePart (b : Bool) {p q : Primitive} (h : f.PrimitivesAlike p q) :
    Alike PartsAlike (primitivePart f p) (primitivePart (f.withCase b) q) := by
  cases h with
  | literal c byte =>
    change Alike _ (if byte && !f.unicode && decide (0x80 ≤ c.toNat) then _ else _)
      (if byte && !f.unicode && decide (0x80 ≤ c.toNat) then _ else _)
    cases byte && !f.unicode && decide (0x80 ≤ c.toNat) with
    | true => exact .error _
    | false => exact .ok rfl
  | look a => exact .ok rfl
  | set sets => exact .ok rfl

/-- A piece is read in any case as otherwise. -/
private theorem alike_readPiece (h : SameButCase f g) (same : SequencesAlike items items')
    (c : Char) (s : List Char) :
    Alike (WithRest SequencesAlike) (readPiece f items c s) (readPiece g items' c s) := by
  have push {p q : Part} (rest : List Char) (nested : PartsAlike p q) :
      WithRest SequencesAlike (.part p :: items, rest) (.part q :: items', rest) :=
    ⟨.cons (.part nested) same, rfl⟩
  obtain ⟨b, rfl⟩ := h
  unfold readPiece
  split
  · rw [readClassOpening_withCase]
    refine Alike.bind (R := fun x y ↦ x = y ∧ readClassOpening f s = .ok x)
      (.self fun _ reads ↦ ⟨rfl, reads⟩) fun opening opening' read ↦ ?_
    obtain ⟨rfl, reads⟩ := read
    have members := itemsAlike_of_readClassOpening f reads
    exact (alike_readClass f b opening.1.1 _ members .none opening.2).map fun _ _ related ↦
      ⟨.cons (.part related.1.depth) same, related.2⟩
  · exact (alike_repeatLast same 0 (some 1)).beside _
  · exact (alike_repeatLast same 0 none).beside _
  · exact (alike_repeatLast same 1 none).beside _
  · rw [readCounts_withCase]
    refine Alike.bind (R := (· = ·)) (.self fun _ _ ↦ rfl) fun counts counts' read ↦ ?_
    subst read
    exact (alike_repeatLast same counts.1.1 counts.1.2).beside _
  · exact .map (R := PartsAlike) (.self fun _ _ ↦ rfl) fun _ _ nested ↦ push s nested
  · exact .ok (push s rfl)
  · exact .ok (push s rfl)
  · refine (alike_readEscape f b s).bind fun read read' related ↦ ?_
    rw [← related.2]
    exact (alike_primitivePart b related.1).map fun _ _ nested ↦ push read.2 nested
  · exact (alike_primitivePart b (.literal c false)).map fun _ _ nested ↦ push s nested

/-! ## Patterns -/

private theorem depth_sequenceOf (same : SequencesAlike items items') :
    (sequenceOf items).depth = (sequenceOf items').depth := by
  have depths : items.map (fun i ↦ i.toPart.depth) = items'.map fun i ↦ i.toPart.depth := by
    induction same with
    | nil => rfl
    | cons first _ ih =>
      cases first with
      | part nested => rw [List.map_cons, List.map_cons, ih, Item.toPart, Item.toPart, nested]
      | flags => rw [List.map_cons, List.map_cons, ih]
  have whole (items : List Item) :
      (sequenceOf items).depth = depthOf (items.map fun i ↦ i.toPart.depth).reverse := by
    simp only [sequenceOf, List.map_map, List.map_reverse, Function.comp_def]
  rw [whole, whole, depths]

/-- What is known behind the end of two groups that are nested alike. -/
structure BodiesAlike (x y : Body) : Prop where
  depth : x.part.depth = y.part.depth
  names : x.names = y.names

/-- A pattern is read in any case as otherwise. -/
theorem alike_readBody (fuel : Nat) (h : SameButCase f g) (names : List (List Char))
    (same : SequencesAlike items items') {others others' : List Part}
    (before : others.map Part.depth = others'.map Part.depth) (s : List Char) :
    Alike (WithRest BodiesAlike) (readBody fuel f names items others s)
      (readBody fuel g names items' others' s) := by
  induction fuel generalizing f g names items items' others others' s with
  | zero => exact .error _
  | succ fuel ih =>
    have skip : g.skip s = f.skip s := by
      obtain ⟨b, rfl⟩ := h
      rfl
    have whole : BodiesAlike ⟨eitherOf (sequenceOf items) others, names⟩
        ⟨eitherOf (sequenceOf items') others', names⟩ := by
      refine ⟨?_, rfl⟩
      simp only [eitherOf, List.map_cons, depth_sequenceOf same, before]
    have next := comesNext (f.skip s)
    generalize ahead : f.skip s = behind at next skip
    cases next with
    | finish =>
      rw [readBody_end ahead, readBody_end skip]
      exact .ok ⟨whole, rfl⟩
    | close rest =>
      rw [readBody_close ahead, readBody_close skip]
      exact .ok ⟨whole, rfl⟩
    | bar rest =>
      rw [readBody_bar ahead, readBody_bar skip]
      refine ih h names .nil ?_ rest
      rw [List.map_cons, List.map_cons, depth_sequenceOf same, before]
    | opening rest =>
      rw [readBody_open ahead, readBody_open skip]
      refine (alike_readGroupStart h rest).bind fun read read' related ↦ ?_
      obtain ⟨start, rest⟩ := read
      obtain ⟨start', rest'⟩ := read'
      obtain ⟨begins, left⟩ := related
      dsimp only at begins left
      subst left
      cases begins with
      | flags again => exact ih again names (.cons .flags same) before rest
      | group again name =>
        simp only [readGroup]
        split
        · exact .error _
        refine (ih again (name.toList ++ names) .nil rfl rest).bind fun read read' related ↦ ?_
        obtain ⟨inner, rest⟩ := read
        obtain ⟨inner', rest'⟩ := read'
        obtain ⟨nested, left⟩ := related
        dsimp only at nested left ⊢
        subst left
        split
        · rw [← nested.names]
          exact ih h inner.names (.cons (.part (congrArg (· + 1) nested.depth)) same) before _
        · exact .error _
    | piece c rest begins =>
      rw [readBody_piece begins ahead, readBody_piece begins skip]
      refine (alike_readPiece h same c rest).bind fun read read' related ↦ ?_
      rw [← related.2]
      exact ih h names related.1 before read.2

end Teletype.Regex
