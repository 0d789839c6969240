import Mathlib.Data.List.Forall2
import Teletype.Proofs.Regex.Pieces
import Teletype.Proofs.Regex.Plain
/-!
# Escapes and classes in any case

The flag for any case changes the sets that a pattern consists of, and nothing else: how far a piece
is read, and why it cannot be, are the same with and without it. What could tell the two apart is
that a set without Unicode has to hold plain characters only. But then it is made of such sets, and
these stay plain when the other case is added to them.
-/

namespace Teletype.Regex

/-! ## Readings that are alike -/

/-- Two readings that give related results, or fail for the same reason. -/
inductive Alike {α β : Type} (R : α → β → Prop) : Reading α → Reading β → Prop
  | ok {a : α} {b : β} (related : R a b) : Alike R (.ok a) (.ok b)
  | error (e : PatternError) : Alike R (.error e) (.error e)

/-- What was read is related, and the same is left behind it. -/
def WithRest {α : Type} (R : α → α → Prop) (x y : α × List Char) : Prop := R x.1 y.1 ∧ x.2 = y.2

namespace Alike

variable {α β γ δ : Type} {R : α → β → Prop} {S : γ → δ → Prop} {x : Reading α} {y : Reading β}

/-- Readings that are alike are continued by readings that are alike. -/
theorem bind {k : α → Reading γ} {k' : β → Reading δ} (h : Alike R x y)
    (next : ∀ a b, R a b → Alike S (k a) (k' b)) : Alike S (x >>= k) (y >>= k') := by
  cases h with
  | ok related => exact next _ _ related
  | error e => exact .error e

/-- What is read alike may be changed alike. -/
theorem map {g : α → γ} {g' : β → δ} (h : Alike R x y) (next : ∀ a b, R a b → S (g a) (g' b)) :
    Alike S (x.map g) (y.map g') := by
  cases h with
  | ok related => exact .ok (next _ _ related)
  | error e => exact .error e

/-- A reading is like itself. -/
theorem self {R : α → α → Prop} {x : Reading α} (h : ∀ a, x = .ok a → R a a) : Alike R x x := by
  cases x with
  | ok a => exact .ok (h a rfl)
  | error e => exact .error e

/-- What is read alike is related. -/
theorem related {a : α} {b : β} (h : Alike R x y) (left : x = .ok a) (right : y = .ok b) :
    R a b := by
  subst left right
  cases h with
  | ok related => exact related

/-- Of two readings that are alike, both fail for a reason or neither does. -/
theorem error_iff (h : Alike R x y) (e : PatternError) : x = .error e ↔ y = .error e := by
  cases h with
  | ok related => simp only [reduceCtorEq]
  | error e' => simp only [Except.error.injEq]

/-- What is made alike of the same leaves the same rest. -/
theorem beside {R : α → α → Prop} {x y : Reading α} (h : Alike R x y) (rest : List Char) :
    Alike (WithRest R) (x.map (·, rest)) (y.map (·, rest)) :=
  h.map fun _ _ related ↦ ⟨related, rfl⟩

end Alike

/-! ## Sets -/

/-- The same flags, with letter case ignored or not. -/
def Flags.withCase (f : Flags) (ignored : Bool) : Flags := { f with ignoreCase := ignored }

variable (f : Flags) (b : Bool)

/-- Two sets that hold plain characters only if there is no Unicode. -/
def Flags.PlainBoth (s t : CharSet) : Prop := f.unicode = false → s.HoldsPlain ∧ t.HoldsPlain

variable {f} in
/-- A set of plain characters is plain in any case. -/
theorem holdsPlain_fold (ascii : f.unicode = false) {s : CharSet} (plain : s.HoldsPlain) :
    (f.fold s).HoldsPlain := by
  unfold Flags.fold
  rw [ascii]
  split
  · exact plain
  · exact plain.asciiFolded

/-- A set is folded and negated in any case as otherwise. -/
theorem alike_finish (negated : Bool) {s t : CharSet} (h : f.PlainBoth s t) :
    Alike f.PlainBoth (f.finish negated s) ((f.withCase b).finish negated t) := by
  cases ascii : f.unicode with
  | true =>
    have all (g : Flags) (unicode : g.unicode = true) (s : CharSet) : g.finish negated s =
        .ok (if negated then (g.fold s).complement else g.fold s) := by
      simp [Flags.finish, unicode]
    rw [all f ascii, all (f.withCase b) ascii]
    exact .ok fun unicode ↦ absurd (ascii.symm.trans unicode) (by decide)
  | false =>
    obtain ⟨left, right⟩ := h ascii
    have left := holdsPlain_fold ascii left
    have right := holdsPlain_fold (f := f.withCase b) ascii right
    cases negated with
    | true =>
      -- What a set of plain characters leaves out is not plain, with the other case or without.
      have fails (g : Flags) (ascii : g.unicode = false) {s : CharSet}
          (plain : (g.fold s).HoldsPlain) : g.finish true s = .error .notUnicode := by
        simp [Flags.finish, ascii, plain.isPlain_complement]
      rw [fails f ascii left, fails (f.withCase b) ascii right]
      exact .error _
    | false =>
      have kept (g : Flags) {s : CharSet} (plain : (g.fold s).HoldsPlain) :
          g.finish false s = .ok (g.fold s) := by
        simp [Flags.finish, plain.isPlain]
      rw [kept f left, kept (f.withCase b) right]
      exact .ok fun _ ↦ ⟨left, right⟩

/-! ## Escapes -/

/-- The same is passed over in any case. -/
@[simp] theorem skip_withCase (s : List Char) : (f.withCase b).skip s = f.skip s := rfl

/-- Two primitives that are the same but for sets. -/
inductive Flags.PrimitivesAlike : Primitive → Primitive → Prop
  | literal (c : Char) (byte : Bool) : PrimitivesAlike (.literal c byte) (.literal c byte)
  | look (a : Assertion) : PrimitivesAlike (.look a) (.look a)
  | set {s t : CharSet} (h : f.PlainBoth s t) : PrimitivesAlike (.set s) (.set t)

@[simp] private theorem readHexDigits_withCase (count n : Nat) (s : List Char) :
    readHexDigits (f.withCase b) count n s = readHexDigits f count n s := by
  induction count generalizing n s with
  | zero => rfl
  | succ count ih => cases s <;> simp [readHexDigits, ih]

@[simp] private theorem readHexBrace_withCase (fuel : Nat) (n : Option Nat) (s : List Char) :
    readHexBrace (f.withCase b) fuel n s = readHexBrace f fuel n s := by
  induction fuel generalizing n s with
  | zero => rfl
  | succ fuel ih => cases s <;> simp [readHexBrace, ih]

@[simp] private theorem readBraceName_withCase (fuel : Nat) (s : List Char) :
    readBraceName (f.withCase b) fuel s = readBraceName f fuel s := by
  induction fuel generalizing s with
  | zero => rfl
  | succ fuel ih => cases s <;> simp [readBraceName, ih]

@[simp] private theorem readEdgeName_withCase (fuel : Nat) (s : List Char) :
    readEdgeName (f.withCase b) fuel s = readEdgeName f fuel s := by
  induction fuel generalizing s with
  | zero => rfl
  | succ fuel ih => cases s <;> simp [readEdgeName, ih]

@[simp] private theorem readHex_withCase (digits : Nat) (s : List Char) :
    readHex (f.withCase b) digits s = readHex f digits s := by
  simp [readHex]

@[simp] private theorem readWordEdge_withCase (s : List Char) :
    readWordEdge (f.withCase b) s = readWordEdge f s := by
  unfold readWordEdge
  simp

@[simp] private theorem readPropertyName_withCase (s : List Char) :
    readPropertyName (f.withCase b) s = readPropertyName f s := by
  simp [readPropertyName]

private theorem alike_propertyOf (negated : Bool) (name : List Char) :
    Alike f.PrimitivesAlike (propertyOf f negated name)
      (propertyOf (f.withCase b) negated name) := by
  change Alike _ (if !f.unicode then _ else _) (if !f.unicode then _ else _)
  split
  · exact .error _
  · next unicode =>
    rcases propertySet? name with _ | ⟨s, differs⟩
    · exact .error _
    · have both : f.PlainBoth s s := fun ascii ↦ by simp [ascii] at unicode
      exact (alike_finish f b (negated != differs) both).map fun _ _ h ↦ .set h

/-- A property is read in any case as otherwise. -/
private theorem alike_readProperty (negated : Bool) (s : List Char) :
    Alike (WithRest f.PrimitivesAlike) (readProperty f negated s)
      (readProperty (f.withCase b) negated s) := by
  rw [readProperty_eq, readProperty_eq, readPropertyName_withCase]
  refine Alike.bind (R := (· = ·)) (.self fun _ _ ↦ rfl) fun read read' same ↦ ?_
  subst same
  exact (alike_propertyOf f b negated read.1).beside read.2

/-- The set of a class letter is plain if there is no Unicode. -/
private theorem plainBoth_letterSet? {c : Char} {s : CharSet}
    (named : letterSet? f c = some (.ok s)) : f.PlainBoth s s := by
  intro ascii
  have plain {negated : Bool} {t : CharSet} (class? : t.HoldsPlain)
      (made : (f.withCase false).finish negated t = .ok s) : s.HoldsPlain ∧ s.HoldsPlain :=
    (alike_finish (f.withCase false) false negated fun _ ↦ ⟨class?, class?⟩).related made made ascii
  cases set : CharSet.letterClass? f.unicode c with
  | some t =>
    simp only [letterSet?, set] at named
    exact plain (CharSet.holdsPlain_letterClass? (ascii ▸ set)) (Option.some.inj named)
  | none =>
    simp only [letterSet?, set] at named
    split at named
    · obtain ⟨t, set, made⟩ := Option.map_eq_some_iff.mp named
      exact plain (CharSet.holdsPlain_letterClass? (ascii ▸ set)) made
    · cases named

@[simp] private theorem letterSet?_withCase (c : Char) :
    letterSet? (f.withCase b) c = letterSet? f c := rfl

@[simp] private theorem wordSet_withCase : (f.withCase b).wordSet = f.wordSet := rfl

/-- The number of a character stands for the same character. -/
private theorem alike_readHex (digits : Nat) (s : List Char) :
    Alike (WithRest f.PrimitivesAlike) (readHex f digits s) (readHex f digits s) := by
  have number (byte : Bool) (x : Reading (Nat × List Char)) :
      Alike (WithRest f.PrimitivesAlike)
        (x >>= fun read ↦ (numbered byte read.1).map (·, read.2))
        (x >>= fun read ↦ (numbered byte read.1).map (·, read.2)) := by
    refine Alike.bind (R := (· = ·)) (.self fun _ _ ↦ rfl) fun read read' same ↦ ?_
    subst same
    unfold numbered
    cases charOfNumber? read.1 with
    | some c => exact .ok ⟨.literal c byte, rfl⟩
    | none => exact .error _
  rw [readHex_eq]
  split
  · exact number false _
  · exact number (digits == 2) _

/-- An escape is read in any case as otherwise. -/
theorem alike_readEscape (s : List Char) :
    Alike (WithRest f.PrimitivesAlike) (readEscape f s) (readEscape (f.withCase b) s) := by
  have same (p : Primitive) (rest : List Char) (same : f.PrimitivesAlike p p) :
      Alike (WithRest f.PrimitivesAlike) (.ok (p, rest)) (.ok (p, rest)) := .ok ⟨same, rfl⟩
  cases s with
  | nil => exact .error _
  | cons c s =>
    simp only [readEscape, readHex_withCase, readWordEdge_withCase, letterSet?_withCase,
      wordSet_withCase]
    split
    · exact .error _
    split
    · exact alike_readHex f 2 s
    split
    · exact alike_readHex f 4 s
    split
    · exact alike_readHex f 8 s
    split
    · exact alike_readProperty f b false s
    split
    · exact alike_readProperty f b true s
    split
    · exact same _ _ (.literal c false)
    cases named : letterSet? f c with
    | some set =>
      cases set with
      | error e => exact .error e
      | ok set => exact same _ _ (.set (plainBoth_letterSet? f named))
    | none =>
      cases controlEscape? c with
      | some control => exact same _ _ (.literal control false)
      | none =>
        dsimp only
        split
        · exact same _ _ (.look _)
        · exact same _ _ (.look _)
        · exact .map (R := (· = ·)) (.self fun _ _ ↦ rfl) fun edge _ same ↦
            same ▸ ⟨.look (.word f.wordSet edge.1), rfl⟩
        · exact same _ _ (.look _)
        · exact same _ _ (.look _)
        · exact same _ _ (.look _)
        · exact .error _

/-! ## Items of classes -/

/-- Two items of a class that are the same but for their sets. -/
structure Flags.ItemsAlike (x y : ClassItem) : Prop where
  depth : x.depth = y.depth
  sets : f.PlainBoth x.set y.set

@[simp] private theorem ahead?_withCase (s : List Char) :
    (f.withCase b).ahead? s = f.ahead? s := by
  unfold Flags.ahead?
  rfl

variable {f} in
/-- A character that may be a member of a class is plain if there is no Unicode. -/
private theorem plain_of_classMember {c d : Char} (member : classMember f c = .ok d)
    (ascii : f.unicode = false) : d.toNat < 0x80 := by
  unfold classMember at member
  rw [ascii, Bool.false_or] at member
  split at member
  · next plain =>
    cases member
    exact of_decide_eq_true plain
  · cases member

private theorem alike_readClassPrimitive (s : List Char) :
    Alike (WithRest f.PrimitivesAlike) (readClassPrimitive f s)
      (readClassPrimitive (f.withCase b) s) := by
  unfold readClassPrimitive
  split
  · exact .error _
  · exact alike_readEscape f b _
  · exact .ok ⟨.literal _ false, rfl⟩

private theorem alike_classItemOf {p q : Primitive} (h : f.PrimitivesAlike p q) :
    Alike f.ItemsAlike (classItemOf f p) (classItemOf (f.withCase b) q) := by
  cases h with
  | literal c byte =>
    refine .self fun item made ↦ ⟨rfl, fun ascii ↦ ?_⟩
    simp only [classItemOf] at made
    cases member : classMember f c with
    | error e =>
      rw [member] at made
      cases made
    | ok d =>
      rw [member] at made
      cases made
      have plain := CharSet.holdsPlain_only (plain_of_classMember member ascii)
      exact ⟨plain, plain⟩
  | look a => exact .error _
  | set sets => exact .ok ⟨rfl, sets⟩

variable {f} in
private theorem exists_of_rangeOf {c d : Char} {byte byte' : Bool} {item : ClassItem}
    (made : rangeOf f (.literal c byte) (.literal d byte') = .ok item) :
    ∃ c' d', c' ≤ d' ∧ classMember f d = .ok d' ∧ ⟨.range c' d', 0⟩ = item := by
  simp only [rangeOf] at made
  cases first : classMember f c with
  | error e =>
    rw [first] at made
    cases made
  | ok c' =>
    cases second : classMember f d with
    | error e =>
      rw [first, second] at made
      cases made
    | ok d' =>
      rw [first, second] at made
      change (if c' ≤ d' then _ else _) = _ at made
      split at made
      · next order =>
        cases made
        exact ⟨c', d', order, rfl, rfl⟩
      · cases made

private theorem alike_rangeOf {p p' q q' : Primitive} (first : f.PrimitivesAlike p p')
    (second : f.PrimitivesAlike q q') :
    Alike f.ItemsAlike (rangeOf f p q) (rangeOf (f.withCase b) p' q') := by
  cases first with
  | literal c byte =>
    cases second with
    | literal d byte' =>
      refine .self fun item made ↦ ⟨rfl, fun ascii ↦ ?_⟩
      obtain ⟨c, d, order, member, rfl⟩ := exists_of_rangeOf made
      have plain := CharSet.holdsPlain_range order (plain_of_classMember member ascii)
      exact ⟨plain, plain⟩
    | look a => exact .error _
    | set sets => exact .error _
  | look a => cases second <;> exact .error _
  | set sets => cases second <;> exact .error _

private theorem alike_readItemEnd {p q : Primitive} (first : f.PrimitivesAlike p q)
    (s : List Char) :
    Alike (WithRest f.ItemsAlike) (readItemEnd f p s) (readItemEnd (f.withCase b) q s) := by
  unfold readItemEnd
  simp only [skip_withCase, ahead?_withCase]
  split
  · exact .error _
  · next afterHyphen ahead =>
    by_cases alone : f.ahead? afterHyphen = some ']' ∨ f.ahead? afterHyphen = some '-'
    · rw [if_pos alone, if_pos alone]
      exact (alike_classItemOf f b first).beside _
    · rw [if_neg alone, if_neg alone]
      refine (alike_readClassPrimitive f b _).bind fun second second' related ↦ ?_
      rw [← related.2]
      exact (alike_rangeOf f b first related.1).beside second.2
  · exact (alike_classItemOf f b first).beside _

/-- An item of a class is read in any case as otherwise. -/
private theorem alike_readClassItem (s : List Char) :
    Alike (WithRest f.ItemsAlike) (readClassItem f s) (readClassItem (f.withCase b) s) := by
  rw [readClassItem_eq, readClassItem_eq]
  refine (alike_readClassPrimitive f b s).bind fun first first' related ↦ ?_
  rw [← related.2]
  exact alike_readItemEnd f b related.1 first.2

/-! ## Classes -/

@[simp] private theorem readLeadingHyphens_withCase (fuel : Nat) (s : List Char) :
    readLeadingHyphens (f.withCase b) fuel s = readLeadingHyphens f fuel s := by
  induction fuel generalizing s with
  | zero => rfl
  | succ fuel ih =>
    rcases s with _ | ⟨c, s⟩
    · rfl
    by_cases hyphen : c = '-'
    · subst hyphen
      simp only [readLeadingHyphens, skip_withCase, ih]
    · rw [readLeadingHyphens_cons _ hyphen, readLeadingHyphens_cons _ hyphen]

private theorem holdsPlain_of_readLeadingHyphens (fuel : Nat) (s : List Char) :
    ∀ item ∈ (readLeadingHyphens f fuel s).1, item.set.HoldsPlain := by
  induction fuel generalizing s with
  | zero => exact fun item mem ↦ nomatch mem
  | succ fuel ih =>
    rcases s with _ | ⟨c, s⟩
    · exact fun item mem ↦ nomatch mem
    by_cases hyphen : c = '-'
    · subst hyphen
      exact List.forall_mem_cons.mpr ⟨CharSet.holdsPlain_only (by decide), ih (f.skip s)⟩
    · rw [readLeadingHyphens_cons _ hyphen]
      exact fun item mem ↦ nomatch mem

/-- The opening of a class is read in any case as otherwise. -/
@[simp] theorem readClassOpening_withCase (s : List Char) :
    readClassOpening (f.withCase b) s = readClassOpening f s := by
  unfold readClassOpening
  simp only [skip_withCase, readLeadingHyphens_withCase]

/-- What a class begins with holds plain characters only. -/
theorem itemsAlike_of_readClassOpening {s : List Char}
    {opening : (Bool × List ClassItem) × List Char} (reads : readClassOpening f s = .ok opening) :
    List.Forall₂ f.ItemsAlike opening.1.2 opening.1.2 := by
  have plain : ∀ item ∈ opening.1.2, item.set.HoldsPlain := by
    have hyphens := holdsPlain_of_readLeadingHyphens f ((readSign f s).2.length + 1)
      (readSign f s).2
    rw [readClassOpening_eq] at reads
    change readFirst f _ _ _ = _ at reads
    generalize readLeadingHyphens f _ _ = read at *
    unfold readFirst at reads
    split at reads
    · cases reads
    · split at reads
      · cases reads
      · cases reads
        exact List.forall_mem_singleton.mpr (CharSet.holdsPlain_only (by decide))
    · cases reads
      exact hyphens
  exact List.forall₂_same.mpr fun item mem ↦ ⟨rfl, fun _ ↦ ⟨plain item mem, plain item mem⟩⟩

variable {f} in
private theorem holdsPlain_of_forall₂ (ascii : f.unicode = false) {items items' : List ClassItem}
    (h : List.Forall₂ f.ItemsAlike items items') :
    (∀ x ∈ items, x.set.HoldsPlain) ∧ ∀ y ∈ items', y.set.HoldsPlain := by
  induction h with
  | nil => exact ⟨List.forall_mem_nil _, List.forall_mem_nil _⟩
  | cons first _ ih =>
    obtain ⟨left, right⟩ := first.sets ascii
    exact ⟨List.forall_mem_cons.mpr ⟨left, ih.1⟩, List.forall_mem_cons.mpr ⟨right, ih.2⟩⟩

/-- Several items together are alike if each of them is. -/
private theorem itemsAlike_unionOf {items items' : List ClassItem}
    (h : List.Forall₂ f.ItemsAlike items items') :
    f.ItemsAlike (unionOf items) (unionOf items') := by
  have depths : items.map ClassItem.depth = items'.map ClassItem.depth := by
    induction h with
    | nil => rfl
    | cons first _ ih => rw [List.map_cons, List.map_cons, first.depth, ih]
  refine ⟨congrArg depthOf depths, fun ascii ↦ ?_⟩
  obtain ⟨left, right⟩ := holdsPlain_of_forall₂ ascii h
  exact ⟨CharSet.isBelow_union (List.forall_mem_map.mpr left),
    CharSet.isBelow_union (List.forall_mem_map.mpr right)⟩

/-- Two operations that wait for their second set, the same but for their first one. -/
inductive Flags.WaitingAlike :
    Option (ClassItem × ClassOperation) → Option (ClassItem × ClassOperation) → Prop
  | none : WaitingAlike none none
  | some {x y : ClassItem} (op : ClassOperation) (h : f.ItemsAlike x y) :
    WaitingAlike (some (x, op)) (some (y, op))

/-- An operation on sets of plain characters gives such a set. -/
private theorem holdsPlain_apply (op : ClassOperation) {s t : CharSet} (left : s.HoldsPlain)
    (right : t.HoldsPlain) : (op.apply s t).HoldsPlain := by
  cases op with
  | intersection => exact CharSet.isBelow_intersection (by decide) (by decide) left right
  | difference => exact CharSet.isBelow_difference (by decide) (by decide) left right
  | symmetricDifference => exact CharSet.isBelow_symmetricDifference (by decide) left right

private theorem itemsAlike_applyWaiting
    {waiting waiting' : Option (ClassItem × ClassOperation)} {x y : ClassItem}
    (before : f.WaitingAlike waiting waiting') (h : f.ItemsAlike x y) :
    f.ItemsAlike (applyWaiting f waiting x) (applyWaiting (f.withCase b) waiting' y) := by
  cases before with
  | none => exact h
  | some op first =>
    refine ⟨?_, fun ascii ↦ ?_⟩
    · simp only [applyWaiting, first.depth, h.depth]
    · obtain ⟨left, left'⟩ := first.sets ascii
      obtain ⟨right, right'⟩ := h.sets ascii
      have ascii' : (f.withCase b).unicode = false := ascii
      exact ⟨holdsPlain_apply op (holdsPlain_fold ascii left) (holdsPlain_fold ascii right),
        holdsPlain_apply op (holdsPlain_fold ascii' left') (holdsPlain_fold ascii' right')⟩

/-- A class in double brackets holds plain characters only. -/
private theorem holdsPlain_of_bracketClass? {s : List Char} {read : (CharSet × Bool) × List Char}
    (named : bracketClass? s = some read) : read.1.1.HoldsPlain := by
  have body {negated : Bool} {s : List Char} (named : bracketBody? negated s = some read) :
      read.1.1.HoldsPlain := by
    unfold bracketBody? at named
    split at named
    · obtain ⟨set, known, rfl⟩ := Option.map_eq_some_iff.mp named
      exact CharSet.holdsPlain_bracketClass? known
    · cases named
  rw [bracketClass?_eq] at named
  split at named
  · exact body named
  · exact body named
  · cases named

/-- A class is read in any case as otherwise. -/
theorem alike_readClass (negated : Bool) (fuel : Nat) {items items' : List ClassItem}
    (h : List.Forall₂ f.ItemsAlike items items')
    {waiting waiting' : Option (ClassItem × ClassOperation)}
    (before : f.WaitingAlike waiting waiting') (s : List Char) :
    Alike (WithRest f.ItemsAlike) (readClass f negated fuel items waiting s)
      (readClass (f.withCase b) negated fuel items' waiting' s) := by
  induction fuel generalizing negated items items' waiting waiting' s with
  | zero => exact .error _
  | succ fuel ih =>
    rw [readClass_succ, readClass_succ, skip_withCase]
    generalize f.skip s = behind
    rcases behind with _ | ⟨c, rest⟩
    · exact .error _
    by_cases opened : c = '['
    · subst opened
      simp only [readClassOpening_withCase]
      cases named : bracketClass? rest with
      | some read =>
        have plain := holdsPlain_of_bracketClass? named
        refine (alike_finish f b read.1.2 fun _ ↦ ⟨plain, plain⟩).bind fun set set' sets ↦ ?_
        have first : f.ItemsAlike ⟨set, 0⟩ ⟨set', 0⟩ := ⟨rfl, sets⟩
        exact ih negated (.cons first h) before read.2
      | none =>
        -- That the opening was read is kept, since it tells that its members are plain.
        refine Alike.bind (R := fun x y ↦ x = y ∧ readClassOpening f rest = .ok x)
          (.self fun _ reads ↦ ⟨rfl, reads⟩) fun opening opening' same ↦ ?_
        obtain ⟨rfl, reads⟩ := same
        have members := itemsAlike_of_readClassOpening f reads
        refine (ih opening.1.1 members .none opening.2).bind fun read read' related ↦ ?_
        rw [← related.2]
        exact ih negated (.cons related.1 h) before read.2
    by_cases closed : c = ']'
    · subst closed
      simp only
      have item := itemsAlike_applyWaiting f b before (itemsAlike_unionOf f h)
      refine (alike_finish f b negated item.sets).map fun set set' sets ↦ ⟨⟨?_, sets⟩, rfl⟩
      exact congrArg (· + 1) item.depth
    · simp only [List.cons.injEq, opened, closed, false_and, imp_self, implies_true]
      cases operation? (c :: rest) with
      | some next => exact ih negated .nil (.some next.1
          (itemsAlike_applyWaiting f b before (itemsAlike_unionOf f h))) next.2
      | none =>
        refine (alike_readClassItem f b (c :: rest)).bind fun read read' related ↦ ?_
        rw [← related.2]
        exact ih negated (.cons related.1 h) before read.2

end Teletype.Regex
