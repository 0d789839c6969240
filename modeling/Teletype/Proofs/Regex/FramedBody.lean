import Teletype.Proofs.Regex.FramedGroup
/-!
# Patterns in a frame

A pattern is read piece by piece. Each piece is read in a frame as by itself, so the whole pattern
is too, and the bracket of the frame closes the group that the frame has opened, unless the pattern
ends in a comment. Where a pattern by itself breaks off, the bracket goes to something within it,
and there is none left to close the group.
-/

namespace Teletype.Regex

/-! ## Pieces in a frame -/

private theorem skipLazy_framed (s : List Char) :
    skipLazy (s ++ frameEnd) = skipLazy s ++ frameEnd := by
  rcases s with _ | ⟨c, s⟩
  · rfl
  by_cases lazy : c = '?'
  · subst lazy
    rfl
  · simp [skipLazy, lazy]

private theorem length_skipLazy_le (s : List Char) : (skipLazy s).length ≤ s.length := by
  unfold skipLazy
  split
  · exact Nat.le_succ _
  · exact Nat.le_refl _

/-- The frame has lost its bracket, or is about to fail at a brace that is alone. -/
def Flags.LosesFrame (f : Flags) {α : Type} (a : α) (rest : List Char) : Prop :=
  unclosing a rest ∨ f.IsLoneBrace rest

private theorem framed_repeatLast (f : Flags) (items : List Item) (least : Nat)
    (most : Option Nat) {bound : Nat} (s : List Char) (short : s.length ≤ bound) :
    Framed f.LosesFrame bound ((repeatLast items least most).map (·, skipLazy s))
      ((repeatLast items least most).map (·, skipLazy (s ++ frameEnd))) := by
  rw [skipLazy_framed]
  exact .kept (repeatLast items least most) id _ (Nat.le_trans (length_skipLazy_le s) short)

private theorem framed_counted (f : Flags) (items : List Item) (s : List Char) :
    Framed f.LosesFrame s.length (readPiece f items '\x7b' s)
      (readPiece f items '\x7b' (s ++ frameEnd)) := by
  simp only [readPiece]
  refine (framed_readCounts f s).bind (fun counts rest less ↦ ?_) (fun counts ↦ ?_)
    fun _ _ none ↦ none.elim
  · rcases skip_framed f rest with ⟨behind, short, alone, framed⟩ | ⟨alone, framed⟩
    · rw [alone, framed]
      exact framed_repeatLast f items counts.1 counts.2 behind (Nat.le_trans short less)
    · rw [alone, framed]
      exact .lost (repeatLast items counts.1 counts.2) id
  · rw [skip_nil]
    exact .lost (repeatLast items counts.1 counts.2) id

private theorem framed_class (f : Flags) (items : List Item) (s : List Char) :
    Framed f.LosesFrame s.length (readPiece f items '[' s)
      (readPiece f items '[' (s ++ frameEnd)) := by
  simp only [readPiece]
  refine (framed_readClassOpening f s).bind (fun opening rest less ↦ ?_) (fun opening ↦ ?_)
    fun opening rest lost b r reads ↦ ?_
  · have room : rest.length + 2 < (rest ++ frameEnd).length + 1 := by
      rw [length_append_frameEnd]
      exact Nat.lt_succ_self _
    have read := framed_readClass f opening.1 _ _ opening.2 none rest (Nat.lt_succ_self _) room
    exact (read.map (fun item ↦ .part ⟨.one item.set, item.depth⟩ :: items)
      fun _ _ none ↦ none).of_never less
  · cases read : readClass f opening.1 (([] : List Char).length + 1) opening.2 none [] with
    | error e => exact .errors e e
    | ok item => exact absurd read (readClass_of_spent f opening.1 _ _ none (.inl rfl) item)
  · cases read : readClass f opening.1 (rest.length + 1) opening.2 none rest with
    | error e =>
      rw [read] at reads
      cases reads
    | ok item => exact absurd read (readClass_of_spent f opening.1 _ _ none lost item)

private theorem framed_escape (f : Flags) (items : List Item) (s : List Char) :
    Framed f.LosesFrame s.length (readPiece f items '\\' s)
      (readPiece f items '\\' (s ++ frameEnd)) := by
  simp only [readPiece]
  refine (framed_readEscape f s).bind (fun p rest less ↦ ?_) (fun p ↦ ?_)
    fun p rest lost read behind reads ↦ ?_
  · exact .kept (primitivePart f p) (Item.part · :: items) rest less
  · exact .lost (primitivePart f p) (Item.part · :: items)
  · rw [rest_of_map (g := (Item.part · :: items)) reads]
    exact lost.imp id And.right

/-- A piece is read in a frame as by itself, unless it breaks off. -/
theorem framed_readPiece (f : Flags) (items : List Item) (c : Char) (s : List Char) :
    Framed f.LosesFrame s.length (readPiece f items c s)
      (readPiece f items c (s ++ frameEnd)) := by
  by_cases bracket : c = '['
  · subst bracket
    exact framed_class f items s
  by_cases optional : c = '?'
  · subst optional
    exact framed_repeatLast f items 0 (some 1) s (Nat.le_refl _)
  by_cases star : c = '*'
  · subst star
    exact framed_repeatLast f items 0 none s (Nat.le_refl _)
  by_cases plus : c = '+'
  · subst plus
    exact framed_repeatLast f items 1 none s (Nat.le_refl _)
  by_cases brace : c = '\x7b'
  · subst brace
    exact framed_counted f items s
  by_cases dot : c = '.'
  · subst dot
    exact .kept (dotPart f) (Item.part · :: items) s (Nat.le_refl _)
  by_cases start : c = '^'
  · subst start
    exact .within (.part ⟨.look (caret f), 0⟩ :: items) s (Nat.le_refl _)
  by_cases stop : c = '$'
  · subst stop
    exact .within (.part ⟨.look (dollar f), 0⟩ :: items) s (Nat.le_refl _)
  by_cases escape : c = '\\'
  · subst escape
    exact framed_escape f items s
  · simp only [readPiece]
    exact .kept (primitivePart f (.literal c false)) (Item.part · :: items) s (Nat.le_refl _)

/-! ## Patterns in a frame -/

variable {fuel : Nat} {f : Flags} {names : List (List Char)} {items : List Item}
  {others : List Part} {s : List Char}

/-- Where the bracket of the frame is used up, the rest is read to its end. -/
theorem rest_of_readBody {read : Body × List Char} (lost : unclosing () s)
    (reads : readBody fuel f names items others s = .ok read) : read.2 = [] := by
  obtain _ | fuel := fuel
  · cases reads
  rcases lost with rfl | rfl
  · rw [readBody_end (skip_nil f)] at reads
    cases reads
    rfl
  · rw [readBody_piece ⟨by decide, by decide, by decide⟩ (skip_dollar f)] at reads
    change readBody fuel f names (_ :: items) others [] = .ok read at reads
    obtain _ | fuel := fuel
    · cases reads
    rw [readBody_end (skip_nil f)] at reads
    cases reads
    rfl

/-- Nothing is read from where there is a brace and nothing else in the frame. -/
theorem readBody_of_isLoneBrace (alone : f.IsLoneBrace s) (read : Body × List Char) :
    readBody fuel f names items others s ≠ .ok read := by
  obtain ⟨blanks, rfl, ended⟩ := alone
  intro reads
  obtain _ | fuel := fuel
  · cases reads
  rw [readBody_piece ⟨by decide, by decide, by decide⟩ (skip_brace f blanks)] at reads
  simp only [readPiece, readCounts_of_skip ended] at reads
  cases reads

private theorem rest_of_readGroup {start : GroupStart} {read : Body × List Char}
    (lost : unclosing () s) (reads : readGroup fuel f names items others start s = .ok read) :
    read.2 = [] := by
  cases start with
  | flags g => exact rest_of_readBody lost reads
  | group g name =>
    simp only [readGroup] at reads
    split at reads
    · cases reads
    cases inner : readBody fuel g (name.toList ++ names) [] [] s with
    | error e =>
      rw [inner] at reads
      cases reads
    | ok body =>
      rw [inner] at reads
      dsimp only [Bind.bind, Except.bind] at reads
      rw [rest_of_readBody lost inner] at reads
      cases reads

private theorem framed_readGroup_nil {fuel fuel' bound : Nat} (f : Flags)
    (names : List (List Char)) (items : List Item) (others : List Part) (start : GroupStart) :
    Framed unclosing bound (readGroup (fuel + 1) f names items others start [])
      (readGroup (fuel' + 1) f names items others start []) := by
  cases start with
  | flags g =>
    simp only [readGroup, readBody_end (skip_nil g)]
    exact .hidden _
  | group g name =>
    simp only [readGroup, readBody_end (skip_nil g)]
    split <;> exact .errors _ _

private theorem framed_readGroup {fuel fuel' : Nat} (f : Flags) (names : List (List Char))
    (items : List Item) (others : List Part) (start : GroupStart) (s : List Char)
    (ih : ∀ (f : Flags) (names : List (List Char)) (items : List Item) (others : List Part)
      (rest : List Char), rest.length ≤ s.length →
        Framed unclosing rest.length (readBody fuel f names items others rest)
          (readBody fuel' f names items others (rest ++ frameEnd))) :
    Framed unclosing s.length (readGroup fuel f names items others start s)
      (readGroup fuel' f names items others start (s ++ frameEnd)) := by
  cases start with
  | flags g => exact ih g names (.flags :: items) others s (Nat.le_refl _)
  | group g name =>
    simp only [readGroup]
    split
    · exact .errors _ _
    refine (ih g (name.toList ++ names) [] [] s (Nat.le_refl _)).bind (fun inner rest less ↦ ?_)
      (fun inner ↦ .errors _ _) fun inner rest lost body behind reads ↦ ?_
    · rcases rest with _ | ⟨c, rest⟩
      · -- The bracket of the frame closes the group that is left open.
        exact .failed _ fun body behind reads ↦
          .inl (rest_of_readBody (.inr rfl) reads)
      by_cases close : c = ')'
      · subst close
        have shorter := Nat.le_of_succ_le less
        exact (ih f inner.names _ others rest shorter).mono (fun _ _ lost ↦ lost) shorter
      · simp only [List.cons_append, List.cons.injEq, close, false_and, imp_self, implies_true]
        exact .errors _ _
    · rcases lost with rfl | rfl <;> cases reads

/-- A pattern is read in a frame as by itself. Then the bracket of the frame is what closes it,
unless it ends in a comment. A pattern that breaks off may use the bracket up, and then there is
none left to close the frame. -/
theorem framed_readBody (fuel fuel' : Nat) (f : Flags) (names : List (List Char))
    (items : List Item) (others : List Part) (s : List Char) (enough : s.length < fuel)
    (enough' : s.length + 2 < fuel') :
    Framed unclosing s.length (readBody fuel f names items others s)
      (readBody fuel' f names items others (s ++ frameEnd)) := by
  induction fuel generalizing fuel' f names items others s with
  | zero => exact absurd enough (Nat.not_lt_zero _)
  | succ fuel ih =>
    obtain _ | fuel' := fuel'
    · exact absurd enough' (Nat.not_lt_zero _)
    have shorter (f : Flags) (names : List (List Char)) (items : List Item) (others : List Part)
        (rest : List Char) (less : rest.length < s.length) :=
      ih fuel' f names items others rest (by omega) (by omega)
    rcases skip_framed f s with ⟨rest, short, alone, framed⟩ | ⟨alone, framed⟩
    · cases comesNext rest with
      | finish =>
        rw [readBody_end alone, readBody_close framed]
        exact .within _ [] (Nat.zero_le _)
      | close rest =>
        rw [readBody_close alone, readBody_close framed]
        exact .within _ (')' :: rest) short
      | bar rest =>
        rw [readBody_bar alone, readBody_bar framed]
        exact (shorter f names _ _ rest short).mono (fun _ _ lost ↦ lost) (Nat.le_of_succ_le short)
      | opening rest =>
        rw [List.length_cons] at short
        -- There is fuel left for what stands behind the beginning of the group.
        obtain ⟨left, rfl⟩ := Nat.exists_eq_add_one.mpr (show 0 < fuel by omega)
        obtain ⟨left', rfl⟩ := Nat.exists_eq_add_one.mpr (show 0 < fuel' by omega)
        rw [readBody_open alone, readBody_open framed]
        refine (framed_readGroupStart f rest).bind (fun start behind less ↦ ?_) (fun start ↦ ?_)
          fun start behind lost body after reads ↦ ?_
        · have group := framed_readGroup f names items others start behind
            fun f names items others rest few ↦ shorter f names items others rest (by omega)
          exact group.mono (fun _ _ lost ↦ lost) (by omega)
        · exact framed_readGroup_nil f names items others start
        · exact .inl (rest_of_readGroup lost reads)
      | piece c rest begins =>
        rw [List.length_cons] at short
        obtain ⟨left, rfl⟩ := Nat.exists_eq_add_one.mpr (show 0 < fuel by omega)
        obtain ⟨left', rfl⟩ := Nat.exists_eq_add_one.mpr (show 0 < fuel' by omega)
        rw [readBody_piece begins alone, readBody_piece begins framed]
        refine (framed_readPiece f items c rest).bind (fun items behind less ↦ ?_) (fun items ↦ ?_)
          fun items behind lost body after reads ↦ ?_
        · have least := Nat.lt_of_le_of_lt less short
          exact (shorter f names items others behind least).mono (fun _ _ lost ↦ lost)
            (Nat.le_of_lt least)
        · rw [readBody_end (skip_nil f), readBody_end (skip_nil f)]
          exact .hidden _
        · rcases lost with lost | lone
          · exact .inl (rest_of_readBody lost reads)
          · exact absurd reads (readBody_of_isLoneBrace lone _)
    · rw [readBody_end alone, readBody_end framed]
      exact .hidden _

end Teletype.Regex
