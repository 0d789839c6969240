import Teletype.Proofs.Regex.FramedClass
/-!
# Groups and counts in a frame

The beginning of a group and the counts of a repetition are read in a frame as they are read by
themselves. Flags that break off are closed by the bracket of the frame.
-/

namespace Teletype.Regex

/-! ## Groups -/

/-- The name of a group is read in a frame as by itself. -/
theorem framed_readGroupName (first : Bool) (s : List Char) :
    Framed never s.length (readGroupName first s) (readGroupName first (s ++ frameEnd)) := by
  induction s generalizing first with
  | nil =>
    have broken : readGroupName first frameEnd = .error .badGroupName := by
      rw [frameEnd, readGroupName, if_neg (by decide)]
      split
      · rw [readGroupName, if_neg (by decide)]
        split <;> rfl
      · rfl
    rw [List.nil_append, broken]
    exact .errors _ _
  | cons c s ih =>
    simp only [List.cons_append, readGroupName]
    split
    · split
      · exact .errors _ _
      · exact .within [] s (Nat.le_succ _)
    · split
      · exact ((ih false).map (c :: ·) fun _ _ none ↦ none).of_never (Nat.le_succ _)
      · exact .errors _ _

/-- Flags are read in a frame as by themselves. Where they break off, the bracket of the frame
closes them. -/
theorem framed_readFlags (f : Flags) (seen : List Char) (clearing fresh : Bool) (s : List Char) :
    Framed unclosing s.length (readFlags f seen clearing fresh s)
      (readFlags f seen clearing fresh (s ++ frameEnd)) := by
  induction s generalizing f seen clearing fresh with
  | nil =>
    refine .failed _ fun read rest reads ↦ ?_
    simp only [List.nil_append, frameEnd, readFlags] at reads
    split at reads
    · cases reads
    split at reads
    · cases reads
    cases reads
    exact .inr rfl
  | cons c s ih =>
    rw [List.cons_append]
    by_cases close : c = ')'
    · subst close
      simp only [readFlags]
      split
      · exact .errors _ _
      split
      · exact .errors _ _
      · exact .within (f, FlagsEnd.group) s (Nat.le_succ _)
    by_cases colon : c = ':'
    · subst colon
      simp only [readFlags]
      split
      · exact .errors _ _
      · exact .within (f, FlagsEnd.body) s (Nat.le_succ _)
    by_cases hyphen : c = '-'
    · subst hyphen
      simp only [readFlags]
      split
      · exact .errors _ _
      · exact (ih f _ _ _).mono (fun _ _ lost ↦ lost) (Nat.le_succ _)
    · simp only [readFlags]
      split
      · exact .errors _ _
      cases f.set? c !clearing with
      | none => exact .errors _ _
      | some f => exact (ih f _ _ _).mono (fun _ _ lost ↦ lost) (Nat.le_succ _)

private theorem framed_readGroupMark (f : Flags) (s : List Char) :
    Framed unclosing s.length (readGroupMark f s) (readGroupMark f (s ++ frameEnd)) := by
  have named (s : List Char) : Framed unclosing s.length
      ((readGroupName true s).map fun read ↦ (GroupStart.group f (some read.1), read.2))
      ((readGroupName true (s ++ frameEnd)).map fun read ↦
        (GroupStart.group f (some read.1), read.2)) :=
    (framed_readGroupName true s).map (fun name ↦ GroupStart.group f (some name))
      fun _ _ none ↦ none.elim
  have flags (s : List Char) : Framed unclosing s.length
      ((readFlags f [] false false s).map fun read ↦ (startOfFlags read.1, read.2))
      ((readFlags f [] false false (s ++ frameEnd)).map fun read ↦
        (startOfFlags read.1, read.2)) :=
    (framed_readFlags f [] false false s).map startOfFlags fun _ _ lost ↦ lost
  rcases s with _ | ⟨c, s⟩
  · exact flags []
  by_cases equals : c = '='
  · subst equals
    exact .errors _ _
  by_cases bang : c = '!'
  · subst bang
    exact .errors _ _
  by_cases angle : c = '<'
  · subst angle
    rcases s with _ | ⟨d, s⟩
    · exact (named []).mono (fun _ _ lost ↦ lost) (Nat.zero_le _)
    by_cases equals : d = '='
    · subst equals
      exact .errors _ _
    by_cases bang : d = '!'
    · subst bang
      exact .errors _ _
    · have name := (named (d :: s)).mono (fun _ _ lost ↦ lost) (Nat.le_succ _)
      simpa [readGroupMark, equals, bang] using name
  by_cases letter : c = 'P'
  · subst letter
    rcases s with _ | ⟨d, s⟩
    · exact flags ['P']
    by_cases angle : d = '<'
    · subst angle
      exact (named s).mono (fun _ _ lost ↦ lost) (Nat.le_succ_of_le (Nat.le_succ _))
    · simpa [readGroupMark, angle] using flags ('P' :: d :: s)
  · simpa [readGroupMark, equals, bang, angle, letter] using flags (c :: s)

/-- The beginning of a group is read in a frame as by itself. Where its flags break off, the bracket
of the frame closes them. -/
theorem framed_readGroupStart (f : Flags) (s : List Char) :
    Framed unclosing s.length (readGroupStart f s) (readGroupStart f (s ++ frameEnd)) := by
  rw [readGroupStart_eq, readGroupStart_eq]
  rcases skip_framed f s with ⟨rest, short, alone, framed⟩ | ⟨alone, framed⟩
  · rw [alone, framed]
    rcases rest with _ | ⟨c, rest⟩
    · exact .within (GroupStart.group f none) [] (Nat.zero_le _)
    · by_cases mark : c = '?'
      · subst mark
        exact (framed_readGroupMark f rest).mono (fun _ _ lost ↦ lost) (Nat.le_of_succ_le short)
      · simp only [List.cons_append, List.cons.injEq, mark, false_and, imp_self, implies_true]
        exact .within (GroupStart.group f none) (c :: rest) short
  · rw [alone, framed]
    exact .hidden (GroupStart.group f none)

/-! ## Counts -/

/-- The digits of a count are read in a frame as by themselves. -/
theorem framed_readCountDigits (f : Flags) (fuel fuel' : Nat) (s : List Char)
    (enough : s.length < fuel) (enough' : s.length + 2 < fuel') :
    Framed never s.length (.ok (readCountDigits f fuel s))
      (.ok (readCountDigits f fuel' (s ++ frameEnd))) := by
  induction fuel generalizing fuel' s with
  | zero => exact absurd enough (Nat.not_lt_zero _)
  | succ fuel ih =>
    obtain _ | fuel' := fuel'
    · exact absurd enough' (Nat.not_lt_zero _)
    cases s with
    | nil => exact .within [] [] (Nat.le_refl 0)
    | cons c s =>
      simp only [List.length_cons] at enough enough'
      simp only [List.cons_append, readCountDigits]
      split
      · rcases skip_framed f s with ⟨rest, short, alone, framed⟩ | ⟨alone, framed⟩
        · simp only [alone, framed]
          have read := ih fuel' rest (by omega) (by omega)
          exact (read.map (c :: ·) fun _ _ none ↦ none).of_never (Nat.le_succ_of_le short)
        · simp only [alone, framed]
          cases fuel <;> cases fuel' <;> exact .hidden [c]
      · exact .within [] (c :: s) (Nat.le_refl _)

/-- The number of the digits of a count. -/
private def countOf (digits : List Char) : Reading (Option Nat) :=
  if digits.isEmpty then .ok none
  else if Decimal.digitsValue digits < 2 ^ 32 then .ok (some (Decimal.digitsValue digits))
  else .error .badCount

private theorem readCount_eq (f : Flags) (s : List Char) :
    readCount f s =
      .ok (readCountDigits f (s.length + 1) (s.dropWhile Text.isBlank)) >>= fun read ↦
        (countOf read.1).map (·, f.skip (read.2.dropWhile Text.isBlank)) := by
  change readCount f s = (countOf _).map _
  unfold readCount countOf
  dsimp only
  split
  · rfl
  · split <;> rfl

/-- A count is read in a frame as by itself. -/
theorem framed_readCount (f : Flags) (s : List Char) :
    Framed never s.length (readCount f s) (readCount f (s ++ frameEnd)) := by
  have short : (s.dropWhile Text.isBlank).length ≤ s.length := (List.dropWhile_suffix _).length_le
  have room : (s.dropWhile Text.isBlank).length + 2 < (s ++ frameEnd).length + 1 := by
    rw [length_append_frameEnd]
    omega
  rw [readCount_eq, readCount_eq, dropWhile_framed]
  refine (framed_readCountDigits f _ _ _ (Nat.lt_succ_of_le short) room).bind
    (fun digits rest less ↦ ?_) (fun digits ↦ ?_) fun _ _ none ↦ none.elim
  · have fewer : (rest.dropWhile Text.isBlank).length ≤ s.length :=
      Nat.le_trans (List.dropWhile_suffix _).length_le (Nat.le_trans less short)
    dsimp only
    rw [dropWhile_framed]
    rcases skip_framed f (rest.dropWhile Text.isBlank) with
      ⟨behind, least, alone, framed⟩ | ⟨alone, framed⟩
    · rw [alone, framed]
      exact .kept (countOf digits) id behind (Nat.le_trans least fewer)
    · rw [alone, framed]
      exact .lost (countOf digits) id
  · dsimp only
    rw [List.dropWhile_nil, skip_nil]
    exact .lost (countOf digits) id

/-- The end of the counts of a repetition, behind the most. -/
private def closeCounts (least : Nat) :
    Option Nat → List Char → Reading ((Nat × Option Nat) × List Char)
  | some most, '\x7d' :: rest =>
    if least ≤ most then .ok ((least, some most), rest) else .error .badCount
  | _, _ => .error .badCount

/-- The rest of the counts of a repetition, behind the least. -/
private def readCountsEnd (f : Flags) (least : Nat) :
    List Char → Reading ((Nat × Option Nat) × List Char)
  | '\x7d' :: rest => .ok ((least, some least), rest)
  | ',' :: rest =>
    match f.skip rest with
    | '\x7d' :: rest => .ok ((least, none), rest)
    | rest => readCount f rest >>= fun read ↦ closeCounts least read.1 read.2
  | _ => .error .badCount

private theorem closeCounts_eq (least : Nat) (read : Option Nat × List Char) :
    closeCounts least read.1 read.2 = (do
      let some most := read.1 | throw PatternError.badCount
      let '\x7d' :: rest := read.2 | throw .badCount
      if least ≤ most then return ((least, some most), rest) else throw .badCount) := by
  obtain ⟨_ | most, _ | ⟨c, rest⟩⟩ := read
  · rfl
  · rfl
  · rfl
  · by_cases brace : c = '\x7d'
    · subst brace
      rfl
    · simp [closeCounts, brace]
      rfl

private theorem readCounts_eq (f : Flags) (s : List Char) :
    readCounts f s =
      if (f.skip s).isEmpty then .error .badCount
      else readCount f (f.skip s) >>= fun read ↦ match read.1 with
        | some least => readCountsEnd f least read.2
        | none => .error .badCount := by
  unfold readCounts
  cases (f.skip s).isEmpty with
  | true => rfl
  | false =>
    refine congrArg (readCount f (f.skip s) >>= ·) (funext fun read ↦ ?_)
    obtain ⟨least, rest⟩ := read
    cases least with
    | none => rfl
    | some least =>
      simp only [readCountsEnd, closeCounts_eq]
      rfl

private theorem framed_closeCounts (least : Nat) (most : Option Nat) (s : List Char) :
    Framed never s.length (closeCounts least most s)
      (closeCounts least most (s ++ frameEnd)) := by
  cases most with
  | none => exact .errors _ _
  | some most =>
    rcases s with _ | ⟨c, s⟩
    · exact .errors _ _
    by_cases brace : c = '\x7d'
    · subst brace
      simp only [List.cons_append, closeCounts]
      split
      · exact .within (least, some most) s (Nat.le_succ _)
      · exact .errors _ _
    · have broken (s : List Char) : closeCounts least (some most) (c :: s) = .error .badCount := by
        simp [closeCounts, brace]
      rw [List.cons_append, broken, broken]
      exact .errors _ _

private theorem framed_readCountsEnd (f : Flags) (least : Nat) (s : List Char) :
    Framed never s.length (readCountsEnd f least s) (readCountsEnd f least (s ++ frameEnd)) := by
  have most (s : List Char) : Framed never s.length
      (readCount f s >>= fun read ↦ closeCounts least read.1 read.2)
      (readCount f (s ++ frameEnd) >>= fun read ↦ closeCounts least read.1 read.2) :=
    (framed_readCount f s).bind
      (fun most rest less ↦ (framed_closeCounts least most rest).of_never less)
      (fun most ↦ by cases most <;> exact .errors _ _) fun _ _ none ↦ none.elim
  rcases s with _ | ⟨c, s⟩
  · exact .errors _ _
  by_cases brace : c = '\x7d'
  · subst brace
    exact .within (least, some least) s (Nat.le_succ _)
  by_cases comma : c = ','
  · subst comma
    simp only [List.cons_append, readCountsEnd]
    rcases skip_framed f s with ⟨rest, short, alone, framed⟩ | ⟨alone, framed⟩
    · rw [alone, framed]
      rcases rest with _ | ⟨d, rest⟩
      · exact (most []).of_never (Nat.zero_le _)
      by_cases brace : d = '\x7d'
      · subst brace
        exact .within (least, none) rest (Nat.le_of_succ_le (Nat.le_succ_of_le short))
      · simp only [List.cons_append, List.cons.injEq, brace, false_and, imp_self, implies_true]
        exact (most (d :: rest)).of_never (Nat.le_succ_of_le short)
    · rw [alone, framed]
      exact .errors _ _
  · have broken (s : List Char) : readCountsEnd f least (c :: s) = .error .badCount := by
      simp [readCountsEnd, brace, comma]
    rw [List.cons_append, broken, broken]
    exact .errors _ _

/-- The counts of a repetition are read in a frame as by themselves. -/
theorem framed_readCounts (f : Flags) (s : List Char) :
    Framed never s.length (readCounts f s) (readCounts f (s ++ frameEnd)) := by
  rw [readCounts_eq, readCounts_eq]
  rcases skip_framed f s with ⟨rest, short, alone, framed⟩ | ⟨alone, framed⟩
  · rw [alone, framed]
    rcases rest with _ | ⟨c, rest⟩
    · exact .errors _ _
    · refine ((framed_readCount f (c :: rest)).mono (fun _ _ none ↦ none) short).bind
        (fun least behind less ↦ ?_) (fun least ↦ ?_) fun _ _ none ↦ none.elim
      · cases least with
        | none => exact .errors _ _
        | some least => exact (framed_readCountsEnd f least behind).of_never less
      · cases least with
        | none => exact .errors _ _
        | some least => exact .errors _ _
  · rw [alone, framed]
    exact .errors _ _

/-- There are no counts where nothing but the end of a frame is left. -/
theorem readCounts_of_skip {f : Flags} {s : List Char} (h : f.skip s = frameEnd) :
    readCounts f s = .error .badCount := by
  rw [readCounts_eq, h]
  rfl

end Teletype.Regex
