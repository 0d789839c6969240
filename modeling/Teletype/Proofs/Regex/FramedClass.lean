import Teletype.Proofs.Regex.FramedEscape
/-!
# Classes in a frame

A class is read in a frame as it is read by itself. One that is not closed takes the end of the
frame for members of it and then breaks off as well.
-/

namespace Teletype.Regex

variable (f : Flags)

/-- At most the end of the frame is left. -/
def spent {α : Type} (_ : α) (rest : List Char) : Prop :=
  rest = [] ∨ rest = ['$'] ∨ rest = frameEnd

/-! ## Members of classes -/

/-- A text is split in a frame as by itself. -/
private theorem splitAtFirst_framed (s : List Char) :
    Text.splitAtFirst ':' (s ++ frameEnd) =
      (Text.splitAtFirst ':' s).map fun (before, after) ↦ (before, after ++ frameEnd) := by
  induction s with
  | nil => rfl
  | cons c s ih =>
    rw [List.cons_append, Text.splitAtFirst, Text.splitAtFirst]
    split
    · rfl
    · rw [ih]
      cases Text.splitAtFirst ':' s <;> rfl

private theorem bracketBody?_framed (negated : Bool) (s : List Char) :
    bracketBody? negated (s ++ frameEnd) =
      (bracketBody? negated s).map fun (read, rest) ↦ (read, rest ++ frameEnd) := by
  unfold bracketBody?
  rw [splitAtFirst_framed]
  rcases Text.splitAtFirst ':' s with _ | ⟨name, _ | ⟨c, rest⟩⟩
  · rfl
  · rfl
  · by_cases bracket : c = ']'
    · subst bracket
      change (CharSet.bracketClass? (String.ofList name)).map _ =
        ((CharSet.bracketClass? (String.ofList name)).map _).map _
      rw [Option.map_map]
      rfl
    · simp [bracket]

/-- A class in double brackets is read in a frame as by itself. -/
theorem bracketClass?_framed (s : List Char) :
    bracketClass? (s ++ frameEnd) =
      (bracketClass? s).map fun (read, rest) ↦ (read, rest ++ frameEnd) := by
  rw [bracketClass?_eq, bracketClass?_eq]
  rcases s with _ | ⟨c, s⟩
  · rfl
  · by_cases colon : c = ':'
    · subst colon
      rcases s with _ | ⟨d, s⟩
      · rfl
      · by_cases caret : d = '^'
        · subst caret
          exact bracketBody?_framed true s
        · simpa [caret] using bracketBody?_framed false (d :: s)
    · simp [colon]

/-- A class in double brackets leaves no more than there was. -/
theorem length_of_bracketClass? {s rest : List Char} {read : CharSet × Bool}
    (h : bracketClass? s = some (read, rest)) : rest.length ≤ s.length := by
  have body {negated : Bool} {s : List Char} (h : bracketBody? negated s = some (read, rest)) :
      rest.length ≤ s.length := by
    unfold bracketBody? at h
    split at h
    · next name behind split =>
      obtain ⟨set, -, made⟩ := Option.map_eq_some_iff.mp h
      cases made
      have := Text.length_of_splitAtFirst split
      simp only [List.length_cons] at this
      omega
    · cases h
  rw [bracketClass?_eq] at h
  split at h
  · exact Nat.le_succ_of_le (Nat.le_succ_of_le (body h))
  · exact Nat.le_succ_of_le (body h)
  · cases h

/-- One end of a range is read in a frame as by itself, unless it breaks off. It has at least one
character. -/
theorem framed_readClassPrimitive (s : List Char) :
    Framed f.BreaksOff (s.length - 1) (readClassPrimitive f s)
      (readClassPrimitive f (s ++ frameEnd)) := by
  cases s with
  | nil =>
    refine .failed _ fun p rest reads ↦ ?_
    cases reads
    exact .inl (.inr rfl)
  | cons c s =>
    by_cases escape : c = '\\'
    · subst escape
      exact framed_readEscape f s
    · simp only [List.cons_append, readClassPrimitive]
      exact .within (Primitive.literal c false) s (Nat.le_refl _)

/-! ## Looking ahead -/

private theorem skipFrom_of_blank (inComment : Bool) {s : List Char}
    (blank : ∀ c ∈ s, Text.isBlank c = true) : skipFrom inComment s = [] := by
  induction s generalizing inComment with
  | nil => cases inComment <;> rfl
  | cons c s ih =>
    obtain ⟨first, later⟩ := List.forall_mem_cons.mp blank
    cases inComment with
    | false => rw [skipFrom, if_pos first, ih false later]
    | true => rw [skipFrom, ih _ later]

private theorem skipFrom_dropWhile (s : List Char) :
    skipFrom false s = skipFrom false (s.dropWhile Text.isBlank) := by
  induction s with
  | nil => rfl
  | cons c s ih =>
    rw [List.dropWhile_cons]
    split
    · next blank => rw [skipFrom, if_pos blank, ih]
    · rfl

/-- The character ahead is the same in a frame, unless there is none by itself. Then nothing is left
that is not passed over, and the character ahead in the frame is its bracket. -/
theorem ahead?_framed (s : List Char) :
    f.ahead? (s ++ frameEnd) = f.ahead? s ∨
      f.ahead? s = none ∧ f.skip s = [] ∧ f.ahead? (s ++ frameEnd) = some ')' := by
  unfold Flags.ahead? Flags.skip
  cases f.extended with
  | false =>
    cases s with
    | nil => exact .inr ⟨rfl, rfl, rfl⟩
    | cons c s => exact .inl rfl
  | true =>
    simp only [Bool.not_true, Bool.false_eq_true, if_false, if_true]
    rw [dropWhile_framed, skipFrom_dropWhile s]
    cases s.dropWhile Text.isBlank with
    | nil => exact .inr ⟨rfl, rfl, rfl⟩
    | cons c rest =>
      by_cases comment : c = '#'
      · subst comment
        simp only [List.cons_append, List.find?_append]
        cases found : rest.find? fun c ↦ !Text.isBlank c with
        | some c => exact .inl rfl
        | none =>
          have blank : ∀ c ∈ rest, Text.isBlank c = true := by
            simpa using List.find?_eq_none.mp found
          exact .inr ⟨rfl, skipFrom_of_blank true blank, rfl⟩
      · simp [comment]

/-! ## Items -/

/-- A range does not end with a test of the place. -/
private theorem framed_rangeEnd (first : Primitive) {bound : Nat}
    {x y : Reading (Primitive × List Char)} (h : Framed f.BreaksOff bound x y) :
    Framed spent bound (x >>= fun read ↦ (rangeOf f first read.1).map (·, read.2))
      (y >>= fun read ↦ (rangeOf f first read.1).map (·, read.2)) := by
  refine h.bind_result _ fun p rest lost item made ↦ ?_
  rcases lost with (rfl | rfl) | ⟨⟨a, rfl⟩, -⟩
  · exact .inl rfl
  · exact .inr (.inl rfl)
  · cases first <;> cases made

/-- The rest of an item is read in a frame as by itself. Where the class breaks off behind the item,
the frame goes on with its end. -/
private theorem framed_readItemEnd (first : Primitive) (s : List Char) :
    Framed spent s.length (readItemEnd f first s) (readItemEnd f first (s ++ frameEnd)) := by
  unfold readItemEnd
  rcases skip_framed f s with ⟨rest, short, alone, framed⟩ | ⟨alone, framed⟩
  · rw [alone, framed]
    cases rest with
    | nil =>
      refine .failed _ fun item rest reads ↦ ?_
      exact .inr (.inr (rest_of_map reads))
    | cons c rest =>
      have whole : Framed spent s.length ((classItemOf f first).map (·, c :: rest))
          ((classItemOf f first).map (·, c :: rest ++ frameEnd)) :=
        .kept (classItemOf f first) id (c :: rest) short
      by_cases hyphen : c = '-'
      · subst hyphen
        have range : Framed spent s.length
            (readClassPrimitive f (f.skip rest) >>= fun read ↦
              (rangeOf f first read.1).map (·, read.2))
            (readClassPrimitive f (f.skip (rest ++ frameEnd)) >>= fun read ↦
              (rangeOf f first read.1).map (·, read.2)) := by
          rcases skip_framed f rest with ⟨behind, less, alone, framed⟩ | ⟨alone, framed⟩
          · rw [alone, framed]
            exact (framed_rangeEnd f first (framed_readClassPrimitive f behind)).mono
              (fun _ _ lost ↦ lost)
              (Nat.le_trans (Nat.sub_le _ _) (Nat.le_trans less (Nat.le_of_succ_le short)))
          · rw [alone, framed]
            exact .errors _ _
        simp only [List.cons_append]
        rcases ahead?_framed f rest with same | ⟨ended, -, bracket⟩
        · rw [same]
          split
          · exact whole
          · exact range
        · rw [ended, bracket]
          exact range
      · simpa [hyphen] using whole
  · rw [alone, framed]
    exact .errors _ _

/-- An item of a class is read in a frame as by itself. Where the class breaks off, the frame goes
on with no more than its end. -/
theorem framed_readClassItem (s : List Char) :
    Framed spent (s.length - 1) (readClassItem f s) (readClassItem f (s ++ frameEnd)) := by
  rw [readClassItem_eq, readClassItem_eq]
  refine (framed_readClassPrimitive f s).bind (fun first rest short ↦ ?_) (fun first ↦ ?_)
    fun first rest lost item behind reads ↦ ?_
  · exact (framed_readItemEnd f first rest).mono (fun _ _ lost ↦ lost) short
  · simp only [readItemEnd, skip_nil]
    exact .errors _ _
  · simp only [readItemEnd] at reads
    rcases lost with (rfl | rfl) | ⟨⟨a, rfl⟩, blanks, rfl, -⟩
    · rw [skip_nil] at reads
      cases reads
    · rw [skip_dollar] at reads
      exact .inr (.inl (rest_of_map reads))
    · rw [skip_brace] at reads
      cases reads

/-! ## Classes -/

/-- The hyphens that a class begins with are read in a frame as by themselves. -/
theorem framed_readLeadingHyphens (fuel fuel' : Nat) (s : List Char) (enough : s.length < fuel)
    (enough' : s.length + 2 < fuel') :
    Framed never s.length (.ok (readLeadingHyphens f fuel s))
      (.ok (readLeadingHyphens f fuel' (s ++ frameEnd))) := by
  induction fuel generalizing fuel' s with
  | zero => exact absurd enough (Nat.not_lt_zero _)
  | succ fuel ih =>
    obtain _ | fuel' := fuel'
    · exact absurd enough' (Nat.not_lt_zero _)
    cases s with
    | nil => exact .within [] [] (Nat.le_refl 0)
    | cons c s =>
      simp only [List.length_cons] at enough enough'
      by_cases hyphen : c = '-'
      · subst hyphen
        simp only [List.cons_append, readLeadingHyphens]
        rcases skip_framed f s with ⟨rest, short, alone, framed⟩ | ⟨alone, framed⟩
        · simp only [alone, framed]
          have read := ih fuel' rest (by omega) (by omega)
          exact (read.map (ClassItem.mk (.only '-') 0 :: ·) fun _ _ none ↦ none).of_never
            (Nat.le_succ_of_le short)
        · simp only [alone, framed]
          cases fuel <;> cases fuel' <;> exact .hidden [ClassItem.mk (.only '-') 0]
      · rw [List.cons_append, readLeadingHyphens_cons f hyphen, readLeadingHyphens_cons f hyphen]
        exact .within [] (c :: s) (Nat.le_refl _)

private theorem framed_readSign (s : List Char) :
    Framed never s.length (.ok (readSign f s)) (.ok (readSign f (s ++ frameEnd))) := by
  unfold readSign
  rcases skip_framed f s with ⟨rest, short, alone, framed⟩ | ⟨alone, framed⟩
  · rw [alone, framed]
    cases rest with
    | nil => exact .within false [] (Nat.zero_le _)
    | cons c rest =>
      by_cases caret : c = '^'
      · subst caret
        simp only [List.cons_append]
        rcases skip_framed f rest with ⟨behind, less, alone, framed⟩ | ⟨alone, framed⟩
        · rw [alone, framed]
          exact .within true behind (Nat.le_trans less (Nat.le_of_succ_le short))
        · rw [alone, framed]
          exact .hidden true
      · simp only [List.cons_append, List.cons.injEq, caret, false_and, imp_self, implies_true]
        exact .within false (c :: rest) short
  · rw [alone, framed]
    exact .hidden false

private theorem framed_readFirst (negated : Bool) (items : List ClassItem) (s : List Char) :
    Framed spent s.length (readFirst f negated items s)
      (readFirst f negated items (s ++ frameEnd)) := by
  cases s with
  | nil =>
    cases items <;>
    · refine .failed _ fun read rest reads ↦ ?_
      cases reads
      exact .inr (.inr rfl)
  | cons c s =>
    cases items with
    | cons item items =>
      have kept (s : List Char) : readFirst f negated (item :: items) (c :: s) =
          .ok ((negated, item :: items), c :: s) := by
        simp [readFirst]
      rw [List.cons_append, kept, kept]
      exact .within (negated, item :: items) (c :: s) (Nat.le_refl _)
    | nil =>
      by_cases bracket : c = ']'
      · subst bracket
        simp only [List.cons_append, readFirst]
        rcases skip_framed f s with ⟨rest, short, alone, framed⟩ | ⟨alone, framed⟩
        · rw [alone, framed]
          cases rest with
          | nil =>
            refine .failed _ fun read rest reads ↦ ?_
            cases reads
            exact .inr (.inr rfl)
          | cons c rest =>
            exact .within (negated, [ClassItem.mk (.only ']') 0]) (c :: rest)
              (Nat.le_succ_of_le short)
        · rw [alone, framed]
          exact .errors _ _
      · have kept (s : List Char) :
            readFirst f negated [] (c :: s) = .ok ((negated, []), c :: s) := by
          simp [readFirst, bracket]
        rw [List.cons_append, kept, kept]
        exact .within (negated, []) (c :: s) (Nat.le_refl _)

/-- The opening of a class is read in a frame as by itself. Where the class breaks off, the frame
goes on with no more than its end. -/
theorem framed_readClassOpening (s : List Char) :
    Framed spent s.length (readClassOpening f s) (readClassOpening f (s ++ frameEnd)) := by
  rw [readClassOpening_eq, readClassOpening_eq]
  refine (framed_readSign f s).bind (fun negated rest short ↦ ?_) (fun negated ↦ ?_)
    fun _ _ none ↦ none.elim
  · have room : rest.length + 2 < (rest ++ frameEnd).length + 1 := by
      rw [length_append_frameEnd]
      exact Nat.lt_succ_self _
    refine (framed_readLeadingHyphens f _ _ rest (Nat.lt_succ_self _) room).bind
      (fun items behind less ↦ ?_) (fun items ↦ ?_) fun _ _ none ↦ none.elim
    · exact (framed_readFirst f negated items behind).mono (fun _ _ lost ↦ lost)
        (Nat.le_trans less short)
    · cases items <;> exact .errors _ _
  · exact .errors _ _

/-- An operation comes next in a frame where it does by itself, if anything is left by itself. -/
private theorem operation?_framed (c : Char) (s : List Char) :
    operation? (c :: s ++ frameEnd) =
      (operation? (c :: s)).map fun (op, rest) ↦ (op, rest ++ frameEnd) := by
  cases s with
  | nil =>
    have alone : operation? [c] = none := by simp [operation?]
    rw [alone]
    simp [operation?, frameEnd]
  | cons d s =>
    simp only [List.cons_append]
    by_cases both : c = '&' ∧ d = '&'
    · obtain ⟨rfl, rfl⟩ := both
      rfl
    by_cases less : c = '-' ∧ d = '-'
    · obtain ⟨rfl, rfl⟩ := less
      rfl
    by_cases unlike : c = '~' ∧ d = '~'
    · obtain ⟨rfl, rfl⟩ := unlike
      rfl
    · have item (s : List Char) : operation? (c :: d :: s) = none := by
        unfold operation?
        split <;> simp_all
      rw [item, item]
      rfl

/-- An operation is two characters long. -/
private theorem length_of_operation? {s rest : List Char} {op : ClassOperation}
    (h : operation? s = some (op, rest)) : s.length = rest.length + 2 := by
  unfold operation? at h
  split at h <;> cases h
  · rfl
  · rfl
  · rfl

private theorem readClass_nil (negated : Bool) (fuel : Nat) (items : List ClassItem)
    (waiting : Option (ClassItem × ClassOperation)) :
    readClass f negated fuel items waiting [] = .error .unclosedClass := by
  cases fuel with
  | zero => rfl
  | succ fuel => rw [readClass_succ, skip_nil]

/-- A class of which no more than the end of a frame is left is not closed. -/
theorem readClass_of_spent (negated : Bool) (fuel : Nat) (items : List ClassItem)
    (waiting : Option (ClassItem × ClassOperation)) {rest : List Char} (none : spent () rest)
    (read : ClassItem × List Char) : readClass f negated fuel items waiting rest ≠ .ok read := by
  induction fuel generalizing items rest with
  | zero => exact fun reads ↦ nomatch reads
  | succ fuel ih =>
    rw [readClass_succ]
    rcases none with rfl | rfl | rfl
    · rw [skip_nil]
      exact fun reads ↦ nomatch reads
    · rw [skip_dollar]
      change (readClassItem f ['$'] >>= _) ≠ _
      rw [readClassItem_eq]
      change (readItemEnd f (.literal '$' false) [] >>= _) ≠ _
      rw [readItemEnd, skip_nil]
      exact fun reads ↦ nomatch reads
    · rw [skip_frameEnd]
      change (readClassItem f frameEnd >>= _) ≠ _
      cases item : readClassItem f frameEnd with
      | error e => exact fun reads ↦ nomatch reads
      | ok item' => exact ih _ ((framed_readClassItem f []).strays item)

/-- A class is read in a frame as by itself. -/
theorem framed_readClass (negated : Bool) (fuel fuel' : Nat) (items : List ClassItem)
    (waiting : Option (ClassItem × ClassOperation)) (s : List Char) (enough : s.length < fuel)
    (enough' : s.length + 2 < fuel') :
    Framed never s.length (readClass f negated fuel items waiting s)
      (readClass f negated fuel' items waiting (s ++ frameEnd)) := by
  induction fuel generalizing negated fuel' items waiting s with
  | zero => exact absurd enough (Nat.not_lt_zero _)
  | succ fuel ih =>
    obtain _ | fuel' := fuel'
    · exact absurd enough' (Nat.not_lt_zero _)
    rw [readClass_succ, readClass_succ]
    rcases skip_framed f s with ⟨rest, short, alone, framed⟩ | ⟨alone, framed⟩
    · rw [alone, framed]
      have later (negated : Bool) (items : List ClassItem)
          (waiting : Option (ClassItem × ClassOperation)) {behind : List Char}
          (less : behind.length < rest.length) :
          Framed never s.length (readClass f negated fuel items waiting behind)
            (readClass f negated fuel' items waiting (behind ++ frameEnd)) :=
        (ih negated fuel' items waiting behind (by omega) (by omega)).of_never (by omega)
      cases rest with
      | nil =>
        refine .failed _ fun item rest reads ↦ ?_
        have ended := readClass_of_spent f negated (fuel' + 1) items waiting (.inr (.inr rfl))
          (item, rest)
        rw [readClass_succ, skip_frameEnd] at ended
        exact ended reads
      | cons c rest =>
        by_cases opened : c = '['
        · subst opened
          simp only [List.cons_append, bracketClass?_framed]
          cases bracket : bracketClass? rest with
          | some read =>
            obtain ⟨⟨set, n⟩, behind⟩ := read
            have less := length_of_bracketClass? bracket
            simp only [Option.map_some]
            cases f.finish n set with
            | error e => exact .errors _ _
            | ok set => exact later _ _ _ (Nat.lt_succ_of_le less)
          | none =>
            simp only [Option.map_none]
            refine (framed_readClassOpening f rest).bind (fun opening behind less ↦ ?_)
              (fun opening ↦ ?_) fun opening behind lost item left reads ↦ ?_
            · simp only [List.length_cons] at short
              refine (ih opening.1 fuel' opening.2 none behind (by omega) (by omega)).bind
                (fun item after le ↦ later _ _ _ ?_) (fun item ↦ ?_) fun _ _ lost ↦ lost.elim
              · exact Nat.lt_succ_of_le (Nat.le_trans le less)
              · rw [readClass_nil, readClass_nil]
                exact .errors _ _
            · rw [readClass_nil, readClass_nil]
              exact .errors _ _
            · cases inner : readClass f opening.1 fuel' opening.2 none behind with
              | error e =>
                rw [inner] at reads
                cases reads
              | ok read => exact readClass_of_spent f _ _ _ _ lost _ inner
        · by_cases closed : c = ']'
          · subst closed
            simp only [List.cons_append]
            exact .kept (f.finish negated (applyWaiting f waiting (unionOf items)).set) _ rest
              (Nat.le_of_succ_le short)
          · simp only [List.cons_append, List.cons.injEq, opened, closed, false_and, imp_self,
              implies_true]
            rw [← List.cons_append, operation?_framed]
            cases operation : operation? (c :: rest) with
            | some read =>
              obtain ⟨op, behind⟩ := read
              have longer := length_of_operation? operation
              exact later _ _ _ (by omega)
            | none =>
              refine (framed_readClassItem f (c :: rest)).bind
                (fun item behind less ↦ later _ _ _ (Nat.lt_succ_of_le less)) (fun item ↦ ?_)
                fun item behind lost made left reads ↦
                  readClass_of_spent f _ _ _ _ lost _ reads
              rw [readClass_nil, readClass_nil]
              exact .errors _ _
    · rw [alone, framed]
      exact .errors _ _

end Teletype.Regex
