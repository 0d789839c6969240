import Teletype.Proofs.Regex.CaseBody
import Teletype.Proofs.Regex.FramedBody
import Teletype.Proofs.Regex.Spans
/-!
# Patterns by themselves and in a frame

The frame that asks for all of an input in any case is put around a pattern as text. What is read
between its brackets is the pattern as it is by itself, under the flag for any case, as long as the
pattern closes no group that it has not opened. A pattern that cannot be read by itself cannot be
read in the frame either, and neither can one whose end is a comment or whose nesting leaves no room
for that of the frame.
-/

namespace Teletype.Regex

/-! ## How far a pattern is read does not depend on the fuel -/

/-- What is left behind something that is read is no longer than what it is read from. -/
theorem Framed.length_le {α : Type} {astray : α → List Char → Prop} {bound : Nat} {a : α}
    {rest : List Char} {x y : Reading (α × List Char)} (h : Framed astray bound x y)
    (reads : x = .ok (a, rest)) : rest.length ≤ bound := by
  subst reads
  cases h with
  | within a rest short => exact short
  | hidden a => exact Nat.zero_le _

private theorem bind_congr_of_ok {α β : Type} {x : Reading α} {k k' : α → Reading β}
    (same : ∀ a, x = .ok a → k a = k' a) : x >>= k = x >>= k' := by
  cases x with
  | error e => rfl
  | ok a => exact same a rfl

/-- A text is read in the same way with any fuel that is enough. -/
theorem readBody_eq_of_enough (fuel fuel' : Nat) (f : Flags) (names : List (List Char))
    (items : List Item) (others : List Part) (s : List Char) (enough : s.length < fuel)
    (enough' : s.length < fuel') :
    readBody fuel f names items others s = readBody fuel' f names items others s := by
  induction fuel generalizing fuel' f names items others s with
  | zero => exact absurd enough (Nat.not_lt_zero _)
  | succ fuel ih =>
    obtain _ | fuel' := fuel'
    · exact absurd enough' (Nat.not_lt_zero _)
    have shorter (f : Flags) (names : List (List Char)) (items : List Item) (others : List Part)
        (rest : List Char) (less : rest.length < s.length) :=
      ih fuel' f names items others rest (by omega) (by omega)
    have short : (f.skip s).length ≤ s.length := by
      rcases skip_framed f s with ⟨rest, short, alone, -⟩ | ⟨alone, -⟩
      · rwa [alone]
      · rw [alone]
        exact Nat.zero_le _
    have next := comesNext (f.skip s)
    generalize ahead : f.skip s = behind at next short
    cases next with
    | finish => rw [readBody_end ahead, readBody_end ahead]
    | close rest => rw [readBody_close ahead, readBody_close ahead]
    | bar rest =>
      rw [readBody_bar ahead, readBody_bar ahead]
      exact shorter f names _ _ rest short
    | opening rest =>
      rw [readBody_open ahead, readBody_open ahead]
      refine bind_congr_of_ok fun read reads ↦ ?_
      obtain ⟨start, behind⟩ := read
      have less := (framed_readGroupStart f rest).length_le reads
      have least := Nat.lt_of_le_of_lt less short
      cases start with
      | flags g => exact shorter g names _ others behind least
      | group g name =>
        simp only [readGroup]
        split
        · rfl
        rw [shorter g _ [] [] behind least]
        refine bind_congr_of_ok fun read reads ↦ ?_
        obtain ⟨inner, after⟩ := read
        have fewer := (framed_readBody fuel' (behind.length + 3) g _ [] [] behind (by omega)
          (Nat.lt_succ_self _)).length_le reads
        split
        · next after' closed =>
          dsimp only at closed
          rw [closed, List.length_cons] at fewer
          exact shorter f inner.names _ others after' (by omega)
        · rfl
    | piece c rest begins =>
      rw [readBody_piece begins ahead, readBody_piece begins ahead]
      refine bind_congr_of_ok fun read reads ↦ ?_
      obtain ⟨more, behind⟩ := read
      have less := (framed_readPiece f items c rest).length_le reads
      exact shorter f names more others behind (Nat.lt_of_le_of_lt less short)

/-! ## Patterns by themselves -/

/-- What was read is the whole pattern if nothing is left and it is not nested too deep. -/
def wholePart (read : Body × List Char) : Reading Part :=
  if !read.2.isEmpty then .error .unopenedGroup
  else if maxDepth < read.1.part.depth then .error .tooDeep
  else .ok read.1.part

/-- Reads a text that is one pattern, under some flags. -/
def readAlone (f : Flags) (s : List Char) : Reading Part :=
  readBody (s.length + 1) f [] [] [] s >>= wholePart

/-- A text that is one pattern is read under the flags that are in force to begin with. -/
theorem ofChars_eq (s : List Char) : ofChars s = (readAlone {} s).map Part.regex := by
  unfold ofChars readAlone
  cases readBody (s.length + 1) {} [] [] [] s with
  | error e => rfl
  | ok read =>
    obtain ⟨body, _ | ⟨c, rest⟩⟩ := read
    · change (if maxDepth < body.part.depth then _ else _) =
        (if maxDepth < body.part.depth then _ else _ : Reading Part).map _
      split <;> rfl
    · rfl

/-- The flags of a pattern for any case. -/
def anyCase : Flags := { ignoreCase := true }

private theorem alike_readAlone (s : List Char) :
    Alike PartsAlike (readAlone {} s) (readAlone anyCase s) := by
  refine (alike_readBody _ ⟨true, rfl⟩ [] .nil rfl s).bind
    fun (body, rest) (body', rest') related ↦ ?_
  obtain ⟨nested, left⟩ := related
  dsimp only at nested left
  subst left
  cases rest with
  | nil =>
    change Alike _ (if maxDepth < body.part.depth then _ else _)
      (if maxDepth < body'.part.depth then _ else _)
    rw [← nested.depth]
    split
    · exact .error _
    · exact .ok nested.depth
  | cons c rest => exact .error _

/-- A pattern in the frame that asks for all of an input in any case. -/
def inFrame (s : List Char) : List Char :=
  '(' :: '?' :: 'i' :: ')' :: '^' :: '(' :: '?' :: ':' :: (s ++ frameEnd)

/-- The parts of the frame around a pattern, in reverse. -/
private def frameItems (p : Part) : List Item :=
  [.part ⟨p.regex, p.depth + 1⟩, .part ⟨.look .textStart, 0⟩, .flags]

/-- Reads the end of the frame behind a pattern. -/
private def closeFrame (fuel : Nat) (inner : Body × List Char) : Reading (Body × List Char) :=
  match inner.2 with
  | ')' :: rest => readBody fuel anyCase inner.1.names (frameItems inner.1.part) [] rest
  | _ => .error .unclosedGroup

private theorem readAlone_inFrame (s : List Char) :
    readAlone {} (inFrame s) =
      readBody (s.length + 8) anyCase [] [] [] (s ++ frameEnd) >>= fun inner ↦
        closeFrame (s.length + 8) inner >>= wholePart := by
  have fuel : (inFrame s).length + 1 = s.length + 8 + 3 := by
    simp [inFrame, frameEnd]
  -- The frame begins with flags, an assertion, and the group that the pattern stands in.
  unfold readAlone
  rw [fuel, inFrame, readBody_open rfl]
  change readBody (s.length + 8 + 2) anyCase [] [.flags] []
    ('^' :: '(' :: '?' :: ':' :: (s ++ frameEnd)) >>= _ = _
  rw [readBody_piece ⟨by decide, by decide, by decide⟩ rfl]
  change readBody (s.length + 8 + 1) anyCase [] [.part ⟨.look .textStart, 0⟩, .flags] []
    ('(' :: '?' :: ':' :: (s ++ frameEnd)) >>= _ = _
  rw [readBody_open rfl]
  change (readBody (s.length + 8) anyCase [] [] [] (s ++ frameEnd) >>= _) >>= _ = _
  cases readBody (s.length + 8) anyCase [] [] [] (s ++ frameEnd) <;> rfl

/-- What is read of the frame around a pattern. -/
def framePart (p : Part) : Part := sequenceOf (.part ⟨.look .textEnd, 0⟩ :: frameItems p)

/-- The frame adds two levels of nesting. -/
theorem depth_framePart (p : Part) : (framePart p).depth = p.depth + 2 := by
  simp [framePart, sequenceOf, frameItems, Item.toPart, depthOf]

private theorem closeFrame_frameEnd (fuel : Nat) (body : Body) :
    closeFrame (fuel + 2) (body, frameEnd) = .ok (⟨framePart body.part, body.names⟩, []) := by
  change readBody (fuel + 2) anyCase body.names (frameItems body.part) [] ['$'] = _
  rw [readBody_piece ⟨by decide, by decide, by decide⟩ rfl]
  rfl

/-- What was read to its end is a pattern if there is room for its nesting. -/
private theorem wholePart_eq_ok {body : Body} {p : Part} :
    wholePart (body, []) = .ok p ↔ body.part = p ∧ p.depth ≤ maxDepth := by
  change (if maxDepth < body.part.depth then _ else _) = Except.ok p ↔ _
  split
  · next deep =>
    constructor
    · intro fails
      cases fails
    · rintro ⟨rfl, shallow⟩
      exact absurd deep (Nat.not_lt.mpr shallow)
  · next shallow =>
    constructor
    · intro same
      cases same
      exact ⟨rfl, Nat.not_lt.mp shallow⟩
    · rintro ⟨rfl, -⟩
      rfl

private theorem closeFrame_unclosing (fuel : Nat) {body : Body} {rest : List Char}
    (lost : unclosing body rest) : closeFrame fuel (body, rest) = .error .unclosedGroup := by
  rcases lost with rfl | rfl <;> rfl

private theorem frame_eq_ok {x y : Reading (Body × List Char)} {bound : Nat}
    (h : Framed unclosing bound x y) (balanced : x >>= wholePart ≠ .error .unopenedGroup)
    (fuel : Nat) (whole : Part) :
    (y >>= fun inner ↦ closeFrame (fuel + 2) inner >>= wholePart) = .ok whole ↔
      ∃ p, x >>= wholePart = .ok p ∧ y >>= wholePart = .error .unopenedGroup ∧
        p.depth + 2 ≤ maxDepth ∧ whole = framePart p := by
  cases h with
  | within body rest short =>
    rcases rest with _ | ⟨c, rest⟩
    · change closeFrame (fuel + 2) (body, frameEnd) >>= wholePart = _ ↔
        ∃ p, wholePart (body, []) = .ok p ∧ wholePart (body, frameEnd) = _ ∧ _ ∧ _
      rw [closeFrame_frameEnd]
      change wholePart (⟨framePart body.part, body.names⟩, []) = _ ↔ _
      simp only [wholePart_eq_ok]
      constructor
      · rintro ⟨rfl, shallow⟩
        rw [depth_framePart] at shallow
        exact ⟨body.part, ⟨rfl, Nat.le_of_add_right_le shallow⟩, rfl, shallow, rfl⟩
      · rintro ⟨p, ⟨rfl, -⟩, -, shallow, rfl⟩
        exact ⟨rfl, Nat.le_trans (Nat.le_of_eq (depth_framePart body.part)) shallow⟩
    · exact absurd rfl balanced
  | hidden body =>
    -- The end of the frame is part of a comment, and the group is left open.
    change closeFrame (fuel + 2) (body, []) >>= wholePart = _ ↔
      ∃ p, _ ∧ wholePart (body, []) = _ ∧ _
    rw [closeFrame_unclosing _ (.inl rfl)]
    constructor
    · intro fails
      cases fails
    · rintro ⟨p, whole, fails, -⟩
      rw [show wholePart (body, []) = .ok p from whole] at fails
      cases fails
  | failed e strays =>
    -- The bracket of the frame has closed something else, and the group is left open.
    constructor
    · intro reads
      cases y with
      | error e => cases reads
      | ok read =>
        change closeFrame (fuel + 2) (read.1, read.2) >>= wholePart = _ at reads
        rw [closeFrame_unclosing _ (strays read.1 read.2 rfl)] at reads
        cases reads
    · rintro ⟨p, fails, -⟩
      cases fails

/-- A pattern that closes no group that it has not opened can be read in the frame if it can be read
by itself, its end is not lost in a comment, and there is room for the nesting of the frame. -/
theorem readAlone_inFrame_eq_ok {s : List Char}
    (balanced : readAlone anyCase s ≠ .error .unopenedGroup) (whole : Part) :
    readAlone {} (inFrame s) = .ok whole ↔
      ∃ p, readAlone anyCase s = .ok p ∧
        readAlone anyCase (s ++ frameEnd) = .error .unopenedGroup ∧
        p.depth + 2 ≤ maxDepth ∧ whole = framePart p := by
  have framed := framed_readBody (s.length + 1) (s.length + 8) anyCase [] [] [] s
    (Nat.lt_succ_self _) (by omega)
  have again : readAlone anyCase (s ++ frameEnd) =
      readBody (s.length + 8) anyCase [] [] [] (s ++ frameEnd) >>= wholePart := by
    unfold readAlone
    rw [readBody_eq_of_enough _ (s.length + 8) anyCase [] [] [] _ (Nat.lt_succ_self _)
      (by rw [length_append_frameEnd]; omega)]
  rw [readAlone_inFrame, again]
  exact frame_eq_ok framed balanced (s.length + 6) whole

/-! ## What the frame matches -/

private theorem spans_textStart {text : List Char} {i j : Nat} :
    (look .textStart).Spans text i j ↔ i = 0 ∧ j = 0 := by
  cases i with
  | zero => simp [Spans, Assertion.holds, charBefore]
  | succ i =>
    simp only [Spans, Assertion.holds, charBefore, Option.isNone_iff_eq_none,
      List.getElem?_eq_none_iff]
    omega

private theorem spans_textEnd {text : List Char} {i j : Nat} :
    (look .textEnd).Spans text i j ↔ i = text.length ∧ j = text.length := by
  simp only [Spans, Assertion.holds, Option.isNone_iff_eq_none, List.getElem?_eq_none_iff]
  omega

/-- A pattern and the end of a text, of which nothing is left out but a pattern that is empty. -/
private theorem exists_regex_framePart (p : Part) (text : List Char) :
    ∃ r, (framePart p).regex = .sequence (.look .textStart) r ∧
      ∀ i j, r.Spans text i j ↔ ∃ k, p.regex.Spans text i k ∧ (look .textEnd).Spans text k j := by
  obtain ⟨r, depth⟩ := p
  cases r with
  | empty => exact ⟨look .textEnd, rfl, fun i j ↦ by simp [Spans]⟩
  | one set => exact ⟨_, rfl, fun _ _ ↦ Iff.rfl⟩
  | look a => exact ⟨_, rfl, fun _ _ ↦ Iff.rfl⟩
  | sequence first second => exact ⟨_, rfl, fun _ _ ↦ Iff.rfl⟩
  | either first second => exact ⟨_, rfl, fun _ _ ↦ Iff.rfl⟩
  | repeated body least most => exact ⟨_, rfl, fun _ _ ↦ Iff.rfl⟩

/-- The frame matches somewhere in a text just when the pattern in it matches all of the text. -/
theorem occursIn_framePart (p : Part) (text : List Char) :
    (framePart p).regex.occursIn text = true ↔ p.regex.Spans text 0 text.length := by
  obtain ⟨r, framed, behind⟩ := exists_regex_framePart p text
  rw [occursIn_iff, framed]
  constructor
  · rintro ⟨i, -, j, k, start, rest⟩
    obtain ⟨rfl, rfl⟩ := spans_textStart.mp start
    obtain ⟨l, whole, stop⟩ := (behind 0 j).mp rest
    obtain ⟨rfl, -⟩ := spans_textEnd.mp stop
    exact whole
  · intro whole
    exact ⟨0, Nat.zero_le _, text.length, 0, spans_textStart.mpr ⟨rfl, rfl⟩,
      (behind _ _).mpr ⟨text.length, whole, spans_textEnd.mpr ⟨rfl, rfl⟩⟩⟩

/-! ## Matching all of a text -/

/-- Whether a pattern, read for any case, matches all of a text. -/
def MatchesAll (s text : List Char) : Prop :=
  ∃ p, readAlone anyCase s = .ok p ∧ p.regex.Spans text 0 text.length

/-- What is a pattern in any case is one otherwise, with the same nesting. -/
private theorem exists_readAlone {s : List Char} {p : Part} (reads : readAlone anyCase s = .ok p) :
    ∃ q, readAlone {} s = .ok q ∧ q.depth = p.depth := by
  have alike := alike_readAlone s
  cases alone : readAlone {} s with
  | ok q => exact ⟨q, rfl, alike.related alone reads⟩
  | error e =>
    rw [(alike.error_iff e).mp alone] at reads
    cases reads

private theorem ofChars_eq_error {s : List Char} {e : PatternError} :
    ofChars s = .error e ↔ readAlone anyCase s = .error e := by
  rw [← (alike_readAlone s).error_iff e, ofChars_eq]
  cases readAlone {} s with
  | ok p => simp only [Except.map, reduceCtorEq]
  | error e' => simp only [Except.map, Except.error.injEq]

/-- Only a pattern matches all of a text. -/
theorem MatchesAll.exists_ofChars {s text : List Char} (h : MatchesAll s text) :
    ∃ r, ofChars s = .ok r := by
  obtain ⟨p, reads, -⟩ := h
  obtain ⟨q, alone, -⟩ := exists_readAlone reads
  exact ⟨q.regex, by rw [ofChars_eq, alone]; rfl⟩

/-- A pattern that closes no group that it has not opened matches in the frame what it matches all
of, if its end is not lost in a comment and there is room for the nesting of the frame. -/
theorem exists_occursIn_inFrame {s : List Char} (balanced : ofChars s ≠ .error .unopenedGroup)
    (text : List Char) :
    (∃ r, ofChars (inFrame s) = .ok r ∧ r.occursIn text = true) ↔
      MatchesAll s text ∧ ofChars (s ++ frameEnd) = .error .unopenedGroup ∧
        ∀ p, readAlone {} s = .ok p → p.depth + 2 ≤ maxDepth := by
  rw [Ne, ofChars_eq_error] at balanced
  have framed (whole : Part) := readAlone_inFrame_eq_ok balanced whole
  rw [ofChars_eq_error, ofChars_eq]
  constructor
  · rintro ⟨r, reads, occurs⟩
    cases alone : readAlone {} (inFrame s) with
    | error e =>
      rw [alone] at reads
      cases reads
    | ok whole =>
      rw [alone] at reads
      cases reads
      obtain ⟨p, reads, ended, shallow, rfl⟩ := (framed whole).mp alone
      refine ⟨⟨p, reads, (occursIn_framePart p text).mp occurs⟩, ended, fun q alone ↦ ?_⟩
      have nested : q.depth = p.depth := (alike_readAlone s).related alone reads
      rwa [nested]
  · rintro ⟨⟨p, reads, whole⟩, ended, shallow⟩
    obtain ⟨q, alone, nested⟩ := exists_readAlone reads
    have room : p.depth + 2 ≤ maxDepth := nested ▸ shallow q alone
    refine ⟨(framePart p).regex, ?_, (occursIn_framePart p text).mpr whole⟩
    rw [(framed _).mpr ⟨p, reads, ended, room, rfl⟩]
    rfl

end Teletype.Regex
