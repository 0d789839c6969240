import Teletype.Proofs.Regex.Framed
import Teletype.Proofs.Regex.Pieces
/-!
# Escapes in a frame

An escape is read in a frame as it is read by itself. One that breaks off fails in the frame too,
but for two of them: a backslash at the end of the text takes the bracket of the frame for itself,
and a brace behind a word edge, which by itself is the name of an edge that breaks off, is left
alone in the frame.
-/

namespace Teletype.Regex

variable (f : Flags)

/-! ## Numbers of characters -/

private theorem framed_nil_readHexDigits {bound : Nat} (count n : Nat) :
    Framed never bound (readHexDigits f count n []) (readHexDigits f count n []) := by
  cases count with
  | zero => exact .hidden n
  | succ count => exact .errors _ _

/-- Digits of a fixed number are read in a frame as by themselves. -/
theorem framed_readHexDigits (count n : Nat) (s : List Char) :
    Framed never s.length (readHexDigits f count n s)
      (readHexDigits f count n (s ++ frameEnd)) := by
  induction count generalizing n s with
  | zero => exact .within n s (Nat.le_refl _)
  | succ count ih =>
    cases s with
    | nil => exact .errors _ _
    | cons c s =>
      simp only [List.cons_append, readHexDigits]
      cases Text.hexDigit? c with
      | none => exact .errors _ _
      | some d =>
        rcases skip_framed f s with ⟨rest, short, alone, framed⟩ | ⟨alone, framed⟩
        · simp only [alone, framed]
          exact (ih _ rest).of_never (Nat.le_succ_of_le short)
        · simp only [alone, framed]
          exact framed_nil_readHexDigits f count _

/-- Digits up to a brace are read in a frame as by themselves. -/
theorem framed_readHexBrace (fuel fuel' : Nat) (n : Option Nat) (s : List Char)
    (enough : s.length < fuel) (enough' : s.length + 2 < fuel') :
    Framed never s.length (readHexBrace f fuel n s) (readHexBrace f fuel' n (s ++ frameEnd)) := by
  induction fuel generalizing fuel' n s with
  | zero => exact absurd enough (Nat.not_lt_zero _)
  | succ fuel ih =>
    obtain _ | fuel' := fuel'
    · exact absurd enough' (Nat.not_lt_zero _)
    cases s with
    | nil => exact .errors _ _
    | cons c s =>
      simp only [List.length_cons] at enough enough'
      simp only [List.cons_append, readHexBrace]
      split
      · cases n with
        | none => exact .errors _ _
        | some n =>
          rcases skip_framed f s with ⟨rest, short, alone, framed⟩ | ⟨alone, framed⟩
          · simp only [alone, framed]
            exact .within n rest (Nat.le_succ_of_le short)
          · simp only [alone, framed]
            exact .hidden n
      · cases Text.hexDigit? c with
        | none => exact .errors _ _
        | some d =>
          rcases skip_framed f s with ⟨rest, short, alone, framed⟩ | ⟨alone, framed⟩
          · simp only [alone, framed]
            exact (ih fuel' _ rest (by omega) (by omega)).of_never (Nat.le_succ_of_le short)
          · simp only [alone, framed]
            cases fuel <;> cases fuel' <;> exact .errors _ _

/-- The number of a character is read in a frame as by itself. -/
theorem framed_readHex (digits : Nat) (s : List Char) :
    Framed never s.length (readHex f digits s) (readHex f digits (s ++ frameEnd)) := by
  rw [readHex_eq, readHex_eq]
  rcases skip_framed f s with ⟨rest, short, alone, framed⟩ | ⟨alone, framed⟩
  · simp only [alone, framed]
    have digit : Framed never rest.length
        (readHexDigits f digits 0 rest >>= fun read ↦
          (numbered (digits == 2) read.1).map (·, read.2))
        (readHexDigits f digits 0 (rest ++ frameEnd) >>= fun read ↦
          (numbered (digits == 2) read.1).map (·, read.2)) :=
      (framed_readHexDigits f digits 0 rest).bind_result _ fun _ _ none ↦ none.elim
    cases rest with
    | nil => exact digit.of_never short
    | cons c rest =>
      by_cases brace : c = '\x7b'
      · subst brace
        rcases skip_framed f rest with ⟨inner, shorter, alone, framed⟩ | ⟨alone, framed⟩
        · simp only [List.cons_append, alone, framed]
          have room : inner.length + 2 < (rest ++ frameEnd).length + 1 := by
            rw [length_append_frameEnd]
            omega
          have read := framed_readHexBrace f _ _ none inner (Nat.lt_succ_of_le shorter) room
          exact (read.bind_result (numbered false) fun _ _ none ↦ none.elim).of_never
            (Nat.le_trans shorter (Nat.le_of_succ_le short))
        · simp only [List.cons_append, alone, framed]
          exact .errors _ _
      · simpa [brace] using digit.of_never short
  · simp only [alone, framed]
    exact (framed_nil_readHexDigits f digits 0).bind_result _ fun _ _ none ↦ none.elim

/-! ## Properties -/

/-- A name up to a brace is read in a frame as by itself. -/
theorem framed_readBraceName (fuel fuel' : Nat) (s : List Char) (enough : s.length < fuel)
    (enough' : s.length + 2 < fuel') :
    Framed never s.length (readBraceName f fuel s) (readBraceName f fuel' (s ++ frameEnd)) := by
  induction fuel generalizing fuel' s with
  | zero => exact absurd enough (Nat.not_lt_zero _)
  | succ fuel ih =>
    obtain _ | fuel' := fuel'
    · exact absurd enough' (Nat.not_lt_zero _)
    cases s with
    | nil =>
      have broken : readBraceName f (fuel' + 1) frameEnd = .error .badEscape := by
        simp only [frameEnd, readBraceName, skip_dollar]
        cases fuel' with
        | zero => rfl
        | succ fuel' => cases fuel' <;> simp [readBraceName, Except.map]
      rw [List.nil_append, broken]
      exact .errors _ _
    | cons c s =>
      simp only [List.length_cons] at enough enough'
      simp only [List.cons_append, readBraceName]
      split
      · exact .within [] s (Nat.le_succ _)
      · rcases skip_framed f s with ⟨rest, short, alone, framed⟩ | ⟨alone, framed⟩
        · simp only [alone, framed]
          exact ((ih fuel' rest (by omega) (by omega)).map (c :: ·) fun _ _ none ↦ none).of_never
            (Nat.le_succ_of_le short)
        · simp only [alone, framed]
          cases fuel <;> cases fuel' <;> exact .errors _ _

/-- A property is read in a frame as by itself. The letter of one that breaks off before it is the
bracket of the frame. -/
theorem framed_readProperty (negated : Bool) (s : List Char) :
    Framed unclosing s.length (readProperty f negated s)
      (readProperty f negated (s ++ frameEnd)) := by
  rw [readProperty_eq, readProperty_eq]
  have name : Framed unclosing s.length (readPropertyName f s)
      (readPropertyName f (s ++ frameEnd)) := by
    unfold readPropertyName
    rcases skip_framed f s with ⟨rest, short, alone, framed⟩ | ⟨alone, framed⟩
    · rw [alone, framed]
      cases rest with
      | nil =>
        refine .failed _ fun name rest reads ↦ ?_
        change Except.ok ([')'], f.skip ['$']) = _ at reads
        rw [skip_dollar] at reads
        cases reads
        exact .inr rfl
      | cons c rest =>
        have shorter := Nat.le_of_succ_le short
        by_cases escape : c = '\\'
        · subst escape
          exact .errors _ _
        · by_cases brace : c = '\x7b'
          · subst brace
            rcases skip_framed f rest with ⟨inner, less, alone, framed⟩ | ⟨alone, framed⟩
            · simp only [List.cons_append, alone, framed]
              have room : inner.length + 2 < (rest ++ frameEnd).length + 1 := by
                rw [length_append_frameEnd]
                omega
              exact (framed_readBraceName f _ _ inner (Nat.lt_succ_of_le less) room).of_never
                (Nat.le_trans less shorter)
            · simp only [List.cons_append, alone, framed]
              exact .errors _ _
          · simp only [List.cons_append]
            rcases skip_framed f rest with ⟨behind, less, alone, framed⟩ | ⟨alone, framed⟩
            · rw [alone, framed]
              exact .within [c] behind (Nat.le_trans less shorter)
            · rw [alone, framed]
              exact .hidden [c]
    · rw [alone, framed]
      exact .errors _ _
  exact name.bind_result _ fun _ _ lost _ _ ↦ lost

/-! ## Word edges -/

/-- The name of a word edge is read in a frame as by itself. -/
theorem framed_readEdgeName (fuel fuel' : Nat) (s : List Char) (enough : s.length ≤ fuel)
    (enough' : s.length + 2 ≤ fuel') :
    Framed never s.length (.ok (readEdgeName f fuel s))
      (.ok (readEdgeName f fuel' (s ++ frameEnd))) := by
  induction fuel generalizing fuel' s with
  | zero =>
    obtain rfl := List.length_eq_zero_iff.mp (Nat.le_zero.mp enough)
    obtain _ | fuel' := fuel'
    · exact absurd enough' (Nat.not_succ_le_zero _)
    · exact .within [] [] (Nat.le_refl 0)
  | succ fuel ih =>
    obtain _ | fuel' := fuel'
    · exact absurd enough' (Nat.not_succ_le_zero _)
    cases s with
    | nil => exact .within [] [] (Nat.le_refl 0)
    | cons c s =>
      simp only [List.length_cons] at enough enough'
      simp only [List.cons_append, readEdgeName]
      split
      · rcases skip_framed f s with ⟨rest, short, alone, framed⟩ | ⟨alone, framed⟩
        · simp only [alone, framed]
          have read := ih fuel' rest (by omega) (by omega)
          exact (read.map (c :: ·) fun _ _ none ↦ none).of_never (Nat.le_succ_of_le short)
        · simp only [alone, framed]
          cases fuel <;> cases fuel' <;> exact .hidden [c]
      · exact .within [] (c :: s) (Nat.le_refl _)

/-- The word edge of a name that has been read. -/
private def edgeNamed (name : List Char) : Reading WordEdge :=
  match String.ofList name with
  | "start" => .ok .start
  | "end" => .ok .stop
  | "start-half" => .ok .startHalf
  | "end-half" => .ok .stopHalf
  | _ => .error .badEscape

/-- The name of a word edge is read as its letters, the brace that closes it, and the edge that is
named. -/
private theorem readWordEdge_brace (c : Char) (s inner : List Char) (opened : f.skip s = c :: inner)
    (letter : isEdgeNameChar c = true) :
    readWordEdge f ('\x7b' :: s) = match readEdgeName f (inner.length + 1) (c :: inner) with
      | (name, '\x7d' :: rest) => (edgeNamed name).map (·, rest)
      | _ => .error .badEscape := by
  have named (name rest : List Char) : (match String.ofList name with
      | "start" => Except.ok (WordEdge.start, rest)
      | "end" => .ok (.stop, rest)
      | "start-half" => .ok (.startHalf, rest)
      | "end-half" => .ok (.stopHalf, rest)
      | _ => .error PatternError.badEscape) = (edgeNamed name).map (·, rest) := by
    unfold edgeNamed
    generalize String.ofList name = word
    split <;> rfl
  simp only [readWordEdge, opened, letter, if_true]
  obtain ⟨name, rest⟩ := readEdgeName f (inner.length + 1) (c :: inner)
  cases rest with
  | nil => rfl
  | cons d rest =>
    by_cases brace : d = '\x7d'
    · subst brace
      exact named name rest
    · simp [brace]

/-- What is behind a word edge is a brace and nothing else in the frame. -/
def Flags.IsLoneBrace (rest : List Char) : Prop :=
  ∃ blanks, rest = '\x7b' :: blanks ∧ f.skip blanks = frameEnd

/-- A word edge is read in a frame as by itself. A brace that by itself breaks off is left alone. -/
theorem framed_readWordEdge (s : List Char) :
    Framed (fun _ rest ↦ f.IsLoneBrace rest) s.length (readWordEdge f s)
      (readWordEdge f (s ++ frameEnd)) := by
  cases s with
  | nil => exact .within WordEdge.boundary [] (Nat.le_refl 0)
  | cons c s =>
    by_cases brace : c = '\x7b'
    · subst brace
      rcases skip_framed f s with ⟨rest, short, alone, framed⟩ | ⟨alone, framed⟩
      · cases rest with
        | nil =>
          simp only [List.cons_append, readWordEdge, alone, framed]
          refine .failed _ fun edge rest reads ↦ ?_
          cases reads
          exact ⟨s ++ frameEnd, rfl, framed⟩
        | cons d inner =>
          by_cases letter : isEdgeNameChar d = true
          · have longer := length_append_frameEnd inner
            have room : (d :: inner).length + 2 ≤ (inner ++ frameEnd).length + 1 := by
              rw [List.length_cons]
              omega
            have name := framed_readEdgeName f (inner.length + 1) ((inner ++ frameEnd).length + 1)
              (d :: inner) (Nat.le_refl _) room
            rw [readWordEdge_brace f d s inner alone letter, List.cons_append,
              readWordEdge_brace f d (s ++ frameEnd) (inner ++ frameEnd) framed letter]
            rw [List.cons_append] at name
            generalize readEdgeName f (inner.length + 1) (d :: inner) = read at name
            generalize readEdgeName f _ (d :: (inner ++ frameEnd)) = read' at name
            cases name with
            | within name rest fits =>
              cases rest with
              | nil => exact .errors _ _
              | cons d rest =>
                by_cases brace : d = '\x7d'
                · subst brace
                  simp only [List.cons_append]
                  cases edgeNamed name with
                  | error e => exact .errors _ _
                  | ok edge =>
                    refine .within edge rest ?_
                    simp only [List.length_cons] at fits short ⊢
                    omega
                · simp only [List.cons_append, Prod.mk.injEq, List.cons.injEq, brace, false_and,
                    and_false, imp_self, implies_true]
                  exact .errors _ _
            | hidden name => exact .errors _ _
          · simp only [List.cons_append, readWordEdge, alone, framed, letter]
            exact .within WordEdge.boundary ('\x7b' :: s) (Nat.le_refl _)
      · simp only [List.cons_append, readWordEdge, alone, framed]
        exact .errors _ _
    · simp only [List.cons_append, readWordEdge, List.cons.injEq, brace, false_and, imp_self,
        implies_true]
      exact .within WordEdge.boundary (c :: s) (Nat.le_refl _)

/-! ## Escapes -/

/-- What comes of an escape that by itself breaks off: the bracket of the frame has been taken, or a
word edge is left with a brace that is alone. -/
def Flags.BreaksOff (p : Primitive) (rest : List Char) : Prop :=
  unclosing p rest ∨ (∃ a, p = .look a) ∧ f.IsLoneBrace rest

/-- An escape is read in a frame as by itself, unless it breaks off. -/
theorem framed_readEscape (s : List Char) :
    Framed f.BreaksOff s.length (readEscape f s) (readEscape f (s ++ frameEnd)) := by
  cases s with
  | nil =>
    refine .failed _ fun p rest reads ↦ ?_
    cases reads
    exact .inl (.inr rfl)
  | cons c s =>
    have literal (p : Primitive) : Framed f.BreaksOff (c :: s).length (.ok (p, s))
        (.ok (p, s ++ frameEnd)) := .within p s (Nat.le_succ _)
    simp only [List.cons_append, readEscape]
    split
    · exact .errors _ _
    split
    · exact (framed_readHex f 2 s).of_never (Nat.le_succ _)
    split
    · exact (framed_readHex f 4 s).of_never (Nat.le_succ _)
    split
    · exact (framed_readHex f 8 s).of_never (Nat.le_succ _)
    split
    · exact (framed_readProperty f false s).mono (fun _ _ lost ↦ .inl lost) (Nat.le_succ _)
    split
    · exact (framed_readProperty f true s).mono (fun _ _ lost ↦ .inl lost) (Nat.le_succ _)
    split
    · exact literal _
    cases letterSet? f c with
    | some set =>
      cases set with
      | error e => exact .errors _ _
      | ok set => exact literal _
    | none =>
      cases controlEscape? c with
      | some control => exact literal _
      | none =>
        dsimp only
        split
        · exact literal _
        · exact literal _
        · have edge := framed_readWordEdge f s
          exact (edge.map (fun edge ↦ Primitive.look (.word f.wordSet edge))
            fun edge rest lone ↦ .inr ⟨⟨_, rfl⟩, lone⟩).mono (fun _ _ lost ↦ lost) (Nat.le_succ _)
        · exact literal _
        · exact literal _
        · exact literal _
        · exact .errors _ _

end Teletype.Regex
