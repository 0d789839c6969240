import Mathlib.Data.List.Basic
import Teletype.Regex.Flags
/-!
# Reading what stands in a frame

A text that is put into a frame is read with the end of the frame behind it. Mostly this changes
nothing: what is read is the same, and the end stays behind what is left. It may be lost in a
comment at the end of the text. And where the text by itself breaks off, the reading runs on into
the end, and has to be followed until it fails or has used the end up for something else.
-/

namespace Teletype.Regex

/-- What the frame of a pattern ends with. -/
def frameEnd : List Char := [')', '$']

/-- A text in a frame has two characters more. -/
theorem length_append_frameEnd (s : List Char) : (s ++ frameEnd).length = s.length + 2 :=
  List.length_append

/-- How a reading compares with the reading of the same text with the end of a frame behind it: it
leaves a short rest, with the end behind it in the other reading; or it leaves nothing, and the end
has gone into a comment; or it fails, and whatever the other one reads it goes astray. -/
inductive Framed {α : Type} (astray : α → List Char → Prop) (bound : Nat) :
    Reading (α × List Char) → Reading (α × List Char) → Prop
  | within (a : α) (rest : List Char) (short : rest.length ≤ bound) :
    Framed astray bound (.ok (a, rest)) (.ok (a, rest ++ frameEnd))
  | hidden (a : α) : Framed astray bound (.ok (a, [])) (.ok (a, []))
  | failed (e : PatternError) {y : Reading (α × List Char)}
      (strays : ∀ a rest, y = .ok (a, rest) → astray a rest) :
    Framed astray bound (.error e) y

/-- The end of a frame is not read for anything else. -/
def never {α : Type} (_ : α) (_ : List Char) : Prop := False

/-- The bracket of the end of a frame is read for something else. -/
def unclosing {α : Type} (_ : α) (rest : List Char) : Prop := rest = [] ∨ rest = ['$']

namespace Framed

variable {α β : Type} {astray : α → List Char → Prop} {astray' : β → List Char → Prop}
  {bound bound' : Nat} {x y : Reading (α × List Char)}

/-- Both readings fail. -/
theorem errors (e e' : PatternError) : Framed astray bound (.error e) (.error e') :=
  .failed e fun _ _ reads ↦ nomatch reads

/-- Where a reading fails, what the other one reads goes astray. -/
theorem strays {e : PatternError} (h : Framed astray bound (.error e) y) {a : α}
    {rest : List Char} (reads : y = .ok (a, rest)) : astray a rest := by
  cases h with
  | failed e strays => exact strays a rest reads

/-- A reading may be compared less closely. -/
theorem mono {wider : α → List Char → Prop} (h : Framed astray bound x y)
    (weaker : ∀ a rest, astray a rest → wider a rest) (le : bound ≤ bound') :
    Framed wider bound' x y := by
  cases h with
  | within a rest short => exact .within a rest (Nat.le_trans short le)
  | hidden a => exact .hidden a
  | failed e strays => exact .failed e fun a rest reads ↦ weaker a rest (strays a rest reads)

/-- Where the end of the frame is never read for anything else, what goes astray does not matter. -/
theorem of_never (h : Framed never bound x y) (le : bound ≤ bound') : Framed astray bound' x y :=
  h.mono (fun _ _ none ↦ none.elim) le

/-- Readings that compare are continued by readings that compare. -/
theorem bind {k k' : α × List Char → Reading (β × List Char)} (h : Framed astray bound x y)
    (within : ∀ a rest, rest.length ≤ bound →
      Framed astray' bound' (k (a, rest)) (k' (a, rest ++ frameEnd)))
    (hidden : ∀ a, Framed astray' bound' (k (a, [])) (k' (a, [])))
    (failed : ∀ a rest, astray a rest → ∀ b r, k' (a, rest) = .ok (b, r) → astray' b r) :
    Framed astray' bound' (x >>= k) (y >>= k') := by
  cases h with
  | within a rest short => exact within a rest short
  | hidden a => exact hidden a
  | failed e strays =>
    refine .failed e fun b r reads ↦ ?_
    cases y with
    | error e' => cases reads
    | ok read => exact failed read.1 read.2 (strays read.1 read.2 rfl) b r reads

/-- What is made of something may leave a rest, with the end of the frame behind it. -/
theorem kept (z : Reading β) (g : β → α) (rest : List Char) (short : rest.length ≤ bound) :
    Framed astray bound (z.map fun b ↦ (g b, rest)) (z.map fun b ↦ (g b, rest ++ frameEnd)) := by
  cases z with
  | error e => exact errors e e
  | ok b => exact .within (g b) rest short

/-- What is made of something may leave nothing where the end of the frame has been lost. -/
theorem lost (z : Reading β) (g : β → α) :
    Framed astray bound (z.map fun b ↦ (g b, [])) (z.map fun b ↦ (g b, [])) := by
  cases z with
  | error e => exact errors e e
  | ok b => exact .hidden (g b)

/-- What is read may be made into something else, or fail to be, where the rest is left as it is. -/
theorem bind_result (g : α → Reading β) (h : Framed astray bound x y)
    (failed : ∀ a rest, astray a rest → ∀ b, g a = .ok b → astray' b rest) :
    Framed astray' bound (x >>= fun read ↦ (g read.1).map (·, read.2))
      (y >>= fun read ↦ (g read.1).map (·, read.2)) := by
  refine h.bind (fun a rest short ↦ ?_) (fun a ↦ ?_) fun a rest lost b r reads ↦ ?_
  · exact kept (g a) id rest short
  · exact lost (g a) id
  · cases made : g a with
    | error e =>
      rw [made] at reads
      cases reads
    | ok b' =>
      rw [made] at reads
      cases reads
      exact failed a rest lost b made

/-- What is read may be changed. -/
theorem map (g : α → β) (h : Framed astray bound x y)
    (failed : ∀ a rest, astray a rest → astray' (g a) rest) :
    Framed astray' bound (x.map fun read ↦ (g read.1, read.2))
      (y.map fun read ↦ (g read.1, read.2)) := by
  cases h with
  | within a rest short => exact .within (g a) rest short
  | hidden a => exact .hidden (g a)
  | failed e strays =>
    refine .failed e fun b r reads ↦ ?_
    cases y with
    | error e' => cases reads
    | ok read =>
      cases reads
      exact failed read.1 read.2 (strays read.1 read.2 rfl)

end Framed

/-- What is made of something leaves the rest that it is made with. -/
theorem rest_of_map {α β : Type} {x : Reading β} {g : β → α} {a : α} {rest left : List Char}
    (h : (x.map fun b ↦ (g b, rest)) = .ok (a, left)) : left = rest := by
  cases x with
  | error e => cases h
  | ok b =>
    cases h
    rfl

/-! ## Passing over blanks and comments -/

private theorem skipFrom_framed (inComment : Bool) (s : List Char) :
    (skipFrom inComment (s ++ frameEnd) = skipFrom inComment s ++ frameEnd) ∨
      (skipFrom inComment s = [] ∧ skipFrom inComment (s ++ frameEnd) = []) := by
  induction s generalizing inComment with
  | nil =>
    cases inComment with
    | false => exact .inl rfl
    | true => exact .inr ⟨rfl, rfl⟩
  | cons c s ih =>
    cases inComment with
    | false =>
      simp only [List.cons_append, skipFrom]
      split
      · exact ih false
      · split
        · exact ih true
        · exact .inl rfl
    | true => exact ih _

private theorem length_skipFrom_le (inComment : Bool) (s : List Char) :
    (skipFrom inComment s).length ≤ s.length := by
  induction s generalizing inComment with
  | nil => cases inComment <;> exact Nat.le_refl 0
  | cons c s ih =>
    cases inComment with
    | false =>
      simp only [skipFrom]
      split
      · exact Nat.le_succ_of_le (ih false)
      · split
        · exact Nat.le_succ_of_le (ih true)
        · exact Nat.le_refl _
    | true => exact Nat.le_succ_of_le (ih _)

/-- Blanks are dropped from a text in a frame as by itself. -/
theorem dropWhile_framed (s : List Char) :
    (s ++ frameEnd).dropWhile Text.isBlank = s.dropWhile Text.isBlank ++ frameEnd := by
  induction s with
  | nil => rfl
  | cons c s ih =>
    rw [List.cons_append, List.dropWhile_cons, List.dropWhile_cons]
    split
    · exact ih
    · rfl

/-- What is passed over in a text is passed over in a frame as well, and then either the end of the
frame follows what is left, or nothing is left and the end is passed over with the comment that it
has become part of. -/
theorem skip_framed (f : Flags) (s : List Char) :
    (∃ rest, rest.length ≤ s.length ∧ f.skip s = rest ∧ f.skip (s ++ frameEnd) = rest ++ frameEnd) ∨
      (f.skip s = [] ∧ f.skip (s ++ frameEnd) = []) := by
  unfold Flags.skip
  split
  · rcases skipFrom_framed false s with behind | lost
    · exact .inl ⟨_, length_skipFrom_le false s, rfl, behind⟩
    · exact .inr lost
  · exact .inl ⟨s, Nat.le_refl _, rfl, rfl⟩

/-- Nothing is passed over in the end of a frame. -/
@[simp] theorem skip_frameEnd (f : Flags) : f.skip frameEnd = frameEnd := by
  unfold Flags.skip
  split <;> rfl

/-- Nothing is passed over where there is nothing. -/
@[simp] theorem skip_nil (f : Flags) : f.skip [] = [] := by
  unfold Flags.skip
  split <;> rfl

/-- Nothing is passed over in what follows the bracket of the end of a frame. -/
@[simp] theorem skip_dollar (f : Flags) : f.skip ['$'] = ['$'] := by
  unfold Flags.skip
  split <;> rfl

/-- A brace is not passed over. -/
@[simp] theorem skip_brace (f : Flags) (s : List Char) : f.skip ('\x7b' :: s) = '\x7b' :: s := by
  unfold Flags.skip
  split <;> rfl

end Teletype.Regex
