import Teletype.Layout.Placeholder
import Teletype.Proofs.Text.Trim
/-!
# What placeholders are

A placeholder is a name between two pairs of braces, with white space around it or not. A text is
read from left to right: two opening braces behind a backslash stand for themselves, a placeholder
is taken as a whole, and a character at which neither begins stands for itself. The pieces of a text
are the only ones that this rule allows.
-/

namespace Teletype.Layout

open Text

variable {c : Char} {cs rest name token body : List Char} {ps : List Piece}

/-! ## Names -/

/-- The name of a variable in a placeholder. -/
def IsName (name : List Char) : Prop :=
  ∃ c cs, name = c :: cs ∧ isNameStart c = true ∧ ∀ d ∈ cs, isNameRest d = true

/-- The characters of names are among the visible ones of ASCII, before the braces. -/
theorem toNat_of_isNameRest (h : isNameRest c = true) : 33 ≤ c.toNat ∧ c.toNat ≤ 122 := by
  have code (d : Char) : d.val.toNat = d.toNat := rfl
  simp only [isNameRest, isNameStart, Decimal.isDigit, Char.le_def, UInt32.le_iff_toNat_le, code,
    Bool.or_eq_true, Bool.and_eq_true, decide_eq_true_eq, beq_iff_eq, Char.reduceToNat] at h
  rcases h with ((((lower | upper) | rfl) | digit) | rfl) | rfl
  · omega
  · omega
  · decide
  · omega
  · decide
  · decide

/-- No character of a name is white space. -/
theorem isBlank_of_isNameRest (h : isNameRest c = true) : isBlank c = false := by
  obtain ⟨low, high⟩ := toNat_of_isNameRest h
  exact isBlank_of_visible low (by omega)

/-- A character that begins a name may stand anywhere in it. -/
theorem isNameRest_of_isNameStart (h : isNameStart c = true) : isNameRest c = true := by
  simp [isNameRest, h]

/-! ## Placeholders -/

/-- What stands behind the opening braces of a placeholder. -/
def IsBody (name body : List Char) : Prop :=
  IsName name ∧ ∃ left right, IsBlank left ∧ IsBlank right ∧
    body = left ++ (name ++ (right ++ ['\x7d', '\x7d']))

/-- A placeholder as it is written. -/
def IsPlaceholder (name token : List Char) : Prop :=
  ∃ body, IsBody name body ∧ token = '\x7b' :: '\x7b' :: body

/-- A name goes up to white space or to a closing brace. -/
private theorem takeWhile_name {right : List Char} (blank : IsBlank right)
    (named : ∀ d ∈ name, isNameRest d = true) :
    (name ++ (right ++ '\x7d' :: rest)).takeWhile isNameRest = name := by
  refine takeWhile_append named ?_
  cases right with
  | nil =>
    rintro c ⟨⟩
    decide
  | cons d right =>
    rintro _ ⟨⟩
    refine Bool.eq_false_iff.mpr fun letter ↦ ?_
    exact absurd (blank d List.mem_cons_self) (by simp [isBlank_of_isNameRest letter])

/-- What the search behind opening braces finds stands there. -/
theorem exists_of_placeholderBody {length : Nat} (h : placeholderBody? cs = some (name, length)) :
    ∃ body rest, IsBody name body ∧ cs = body ++ rest ∧ length = body.length := by
  unfold placeholderBody? at h
  cases inner : cs.dropWhile isBlank with
  | nil => simp [inner] at h
  | cons c tail =>
    simp only [inner] at h
    split at h
    · next start =>
      have letters : (c :: tail).takeWhile isNameRest = c :: tail.takeWhile isNameRest :=
        List.takeWhile_cons_of_pos (isNameRest_of_isNameStart start)
      have whole := List.prefix_iff_eq_append.mp (List.takeWhile_prefix isNameRest (l := c :: tail))
      have named : IsName ((c :: tail).takeWhile isNameRest) :=
        ⟨c, tail.takeWhile isNameRest, letters, start, fun _ ↦ List.mem_takeWhile_imp⟩
      generalize (c :: tail).takeWhile isNameRest = word at h whole named
      split at h
      · next rest closing =>
        obtain ⟨-, left, blankLeft, rfl⟩ := dropWhile_eq_iff.mp inner
        obtain ⟨-, right, blankRight, behind⟩ := dropWhile_eq_iff.mp closing
        obtain ⟨rfl, rfl⟩ := Prod.mk.inj (Option.some.inj h)
        have parts : left ++ c :: tail = left ++ (word ++ (right ++ ['\x7d', '\x7d'])) ++ rest := by
          rw [← whole, behind]
          simp
        refine ⟨_, rest, ⟨named, left, right, blankLeft, blankRight, rfl⟩, parts, ?_⟩
        rw [parts, List.length_append, Nat.add_sub_cancel]
      · cases h
    · cases h

/-- The search behind opening braces finds what stands there. -/
theorem placeholderBody?_of_isBody (isBody : IsBody name body) (rest : List Char) :
    placeholderBody? (body ++ rest) = some (name, body.length) := by
  obtain ⟨⟨c, letters, rfl, start, others⟩, left, right, blankLeft, blankRight, rfl⟩ := isBody
  have named : ∀ d ∈ c :: letters, isNameRest d = true :=
    List.forall_mem_cons.mpr ⟨isNameRest_of_isNameStart start, others⟩
  have inner : (left ++ (c :: letters ++ (right ++ ['\x7d', '\x7d'])) ++ rest).dropWhile isBlank =
      c :: (letters ++ (right ++ '\x7d' :: '\x7d' :: rest)) := by
    refine dropWhile_eq_iff.mpr ⟨fun d first ↦ ?_, left, blankLeft, by simp⟩
    obtain rfl := Option.some.inj first
    exact isBlank_of_isNameRest (isNameRest_of_isNameStart start)
  have word : (c :: (letters ++ (right ++ '\x7d' :: '\x7d' :: rest))).takeWhile isNameRest =
      c :: letters := takeWhile_name blankRight named
  have behind : (c :: (letters ++ (right ++ '\x7d' :: '\x7d' :: rest))).drop
      (c :: letters).length = right ++ '\x7d' :: '\x7d' :: rest := List.drop_left
  have closing : (right ++ '\x7d' :: '\x7d' :: rest).dropWhile isBlank =
      '\x7d' :: '\x7d' :: rest := by
    refine dropWhile_eq_iff.mpr ⟨fun d first ↦ ?_, right, blankRight, rfl⟩
    obtain rfl := Option.some.inj first
    decide
  simp only [placeholderBody?, inner, start, if_true, word, behind, closing]
  rw [List.length_append, Nat.add_sub_cancel]

/-! ## Reading a text -/

/-- Two opening braces that a backslash keeps. -/
def keptBraces : List Char := ['\\', '\x7b', '\x7b']

/-- The pieces that a text is read as from left to right. -/
inductive Reads : List Char → List Piece → Prop
  | nil : Reads [] []
  | braces {rest : List Char} {ps : List Piece} (others : Reads rest ps) :
    Reads (keptBraces ++ rest) (.braces :: ps)
  | placeholder {name token rest : List Char} {ps : List Piece}
    (isPlaceholder : IsPlaceholder name token) (others : Reads rest ps) :
    Reads (token ++ rest) (.placeholder name :: ps)
  | literal {c : Char} {rest : List Char} {ps : List Piece} (unkept : ¬ keptBraces <+: c :: rest)
    (unnamed : ∀ name token, IsPlaceholder name token → ¬ token <+: c :: rest)
    (others : Reads rest ps) : Reads (c :: rest) (.literal c :: ps)

/-- A placeholder at the head of a text is taken as a whole. -/
theorem headPiece_of_isBody (isBody : IsBody name body) (rest : List Char) :
    headPiece '\x7b' ('\x7b' :: (body ++ rest)) = (.placeholder name, 1 + body.length) := by
  simp [headPiece, placeholderBody?_of_isBody isBody]

/-- Where neither kept braces nor a placeholder begin, a character stands for itself. -/
theorem headPiece_of_literal (unkept : ¬ keptBraces <+: c :: cs)
    (unnamed : ∀ name token, IsPlaceholder name token → ¬ token <+: c :: cs) :
    headPiece c cs = (.literal c, 0) := by
  unfold headPiece
  split
  · next rest => exact absurd (List.prefix_append keptBraces rest) unkept
  · next rest =>
    split
    · next name length found =>
      obtain ⟨body, behind, isBody, rfl, rfl⟩ := exists_of_placeholderBody found
      exact absurd (List.prefix_append _ behind) (unnamed name _ ⟨body, isBody, rfl⟩)
    · rfl
  · rfl

/-- Skipping characters is reading what follows them. -/
theorem piecesFrom_eq (skip : Nat) (cs : List Char) :
    piecesFrom skip cs = pieces (cs.drop skip) := by
  induction skip generalizing cs with
  | zero => rfl
  | succ skip ih =>
    cases cs with
    | nil => rfl
    | cons c cs => exact ih cs

/-- A text is read as the piece at its head and what is read behind it. -/
theorem pieces_cons (c : Char) (cs : List Char) :
    pieces (c :: cs) = (headPiece c cs).1 :: pieces (cs.drop (headPiece c cs).2) := by
  rw [pieces, piecesFrom, piecesFrom_eq]

/-- A text may be read in one way only. -/
theorem pieces_of_reads (h : Reads cs ps) : pieces cs = ps := by
  induction h with
  | nil => rfl
  | braces _ ih => exact congrArg (Piece.braces :: ·) ih
  | placeholder isPlaceholder _ ih =>
    obtain ⟨body, isBody, rfl⟩ := isPlaceholder
    rw [List.cons_append, List.cons_append, pieces_cons, headPiece_of_isBody isBody]
    simp [Nat.add_comm, ih]
  | literal unkept unnamed _ ih =>
    rw [pieces_cons, headPiece_of_literal unkept unnamed]
    exact congrArg (_ :: ·) ih

/-- The pieces of a text are what is left of it after skipping may be read as. -/
theorem reads_piecesFrom (skip : Nat) (cs : List Char) :
    Reads (cs.drop skip) (piecesFrom skip cs) := by
  fun_induction piecesFrom skip cs with
  | case1 skip =>
    rw [List.drop_nil]
    exact .nil
  | case2 skip c cs ih => exact ih
  | case3 c cs ih =>
    rw [List.drop_zero]
    by_cases kept : keptBraces <+: c :: cs
    · obtain ⟨rest, whole⟩ := kept
      obtain ⟨rfl, rfl⟩ := List.cons.inj whole
      exact .braces ih
    by_cases named : ∃ name token, IsPlaceholder name token ∧ token <+: c :: cs
    · obtain ⟨name, token, ⟨body, isBody, rfl⟩, rest, whole⟩ := named
      obtain ⟨rfl, rfl⟩ := List.cons.inj whole
      have behind : ('\x7b' :: (body ++ rest)).drop (1 + body.length) = rest := by
        simp [Nat.add_comm]
      rw [List.append_eq, List.cons_append, headPiece_of_isBody isBody] at ih ⊢
      rw [behind] at ih
      exact .placeholder ⟨body, isBody, rfl⟩ ih
    · rw [headPiece_of_literal kept fun name token h start ↦ named ⟨name, token, h, start⟩] at ih ⊢
      exact .literal kept (fun name token h start ↦ named ⟨name, token, h, start⟩) ih

/-- The pieces of a text are what it is read as. -/
theorem pieces_eq_iff : pieces cs = ps ↔ Reads cs ps :=
  ⟨fun h ↦ h ▸ reads_piecesFrom 0 cs, pieces_of_reads⟩

end Teletype.Layout
