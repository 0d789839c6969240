import Teletype.Proofs.Layout.Missing
import Teletype.Proofs.Layout.Pieces
/-!
# What placeholders are filled with

Filling the placeholders of a text looks up the names that the text lists and nothing else. It fails
only over the first of them that is unset, where unset variables are refused. What is filled in is
not read again, and a text whose pairs of opening braces have all got a backslash is given back as
it was without.
-/

namespace Teletype.Layout

variable {store other : Store} {o : Interpolation} {e : FormatError} {piece : Piece}
  {ps : List Piece} {name : String} {cs rest : List Char}

/-! ## Names that are looked up -/

/-- A piece without a name has the same text whatever the variables are. -/
theorem Piece.exists_of_name?_eq_none (unnamed : piece.name? = none) :
    ∃ cs, ∀ store o, piece.text store o = .ok cs := by
  cases piece with
  | literal c => exact ⟨[c], fun _ _ ↦ rfl⟩
  | braces => exact ⟨['\x7b', '\x7b'], fun _ _ ↦ rfl⟩
  | placeholder cs => cases unnamed

/-- A piece with a name has the text of the variable, if that is set. -/
theorem Piece.text_of_name? (named : piece.name? = some name) (store : Store)
    (o : Interpolation) :
    piece.text store o =
      match store.get? name with
      | some value => .ok (o.valueText name value).toList
      | none => (o.missing.text name).map String.toList := by
  cases piece with
  | literal | braces => cases named
  | placeholder cs =>
    obtain rfl := Option.some.inj named
    rfl

/-- Behind a piece with a text, the rest decides whether several have one. -/
theorem piecesText_cons_of_ok (first : piece.text store o = .ok cs) (ps : List Piece) :
    piecesText store o (piece :: ps) = (piecesText store o ps).map (cs ++ ·) := by
  rw [piecesText, first]
  cases piecesText store o ps <;> rfl

/-- A piece without a text fails for all. -/
theorem piecesText_cons_of_error (failed : piece.text store o = .error e) (ps : List Piece) :
    piecesText store o (piece :: ps) = .error e := by
  rw [piecesText, failed]
  rfl

/-- What is made of a text does not make it fail. -/
private theorem map_eq_error_iff {α β : Type} {text : Except FormatError α} {f : α → β} :
    text.map f = .error e ↔ text = .error e := by
  cases text <;> simp [Except.map]

/-- The first of some names that no variable of a store has. -/
def firstUnset? (store : Store) (names : List String) : Option String :=
  names.find? fun name ↦ (store.get? name).isNone

/-- Where unset variables are refused, several pieces fail over the first placeholder of one. -/
theorem piecesText_eq_error_iff (refused : o.missing = .fail) :
    piecesText store o ps = .error e ↔
      ∃ name, firstUnset? store (ps.filterMap Piece.name?) = some name ∧
        e = .missingVariable name := by
  unfold firstUnset?
  induction ps with
  | nil => simp [piecesText]
  | cons piece ps ih =>
    cases named : piece.name? with
    | none =>
      obtain ⟨cs, first⟩ := Piece.exists_of_name?_eq_none named
      rw [piecesText_cons_of_ok (first store o), map_eq_error_iff, ih,
        List.filterMap_cons_none named]
    | some name =>
      have text := Piece.text_of_name? named store o
      rw [List.filterMap_cons_some named]
      cases found : store.get? name with
      | some value =>
        rw [found] at text
        rw [piecesText_cons_of_ok text, map_eq_error_iff, ih,
          List.find?_cons_of_neg (by simp [found])]
      | none =>
        rw [found, refused] at text
        rw [piecesText_cons_of_error text, List.find?_cons_of_pos (by simp [found])]
        simp [eq_comm]

/-- Pieces have the same text over stores that agree on the names in them. -/
theorem piecesText_congr
    (agree : ∀ name ∈ ps.filterMap Piece.name?, other.get? name = store.get? name) :
    piecesText other o ps = piecesText store o ps := by
  induction ps with
  | nil => rfl
  | cons piece ps ih =>
    cases named : piece.name? with
    | none =>
      obtain ⟨cs, first⟩ := Piece.exists_of_name?_eq_none named
      rw [List.filterMap_cons_none named] at agree
      rw [piecesText, piecesText, first, first, ih agree]
    | some name =>
      rw [List.filterMap_cons_some named, List.forall_mem_cons] at agree
      rw [piecesText, piecesText, Piece.text_of_name? named, Piece.text_of_name? named, agree.1,
        ih agree.2]

/-- Where unset variables are not refused, every text can be filled. -/
theorem exists_interpolate (unrefused : o.missing ≠ .fail) (s : String) :
    ∃ t, interpolate store o s = .ok t := by
  cases filled : interpolate store o s with
  | ok t => exact ⟨t, rfl⟩
  | error e =>
    obtain ⟨name, -, -, failed⟩ := exists_of_interpolate filled
    exact absurd (MissingPolicy.eq_of_text failed).1 unrefused

/-- Filling the placeholders of a text reads it once, from left to right, and looks up the names
that it lists: where unset variables are refused it fails exactly over the first of these that is
unset, elsewhere it never fails, and nothing but their values makes a difference. -/
theorem interpolate_reads_placeholders (store : Store) (o : Interpolation) (s : String) :
    (∃ ps, Reads s.toList ps ∧ placeholders s = ps.filterMap Piece.name? ∧
        interpolate store o s = (piecesText store o ps).map String.ofList) ∧
      (o.missing = .fail → ∀ e, interpolate store o s = .error e ↔
        ∃ name, firstUnset? store (placeholders s) = some name ∧ e = .missingVariable name) ∧
      (o.missing ≠ .fail → ∃ t, interpolate store o s = .ok t) ∧
      ∀ other : Store, (∀ name ∈ placeholders s, other.get? name = store.get? name) →
        interpolate other o s = interpolate store o s := by
  refine ⟨⟨pieces s.toList, pieces_eq_iff.mp rfl, rfl, rfl⟩, fun refused e ↦ ?_,
    fun unrefused ↦ exists_interpolate unrefused s, fun other agree ↦ ?_⟩
  · rw [interpolate, map_eq_error_iff]
    exact piecesText_eq_error_iff refused
  · rw [interpolate, piecesText_congr agree]
    rfl

/-- A letter with a greeting and a name. -/
def letter : String := "\x7b\x7bgreeting\x7d\x7d, \x7b\x7b name \x7d\x7d!"

/-- A greeting that looks like a placeholder, and nothing else. -/
def greetingOnly : Store := Store.empty.set "greeting" (.text "\x7b\x7bghost\x7d\x7d")

/-- The letter fails over the name and not over what the greeting looks like. Where unset variables
are not refused it can be filled, and a variable of another name makes no difference. -/
theorem letter_lacks_name :
    placeholders letter = ["greeting", "name"] ∧
      interpolate greetingOnly { missing := .fail } letter = .error (.missingVariable "name") ∧
      (∃ t, interpolate greetingOnly {} letter = .ok t) ∧
      interpolate (greetingOnly.set "ghost" (.bool true)) {} letter =
        interpolate greetingOnly {} letter := by
  have listed : placeholders letter = ["greeting", "name"] := by decide +kernel
  have set : greetingOnly.get? "greeting" = some (.text "\x7b\x7bghost\x7d\x7d") := by
    rw [greetingOnly, Store.get?_set, if_pos rfl]
  have unset : greetingOnly.get? "name" = none := by
    rw [greetingOnly, Store.get?_set, if_neg (by decide)]
    exact Std.ExtTreeMap.getElem?_empty
  have first : firstUnset? greetingOnly (placeholders letter) = some "name" := by
    simp [listed, firstUnset?, set, unset]
  obtain ⟨-, failing, -, -⟩ :=
    interpolate_reads_placeholders greetingOnly { missing := .fail } letter
  obtain ⟨-, -, filled, same⟩ := interpolate_reads_placeholders greetingOnly {} letter
  have unrefused : ({} : Interpolation).missing ≠ .fail := fun refused ↦ by cases refused
  refine ⟨listed, (failing rfl _).mpr ⟨"name", first, rfl⟩, filled unrefused, same _ ?_⟩
  intro name mem
  have other : "ghost" ≠ name := by
    rintro rfl
    rw [listed] at mem
    exact absurd mem (by decide)
  rw [Store.get?_set, if_neg other]

/-! ## Escaped texts -/

/-- Characters with a backslash before every two opening braces, from left to right. -/
def escapeChars : List Char → List Char
  | '\x7b' :: '\x7b' :: cs => '\\' :: '\x7b' :: '\x7b' :: escapeChars cs
  | c :: cs => c :: escapeChars cs
  | [] => []

/-- A text with a backslash before every two opening braces, from left to right. -/
def escapeBraces (s : String) : String := String.ofList (escapeChars s.toList)

/-- Escaped characters begin with an opening brace only where the characters do. -/
theorem exists_of_escapeChars (h : escapeChars cs = '\x7b' :: rest) :
    ∃ more, cs = '\x7b' :: more ∧ rest = escapeChars more := by
  unfold escapeChars at h
  split at h
  · cases h
  · next c more _ =>
    obtain ⟨rfl, rfl⟩ := List.cons.inj h
    exact ⟨more, rfl, rfl⟩
  · cases h

/-- Two opening braces do not stand at the head of escaped characters. -/
theorem escapeChars_ne (rest : List Char) : escapeChars cs ≠ '\x7b' :: '\x7b' :: rest := by
  intro h
  obtain ⟨more, rfl, behind⟩ := exists_of_escapeChars h
  obtain ⟨more, rfl, -⟩ := exists_of_escapeChars behind.symm
  cases h

/-- Escaped characters are read as pieces without names which have the characters as their text. -/
theorem exists_reads_escapeChars (cs : List Char) :
    ∃ ps, Reads (escapeChars cs) ps ∧ ps.filterMap Piece.name? = [] ∧
      ∀ store o, piecesText store o ps = .ok cs := by
  fun_induction escapeChars cs with
  | case1 cs ih =>
    obtain ⟨ps, reads, unnamed, text⟩ := ih
    refine ⟨.braces :: ps, .braces reads, unnamed, fun store o ↦ ?_⟩
    rw [piecesText_cons_of_ok rfl, text]
    rfl
  | case2 c cs single ih =>
    obtain ⟨ps, reads, unnamed, text⟩ := ih
    refine ⟨.literal c :: ps, .literal ?_ ?_ reads, unnamed, fun store o ↦ ?_⟩
    · rintro ⟨rest, whole⟩
      obtain ⟨-, behind⟩ := List.cons.inj whole
      exact escapeChars_ne rest behind.symm
    · rintro name token ⟨body, -, rfl⟩ ⟨rest, whole⟩
      obtain ⟨rfl, behind⟩ := List.cons.inj whole
      obtain ⟨more, rfl, -⟩ := exists_of_escapeChars behind.symm
      exact single more rfl rfl
    · rw [piecesText_cons_of_ok rfl, text]
      rfl
  | case3 => exact ⟨[], .nil, rfl, fun _ _ ↦ rfl⟩

/-- Whatever the variables are and whatever stands for unset ones, an escaped text is filled to what
it was before it was escaped, and it lists no names. -/
theorem interpolate_escapeBraces (store : Store) (o : Interpolation) (s : String) :
    interpolate store o (escapeBraces s) = .ok s ∧ placeholders (escapeBraces s) = [] := by
  obtain ⟨ps, reads, unnamed, text⟩ := exists_reads_escapeChars s.toList
  have pieces : pieces (escapeBraces s).toList = ps := by
    rw [escapeBraces, String.toList_ofList, pieces_eq_iff]
    exact reads
  constructor
  · rw [interpolate, pieces, text, Except.map, String.ofList_toList]
  · rw [placeholders, pieces, unnamed]

/-- Of three opening braces the first two are escaped, and the third stands behind them. -/
example : escapeBraces "\x7b\x7b\x7bname\x7d\x7d\x7d" =
    "\\\x7b\x7b\x7bname\x7d\x7d\x7d" := by decide

end Teletype.Layout
