import Mathlib.Data.List.TakeDrop
import Teletype.Decimal.Numeral
import Teletype.Text.Split
/-!
# What numerals are

A text is read as a numeral exactly when it is one: at most one sign, digits with an optional point
and at least one digit on some side of it, and perhaps an exponent, which has at most one sign of
its own and at least one digit.
-/

namespace Teletype.Decimal

variable {cs ds rest sign body exponent : List Char}

/-- At most one sign. -/
inductive IsSign : List Char → Prop
  | none : IsSign []
  | plus : IsSign ['+']
  | minus : IsSign ['-']

/-- Digits, if anything. -/
def IsDigits (cs : List Char) : Prop := ∀ c ∈ cs, isDigit c = true

/-- A text that does not begin with a digit. -/
def EndsDigits (cs : List Char) : Prop := ∀ c ∈ cs.head?, isDigit c = false

/-- Digits with an optional point, and at least one digit on some side of it. -/
inductive IsPointed : List Char → Prop
  | whole {whole : List Char} (digits : IsDigits whole) (nonempty : whole ≠ []) : IsPointed whole
  | point {whole fraction : List Char} (before : IsDigits whole) (behind : IsDigits fraction)
    (nonempty : whole ≠ [] ∨ fraction ≠ []) : IsPointed (whole ++ '.' :: fraction)

/-- Perhaps an exponent. -/
inductive IsExponent : List Char → Prop
  | none : IsExponent []
  | some {letter : Char} {sign digits : List Char} (marked : letter = 'e' ∨ letter = 'E')
    (signed : IsSign sign) (isDigits : IsDigits digits) (nonempty : digits ≠ []) :
    IsExponent (letter :: (sign ++ digits))

/-! ## Signs and digits -/

/-- What is split off in front of a number is at most one sign. -/
theorem exists_sign_of_takeSign (cs : List Char) :
    ∃ sign, IsSign sign ∧ cs = sign ++ (takeSign cs).2 := by
  fun_cases takeSign cs with
  | case1 rest => exact ⟨['-'], .minus, rfl⟩
  | case2 rest => exact ⟨['+'], .plus, rfl⟩
  | case3 => exact ⟨[], .none, rfl⟩

/-- Nothing is split off in front of a text without a sign. -/
theorem takeSign_of_unsigned (unsigned : ∀ c ∈ cs.head?, c ≠ '-' ∧ c ≠ '+') :
    takeSign cs = (false, cs) := by
  fun_cases takeSign cs with
  | case1 => exact absurd rfl (unsigned _ rfl).1
  | case2 => exact absurd rfl (unsigned _ rfl).2
  | case3 => rfl

/-- A sign is split off in front of anything that does not begin with another one. -/
theorem takeSign_append (signed : IsSign sign) (unsigned : ∀ c ∈ rest.head?, c ≠ '-' ∧ c ≠ '+') :
    (takeSign (sign ++ rest)).2 = rest := by
  cases signed with
  | plus | minus => rfl
  | none => rw [List.nil_append, takeSign_of_unsigned unsigned]

/-- A digit is no sign. -/
theorem ne_sign_of_isDigit {c : Char} (digit : isDigit c = true) : c ≠ '-' ∧ c ≠ '+' := by
  constructor <;> rintro rfl <;> revert digit <;> decide

/-- Digits are taken from the front of a text up to the first character that is none. -/
theorem span_digits (digits : IsDigits ds) (ends : EndsDigits rest) :
    (ds ++ rest).span isDigit = (ds, rest) := by
  rw [List.span_eq_takeWhile_dropWhile, Text.takeWhile_append digits ends,
    Text.dropWhile_append digits ends]

/-- What is taken from the front of a text are digits, and no further one follows. -/
theorem exists_digits_of_span (cs : List Char) :
    ∃ ds rest, IsDigits ds ∧ EndsDigits rest ∧ cs = ds ++ rest ∧
      cs.span isDigit = (ds, rest) := by
  refine ⟨cs.takeWhile isDigit, cs.dropWhile isDigit, fun c mem ↦ ?_, fun c first ↦ ?_,
    List.takeWhile_append_dropWhile.symm, List.span_eq_takeWhile_dropWhile ..⟩
  · exact List.all_eq_true.mp List.all_takeWhile c mem
  · have stop := List.head?_dropWhile_not isDigit cs
    rw [Option.mem_def.mp first] at stop
    exact stop

/-- A text begins with its leading digits in one way only. -/
theorem digits_append_inj {es more : List Char} (digits : IsDigits ds) (others : IsDigits es)
    (ends : EndsDigits rest) (stops : EndsDigits more) (same : ds ++ rest = es ++ more) :
    ds = es ∧ rest = more := by
  have spans := congrArg (List.span isDigit) same
  rw [span_digits digits ends, span_digits others stops] at spans
  exact Prod.mk.inj spans

/-- Digits with an optional point do not begin with a sign. -/
theorem IsPointed.unsigned (pointed : IsPointed body) (rest : List Char) :
    ∀ c ∈ (body ++ rest).head?, c ≠ '-' ∧ c ≠ '+' := by
  have front {ds more : List Char} (digits : IsDigits ds) (nonempty : ds ≠ []) :
      ∀ c ∈ (ds ++ more).head?, c ≠ '-' ∧ c ≠ '+' := by
    obtain ⟨d, ds, rfl⟩ := List.exists_cons_of_ne_nil nonempty
    rintro c ⟨⟩
    exact ne_sign_of_isDigit (digits d List.mem_cons_self)
  cases pointed with
  | whole digits nonempty => exact front digits nonempty
  | @point whole fraction before behind =>
    by_cases empty : whole = []
    · subst empty
      rintro c ⟨⟩
      decide
    · rw [List.append_assoc]
      exact front before empty

/-! ## Exponents -/

/-- What stands behind the letter of an exponent is at most one sign and at least one digit. -/
theorem isSome_exponent?_iff :
    (exponent? cs).isSome = true ↔
      ∃ sign ds, IsSign sign ∧ IsDigits ds ∧ ds ≠ [] ∧ cs = sign ++ ds := by
  have read : (exponent? cs).isSome = true ↔
      (takeSign cs).2 ≠ [] ∧ IsDigits (takeSign cs).2 := by
    unfold exponent? IsDigits
    rcases takeSign cs with ⟨negative, ds⟩
    cases ds <;> cases negative <;> simp
  rw [read]
  constructor
  · rintro ⟨nonempty, digits⟩
    obtain ⟨sign, signed, whole⟩ := exists_sign_of_takeSign cs
    exact ⟨sign, _, signed, digits, nonempty, whole⟩
  · rintro ⟨sign, ds, signed, digits, nonempty, rfl⟩
    rw [takeSign_append signed fun c first ↦
      ne_sign_of_isDigit (digits c (List.mem_of_mem_head? first))]
    exact ⟨nonempty, digits⟩

/-- An exponent begins with its letter, which is neither a digit nor a point. -/
theorem IsExponent.head (h : IsExponent exponent) :
    ∀ c ∈ exponent.head?, isDigit c = false ∧ c ≠ '.' := by
  cases h with
  | none => exact fun _ first ↦ nomatch first
  | some marked =>
    rintro c ⟨⟩
    rcases marked with rfl | rfl <;> decide

/-- The digits in front of an exponent end where it begins. -/
theorem IsExponent.endsDigits (h : IsExponent exponent) : EndsDigits exponent :=
  fun c first ↦ (h.head c first).1

/-- An exponent that is not left out is a letter and what stands behind the letter. -/
private theorem isExponent_cons_iff {c : Char} :
    IsExponent (c :: rest) ↔ (c = 'e' ∨ c = 'E') ∧ (exponent? rest).isSome = true := by
  rw [isSome_exponent?_iff]
  constructor
  · rintro (_ | ⟨marked, signed, digits, nonempty⟩)
    exact ⟨marked, _, _, signed, digits, nonempty, rfl⟩
  · rintro ⟨marked, sign, ds, signed, digits, nonempty, rfl⟩
    exact .some marked signed digits nonempty

/-! ## Numerals -/

namespace Numeral

variable {negative : Bool} {whole fraction : List Char}

/-- Behind a point, digits are read and then an exponent. -/
private theorem isSome_readTail?_point (digits : IsDigits fraction) (ends : EndsDigits rest) :
    (readTail? negative whole ('.' :: (fraction ++ rest))).isSome = true ↔
      (whole ≠ [] ∨ fraction ≠ []) ∧ IsExponent rest := by
  simp only [readTail?, span_digits digits ends]
  cases rest with
  | nil => cases whole <;> cases fraction <;> simp [IsExponent.none]
  | cons c rest =>
    rw [isExponent_cons_iff]
    by_cases marked : c = 'e' ∨ c = 'E' <;> cases whole <;> cases fraction <;> simp [marked]

/-- Without a point, only an exponent may stand behind the digits. -/
private theorem isSome_readTail?_whole (pointless : ∀ c ∈ rest.head?, c ≠ '.') :
    (readTail? negative whole rest).isSome = true ↔ whole ≠ [] ∧ IsExponent rest := by
  unfold readTail?
  split
  next fraction behind parts =>
  split at parts
  · exact absurd rfl (pointless '.' rfl)
  · cases parts
    cases rest with
    | nil => cases whole <;> simp [IsExponent.none]
    | cons c rest =>
      rw [isExponent_cons_iff]
      by_cases marked : c = 'e' ∨ c = 'E' <;> cases whole <;> simp [marked]

/-- What stands behind the digits is read where it makes a numeral of them. -/
theorem isSome_readTail?_iff (digits : IsDigits whole) (ends : EndsDigits rest) :
    (readTail? negative whole rest).isSome = true ↔
      ∃ body exponent, IsPointed body ∧ IsExponent exponent ∧ whole ++ rest = body ++ exponent := by
  constructor
  · intro read
    by_cases pointed : ∃ behind, rest = '.' :: behind
    · obtain ⟨behind, rfl⟩ := pointed
      obtain ⟨fraction, exponent, digits', ends', rfl, -⟩ := exists_digits_of_span behind
      obtain ⟨nonempty, isExponent⟩ := (isSome_readTail?_point digits' ends').mp read
      exact ⟨_, _, .point digits digits' nonempty, isExponent, by simp⟩
    · have pointless : ∀ c ∈ rest.head?, c ≠ '.' := by
        rintro c first rfl
        exact pointed (List.head?_eq_some_iff.mp first)
      obtain ⟨nonempty, isExponent⟩ := (isSome_readTail?_whole pointless).mp read
      exact ⟨_, _, .whole digits nonempty, isExponent, rfl⟩
  -- in either form the leading digits of the numeral are those that were taken
  · rintro ⟨body, exponent, ⟨digits', nonempty⟩ | ⟨before, behind, nonempty⟩, isExponent, same⟩
    · obtain ⟨rfl, rfl⟩ := digits_append_inj digits digits' ends isExponent.endsDigits same
      have pointless : ∀ c ∈ rest.head?, c ≠ '.' := fun c first ↦ (isExponent.head c first).2
      exact (isSome_readTail?_whole pointless).mpr ⟨nonempty, isExponent⟩
    · rw [List.append_assoc] at same
      have point {more : List Char} : EndsDigits ('.' :: more) := by
        rintro c ⟨⟩
        rfl
      obtain ⟨rfl, rfl⟩ := digits_append_inj digits before ends point same
      exact (isSome_readTail?_point behind isExponent.endsDigits).mpr ⟨nonempty, isExponent⟩

/-- A text is read as a numeral exactly when it is one. -/
theorem isSome_read?_iff :
    (read? cs).isSome = true ↔
      ∃ sign body exponent, IsSign sign ∧ IsPointed body ∧ IsExponent exponent ∧
        cs = sign ++ (body ++ exponent) := by
  obtain ⟨whole, rest, digits, ends, parts, span⟩ := exists_digits_of_span (takeSign cs).2
  have tail : (read? cs).isSome = true ↔
      (readTail? (takeSign cs).1 whole rest).isSome = true := by
    unfold read?
    simp only [span]
  rw [tail, isSome_readTail?_iff digits ends, ← parts]
  constructor
  · rintro ⟨body, exponent, pointed, isExponent, same⟩
    obtain ⟨sign, signed, front⟩ := exists_sign_of_takeSign cs
    exact ⟨sign, body, exponent, signed, pointed, isExponent, same ▸ front⟩
  · rintro ⟨sign, body, exponent, signed, pointed, isExponent, rfl⟩
    exact ⟨body, exponent, pointed, isExponent, takeSign_append signed (pointed.unsigned exponent)⟩

end Numeral

end Teletype.Decimal
