import Mathlib.Data.List.TakeDrop
import Teletype.Json.Reader
import Teletype.Json.Writer
/-!
# Reading the scalars that were written

The text of a string, of a word or of a number reads in the same way whatever comes behind it in an
array or object. A string that was written reads as itself; what a number reads as is left to its
digits.
-/

namespace Teletype.Json

/-! ## Strings -/

-- every proof about strings opens the reader
attribute [local simp] readString

/-- An escape without four digits is refused. -/
private theorem readString_of_no_digits {a b c d : Char} (h : fourDigits? a b c d = none)
    (rest : List Char) : readString ('\\' :: 'u' :: a :: b :: c :: d :: rest) = none := by
  by_cases pair : ∃ e f g h more, rest = '\\' :: 'u' :: e :: f :: g :: h :: more
  · obtain ⟨e, f, g, h', more, rfl⟩ := pair
    rw [readString, h]
    rfl
  · rw [readString, h]
    · rfl
    · exact fun e f g h' more same ↦ pair ⟨e, f, g, h', more, same⟩

/-- The code of a character that is not half of a pair stands for it, also in front of a second
code. -/
private theorem readString_code {a b c d : Char} {n : Nat} (digits : fourDigits? a b c d = some n)
    (low : n < 0xd800) (rest : List Char) :
    readString ('\\' :: 'u' :: a :: b :: c :: d :: rest) =
      (readString rest).map fun (body, rest) ↦ (body.map (Char.ofNat n :: ·), rest) := by
  have notHigh : isHighSurrogate n = false := by
    simp only [isHighSurrogate, decide_eq_false_iff_not]
    omega
  have notLow : isLowSurrogate n = false := by
    simp only [isLowSurrogate, decide_eq_false_iff_not]
    omega
  by_cases pair : ∃ e f g h more, rest = '\\' :: 'u' :: e :: f :: g :: h :: more
  · obtain ⟨e, f, g, h, more, rfl⟩ := pair
    rw [readString, digits]
    cases second : fourDigits? e f g h with
    | none =>
      rw [readString_of_no_digits second]
      rfl
    | some m =>
      simp only [Option.bind_eq_bind, Option.bind_some, notHigh, notLow, Bool.false_and,
        Bool.or_self, Bool.false_eq_true, if_false]
      cases readString ('\\' :: 'u' :: e :: f :: g :: h :: more) <;> rfl
  · rw [readString, digits]
    · simp only [Option.bind_eq_bind, Option.bind_some, notHigh, notLow, Bool.or_self,
        Bool.false_eq_true, if_false]
      cases readString rest <;> rfl
    · exact fun e f g h more same ↦ pair ⟨e, f, g, h, more, same⟩

/-- An escape of one letter stands for its character. -/
private theorem readString_letter {letter c : Char} (apart : letter ≠ 'u')
    (escape : escaped? letter = some c) (rest : List Char) :
    readString ('\\' :: letter :: rest) =
      (readString rest).map fun (body, rest) ↦ (body.map (c :: ·), rest) := by
  rw [readString, escape]
  · cases readString rest <;> rfl
  all_goals simp [apart]

/-- A character that needs no escape stands for itself. -/
private theorem readString_plain {c : Char} (quote : c ≠ '"') (backslash : c ≠ '\\')
    (shown : ¬ c.toNat < 0x20) (rest : List Char) :
    readString (c :: rest) =
      (readString rest).map fun (body, rest) ↦ (body.map (c :: ·), rest) := by
  rw [readString, if_neg shown]
  · cases readString rest <;> rfl
  all_goals simp [quote, backslash]

/-- The digits that are written for a control character are its code. -/
private theorem fourDigits?_hexDigit : ∀ n < 0x20,
    fourDigits? '0' '0' (hexDigit (n / 16)) (hexDigit (n % 16)) = some n := by
  decide

/-- A character is written by a letter, by its code, or as it is. -/
theorem escapeChar_cases (c : Char) :
    (∃ letter, letter ≠ 'u' ∧ escaped? letter = some c ∧ escapeChar c = ['\\', letter]) ∨
    (c.toNat < 0x20 ∧ escapeChar c =
      ['\\', 'u', '0', '0', hexDigit (c.toNat / 16), hexDigit (c.toNat % 16)]) ∨
    (c ≠ '"' ∧ c ≠ '\\' ∧ ¬ c.toNat < 0x20 ∧ escapeChar c = [c]) := by
  by_cases named : c ∈ ['"', '\\', '\x08', '\x0c', '\n', '\r', '\t']
  · left
    simp only [List.mem_cons, List.not_mem_nil, or_false] at named
    rcases named with rfl | rfl | rfl | rfl | rfl | rfl | rfl <;>
      exact ⟨_, by decide, rfl, rfl⟩
  · right
    simp only [List.mem_cons, List.not_mem_nil, or_false, not_or] at named
    obtain ⟨quote, backslash, h⟩ := named
    by_cases low : c.toNat < 0x20
    · exact .inl ⟨low, by simp only [escapeChar, quote, backslash, h, low, if_false, if_true]⟩
    · exact .inr ⟨quote, backslash, low, by
        simp only [escapeChar, quote, backslash, h, low, if_false]⟩

/-- A character that was written reads as itself. -/
private theorem readString_escapeChar (c : Char) (rest : List Char) :
    readString (escapeChar c ++ rest) =
      (readString rest).map fun (body, rest) ↦ (body.map (c :: ·), rest) := by
  rcases escapeChar_cases c with
    ⟨letter, apart, escape, written⟩ | ⟨low, written⟩ | ⟨quote, backslash, shown, written⟩
  · rw [written]
    exact readString_letter apart escape rest
  · have read := readString_code (fourDigits?_hexDigit _ low) (by omega) rest
    rw [Char.ofNat_toNat] at read
    rw [written]
    exact read
  · rw [written]
    exact readString_plain quote backslash shown rest

/-- The characters of a text that were written read as they were, up to the closing quote. -/
theorem readString_escaped (cs rest : List Char) :
    readString (cs.flatMap escapeChar ++ '"' :: rest) = some (some cs, rest) := by
  induction cs with
  | nil => rw [List.flatMap_nil, List.nil_append, readString]
  | cons c cs ih =>
    rw [List.flatMap_cons, List.append_assoc, readString_escapeChar, ih]
    rfl

/-! ## Numbers -/

/-- What may come behind a number: nothing that could still belong to it. -/
def EndsNumber (more : List Char) : Prop :=
  ∀ c ∈ more.head?, Decimal.isDigit c = false ∧ c ≠ '.' ∧ c ≠ 'e' ∧ c ≠ 'E'

/-- The digits at the front are the same with more behind them. -/
private theorem span_append {more : List Char} (ends : EndsNumber more) (cs : List Char) :
    (cs ++ more).span Decimal.isDigit =
      ((cs.span Decimal.isDigit).1, (cs.span Decimal.isDigit).2 ++ more) := by
  have stop : ∀ c ∈ more.head?, Decimal.isDigit c = false := fun c first ↦ (ends c first).1
  rw [List.span_eq_takeWhile_dropWhile, List.span_eq_takeWhile_dropWhile]
  induction cs with
  | nil =>
    have none : ∀ c ∈ ([] : List Char), Decimal.isDigit c = true := List.forall_mem_nil _
    exact Prod.ext (Text.takeWhile_append none stop) (Text.dropWhile_append none stop)
  | cons c cs ih =>
    cases h : Decimal.isDigit c <;> simp_all

/-- A whole part reads in the same way with more behind it. -/
private theorem readWhole?_append {more : List Char} (ends : EndsNumber more)
    {cs digits rest : List Char} (h : readWhole? cs = some (digits, rest)) :
    readWhole? (cs ++ more) = some (digits, rest ++ more) := by
  rw [readWhole?] at h ⊢
  rw [span_append ends]
  generalize cs.span Decimal.isDigit = parts at h ⊢
  obtain ⟨front, back⟩ := parts
  rcases front with _ | ⟨c, front⟩
  · cases h
  · split at h
    · contradiction
    · cases h
    · next noZero =>
      cases h
      split
      · next empty => cases empty
      · next zero =>
        cases zero
        exact absurd rfl (noZero _ _ _)
      · rfl

/-- An optional fraction reads in the same way with more behind it. -/
private theorem readFraction?_append {more : List Char} (ends : EndsNumber more)
    {cs rest : List Char} {fraction : Option (List Char)}
    (h : readFraction? cs = some (fraction, rest)) :
    readFraction? (cs ++ more) = some (fraction, rest ++ more) := by
  rcases cs with _ | ⟨c, cs⟩
  · cases h
    rw [List.nil_append, readFraction?.eq_2]
    rintro cs rfl
    exact (ends '.' rfl).2.1 rfl
  · by_cases point : c = '.'
    · subst point
      rw [List.cons_append]
      rw [readFraction?] at h ⊢
      rw [span_append ends]
      generalize cs.span Decimal.isDigit = parts at h ⊢
      obtain ⟨front, back⟩ := parts
      rcases front with _ | ⟨c, front⟩ <;> cases h
      rfl
    · have absent (cs : List Char) : readFraction? (c :: cs) = some (none, c :: cs) := by
        rw [readFraction?.eq_2]
        rintro cs' ⟨⟩
        exact point rfl
      rw [absent] at h
      cases h
      exact absent _

/-- A sign is taken in the same way with more behind it. -/
private theorem takeSign_append {cs : List Char} (more : List Char) (nonempty : cs ≠ []) :
    Decimal.takeSign (cs ++ more) =
      ((Decimal.takeSign cs).1, (Decimal.takeSign cs).2 ++ more) := by
  rcases cs with _ | ⟨c, cs⟩
  · contradiction
  · by_cases minus : c = '-'
    · subst minus
      rfl
    · by_cases plus : c = '+'
      · subst plus
        rfl
      · have unsigned (cs : List Char) : Decimal.takeSign (c :: cs) = (false, c :: cs) :=
          Decimal.takeSign.eq_3 _ (by simp [minus]) (by simp [plus])
        rw [List.cons_append, unsigned, unsigned]
        rfl

/-- An optional exponent reads in the same way with more behind it. -/
private theorem readExponent?_append {more : List Char} (ends : EndsNumber more)
    {cs rest : List Char} {exponent : Option Int}
    (h : readExponent? cs = some (exponent, rest)) :
    readExponent? (cs ++ more) = some (exponent, rest ++ more) := by
  rcases cs with _ | ⟨c, cs⟩
  · cases h
    rcases more with _ | ⟨c, more⟩
    · rfl
    · obtain ⟨-, -, small, large⟩ := ends c rfl
      rw [List.nil_append, readExponent?, if_neg (not_or.mpr ⟨small, large⟩)]
  · rw [List.cons_append]
    rw [readExponent?] at h ⊢
    by_cases letter : c = 'e' ∨ c = 'E'
    · rw [if_pos letter] at h ⊢
      have nonempty : cs ≠ [] := by
        rintro rfl
        cases h
      rw [takeSign_append more nonempty]
      generalize Decimal.takeSign cs = signed at h ⊢
      obtain ⟨negative, cs⟩ := signed
      simp only at h ⊢
      rw [span_append ends]
      generalize cs.span Decimal.isDigit = parts at h ⊢
      obtain ⟨front, back⟩ := parts
      rcases front with _ | ⟨c, front⟩ <;> cases h
      rfl
    · rw [if_neg letter] at h ⊢
      cases h
      rfl

/-- The parts of a number behind its sign. -/
private def readUnsigned? (negative : Bool) (cs : List Char) : Option (Json × List Char) := do
  let (whole, cs) ← readWhole? cs
  let (fraction, cs) ← readFraction? cs
  let (exponent, cs) ← readExponent? cs
  match fraction, exponent with
  | none, none => some (ofDigits negative whole, cs)
  | _, _ => some (ofNumeral ⟨negative, whole, fraction.getD [], exponent.getD 0⟩, cs)

/-- The parts of a number read in the same way with more behind it. -/
private theorem readUnsigned?_append {more : List Char} (ends : EndsNumber more) {negative : Bool}
    {cs rest : List Char} {j : Json} (h : readUnsigned? negative cs = some (j, rest)) :
    readUnsigned? negative (cs ++ more) = some (j, rest ++ more) := by
  obtain ⟨⟨whole, behindWhole⟩, readWhole, h⟩ := Option.bind_eq_some_iff.mp h
  obtain ⟨⟨fraction, behindFraction⟩, readFraction, h⟩ := Option.bind_eq_some_iff.mp h
  obtain ⟨⟨exponent, behind⟩, readExponent, h⟩ := Option.bind_eq_some_iff.mp h
  simp only [readUnsigned?, readWhole?_append ends readWhole,
    readFraction?_append ends readFraction, readExponent?_append ends readExponent,
    Option.bind_eq_bind, Option.bind_some]
  cases fraction <;> cases exponent <;> cases h <;> rfl

/-- A number is a sign and its parts, or its parts alone. -/
private theorem readNumber?_cons (c : Char) (cs : List Char) :
    readNumber? (c :: cs) =
      if c = '-' then readUnsigned? true cs else readUnsigned? false (c :: cs) := by
  by_cases minus : c = '-'
  · subst minus
    rfl
  · rw [if_neg minus, readNumber?]
    · rfl
    · simp [minus]

/-- A number reads in the same way with more behind it that does not belong to it. -/
theorem readNumber?_append {more : List Char} (ends : EndsNumber more) {cs rest : List Char}
    {j : Json} (h : readNumber? cs = some (j, rest)) :
    readNumber? (cs ++ more) = some (j, rest ++ more) := by
  rcases cs with _ | ⟨c, cs⟩
  · cases h
  · rw [List.cons_append, readNumber?_cons]
    rw [readNumber?_cons] at h
    by_cases minus : c = '-'
    · rw [if_pos minus] at h ⊢
      exact readUnsigned?_append ends h
    · rw [if_neg minus] at h ⊢
      exact readUnsigned?_append ends h

/-- A number starts with a minus or a digit. -/
private theorem head_of_readNumber? {c : Char} {cs : List Char} {read : Json × List Char}
    (h : readNumber? (c :: cs) = some read) : c = '-' ∨ Decimal.isDigit c = true := by
  by_cases minus : c = '-'
  · exact .inl minus
  · right
    rw [readNumber?_cons, if_neg minus] at h
    obtain ⟨⟨whole, behind⟩, readWhole, -⟩ := Option.bind_eq_some_iff.mp h
    rw [readWhole?, List.span_eq_takeWhile_dropWhile] at readWhole
    cases digit : Decimal.isDigit c with
    | true => rfl
    | false =>
      rw [List.takeWhile_cons_of_neg (by simp [digit])] at readWhole
      cases readWhole

/-! ## Values -/

/-- Characters stand for a value, wherever they stand: what is behind them is left to be read. -/
def ReadsAs (cs : List Char) (j : Json) : Prop :=
  ∀ depth fuel more, EndsNumber more → ∃ rest,
    readValue depth (fuel + 1) (cs ++ more) = some (j, rest) ∧ skipSpace rest = skipSpace more

/-- A string that was written stands for itself. -/
theorem readsAs_quote (s : String) : ReadsAs (quote s).toList (.string s) := by
  intro depth fuel more _
  refine ⟨more, ?_, rfl⟩
  have written : (quote s).toList ++ more = '"' :: (s.toList.flatMap escapeChar ++ '"' :: more) := by
    simp [quote]
  have read : readText? (s.toList.flatMap escapeChar ++ '"' :: more) = some (.string s, more) := by
    rw [readText?, readString_escaped, Option.map_some]
    simp only [String.ofList_toList]
  rw [written, readValue]
  exact read

/-- The words for truth values stand for them. -/
theorem readsAs_bool (b : Bool) : ReadsAs (text (.bool b)).toList (.bool b) := by
  intro depth fuel more _
  refine ⟨more, ?_, rfl⟩
  cases b <;> rfl

/-- The word for no value stands for none. -/
theorem readsAs_null : ReadsAs "null".toList .null :=
  fun _ _ more _ ↦ ⟨more, rfl, rfl⟩

/-- The blanks in front of a text stay so with more behind it. -/
private theorem skipSpace_append {cs : List Char} (nonempty : skipSpace cs ≠ [])
    (more : List Char) : skipSpace (cs ++ more) = skipSpace cs ++ more := by
  have behind : (cs.dropWhile isSpace).isEmpty = false := by
    rw [List.isEmpty_eq_false_iff]
    exact nonempty
  rw [skipSpace, List.dropWhile_append, behind]
  rfl

/-- A text that is blank makes no difference in front of another. -/
private theorem skipSpace_append_of_blank {cs : List Char} (blank : skipSpace cs = [])
    (more : List Char) : skipSpace (cs ++ more) = skipSpace more := by
  have behind : (cs.dropWhile isSpace).isEmpty = true := by
    rw [List.isEmpty_iff]
    exact blank
  rw [skipSpace, List.dropWhile_append, if_pos behind]
  rfl

/-- A container is no number, however deep it stands. -/
private theorem eq_number_of_atDepth {depth : Nat} {j : Json} {n : JsonNumber}
    (h : atDepth depth j = .number n) : j = .number n := by
  unfold atDepth at h
  split at h
  · exact h
  · cases h

/-- A string is no number. -/
private theorem readText?_ne_number (cs rest : List Char) (n : JsonNumber) :
    readText? cs ≠ some (.number n, rest) := by
  intro h
  obtain ⟨⟨body, behind⟩, -, same⟩ := Option.map_eq_some_iff.mp h
  cases body <;> cases same

/-- Where a number is read, it stands behind the blanks. -/
private theorem readNumber?_of_readValue {depth fuel : Nat} {cs rest : List Char} {n : JsonNumber}
    (h : readValue depth (fuel + 1) cs = some (.number n, rest)) :
    readNumber? (skipSpace cs) = some (.number n, rest) := by
  rw [readValue] at h
  split at h
  case h_1 => cases h
  case h_2 => exact absurd h (readText?_ne_number _ _ _)
  case h_3 =>
    split at h
    · cases eq_number_of_atDepth (Prod.mk.inj (Option.some.inj h)).1
    · obtain ⟨⟨items, behind⟩, -, h⟩ := Option.bind_eq_some_iff.mp h
      cases eq_number_of_atDepth (Prod.mk.inj (Option.some.inj h)).1
  case h_4 =>
    split at h
    · cases eq_number_of_atDepth (Prod.mk.inj (Option.some.inj h)).1
    · obtain ⟨⟨members, behind⟩, -, h⟩ := Option.bind_eq_some_iff.mp h
      cases members with
      | none => cases h
      | some members => cases eq_number_of_atDepth (Prod.mk.inj (Option.some.inj h)).1
  case h_5 | h_6 | h_7 =>
    obtain ⟨behind, -, same⟩ := Option.map_eq_some_iff.mp h
    cases same
  case h_8 => exact h

/-- A number behind the blanks is read. -/
private theorem readValue_of_readNumber? {depth fuel : Nat} {cs : List Char}
    {read : Json × List Char} (h : readNumber? (skipSpace cs) = some read) :
    readValue depth (fuel + 1) cs = some read := by
  rw [readValue]
  split
  case h_1 start =>
    rw [start] at h
    cases h
  case h_8 => exact h
  all_goals
    next start =>
      rw [start] at h
      exact absurd (head_of_readNumber? h) (by decide)

/-- A text that is a number stands for it. -/
theorem readsAs_number {s : String} {n : JsonNumber} (h : ofText? s = some (.number n)) :
    ReadsAs s.toList (.number n) := by
  obtain ⟨⟨j, behind⟩, read, whole⟩ := Option.bind_eq_some_iff.mp h
  have blank : skipSpace behind = [] ∧ j = .number n := by
    simp only at whole
    split at whole
    · next empty => exact ⟨List.isEmpty_iff.mp empty, Option.some.inj whole⟩
    · cases whole
  obtain ⟨blank, rfl⟩ := blank
  have number := readNumber?_of_readValue read
  have nonempty : skipSpace s.toList ≠ [] := by
    intro empty
    rw [empty] at number
    cases number
  intro depth fuel more ends
  refine ⟨behind ++ more, readValue_of_readNumber? ?_, skipSpace_append_of_blank blank more⟩
  rw [skipSpace_append nonempty]
  exact readNumber?_append ends number

end Teletype.Json
