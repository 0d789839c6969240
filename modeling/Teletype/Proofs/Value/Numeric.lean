import Teletype.Proofs.Decimal.Grammar
import Teletype.Proofs.Text.Trim
import Teletype.Value.Basic
/-!
# Texts that are numbers

A text is read as a number when nothing but white space stands in it, or a decimal numeral, or
`Infinity` behind signs. A numeral has at most one sign, while `Infinity` is read behind any number
of them. So the texts that are read are those which write a number, and besides only `Infinity`
behind two signs or more.
-/

namespace Teletype.Value

open Decimal

variable {cs signs : List Char} {c : Char}

/-- What writes a number: nothing at all, `Infinity` behind at most one sign, or a numeral. -/
inductive IsNumeric : List Char → Prop
  | nothing : IsNumeric []
  | infinity {sign : List Char} (signed : IsSign sign) : IsNumeric (sign ++ "Infinity".toList)
  | numeral {sign body exponent : List Char} (signed : IsSign sign) (pointed : IsPointed body)
    (isExponent : IsExponent exponent) : IsNumeric (sign ++ (body ++ exponent))

/-- `Infinity` behind two signs or more. -/
def IsOversigned (cs : List Char) : Prop :=
  ∃ signs, (∀ c ∈ signs, isSign c = true) ∧ 2 ≤ signs.length ∧ cs = signs ++ "Infinity".toList

/-! ## Characters of numbers -/

/-- The characters that numerals are made of. -/
def isNumeralChar (c : Char) : Bool := isDigit c || isSign c || c == '.' || c == 'e' || c == 'E'

/-- At most one sign is a text of signs that has at most one character. -/
theorem isSign_iff : IsSign signs ↔ (∀ c ∈ signs, isSign c = true) ∧ signs.length ≤ 1 := by
  constructor
  · rintro (_ | _ | _) <;> simp [isSign]
  · rintro ⟨all, short⟩
    match signs with
    | [] => exact .none
    | [c] =>
      rcases (by simpa [isSign] using all c List.mem_cons_self : c = '+' ∨ c = '-') with rfl | rfl
      · exact .plus
      · exact .minus
    | _ :: _ :: _ => simp at short

/-- Numerals are made of the characters of numerals. -/
theorem isNumeralChar_of_mem {sign body exponent : List Char} (signed : IsSign sign)
    (pointed : IsPointed body) (isExponent : IsExponent exponent) :
    ∀ c ∈ sign ++ (body ++ exponent), isNumeralChar c = true := by
  have ofSign {sign : List Char} (signed : IsSign sign) : ∀ c ∈ sign, isNumeralChar c = true :=
    fun c mem ↦ by simp [isNumeralChar, (isSign_iff.mp signed).1 c mem]
  have ofDigits {ds : List Char} (digits : IsDigits ds) : ∀ c ∈ ds, isNumeralChar c = true :=
    fun c mem ↦ by simp [isNumeralChar, digits c mem]
  refine List.forall_mem_append.mpr ⟨ofSign signed, List.forall_mem_append.mpr ⟨?_, ?_⟩⟩
  · cases pointed with
    | whole digits nonempty => exact ofDigits digits
    | point before behind nonempty =>
      exact List.forall_mem_append.mpr
        ⟨ofDigits before, List.forall_mem_cons.mpr ⟨by decide, ofDigits behind⟩⟩
  · cases isExponent with
    | none => exact List.forall_mem_nil _
    | some marked signed digits nonempty =>
      refine List.forall_mem_cons.mpr
        ⟨?_, List.forall_mem_append.mpr ⟨ofSign signed, ofDigits digits⟩⟩
      rcases marked with rfl | rfl <;> decide

/-- No character of a numeral is white space. -/
theorem isBlank_of_isNumeralChar (h : isNumeralChar c = true) : Text.isBlank c = false := by
  have visible : 33 ≤ c.toNat ∧ c.toNat ≤ 126 := by
    have code (d : Char) : d.val.toNat = d.toNat := rfl
    simp only [isNumeralChar, isSign, isDigit, Char.le_def, UInt32.le_iff_toNat_le, code,
      Bool.or_eq_true, Bool.and_eq_true, decide_eq_true_eq, beq_iff_eq, Char.reduceToNat] at h
    rcases h with (((digit | rfl | rfl) | rfl) | rfl) | rfl
    · omega
    all_goals decide
  exact Text.isBlank_of_visible visible.1 visible.2

/-- No white space stands in `Infinity` or in the signs in front of it. -/
private theorem isBlank_of_mem_infinity (all : ∀ c ∈ signs, isSign c = true) :
    ∀ c ∈ signs ++ "Infinity".toList, Text.isBlank c = false :=
  List.forall_mem_append.mpr
    ⟨fun c mem ↦ isBlank_of_isNumeralChar (by simp [isNumeralChar, all c mem]),
      by simp [Text.isBlank_of_visible]⟩

/-- What writes a number neither begins nor ends with white space. -/
theorem IsNumeric.isTrimmed (h : IsNumeric cs) : Text.IsTrimmed cs := by
  refine Text.isTrimmed_of_forall ?_
  cases h with
  | nothing => exact List.forall_mem_nil _
  | infinity signed => exact isBlank_of_mem_infinity (isSign_iff.mp signed).1
  | numeral signed pointed isExponent =>
    exact fun c mem ↦
      isBlank_of_isNumeralChar (isNumeralChar_of_mem signed pointed isExponent c mem)

/-- Nor does `Infinity` behind too many signs. -/
theorem IsOversigned.isTrimmed (h : IsOversigned cs) : Text.IsTrimmed cs := by
  obtain ⟨signs, all, -, rfl⟩ := h
  exact Text.isTrimmed_of_forall (isBlank_of_mem_infinity all)

/-- `Infinity` behind two signs or more writes no number. -/
theorem IsOversigned.not_isNumeric (h : IsOversigned cs) : ¬ IsNumeric cs := by
  obtain ⟨signs, all, many, whole⟩ := h
  intro numeric
  cases numeric with
  | nothing => simp at whole
  | infinity signed =>
    obtain rfl := List.append_cancel_right whole
    have := (isSign_iff.mp signed).2
    omega
  | numeral signed pointed isExponent =>
    -- the first letter of the word stands in no numeral
    have letter : 'I' ∈ signs ++ "Infinity".toList := by simp
    rw [← whole] at letter
    exact absurd (isNumeralChar_of_mem signed pointed isExponent 'I' letter) (by decide)

/-! ## Reading -/

/-- `Infinity` is left behind the signs of a text exactly if the text is that word behind signs. -/
theorem dropWhile_isSign_iff :
    cs.dropWhile isSign = "Infinity".toList ↔
      ∃ signs, (∀ c ∈ signs, isSign c = true) ∧ cs = signs ++ "Infinity".toList := by
  constructor
  · intro left
    refine ⟨cs.takeWhile isSign, fun c mem ↦ List.mem_takeWhile_imp mem, ?_⟩
    rw [← left, List.takeWhile_append_dropWhile]
  · rintro ⟨signs, all, rfl⟩
    exact Text.dropWhile_append all (by simp [isSign])

/-- What is made of the characters of numerals is read as a numeral. -/
theorem readNumber?_of_isNumeralChar {s : String} (some_text : Text.trimChars s.toList ≠ [])
    (all : ∀ c ∈ Text.trimChars s.toList, isNumeralChar c = true) :
    readNumber? s = floatOfChars? (Text.trimChars s.toList) := by
  have other : (Text.trimChars s.toList).dropWhile isSign ≠ "Infinity".toList := by
    intro left
    have letter : 'I' ∈ (Text.trimChars s.toList).dropWhile isSign := by simp [left]
    exact absurd (all 'I' ((List.dropWhile_sublist isSign).subset letter)) (by decide)
  simp only [readNumber?]
  rw [if_neg (by simpa using some_text), if_neg (by simpa using other)]

/-- The texts that are read as `Infinity` are those that write it and those with too many signs. -/
private theorem exists_signs_iff :
    (∃ signs, (∀ c ∈ signs, isSign c = true) ∧ cs = signs ++ "Infinity".toList) ↔
      (∃ sign, IsSign sign ∧ cs = sign ++ "Infinity".toList) ∨ IsOversigned cs := by
  constructor
  · rintro ⟨signs, all, whole⟩
    by_cases few : signs.length ≤ 1
    · exact .inl ⟨signs, isSign_iff.mpr ⟨all, few⟩, whole⟩
    · exact .inr ⟨signs, all, by omega, whole⟩
  · rintro (⟨sign, signed, whole⟩ | ⟨signs, all, -, whole⟩)
    · exact ⟨sign, (isSign_iff.mp signed).1, whole⟩
    · exact ⟨signs, all, whole⟩

/-- A text is read as a number exactly when it writes one, or `Infinity` behind too many signs,
apart from white space around it. -/
theorem isSome_readNumber?_iff {s : String} :
    (readNumber? s).isSome = true ↔
      IsNumeric (Text.trimChars s.toList) ∨ IsOversigned (Text.trimChars s.toList) := by
  unfold readNumber?
  generalize Text.trimChars s.toList = cs
  simp only [List.isEmpty_iff, beq_iff_eq]
  split
  · next empty => simp [empty, IsNumeric.nothing]
  · next nonempty =>
    split
    · next left =>
      rcases exists_signs_iff.mp (dropWhile_isSign_iff.mp left) with ⟨sign, signed, rfl⟩ | many
      · exact iff_of_true rfl (.inl (.infinity signed))
      · exact iff_of_true rfl (.inr many)
    · next other =>
      rw [dropWhile_isSign_iff, exists_signs_iff, not_or] at other
      rw [floatOfChars?, Option.isSome_map, Numeral.isSome_read?_iff, or_iff_left other.2]
      constructor
      · rintro ⟨sign, body, exponent, signed, pointed, isExponent, rfl⟩
        exact .numeral signed pointed isExponent
      · rintro (_ | @⟨sign, signed⟩ | ⟨signed, pointed, isExponent⟩)
        · exact absurd rfl nonempty
        · exact absurd ⟨sign, signed, rfl⟩ other.1
        · exact ⟨_, _, _, signed, pointed, isExponent, rfl⟩

/-- A text counts as a number exactly when, apart from white space around it, it writes one or is
`Infinity` behind two signs or more, which writes none. -/
theorem isSome_toNumber?_iff (s : String) :
    ((text s).toNumber?.isSome = true ↔
        Text.Padded IsNumeric s.toList ∨ Text.Padded IsOversigned s.toList) ∧
      ¬ (Text.Padded IsNumeric s.toList ∧ Text.Padded IsOversigned s.toList) := by
  rw [Text.padded_iff fun _ ↦ IsNumeric.isTrimmed, Text.padded_iff fun _ ↦ IsOversigned.isTrimmed]
  exact ⟨isSome_readNumber?_iff, fun both ↦ both.2.not_isNumeric both.1⟩

/-- Two signs in front of `Infinity` write no number, and yet the text counts as one. -/
theorem toNumber?_minus_minus_infinity :
    (text "--Infinity").toNumber?.isSome = true ∧ ¬ Text.Padded IsNumeric "--Infinity".toList := by
  have many : IsOversigned "--Infinity".toList := ⟨['-', '-'], by simp [isSign], by decide, rfl⟩
  have core : Text.trimChars "--Infinity".toList = "--Infinity".toList :=
    Text.trimChars_eq_iff.mpr ⟨many.isTrimmed, [], [], Text.isBlank_nil, Text.isBlank_nil, by simp⟩
  constructor
  · exact isSome_readNumber?_iff.mpr (.inr (core.symm ▸ many))
  · rw [Text.padded_iff fun _ ↦ IsNumeric.isTrimmed, core]
    exact many.not_isNumeric

end Teletype.Value
