import Mathlib.Data.List.Induction
import Mathlib.Data.List.TakeDrop
import Mathlib.Tactic.Ring
import Teletype.Ron.Reader
import Teletype.Ron.Writer
/-!
# Reading RON scalars that were written

The text of a string, of a word or of a number reads as it was written, up to whatever comes behind
it in a map. Every character of a string has an escape or shows itself, and reads as itself either
way; what a numeral reads as is left to its digits.
-/

namespace Teletype.Decimal

/-- Only the infinities are read as infinite. -/
theorem eq_infinity {x : Float} {negative : Bool}
    (infinite : Double.ofFloat x = .infinite negative) : x = infinity negative := by
  have fields : x.toBits.toNat / 2 ^ 52 % 2 ^ 11 = 2047 ∧ x.toBits.toNat % 2 ^ 52 = 0 ∧
      (x.toBits.toNat / 2 ^ 63 % 2 == 1) = negative := by
    simp only [Double.ofFloat, Double.ofBits] at infinite
    split at infinite
    · next biased =>
      split at infinite
      · next fraction => exact ⟨biased, fraction, Double.infinite.inj infinite⟩
      · cases infinite
    · split at infinite <;> cases infinite
  obtain ⟨biased, fraction, sign⟩ := fields
  have small : x.toBits.toNat < 2 ^ 64 := x.toBits.toNat_lt
  have same : x.toBits = (infinity negative).toBits := by
    refine UInt64.toNat_inj.mp ?_
    cases negative
    · have bits : (infinity false).toBits.toNat = infinityBits := by rfl
      simp only [beq_eq_false_iff_ne] at sign
      rw [bits, infinityBits]
      omega
    · have bits : (infinity true).toBits.toNat = 2 ^ 63 + infinityBits := by rfl
      simp only [beq_iff_eq] at sign
      rw [bits, infinityBits]
      omega
  match x, infinity negative, same with
  | ⟨⟨bits, _⟩⟩, ⟨⟨_, _⟩⟩, rfl => rfl

end Teletype.Decimal

namespace Teletype.Ron

/-! ## Strings -/

/-- The number that hexadecimal digits write. -/
def hexValue (digits : List Char) : Nat :=
  digits.foldl (fun n c ↦ 16 * n + (Text.hexDigit? c).getD 0) 0

/-- One more digit is added behind the others. -/
private theorem hexValue_concat (digits : List Char) (c : Char) :
    hexValue (digits ++ [c]) = 16 * hexValue digits + (Text.hexDigit? c).getD 0 := by
  rw [hexValue, List.foldl_append]
  rfl

private theorem foldl_hex (start : Nat) (digits : List Char) :
    digits.foldl (fun n c ↦ 16 * n + (Text.hexDigit? c).getD 0) start =
      start * 16 ^ digits.length + hexValue digits := by
  induction digits using List.reverseRecOn with
  | nil => simp [hexValue]
  | append_singleton digits c ih =>
    rw [List.foldl_append, hexValue_concat, ih]
    simp only [List.foldl_cons, List.foldl_nil, List.length_append, List.length_singleton]
    ring

/-- Digits are read up to what is no digit. -/
private theorem readHexDigits_append {digits : List Char}
    (hex : ∀ c ∈ digits, (Text.hexDigit? c).isSome = true) {limit : Nat}
    (short : digits.length ≤ limit) (rest : List Char) :
    readHexDigits limit (digits ++ '\x7d' :: rest) =
      (hexValue digits, digits.length, '\x7d' :: rest) := by
  induction digits generalizing limit with
  | nil => cases limit <;> rfl
  | cons c digits ih =>
    obtain ⟨limit, rfl⟩ : ∃ n, limit = n + 1 := ⟨limit - 1, by simp at short; omega⟩
    obtain ⟨first, later⟩ := List.forall_mem_cons.mp hex
    obtain ⟨d, hd⟩ := Option.isSome_iff_exists.mp first
    have value : hexValue (c :: digits) = d * 16 ^ digits.length + hexValue digits := by
      rw [hexValue, List.foldl_cons, foldl_hex, hd]
      simp
    rw [List.cons_append, readHexDigits, hd]
    simp only [ih later (by simpa using short), value, List.length_cons]

private theorem hexDigit?_digitChar : ∀ d < 16, Text.hexDigit? (Nat.digitChar d) = some d := by
  decide

/-- The hexadecimal digits of a number write it. -/
private theorem hexValue_toDigits (n : Nat) :
    hexValue (Nat.toDigits 16 n) = n ∧
      ∀ c ∈ Nat.toDigits 16 n, (Text.hexDigit? c).isSome = true := by
  induction n using Nat.strongRecOn with
  | _ n ih =>
    rw [Nat.toDigits_eq_if (by decide)]
    split
    · next small => simp [hexValue, hexDigit?_digitChar n small]
    · next large =>
      obtain ⟨value, digits⟩ := ih (n / 16) (by omega)
      have last := hexDigit?_digitChar (n % 16) (Nat.mod_lt _ (by decide))
      rw [hexValue_concat, value, last]
      refine ⟨by simp only [Option.getD_some]; omega, fun c hc ↦ ?_⟩
      rcases List.mem_append.mp hc with earlier | this
      · exact digits c earlier
      · rw [List.mem_singleton.mp this, last]
        rfl

/-- The code of a character, in braces, stands for it. -/
private theorem readEscape?_code (c : Char) (rest : List Char) :
    readEscape? ('u' :: '\x7b' :: (Nat.toDigits 16 c.toNat ++ '\x7d' :: rest)) =
      some (c, rest) := by
  obtain ⟨value, digits⟩ := hexValue_toDigits c.toNat
  have valid : c.toNat.isValidChar := c.valid
  have short : (Nat.toDigits 16 c.toNat).length ≤ 6 := by
    rw [Nat.length_toDigits_le_iff (by decide) (by decide)]
    rcases valid with low | ⟨-, high⟩ <;> omega
  obtain ⟨more, count⟩ := Nat.exists_eq_succ_of_ne_zero
    (Nat.ne_of_gt (Nat.length_toDigits_pos (b := 16) (n := c.toNat)))
  have read := readHexDigits_append digits short rest
  rw [value, count] at read
  have code : charOfCode? c.toNat = some c := by rw [charOfCode?, if_pos valid, Char.ofNat_toNat]
  simp only [readEscape?, read, code, Option.map_some]

/-- A character is written by an escape that stands for it, or as it is. -/
theorem escapeChar_cases (c : Char) :
    (∃ body, escapeChar c = '\\' :: body ∧ ∀ rest, readEscape? (body ++ rest) = some (c, rest)) ∨
      (c ≠ '"' ∧ c ≠ '\\' ∧ escapeChar c = [c]) := by
  by_cases named : c ∈ ['\x00', '\t', '\r', '\n', '\'', '"', '\\']
  · left
    simp only [List.mem_cons, List.not_mem_nil, or_false] at named
    rcases named with rfl | rfl | rfl | rfl | rfl | rfl | rfl <;> exact ⟨_, rfl, fun _ ↦ rfl⟩
  · simp only [List.mem_cons, List.not_mem_nil, or_false, not_or] at named
    obtain ⟨zero, tab, return_, line, tick, quote, backslash⟩ := named
    by_cases plain : Text.isPlain c = true
    · exact .inr ⟨quote, backslash, by
        simp only [escapeChar, zero, tab, return_, line, tick, quote, backslash, or_self, plain,
          if_false, if_true]⟩
    · refine .inl ⟨_, by
        simp only [escapeChar, zero, tab, return_, line, tick, quote, backslash, or_self, plain,
          if_false, List.cons_append, List.nil_append]; rfl, fun rest ↦ ?_⟩
      simpa using readEscape?_code c rest

/-- A character that was written reads as itself. -/
private theorem readQuoted?_escapeChar (c : Char) (fuel : Nat) (rest : List Char) :
    readQuoted? (fuel + 1) (escapeChar c ++ rest) =
      (readQuoted? fuel rest).map fun (body, rest) ↦ (c :: body, rest) := by
  rcases escapeChar_cases c with ⟨body, written, read⟩ | ⟨quote, backslash, written⟩
  · rw [written, List.cons_append, readQuoted?, read]
    simp only [Option.bind_eq_bind, Option.bind_some]
    cases readQuoted? fuel rest <;> rfl
  · rw [written, List.singleton_append, readQuoted?]
    · cases readQuoted? fuel rest <;> rfl
    all_goals simp [quote, backslash]

/-- The characters of a text that were written read as they were, up to the closing quote. -/
theorem readQuoted?_escaped {cs : List Char} {fuel : Nat} (enough : cs.length < fuel)
    (rest : List Char) :
    readQuoted? fuel (cs.flatMap escapeChar ++ '"' :: rest) = some (cs, rest) := by
  induction cs generalizing fuel with
  | nil =>
    obtain ⟨fuel, rfl⟩ := Nat.exists_eq_succ_of_ne_zero (Nat.ne_of_gt enough)
    rfl
  | cons c cs ih =>
    obtain ⟨fuel, rfl⟩ : ∃ n, fuel = n + 1 := ⟨fuel - 1, by omega⟩
    rw [List.flatMap_cons, List.append_assoc, readQuoted?_escapeChar, ih (by simpa using enough)]
    rfl

/-- Every character takes at least one to write. -/
private theorem length_le_length_escaped (cs : List Char) :
    cs.length ≤ (cs.flatMap escapeChar).length := by
  induction cs with
  | nil => exact Nat.le_refl _
  | cons c cs ih =>
    have one : 1 ≤ (escapeChar c).length := by
      rcases escapeChar_cases c with ⟨body, written, -⟩ | ⟨-, -, written⟩ <;> simp [written]
    rw [List.flatMap_cons, List.length_append, List.length_cons]
    omega

/-- The characters of a string that was written. -/
theorem toList_quote (s : String) :
    (quote s).toList = '"' :: (s.toList.flatMap escapeChar ++ ['"']) := by
  simp [quote]

/-- A string that was written reads as its text. -/
theorem readString?_quote (s : String) (rest : List Char) :
    readString? ((quote s).toList ++ rest) = some (s, rest) := by
  have enough : s.toList.length < (s.toList.flatMap escapeChar ++ '"' :: rest).length + 1 := by
    have := length_le_length_escaped s.toList
    rw [List.length_append]
    omega
  rw [toList_quote, List.cons_append, List.append_assoc, List.singleton_append]
  simp only [readString?, readQuoted?_escaped enough, Option.map_some, String.ofList_toList]

/-! ## Numbers -/

/-- What may come behind a number or a word: nothing that could still belong to it. -/
def EndsScalar (more : List Char) : Prop :=
  ∀ c ∈ more.head?, isFloatChar c = false ∧ isIdentifierRest c = false

/-- Some digits, a point and digits. -/
def IsDecimal (cs : List Char) : Prop :=
  ∃ whole fraction, cs = whole ++ '.' :: fraction ∧ whole ≠ [] ∧
    (∀ c ∈ whole, Decimal.isDigit c = true) ∧ ∀ c ∈ fraction, Decimal.isDigit c = true

/-- The text of a number with a point, which may have a minus in front. -/
def IsPointed (cs : List Char) : Prop :=
  ∃ sign body, cs = sign ++ body ∧ (sign = [] ∨ sign = ['-']) ∧ IsDecimal body

/-- Whether a text begins with a digit, or with a minus in front of one. -/
def beginsNumber : List Char → Bool
  | '-' :: c :: _ | c :: _ => Decimal.isDigit c
  | [] => false

private theorem isDigit_of_mem_toDigits {n : Nat} {c : Char} (h : c ∈ Nat.toDigits 10 n) :
    Decimal.isDigit c = true := by
  have digit := Nat.isDigit_of_mem_toDigits (by decide) (by decide) h
  simpa [Char.isDigit, Decimal.isDigit, Char.le_def] using digit

private theorem isDigit_of_mem_replicate {n : Nat} {c : Char} (h : c ∈ List.replicate n '0') :
    Decimal.isDigit c = true := by
  rw [List.eq_of_mem_replicate h]
  decide

/-- Digits that are written at their place have a point. -/
private theorem isDecimal_positional (d : Decimal.Digits) :
    IsDecimal (Decimal.positionalText ".0" d).toList := by
  unfold Decimal.positionalText
  split
  · refine ⟨['0'], List.replicate (-d.point).toNat '0' ++ Nat.toDigits 10 d.significand, by simp,
      by simp, List.forall_mem_singleton.mpr rfl, fun c hc ↦ ?_⟩
    rcases List.mem_append.mp hc with zero | digit
    · exact isDigit_of_mem_replicate zero
    · exact isDigit_of_mem_toDigits digit
  · next high =>
    simp only
    split
    · refine ⟨Nat.toDigits 10 d.significand ++
        List.replicate (d.point.toNat - (Nat.toDigits 10 d.significand).length) '0', ['0'], by simp,
        by simp, fun c hc ↦ ?_, List.forall_mem_singleton.mpr rfl⟩
      rcases List.mem_append.mp hc with digit | zero
      · exact isDigit_of_mem_toDigits digit
      · exact isDigit_of_mem_replicate zero
    · refine ⟨(Nat.toDigits 10 d.significand).take d.point.toNat,
        (Nat.toDigits 10 d.significand).drop d.point.toNat, by simp, ?_,
        fun c hc ↦ isDigit_of_mem_toDigits (List.mem_of_mem_take hc),
        fun c hc ↦ isDigit_of_mem_toDigits (List.mem_of_mem_drop hc)⟩
      simp only [ne_eq, List.take_eq_nil_iff, Nat.toDigits_ne_nil, or_false]
      omega

/-- A finite number is written with a point. -/
theorem isPointed_text {x : Float} (finite : Decimal.isFinite x = true) :
    IsPointed (ronLayout.text x).toList := by
  have sign (negative : Bool) : (if negative then "-" else "").toList = [] ∨
      (if negative then "-" else "").toList = ['-'] := by
    cases negative <;> simp
  cases exact : Decimal.Double.ofFloat x with
  | nan => simp [Decimal.isFinite, exact] at finite
  | infinite negative => simp [Decimal.isFinite, exact] at finite
  | finite negative mantissa exponent =>
    cases mantissa with
    | zero =>
      have written : ronLayout.text x = (if negative then "-" else "") ++ "0.0" := by
        simp only [Decimal.Layout.text, exact]
        cases negative <;> rfl
      have zero : IsDecimal "0.0".toList :=
        ⟨['0'], ['0'], rfl, by simp, List.forall_mem_singleton.mpr rfl,
          List.forall_mem_singleton.mpr rfl⟩
      exact ⟨_, _, by rw [written, String.toList_append], sign negative, zero⟩
    | succ mantissa =>
      have written : ronLayout.text x = (if negative then "-" else "") ++
          Decimal.positionalText ".0" (Decimal.shortest .up (mantissa + 1) exponent) := by
        simp only [Decimal.Layout.text, exact]
        rfl
      exact ⟨_, _, by rw [written, String.toList_append], sign negative, isDecimal_positional _⟩

/-- Digits may stand in a whole number. -/
private theorem isIntegerChar_of_isDigit {c : Char} (h : Decimal.isDigit c = true) :
    isIntegerChar c = true := by
  have range : '0' ≤ c ∧ c ≤ '9' := by simpa [Decimal.isDigit] using h
  simp [isIntegerChar, Text.hexDigit?, range]

/-- Digits may stand in a number with a point. -/
private theorem isFloatChar_of_isDigit {c : Char} (h : Decimal.isDigit c = true) :
    isFloatChar c = true := by
  simp [isFloatChar, h]

/-- No identifier begins with a digit. -/
private theorem isIdentifierStart_of_isDigit {c : Char} (h : Decimal.isDigit c = true) :
    isIdentifierStart c = false := by
  have range : '0' ≤ c ∧ c ≤ '9' := by simpa [Decimal.isDigit] using h
  have letters : ¬ 'a' ≤ c ∧ ¬ 'A' ≤ c :=
    ⟨fun small ↦ absurd (Char.le_trans small range.2) (by decide),
      fun capital ↦ absurd (Char.le_trans capital range.2) (by decide)⟩
  have underscore : c ≠ '_' := by
    rintro rfl
    exact absurd h (by decide)
  simp [isIdentifierStart, letters, underscore]

namespace IsPointed

variable {cs : List Char} (h : IsPointed cs)

include h

/-- It begins like a number, whatever comes behind it. -/
theorem beginsNumber_append (more : List Char) : beginsNumber (cs ++ more) = true := by
  obtain ⟨sign, _, rfl, signed, whole, fraction, rfl, some_whole, digits, -⟩ := h
  obtain ⟨c, whole, rfl⟩ := List.exists_cons_of_ne_nil some_whole
  have digit := digits c List.mem_cons_self
  rcases signed with rfl | rfl
  · have unsigned : c ≠ '-' := by
      rintro rfl
      exact absurd digit (by decide)
    simp [beginsNumber, unsigned, digit]
  · exact digit

/-- All of it may stand in a number with a point. -/
theorem all_isFloatChar : ∀ c ∈ cs, isFloatChar c = true := by
  obtain ⟨sign, _, rfl, signed, whole, fraction, rfl, -, digits, later⟩ := h
  intro c hc
  rcases List.mem_append.mp hc with minus | hc
  · rcases signed with rfl | rfl
    · cases minus
    · rw [List.mem_singleton.mp minus]
      decide
  · rcases List.mem_append.mp hc with digit | hc
    · exact isFloatChar_of_isDigit (digits c digit)
    · rcases List.mem_cons.mp hc with rfl | digit
      · decide
      · exact isFloatChar_of_isDigit (later c digit)

/-- It is taken whole from the front of a text. -/
theorem span_append {more : List Char} (ends : EndsScalar more) :
    (cs ++ more).span isFloatChar = (cs, more) := by
  have stop : ∀ c ∈ more.head?, isFloatChar c = false := fun c hc ↦ (ends c hc).1
  rw [List.span_eq_takeWhile_dropWhile, Text.takeWhile_append h.all_isFloatChar stop,
    Text.dropWhile_append h.all_isFloatChar stop]

/-- It goes on behind its whole part. -/
theorem isFloatAhead_append (more : List Char) : isFloatAhead (cs ++ more) = true := by
  obtain ⟨sign, _, rfl, signed, whole, fraction, rfl, some_whole, digits, -⟩ := h
  -- what a sign stands in front of
  have body : (whole ++ '.' :: (fraction ++ more)).takeWhile isIntegerChar = whole ∧
      whole.length < ((whole ++ '.' :: (fraction ++ more)).takeWhile isFloatChar).length := by
    constructor
    · exact Text.takeWhile_append (fun c hc ↦ isIntegerChar_of_isDigit (digits c hc))
        (by rintro c ⟨⟩; decide)
    · rw [List.takeWhile_append_of_pos fun c hc ↦ isFloatChar_of_isDigit (digits c hc)]
      simp [isFloatChar]
  have longer : ((whole ++ '.' :: (fraction ++ more)).takeWhile isIntegerChar).length <
      ((whole ++ '.' :: (fraction ++ more)).takeWhile isFloatChar).length := by
    rw [body.1]
    exact body.2
  rcases signed with rfl | rfl
  · obtain ⟨c, whole, rfl⟩ := List.exists_cons_of_ne_nil some_whole
    have apart : c ≠ '+' ∧ c ≠ '-' := by
      constructor <;> rintro rfl <;> exact absurd (digits _ List.mem_cons_self) (by decide)
    rw [List.nil_append, List.append_assoc, List.cons_append, List.cons_append, isFloatAhead]
    · exact decide_eq_true longer
    · exact fun _ same ↦ apart.1 (List.cons.inj same).1
    · exact fun _ same ↦ apart.2 (List.cons.inj same).1
  · rw [List.append_assoc, List.append_assoc, List.cons_append, isFloatAhead]
    exact decide_eq_true longer

end IsPointed

/-- A value that is no word and opens no bracket consists of no others. -/
private theorem readValue_scalar {c : Char} {cs : List Char} (word : readWord? (c :: cs) = none)
    (option : afterWord? "Some" (c :: cs) = none) (identifier : readIdentifier? (c :: cs) = none)
    (apart : c ∉ ['(', '[', '\x7b']) (fuel : Nat) :
    readValue false (fuel + 1) (c :: cs) = readScalar? (c :: cs) := by
  have attached : readAttached? false fuel (c :: cs) = none := by cases fuel <;> rfl
  simp only [List.mem_cons, List.not_mem_nil, or_false, not_or] at apart
  obtain ⟨parenthesis, bracket, brace⟩ := apart
  simp only [readValue, word, option, identifier, attached]
  simp [parenthesis, bracket, brace]

section
variable {cs : List Char} (number : beginsNumber cs = true)

include number

/-- A word that does not begin like a number is not at the head of one. -/
private theorem afterWord?_eq_none {word : String} (long : 2 ≤ word.toList.length)
    (other : beginsNumber word.toList = false) : afterWord? word cs = none := by
  have apart : word.toList.isPrefixOf cs = false := by
    by_contra h
    obtain ⟨rest, rfl⟩ := List.isPrefixOf_iff_prefix.mp (Bool.not_eq_false _ ▸ h)
    match spelled : word.toList, long with
    | c :: d :: cs, _ =>
      rw [spelled] at other number
      by_cases minus : c = '-'
      · subst minus
        exact nomatch number.symm.trans other
      · simp [beginsNumber, minus] at other number
        exact nomatch number.symm.trans other
  rw [afterWord?, after?, apart]
  rfl

/-- No word of a table is at the head of a number. -/
private theorem findSome?_afterWord?_eq_none {α : Type} {table : List (String × α)}
    (words : ∀ w ∈ table, 2 ≤ w.1.toList.length ∧ beginsNumber w.1.toList = false) :
    (table.findSome? fun (spelling, value) ↦ (afterWord? spelling cs).map (value, ·)) = none := by
  rw [List.findSome?_eq_none_iff]
  rintro ⟨spelling, value⟩ mem
  obtain ⟨long, other⟩ := words _ mem
  simp only [afterWord?_eq_none number long other, Option.map_none]

/-- The first character is a digit or a minus, and no other token begins with one. -/
private theorem exists_numberStart :
    ∃ c rest, cs = c :: rest ∧ (Decimal.isDigit c || c == '+' || c == '-') = true ∧
      isIdentifierStart c = false ∧ isSpace c = false ∧
      c ∉ ['(', '[', '\x7b', 'r', '\'', '"', '.', '/'] := by
  obtain ⟨c, rest, rfl⟩ := List.exists_cons_of_ne_nil (l := cs) (by rintro rfl; cases number)
  have start : Decimal.isDigit c = true ∨ c = '-' := by
    by_cases minus : c = '-'
    · exact .inr minus
    · left
      simpa [beginsNumber, minus] using number
  refine ⟨c, rest, rfl, by rcases start with digit | rfl <;> simp [*], ?_, ?_, fun mem ↦ ?_⟩
  · rcases start with digit | rfl
    · exact isIdentifierStart_of_isDigit digit
    · decide
  · by_contra blank
    simp only [isSpace, Bool.not_eq_false, Bool.or_eq_true, beq_iff_eq] at blank
    rcases blank with ((rfl | rfl) | rfl) | rfl <;> exact absurd start (by decide)
  · simp only [List.mem_cons, List.not_mem_nil, or_false] at mem
    rcases mem with rfl | rfl | rfl | rfl | rfl | rfl | rfl | rfl <;>
      exact absurd start (by decide)

/-- Where a number begins the value is a number. -/
private theorem readValue_number (fuel : Nat) :
    readValue false (fuel + 1) cs = readNumber? cs := by
  have word : readWord? cs = none := findSome?_afterWord?_eq_none number (by decide)
  have option : afterWord? "Some" cs = none := afterWord?_eq_none number (by decide) (by decide)
  obtain ⟨c, rest, rfl, numeral, start, -, apart⟩ := exists_numberStart number
  simp only [List.mem_cons, List.not_mem_nil, or_false, not_or] at apart
  obtain ⟨parenthesis, bracket, brace, raw, tick, quote, point, -⟩ := apart
  have identifier : readIdentifier? (c :: rest) = none := by
    simp [readIdentifier?, raw, readPlainIdentifier?, start]
  rw [readValue_scalar word option identifier (by simp [parenthesis, bracket, brace]),
    readScalar?, if_pos numeral]
  all_goals assumption

end

/-- A number with a point reads as the double its numeral stands for. -/
private theorem readNumber?_append {cs : List Char} (pointed : IsPointed cs) {x : Float}
    (reads : Decimal.floatOfChars? cs = some x) {more : List Char} (ends : EndsScalar more) :
    readNumber? (cs ++ more) = some (number x, more) := by
  have special : readSpecial? (cs ++ more) = none :=
    findSome?_afterWord?_eq_none (pointed.beginsNumber_append more) (by decide)
  simp only [readNumber?, pointed.isFloatAhead_append more, if_true, readFloat?, special,
    pointed.span_append ends, reads, Option.map_some]

/-! ## Values -/

/-- Characters read as a value, whatever comes behind them that cannot belong to it. -/
def ReadsAs (cs : List Char) (r : Ron) : Prop :=
  ∀ (fuel : Nat) (more : List Char), EndsScalar more →
    skip (cs ++ more) = some (cs ++ more) ∧ readValue false (fuel + 1) (cs ++ more) = some (r, more)

/-- A character that is neither a blank nor a slash is not skipped. -/
theorem skip_cons {c : Char} (mark : isSpace c = false) (slash : c ≠ '/') (cs : List Char) :
    skip (c :: cs) = some (c :: cs) := by
  rw [skip, skipFrom]
  · simp [mark, slash]
  all_goals simp [slash]

/-- A text that was written as a string reads as itself. -/
theorem readsAs_quote (s : String) : ReadsAs (quote s).toList (string s) := by
  intro fuel more ends
  have read := readString?_quote s more
  rw [toList_quote, List.cons_append] at read ⊢
  refine ⟨skip_cons (by decide) (by decide) _, ?_⟩
  rw [readValue_scalar rfl rfl rfl (by decide), readScalar?, read]
  rfl

/-- A word is taken off the front of a text that does not go on with it. -/
private theorem afterWord?_append (word : String) {more : List Char} (ends : EndsScalar more) :
    afterWord? word (word.toList ++ more) = some more := by
  have front : word.toList.isPrefixOf (word.toList ++ more) = true := by simp
  have apart : (more.head?.map isIdentifierRest).getD false = false := by
    cases head : more.head? with
    | none => rfl
    | some c => exact (ends c head).2
  simp [afterWord?, after?, front, apart]

/-- Words that are values of their own read as them. -/
theorem readsAs_word {w : String × Ron} (mem : w ∈ wordValues) : ReadsAs w.1.toList w.2 := by
  intro fuel more ends
  have own := afterWord?_append w.1 ends
  have read : skip (w.1.toList ++ more) = some (w.1.toList ++ more) ∧
      readWord? (w.1.toList ++ more) = some (w.2, more) := by
    simp only [wordValues, List.mem_cons, List.not_mem_nil, or_false] at mem
    rcases mem with rfl | rfl | rfl | rfl | rfl | rfl <;>
      refine ⟨rfl, ?_⟩ <;> simp only [readWord?, wordValues, List.findSome?_cons, own] <;> rfl
  exact ⟨read.1, by simp only [readValue, read.2]⟩

/-- A finite number reads as itself where its numeral stands for it. -/
private theorem readsAs_finite {x : Float} (finite : Decimal.isFinite x = true)
    (reads : Decimal.floatOfChars? (ronLayout.text x).toList = some x) :
    ReadsAs (ronLayout.text x).toList (number x) := by
  intro fuel more ends
  have pointed := isPointed_text finite
  have starts := pointed.beginsNumber_append more
  refine ⟨?_, (readValue_number starts fuel).trans (readNumber?_append pointed reads ends)⟩
  obtain ⟨c, rest, same, -, -, mark, apart⟩ := exists_numberStart starts
  rw [same]
  exact skip_cons mark (by rintro rfl; simp at apart) rest

/-- A number reads as itself, if it is one and, where it is finite, its numeral stands for it. -/
theorem readsAs_text {x : Float} (defined : Decimal.Double.ofFloat x ≠ .nan)
    (reads : Decimal.isFinite x = true →
      Decimal.floatOfChars? (ronLayout.text x).toList = some x) :
    ReadsAs (ronLayout.text x).toList (number x) := by
  cases exact : Decimal.Double.ofFloat x with
  | nan => exact absurd exact defined
  | finite negative mantissa exponent =>
    have finite : Decimal.isFinite x = true := by rw [Decimal.isFinite, exact]
    exact readsAs_finite finite (reads finite)
  | infinite negative =>
    have written : ronLayout.text x = if negative then "-inf" else "inf" := by
      simp only [Decimal.Layout.text, exact]
      cases negative <;> rfl
    rw [written, Decimal.eq_infinity exact]
    cases negative
    · exact readsAs_word (w := ("inf", number (Decimal.infinity false))) (by simp [wordValues])
    · exact readsAs_word (w := ("-inf", number (Decimal.infinity true))) (by simp [wordValues])

end Teletype.Ron
