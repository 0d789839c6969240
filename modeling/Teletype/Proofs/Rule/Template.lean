import Mathlib.Data.List.Forall2
import Teletype.Proofs.Decimal.Grammar
import Teletype.Proofs.Random.Draw
import Teletype.Rule
/-!
# Templates

A rule that neither stands in brackets nor is a plain number is a template, and a template is read
from left to right: a percent sign goes with the character behind it, every other character stands
by itself. What is minted has one character for each part, drawn from the table of the part's class
or the character itself. The random source moves by one draw for each class and not otherwise, and
the first part that is no part of a template decides over the failure.
-/

namespace Teletype.Rule

variable {cs rest : List Char} {rule : String} {source : Random.Source}

/-! ## Rules that are templates -/

/-- Two characters or more, an opening bracket first and a closing one last. -/
def IsBracketed (cs : List Char) : Prop :=
  ∃ opening body closing, cs = opening :: (body ++ [closing]) ∧
    (opening = '[' ∨ opening = '(') ∧ (closing = ']' ∨ closing = ')')

/-- At most one sign, and digits with an optional point. -/
def IsPlainNumber (cs : List Char) : Prop :=
  ∃ sign body, Decimal.IsSign sign ∧ Decimal.IsPointed body ∧ cs = sign ++ body

/-- Brackets are found around a rule exactly when it has them. -/
theorem brackets?_eq_none_iff : brackets? cs = none ↔ ¬ IsBracketed cs := by
  cases cs with
  | nil => simp [brackets?, IsBracketed]
  | cons opening rest =>
    rcases rest.eq_nil_or_concat with rfl | ⟨body, closing, rfl⟩
    · simp [brackets?, IsBracketed]
    · simp [brackets?, IsBracketed]

/-- A character of which plain numbers may be made. -/
private abbrev isPlain (c : Char) : Bool := Decimal.isDigit c || c == '.' || Value.isSign c

/-- A plain number is made of the characters of plain numbers, and has a digit. -/
private theorem IsPlainNumber.all_isPlain (h : IsPlainNumber cs) :
    cs.any Decimal.isDigit = true ∧ cs.all isPlain = true := by
  obtain ⟨sign, body, signed, pointed, rfl⟩ := h
  have plain {ds : List Char} (digits : Decimal.IsDigits ds) : ds.all isPlain = true :=
    List.all_eq_true.mpr fun c mem ↦ by simp [isPlain, digits c mem]
  have some_digit {ds : List Char} (digits : Decimal.IsDigits ds) (nonempty : ds ≠ []) :
      ds.any Decimal.isDigit = true := by
    obtain ⟨c, mem⟩ := List.exists_mem_of_ne_nil ds nonempty
    exact List.any_eq_true.mpr ⟨c, mem, digits c mem⟩
  have sign_plain : sign.all isPlain = true := by cases signed <;> rfl
  rw [List.any_append, List.all_append, sign_plain]
  cases pointed with
  | whole digits nonempty => simp [some_digit digits nonempty, plain digits]
  | point before behind nonempty =>
    rcases nonempty with nonempty | nonempty
    · simp [some_digit before nonempty, plain before, plain behind, isPlain]
    · simp [some_digit behind nonempty, plain before, plain behind, isPlain]

/-- A rule is taken for a number exactly when it is a plain one. -/
theorem plainNumber?_eq_none_iff : plainNumber? cs = none ↔ ¬ IsPlainNumber cs := by
  rw [← Option.not_isSome_iff_eq_none, not_iff_not, plainNumber?]
  split
  · next marked =>
    rw [Bool.and_eq_true] at marked
    rw [Decimal.floatOfChars?, Option.isSome_map, Decimal.Numeral.isSome_read?_iff]
    constructor
    · rintro ⟨sign, body, exponent, signed, pointed, isExponent, rfl⟩
      cases isExponent with
      | none => exact ⟨sign, body, signed, pointed, by rw [List.append_nil]⟩
      | @some letter _ _ letters =>
        have plain := List.all_eq_true.mp marked.2 letter (by simp)
        rcases letters with rfl | rfl <;> exact absurd plain (by decide)
    · rintro ⟨sign, body, signed, pointed, rfl⟩
      exact ⟨sign, body, [], signed, pointed, .none, by rw [List.append_nil]⟩
  · next unmarked =>
    simp only [Option.isSome_none, Bool.false_eq_true, false_iff]
    intro plain
    rw [plain.all_isPlain.1] at unmarked
    exact unmarked plain.all_isPlain.2

/-- A rule that neither stands in brackets nor is a plain number is carried out as a template. -/
theorem generate_eq_expand (unbracketed : ¬ IsBracketed (Text.trimChars rule.toList))
    (unnumbered : ¬ IsPlainNumber (Text.trimChars rule.toList)) (source : Random.Source) :
    generate rule source =
      ((match (expand (tokens rule.toList) source).1 with
        | .ok cs => .ok (.text (String.ofList cs))
        | .error f => .error ⟨rule, f⟩), (expand (tokens rule.toList) source).2) := by
  simp only [generate, brackets?_eq_none_iff.mpr unbracketed,
    plainNumber?_eq_none_iff.mpr unnumbered]
  split <;> simp_all

/-! ## Parts -/

/-- A part of a template as it is written. -/
inductive Part where
  /-- A percent sign and the character behind it. -/
  | escaped (c : Char)
  /-- A percent sign with nothing behind it. -/
  | lone
  /-- A character that is no percent sign and stands behind none. -/
  | bare (c : Char)
  deriving DecidableEq

/-- The parts that a template is read as from left to right. -/
inductive Reads : List Char → List Part → Prop
  | nil : Reads [] []
  | lone : Reads ['%'] [.lone]
  | escaped {c : Char} {rest : List Char} {parts : List Part} (others : Reads rest parts) :
    Reads ('%' :: c :: rest) (.escaped c :: parts)
  | bare {c : Char} {rest : List Char} {parts : List Part} (other : c ≠ '%')
    (others : Reads rest parts) : Reads (c :: rest) (.bare c :: parts)

/-- The small letters that name classes behind a percent sign. -/
def classLetters : List Char := "dulahec".toList

/-- The capital letters that name classes by themselves. -/
def capitalClassLetters : List Char := "DULAHEC".toList

namespace Part

/-- The letter by which a part names a class. -/
def letter? : Part → Option Char
  | escaped c => if c ∈ classLetters then some c else none
  | bare c => if c ∈ capitalClassLetters then some c else none
  | lone => none

/-- The characters that a part draws from, if it names a class. -/
def table? (part : Part) : Option (List Char) := part.letter?.bind classTable?

/-- What is wrong with a part: a percent sign stands alone or before a small letter of no class. -/
def fault? : Part → Option RuleFault
  | escaped c => if isSmall c ∧ c ∉ classLetters then some (.unknownClass c) else none
  | bare _ => none
  | lone => some .danglingPercent

/-- The character that a part stands for if it names no class. -/
def itself : Part → Char
  | escaped c | bare c => c
  | lone => '%'

/-- The characters that may be minted for a part: those of its class, or itself. -/
def choices (part : Part) : List Char := part.table?.getD [part.itself]

/-- What a part asks for. -/
def token (part : Part) : Token :=
  match part.fault? with
  | some f => .fault f
  | none =>
    match part.table? with
    | some table => .draw table
    | none => .literal part.itself

end Part

/-- The random source after one draw for each of some parts that names a class. -/
def drawn (parts : List Part) (source : Random.Source) : Random.Source :=
  (parts.filterMap Part.table?).foldl (fun s table ↦ (s.drawBelow table.length).2) source

/-! ## What is read -/

/-- The small letters that name classes are those for which there is a table. -/
private theorem isSome_classTable?_iff {c : Char} :
    (classTable? c).isSome = true ↔ Text.asciiLower c ∈ classLetters := by
  unfold classTable? classLetters
  split <;> simp_all

/-- A small letter names a class when it is one of the class letters. -/
private theorem isSome_classTable?_of_isSmall {c : Char} (small : isSmall c = true) :
    (classTable? c).isSome = true ↔ c ∈ classLetters := by
  have uncapital : ¬ ('A' ≤ c ∧ c ≤ 'Z') := fun capital ↦
    absurd (Char.le_trans (of_decide_eq_true small).1 capital.2) (by decide)
  rw [isSome_classTable?_iff, Text.asciiLower, if_neg uncapital]

/-- The letters that name classes by themselves are the capitals of the class letters. -/
private theorem mem_capitalClassLetters_iff {c : Char} :
    c ∈ capitalClassLetters ↔ isCapital c = true ∧ (classTable? c).isSome = true := by
  rw [isSome_classTable?_iff]
  constructor
  · intro letter
    have each : (capitalClassLetters.all fun c ↦
        isCapital c && decide (Text.asciiLower c ∈ classLetters)) = true := by decide
    simpa using List.all_eq_true.mp each c letter
  · rintro ⟨capital, names⟩
    -- the capitals by their place in the alphabet, since there is no going over all characters
    have each : ∀ n < 26, Text.asciiLower (Char.ofNat (65 + n)) ∈ classLetters →
        Char.ofNat (65 + n) ∈ capitalClassLetters := by decide
    have code (d : Char) : d.val.toNat = d.toNat := rfl
    simp only [isCapital, Char.le_def, UInt32.le_iff_toNat_le, code, decide_eq_true_eq,
      Char.reduceToNat] at capital
    have place : 65 + (c.toNat - 65) = c.toNat := by omega
    have names' := each (c.toNat - 65) (by omega)
    rw [place, Char.ofNat_toNat] at names'
    exact names' names

/-- A percent sign and the character behind it are read as what they ask for. -/
private theorem tokens_escaped (c : Char) (rest : List Char) :
    tokens ('%' :: c :: rest) = (Part.escaped c).token :: tokens rest := by
  rw [tokens]
  congr 1
  by_cases small : isSmall c = true
  · rw [if_pos small]
    have names := isSome_classTable?_of_isSmall small
    cases named : classTable? c with
    | none =>
      have nameless : c ∉ classLetters := by simp [← names, named]
      simp [Part.token, Part.fault?, small, nameless]
    | some table =>
      have letter : c ∈ classLetters := by simp [← names, named]
      simp [Part.token, Part.fault?, Part.table?, Part.letter?, letter, named]
  · have nameless : c ∉ classLetters := by
      have each : classLetters.all isSmall = true := by decide
      exact fun letter ↦ small (List.all_eq_true.mp each c letter)
    simp [Part.token, Part.fault?, Part.table?, Part.letter?, Part.itself, small, nameless]

/-- A character that is no percent sign is read as what it asks for. -/
private theorem tokens_bare {c : Char} (other : c ≠ '%') (rest : List Char) :
    tokens (c :: rest) = (Part.bare c).token :: tokens rest := by
  rw [tokens]
  · congr 1
    have names := @mem_capitalClassLetters_iff c
    by_cases capital : isCapital c = true
    · rw [if_pos capital]
      cases named : classTable? c with
      | none =>
        have nameless : c ∉ capitalClassLetters := by simp [names, named]
        simp [Part.token, Part.fault?, Part.table?, Part.letter?, Part.itself, nameless]
      | some table =>
        have letter : c ∈ capitalClassLetters := by simp [names, named, capital]
        simp [Part.token, Part.fault?, Part.table?, Part.letter?, letter, named]
    · have nameless : c ∉ capitalClassLetters := by simp [names, capital]
      simp [Part.token, Part.fault?, Part.table?, Part.letter?, Part.itself, capital, nameless]
  · exact fun percent _ ↦ other percent
  · exact fun _ _ percent _ ↦ other percent

/-- A template asks for what its parts ask for. -/
theorem tokens_of_reads {parts : List Part} (h : Reads cs parts) :
    tokens cs = parts.map Part.token := by
  induction h with
  | nil => rfl
  | lone => rfl
  | escaped _ ih => rw [tokens_escaped, ih, List.map_cons]
  | bare other _ ih => rw [tokens_bare other, ih, List.map_cons]

/-- Every text can be read as parts. -/
theorem exists_reads (cs : List Char) : ∃ parts, Reads cs parts := by
  fun_induction tokens cs with
  | case1 => exact ⟨_, .nil⟩
  | case2 => exact ⟨_, .lone⟩
  | case3 c rest ih =>
    obtain ⟨parts, others⟩ := ih
    exact ⟨_, .escaped others⟩
  | case4 c rest not_lone not_escaped ih =>
    obtain ⟨parts, others⟩ := ih
    refine ⟨_, .bare (fun percent ↦ ?_) others⟩
    cases rest with
    | nil => exact not_lone percent rfl
    | cons d rest => exact not_escaped d rest percent rfl

/-- A text can be read as parts in one way only. -/
theorem Reads.unique {parts others : List Part} (h : Reads cs parts) (g : Reads cs others) :
    others = parts := by
  induction h generalizing others with
  | nil =>
    cases g
    rfl
  | lone =>
    cases g with
    | lone => rfl
    | bare other => exact absurd rfl other
  | escaped _ ih =>
    cases g with
    | escaped g => rw [ih g]
    | bare other => exact absurd rfl other
  | bare other _ ih =>
    cases g with
    | lone | escaped => exact absurd rfl other
    | bare _ g => rw [ih g]

/-! ## What is minted -/

/-- No class is without characters. -/
theorem ne_nil_of_classTable? {c : Char} {table : List Char} (named : classTable? c = some table) :
    table ≠ [] := by
  unfold classTable? at named
  split at named <;> cases named <;> decide

/-- What is drawn from a table that is not empty stands in it. -/
theorem drawChar_mem {table : List Char} (nonempty : table ≠ []) (source : Random.Source) :
    (drawChar table source).1 ∈ table := by
  have inside := source.fst_drawBelow_lt (List.length_pos_iff.mpr nonempty)
  simp only [drawChar]
  rw [List.getD_eq_getElem?_getD, List.getElem?_eq_getElem inside, Option.getD_some]
  exact List.getElem_mem inside

/-- Draws for some parts are those for the first one and then those for the others. -/
theorem drawn_cons (part : Part) (parts : List Part) (source : Random.Source) :
    drawn (part :: parts) source = drawn parts (drawn [part] source) := by
  rw [← List.singleton_append, drawn, List.filterMap_append, List.foldl_append]
  rfl

/-- A part without a fault puts a character that may be minted for it in front of the others, and
the others go on from the source that its draw leaves. -/
theorem exists_choice_of_expand {part : Part} (sound : part.fault? = none)
    (source : Random.Source) :
    ∃ c ∈ part.choices, ∀ others, expand (part.token :: others) source =
      ((expand others (drawn [part] source)).1.map (c :: ·),
        (expand others (drawn [part] source)).2) := by
  cases named : part.table? with
  | none =>
    refine ⟨part.itself, by simp [Part.choices, named], fun others ↦ ?_⟩
    simp [Part.token, sound, named, expand, drawn]
  | some table =>
    obtain ⟨letter, -, found⟩ := Option.bind_eq_some_iff.mp named
    refine ⟨(drawChar table source).1, ?_, fun others ↦ ?_⟩
    · rw [Part.choices, named]
      exact drawChar_mem (ne_nil_of_classTable? found) source
    · simp [Part.token, sound, named, expand, drawn, drawChar]

/-- Parts without a fault mint a text with one character for each of them, which may be minted for
it, and take one draw for each class. -/
theorem expand_of_faultless {parts : List Part} (faultless : ∀ part ∈ parts, part.fault? = none)
    (source : Random.Source) :
    ∃ cs, expand (parts.map Part.token) source = (.ok cs, drawn parts source) ∧
      List.Forall₂ (fun part c ↦ c ∈ part.choices) parts cs := by
  induction parts generalizing source with
  | nil => exact ⟨[], rfl, .nil⟩
  | cons part parts ih =>
    obtain ⟨sound, others⟩ := List.forall_mem_cons.mp faultless
    obtain ⟨c, choice, first⟩ := exists_choice_of_expand sound source
    obtain ⟨cs, expanded, minted⟩ := ih others (drawn [part] source)
    refine ⟨c :: cs, ?_, .cons choice minted⟩
    rw [List.map_cons, first, expanded, drawn_cons part parts]
    rfl

/-- Parts with a fault fail with the first one, after one draw for each class before it. -/
theorem expand_of_fault {before behind : List Part} {part : Part} {f : RuleFault}
    (faultless : ∀ part ∈ before, part.fault? = none) (flawed : part.fault? = some f)
    (source : Random.Source) :
    expand ((before ++ part :: behind).map Part.token) source = (.error f, drawn before source) := by
  induction before generalizing source with
  | nil => simp [Part.token, flawed, expand, drawn]
  | cons first before ih =>
    obtain ⟨sound, others⟩ := List.forall_mem_cons.mp faultless
    obtain ⟨c, -, minted⟩ := exists_choice_of_expand sound source
    rw [List.cons_append, List.map_cons, minted, ih others, drawn_cons first before]
    rfl

/-- Some parts have no fault, or there is a first one among them that has one. -/
theorem faultless_or_exists_first (parts : List Part) :
    (∀ part ∈ parts, part.fault? = none) ∨
      ∃ before part behind f, parts = before ++ part :: behind ∧
        (∀ earlier ∈ before, earlier.fault? = none) ∧ part.fault? = some f := by
  induction parts with
  | nil => exact .inl (List.forall_mem_nil _)
  | cons part parts ih =>
    cases flawed : part.fault? with
    | some f => exact .inr ⟨[], part, parts, f, rfl, List.forall_mem_nil _, flawed⟩
    | none =>
      rcases ih with faultless | ⟨before, later, behind, f, rfl, faultless, other⟩
      · exact .inl (List.forall_mem_cons.mpr ⟨flawed, faultless⟩)
      · exact .inr ⟨part :: before, later, behind, f, rfl,
          List.forall_mem_cons.mpr ⟨flawed, faultless⟩, other⟩

/-- What a template of certain parts gives: a text exactly when no part has a fault, then with one
character for each part that may be minted for it and after one draw for each class; and otherwise
the fault of the first part that has one. -/
structure Mints (rule : String) (parts : List Part) (source : Random.Source) : Prop where
  succeeds : (∃ value, (generate rule source).1 = .ok value) ↔ ∀ part ∈ parts, part.fault? = none
  gives : ∀ value, (generate rule source).1 = .ok value →
    ∃ cs, value = .text (String.ofList cs) ∧
      List.Forall₂ (fun part c ↦ c ∈ part.choices) parts cs ∧
      (generate rule source).2 = drawn parts source
  fails : ∀ e, (generate rule source).1 = .error e →
    ∃ before part behind f, parts = before ++ part :: behind ∧
      (∀ earlier ∈ before, earlier.fault? = none) ∧ part.fault? = some f ∧ e = ⟨rule, f⟩ ∧
      (generate rule source).2 = drawn before source

/-- A rule that neither stands in brackets nor is a plain number is read as parts in exactly one
way, and mints what these describe. -/
theorem mints_of_template (rule : String)
    (unbracketed : ¬ IsBracketed (Text.trimChars rule.toList))
    (unnumbered : ¬ IsPlainNumber (Text.trimChars rule.toList)) (source : Random.Source) :
    ∃ parts, (∀ others, Reads rule.toList others ↔ others = parts) ∧ Mints rule parts source := by
  obtain ⟨parts, read⟩ := exists_reads rule.toList
  refine ⟨parts, fun others ↦ ⟨read.unique, fun same ↦ same ▸ read⟩, ?_⟩
  have generated := generate_eq_expand unbracketed unnumbered source
  rw [tokens_of_reads read] at generated
  rcases faultless_or_exists_first parts with
    faultless | ⟨before, part, behind, f, rfl, faultless, flawed⟩
  · obtain ⟨cs, expanded, minted⟩ := expand_of_faultless faultless source
    rw [expanded] at generated
    constructor
    · exact ⟨fun _ ↦ faultless, fun _ ↦ ⟨_, congrArg Prod.fst generated⟩⟩
    · intro value given
      rw [generated] at given ⊢
      cases given
      exact ⟨cs, rfl, minted, rfl⟩
    · intro e failed
      rw [generated] at failed
      cases failed
  · rw [expand_of_fault faultless flawed] at generated
    constructor
    · constructor
      · rintro ⟨value, given⟩
        rw [generated] at given
        cases given
      · intro sound
        rw [sound part (by simp)] at flawed
        cases flawed
    · intro value given
      rw [generated] at given
      cases given
    · intro e failed
      rw [generated] at failed ⊢
      cases failed
      exact ⟨before, part, behind, f, rfl, faultless, flawed, rfl, rfl⟩

/-- A badge number has digits for the capital class letter and for the escaped one, and the other
characters as they are. Where a small letter names no class, the draw before it has been made, and
the percent sign at the end is not reached. -/
theorem badge_minted :
    (∃ cs, (generate "ID-D%d" (.ofSeed 42)).1 = .ok (.text (String.ofList cs)) ∧
        List.Forall₂ (fun table c ↦ c ∈ table) [['I'], digits, ['-'], digits, digits] cs) ∧
      generate "D%z%" (.ofSeed 42) =
        (.error ⟨"D%z%", .unknownClass 'z'⟩, ((Random.Source.ofSeed 42).drawBelow 10).2) := by
  constructor
  · obtain ⟨parts, read, mints⟩ := mints_of_template "ID-D%d"
      (brackets?_eq_none_iff.mp (by decide)) (plainNumber?_eq_none_iff.mp (by decide)) (.ofSeed 42)
    have parts_eq : [.bare 'I', .bare 'D', .bare '-', .bare 'D', .escaped 'd'] = parts :=
      (read _).mp (.bare (by decide) (.bare (by decide) (.bare (by decide)
        (.bare (by decide) (.escaped .nil)))))
    subst parts_eq
    obtain ⟨value, given⟩ := mints.succeeds.mpr (by decide)
    obtain ⟨cs, rfl, minted, -⟩ := mints.gives value given
    exact ⟨cs, given, List.forall₂_map_left_iff.mpr minted⟩
  · obtain ⟨parts, read, mints⟩ := mints_of_template "D%z%"
      (brackets?_eq_none_iff.mp (by decide)) (plainNumber?_eq_none_iff.mp (by decide)) (.ofSeed 42)
    have parts_eq : [.bare 'D', .escaped 'z', .lone] = parts :=
      (read _).mp (.bare (by decide) (.escaped .lone))
    subst parts_eq
    obtain ⟨e, failed⟩ : ∃ e, (generate "D%z%" (.ofSeed 42)).1 = .error e := by
      cases generated : (generate "D%z%" (.ofSeed 42)).1 with
      | error e => exact ⟨e, rfl⟩
      | ok value =>
        have sound := mints.succeeds.mp ⟨value, generated⟩ (.escaped 'z') (by decide)
        cases sound
    obtain ⟨before, part, behind, f, split, sound, flawed, rfl, moved⟩ := mints.fails e failed
    -- the first part has no fault and the second one has
    rcases before with _ | ⟨first, _ | ⟨second, before⟩⟩
    · cases split
      cases flawed
    · cases split
      cases flawed
      exact Prod.ext failed moved
    · simp only [List.cons_append, List.cons.injEq] at split
      obtain ⟨-, rfl, -⟩ := split
      cases sound (.escaped 'z') (by simp)

end Teletype.Rule
