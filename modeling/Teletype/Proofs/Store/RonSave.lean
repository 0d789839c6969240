import Teletype.Proofs.Ron.Scalars
import Teletype.Proofs.Store.Table
import Teletype.Store.Save
/-!
# RON saves that load

A store is written as one map from names to values, and each entry reads as it was written: any
name, any text, either truth value, either infinity, and every finite number whose numeral reads
back. RON has words for what is not finite, so nothing but the digits is left open.
-/

namespace Teletype

namespace Value

/-- The RON value that a value is written as. -/
def toRon : Value → Ron
  | bool b => .bool b
  | number x => .number x
  | text s => .string s

/-- A value is read back from the RON value it is written as. -/
theorem ofRon?_toRon (value : Value) : ofRon? value.toRon = some value := by
  cases value <;> rfl

/-- A value is no list, map, record or option. -/
theorem nesting_toRon (value : Value) : value.toRon.nesting = 0 := by
  cases value <;> rfl

/-- The text of a value reads as it, where a number is one and its digits, if it has some, stand for
it. -/
theorem readsAs_ronText {value : Value}
    (defined : ∀ x, value = number x → Decimal.Double.ofFloat x ≠ .nan)
    (readsBack : ∀ x, value = number x → Decimal.isFinite x = true →
      Decimal.floatOfChars? (ronLayout.text x).toList = some x) :
    Ron.ReadsAs value.ronText.toList value.toRon := by
  cases value with
  | text s => exact Ron.readsAs_quote s
  | number x => exact Ron.readsAs_text (defined x rfl) (readsBack x rfl)
  | bool b =>
    cases b
    · exact Ron.readsAs_word (w := ("false", .bool false)) (by simp [Ron.wordValues])
    · exact Ron.readsAs_word (w := ("true", .bool true)) (by simp [Ron.wordValues])

end Value

namespace Ron

/-- The characters of an entry of a map, given those of its value. -/
def entryChars (name : String) (value : List Char) : List Char :=
  (quote name).toList ++ ':' :: value

private theorem endsScalar_cons {c : Char} (apart : isFloatChar c = false)
    (other : isIdentifierRest c = false) (cs : List Char) : EndsScalar (c :: cs) := by
  rintro _ ⟨⟩
  exact ⟨apart, other⟩

/-- Reads on from behind an entry: a comma with further entries, or the closing brace. -/
def readBehind (entry : Ron × Ron) (fuel : Nat) (more : List Char) :
    Option (List (Ron × Ron) × List Char) := do
  match ← skip more with
  | ',' :: rest =>
    let (entries, rest) ← readEntries false fuel rest
    some (entry :: entries, rest)
  | '\x7d' :: rest => some ([entry], rest)
  | _ => none

/-- An entry reads as its name with what its value reads as. -/
private theorem readEntries_entry {value : List Char} {r : Ron} (reads : ReadsAs value r)
    {more : List Char} (ends : EndsScalar more) (name : String) (fuel : Nat) :
    readEntries false (fuel + 2) (entryChars name value ++ more) =
      readBehind (string name, r) (fuel + 1) more := by
  have colon := endsScalar_cons (c := ':') (by decide) (by decide) (value ++ more)
  obtain ⟨start, key⟩ := readsAs_quote name fuel _ colon
  obtain ⟨same, read⟩ := reads fuel more ends
  have skipColon (cs : List Char) : skip (':' :: cs) = some (':' :: cs) :=
    skip_cons (by decide) (by decide) cs
  obtain ⟨cs, quoted⟩ : ∃ cs, (quote name).toList ++ ':' :: (value ++ more) = '"' :: cs :=
    ⟨_, by rw [toList_quote]; rfl⟩
  rw [quoted] at start key
  rw [entryChars, List.append_assoc, List.cons_append, quoted, readEntries, start]
  change (readValue false (fuel + 1) ('"' :: cs)).bind _ = _
  simp only [key, skipColon, same, read, Option.bind_eq_bind, Option.bind_some]
  rfl

/-- The characters of entries with commas between them. -/
def entriesChars (rows : List (String × Value)) : List Char :=
  (String.intercalate ","
    (rows.map fun (name, value) ↦ quote name ++ ":" ++ value.ronText)).toList

private theorem entriesChars_singleton (row : String × Value) :
    entriesChars [row] = entryChars row.1 row.2.ronText.toList := by
  simp [entriesChars, entryChars]

private theorem entriesChars_cons_cons (row next : String × Value) (rows : List (String × Value)) :
    entriesChars (row :: next :: rows) =
      entryChars row.1 row.2.ronText.toList ++ ',' :: entriesChars (next :: rows) := by
  simp [entriesChars, entryChars, String.intercalate_cons_cons]

/-- Entries read as they were written, up to the closing brace. -/
private theorem readEntries_entriesChars {rows : List (String × Value)}
    (reads : ∀ row ∈ rows, ReadsAs row.2.ronText.toList row.2.toRon) (nonempty : rows ≠ [])
    {fuel : Nat} (enough : rows.length < fuel) (rest : List Char) :
    readEntries false fuel (entriesChars rows ++ '\x7d' :: rest) =
      some (rows.map fun (name, value) ↦ (string name, value.toRon), rest) := by
  induction rows generalizing fuel with
  | nil => contradiction
  | cons row rows ih =>
    obtain ⟨fuel, rfl⟩ : ∃ n, fuel = n + 2 := ⟨fuel - 2, by simp at enough; omega⟩
    obtain ⟨first, later⟩ := List.forall_mem_cons.mp reads
    cases rows with
    | nil =>
      have brace := endsScalar_cons (c := '\x7d') (by decide) (by decide) rest
      rw [entriesChars_singleton, readEntries_entry first brace, readBehind,
        skip_cons (by decide) (by decide)]
      rfl
    | cons next rows =>
      have comma := endsScalar_cons (c := ',') (by decide) (by decide)
        (entriesChars (next :: rows) ++ '\x7d' :: rest)
      have enough : (next :: rows).length < fuel + 1 := by simpa using enough
      have behind := ih later (List.cons_ne_nil _ _) enough
      rw [entriesChars_cons_cons, List.append_assoc, List.cons_append,
        readEntries_entry first comma, readBehind, skip_cons (by decide) (by decide)]
      change (readEntries false (fuel + 1) _).bind _ = _
      rw [behind]
      rfl

/-- There are fewer entries than characters. -/
private theorem length_le_length_entriesChars (rows : List (String × Value)) :
    rows.length ≤ (entriesChars rows).length := by
  induction rows with
  | nil => exact Nat.zero_le _
  | cons row rows ih =>
    cases rows with
    | nil =>
      rw [entriesChars_singleton, entryChars, List.length_append, List.length_cons]
      exact Nat.le_add_left _ _
    | cons next rows =>
      rw [entriesChars_cons_cons, List.length_append, List.length_cons, List.length_cons]
      exact Nat.le_trans (Nat.succ_le_succ ih) (Nat.le_add_left _ _)

/-- The map that rows are written as. -/
def mapOf (rows : List (String × Value)) : Ron :=
  map (rows.map fun (name, value) ↦ (string name, value.toRon))

/-- Entries in braces read as a map. -/
private theorem readValue_mapOf {rows : List (String × Value)}
    (reads : ∀ row ∈ rows, ReadsAs row.2.ronText.toList row.2.toRon) {fuel : Nat}
    (enough : rows.length < fuel) :
    readValue false (fuel + 1) ('\x7b' :: (entriesChars rows ++ ['\x7d'])) =
      some (mapOf rows, []) := by
  have inside : readEntries false fuel (entriesChars rows ++ ['\x7d']) =
      some (rows.map fun (name, value) ↦ (string name, value.toRon), []) := by
    by_cases empty : rows = []
    · subst empty
      obtain ⟨fuel, rfl⟩ := Nat.exists_eq_succ_of_ne_zero (Nat.ne_of_gt enough)
      rfl
    · exact readEntries_entriesChars reads empty enough []
  generalize entriesChars rows ++ ['\x7d'] = cs at inside ⊢
  have word : readWord? ('\x7b' :: cs) = none := rfl
  have option : afterWord? "Some" ('\x7b' :: cs) = none := rfl
  have identifier : readIdentifier? ('\x7b' :: cs) = none := rfl
  have attached : readAttached? false fuel ('\x7b' :: cs) = none := by cases fuel <;> rfl
  simp only [readValue, word, option, identifier, attached]
  change (readEntries false fuel cs).map _ = _
  rw [inside]
  rfl

/-- A map of scalars is not nested too deeply. -/
private theorem nesting_mapOf (rows : List (String × Value)) :
    (mapOf rows).nesting ≤ maxNesting := by
  have entries : nesting.deepestEntry (rows.map fun (name, value) ↦
      (string name, value.toRon)) ≤ 1 := by
    induction rows with
    | nil => exact Nat.zero_le _
    | cons row rows ih =>
      simp only [List.map_cons, nesting.deepestEntry, Value.nesting_toRon]
      exact Nat.max_le.mpr ⟨by simp [nesting], ih⟩
  rw [mapOf, nesting, maxNesting]
  omega

/-- Entries in braces are a text of their own. -/
theorem ofText?_entries {rows : List (String × Value)}
    (reads : ∀ row ∈ rows, ReadsAs row.2.ronText.toList row.2.toRon) {s : String}
    (written : s.toList = '\x7b' :: (entriesChars rows ++ ['\x7d'])) :
    RonText.ofText? s = some ⟨false, mapOf rows⟩ := by
  have enough : rows.length < 3 * s.length + 2 := by
    have entries := length_le_length_entriesChars rows
    have length := congrArg List.length written
    rw [String.length_toList, List.length_cons, List.length_append] at length
    omega
  have start (cs : List Char) : skip ('\x7b' :: cs) = some ('\x7b' :: cs) :=
    skip_cons (by decide) (by decide) cs
  have plain (fuel : Nat) (cs : List Char) :
      readExtensions? (fuel + 1) ('\x7b' :: cs) = some ([], '\x7b' :: cs) := rfl
  rw [RonText.ofText?, written, start]
  simp only [Option.bind_eq_bind, Option.bind_some, plain, List.contains_nil]
  rw [readValue_mapOf reads enough]
  exact if_pos ⟨rfl, nesting_mapOf rows⟩

end Ron

namespace Store

/-- The rows that are read back from the map they are written as. -/
private theorem ofRon?_mapOf (rows : List (String × Value)) :
    ofRon? (Ron.mapOf rows) = some (ofList rows) := by
  have entries : ((rows.map fun row ↦ (Ron.string row.1, row.2.toRon)).mapM fun entry ↦ do
      return (← entry.1.string?, ← Value.ofRon? entry.2)) = some rows := by
    induction rows with
    | nil => rfl
    | cons row rows ih =>
      rw [List.map_cons, List.mapM_cons, ih]
      simp [Ron.string?, Value.ofRon?_toRon]
  change Option.bind (List.mapM _ _) _ = _
  rw [entries]
  rfl

/-- The characters of a RON save. -/
private theorem toList_ronText (s : Store) :
    s.ronText.toList = '\x7b' :: (Ron.entriesChars s.toList ++ ['\x7d']) := by
  simp [ronText, Ron.entriesChars]

/-- A RON save loads as the store it was made from, when no number is NaN and the numerals of the
finite ones read back. -/
theorem ron_save_loads {s : Store}
    (defined : ∀ name x, s.get? name = some (.number x) → Decimal.Double.ofFloat x ≠ .nan)
    (readsBack : ∀ name x, s.get? name = some (.number x) → Decimal.isFinite x = true →
      Decimal.floatOfChars? (ronLayout.text x).toList = some x) :
    ofRonText? s.ronText = some s := by
  have reads : ∀ row ∈ s.toList, Ron.ReadsAs row.2.ronText.toList row.2.toRon := by
    rintro ⟨name, value⟩ mem
    have set := mem_toList_iff.mp mem
    exact Value.readsAs_ronText (fun x same ↦ defined name x (same ▸ set))
      fun x same ↦ readsBack name x (same ▸ set)
  rw [ofRonText?, Ron.ofText?_entries reads (toList_ronText s), Option.bind_eq_bind,
    Option.bind_some, ofRon?_mapOf, ofList_toList]

/-- A store with an infinity, a number, a truth value and texts that need escapes loads from its
RON save. -/
theorem ron_save_of_mixed_loads :
    let s := (((empty.set "depth" (.number (Decimal.infinity true))).set "coins" (.number 2.5)).set
      "lit" (.bool true)).set "na\"me" (.text "so\nya\u0301")
    (∀ name x, s.get? name = some (.number x) → Decimal.Double.ofFloat x ≠ .nan) ∧
      (∀ name x, s.get? name = some (.number x) → Decimal.isFinite x = true →
        Decimal.floatOfChars? (ronLayout.text x).toList = some x) ∧
      ofRonText? s.ronText = some s := by
  intro s
  have value (name : String) (x : Float) (set : s.get? name = some (.number x)) :
      x = 2.5 ∨ x = Decimal.infinity true := by
    simp only [s, get?_set] at set
    split at set
    · cases set
    · split at set
      · cases set
      · split at set
        · cases set
          exact .inl rfl
        · split at set
          · cases set
            exact .inr rfl
          · exact nomatch set.symm.trans (get?_empty _)
  have defined : ∀ name x, s.get? name = some (.number x) →
      Decimal.Double.ofFloat x ≠ .nan := by
    intro name x set
    rcases value name x set with rfl | rfl <;> decide +kernel
  have readsBack : ∀ name x, s.get? name = some (.number x) → Decimal.isFinite x = true →
      Decimal.floatOfChars? (ronLayout.text x).toList = some x := by
    intro name x set finite
    rcases value name x set with rfl | rfl
    · with_unfolding_all rfl
    · exact absurd finite (by decide +kernel)
  exact ⟨defined, readsBack, ron_save_loads defined readsBack⟩

end Store

end Teletype
