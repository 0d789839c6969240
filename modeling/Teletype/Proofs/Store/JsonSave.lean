import Teletype.Proofs.Json.Scalars
import Teletype.Proofs.Store.ChangeLog
import Teletype.Proofs.Store.Table
import Teletype.Store.Save
/-!
# JSON saves that load

A store is written as one object, a member for each variable, and each member reads as it was
written: any name, any text, either truth value, and every number that is finite and whose digits
read back. A number that is not finite is written as `null`, which is no value, so that the whole
save is refused.
-/

namespace Teletype

/-- Whether a value is anything but a number that is not finite. -/
def Value.isFinite : Value → Bool
  | number x => Decimal.isFinite x
  | bool _ | text _ => true

/-- The digits that are written for a double read as that double. -/
def Value.ReadsBack (x : Float) : Prop :=
  (Json.ofText? (Json.floatText x)).bind ofJson? = some (number x)

namespace Json

/-- The characters of a member of an object, given those of its value. -/
def memberChars (key : String) (value : List Char) : List Char := (quote key).toList ++ ':' :: value

/-- A member reads as its key with what its value stands for, and goes on behind a comma. -/
private theorem readMembers_member {value : List Char} {j : Json} (reads : ReadsAs value j)
    {more : List Char} (ends : EndsNumber more) (key : String) (depth fuel : Nat) :
    readMembers depth (fuel + 2) (memberChars key value ++ more) =
      match skipSpace more with
      | ',' :: rest => (readMembers depth (fuel + 1) rest).map fun (members, rest) ↦
          (members.map ((key, j) :: ·), rest)
      | '\x7d' :: rest => some (some [(key, j)], rest)
      | _ => none := by
  obtain ⟨behind, read, same⟩ := reads depth fuel more ends
  have written : memberChars key value ++ more =
      '"' :: (key.toList.flatMap escapeChar ++ '"' :: ':' :: (value ++ more)) := by
    simp [memberChars, quote]
  have quoted (cs : List Char) : skipSpace ('"' :: cs) = '"' :: cs := rfl
  have colon (cs : List Char) : skipSpace (':' :: cs) = ':' :: cs := rfl
  rw [written, readMembers]
  simp only [quoted, readString_escaped, colon, read, same, Option.bind_eq_bind, Option.bind_some,
    String.ofList_toList]
  cases after : skipSpace more with
  | nil => rfl
  | cons c rest =>
    by_cases comma : c = ','
    · subst comma
      change (readMembers depth (fuel + 1) rest).bind _ = (readMembers depth (fuel + 1) rest).map _
      rcases readMembers depth (fuel + 1) rest with _ | ⟨_ | _, _⟩ <;> simp
    · by_cases brace : c = '\x7d'
      · subst brace
        rfl
      · simp [comma, brace]

/-- A comma ends a number. -/
private theorem endsNumber_comma (cs : List Char) : EndsNumber (',' :: cs) := by
  rintro c ⟨⟩
  decide

/-- A closing brace ends a number. -/
private theorem endsNumber_brace (cs : List Char) : EndsNumber ('\x7d' :: cs) := by
  rintro c ⟨⟩
  decide

/-- What is written as one member is read as another one of the same key. -/
def MemberReads (written read : String × Json) : Prop :=
  written.1 = read.1 ∧ ReadsAs written.2.text.toList read.2

/-- The characters of members with commas between them. -/
def membersChars (members : List (String × Json)) : List Char :=
  (String.intercalate "," (memberTexts members)).toList

private theorem membersChars_singleton (member : String × Json) :
    membersChars [member] = memberChars member.1 member.2.text.toList := by
  simp [membersChars, memberTexts, memberChars]

private theorem membersChars_cons_cons (member next : String × Json)
    (members : List (String × Json)) :
    membersChars (member :: next :: members) =
      memberChars member.1 member.2.text.toList ++ ',' :: membersChars (next :: members) := by
  simp [membersChars, memberTexts, memberChars, String.intercalate_cons_cons]

/-- Members read as they were written, up to the closing brace. -/
private theorem readMembers_membersChars {members read : List (String × Json)}
    (reads : List.Forall₂ MemberReads members read) (nonempty : members ≠ []) (depth : Nat)
    {fuel : Nat} (enough : members.length < fuel) (rest : List Char) :
    readMembers depth fuel (membersChars members ++ '\x7d' :: rest) = some (some read, rest) := by
  induction reads generalizing fuel with
  | nil => contradiction
  | @cons written member members read reads later ih =>
    obtain ⟨fuel, rfl⟩ : ∃ n, fuel = n + 2 := ⟨fuel - 2, by simp at enough; omega⟩
    obtain ⟨key, value⟩ := member
    obtain ⟨rfl, reads⟩ := reads
    cases later with
    | nil =>
      rw [membersChars_singleton, readMembers_member reads (endsNumber_brace rest)]
      rfl
    | @cons next _ members _ first later =>
      have enough : (next :: members).length < fuel + 1 := by simpa using enough
      have behind := ih (List.cons_ne_nil _ _) enough
      rw [membersChars_cons_cons, List.append_assoc, List.cons_append,
        readMembers_member reads (endsNumber_comma _)]
      change (readMembers depth (fuel + 1) _).map _ = _
      rw [behind]
      rfl

/-- There are fewer members than characters. -/
private theorem length_le_length_membersChars (members : List (String × Json)) :
    members.length ≤ (membersChars members).length := by
  induction members with
  | nil => exact Nat.zero_le _
  | cons member members ih =>
    cases members with
    | nil =>
      rw [membersChars_singleton, memberChars, List.length_append, List.length_cons]
      exact Nat.le_add_left _ _
    | cons next members =>
      rw [membersChars_cons_cons, List.length_append, List.length_cons, List.length_cons]
      exact Nat.le_trans (Nat.succ_le_succ ih) (Nat.le_add_left _ _)

/-- Members start with a quote. -/
private theorem exists_membersChars_cons (member : String × Json) (members : List (String × Json)) :
    ∃ cs, membersChars (member :: members) = '"' :: cs := by
  cases members with
  | nil => exact ⟨_, by simp [membersChars_singleton, memberChars, quote]; rfl⟩
  | cons next members => exact ⟨_, by simp [membersChars_cons_cons, memberChars, quote]; rfl⟩

/-- An object reads as it was written. -/
theorem ofText?_object {members read : List (String × Json)}
    (reads : List.Forall₂ MemberReads members read) :
    ofText? (object members).text = some (object read) := by
  have written : (object members).text.toList = '\x7b' :: (membersChars members ++ ['\x7d']) := by
    simp [text, membersChars]
  have value : readValue 0 ((object members).text.toList.length + 1) (object members).text.toList =
      some (object read, []) := by
    cases reads with
    | nil => rfl
    | @cons member _ members _ first later =>
      have enough : (member :: members).length <
          ('\x7b' :: (membersChars (member :: members) ++ ['\x7d'])).length := by
        have := length_le_length_membersChars (member :: members)
        simp only [List.length_cons, List.length_append] at this ⊢
        omega
      have inside := readMembers_membersChars (.cons first later) (List.cons_ne_nil _ _) 1 enough []
      obtain ⟨cs, start⟩ := exists_membersChars_cons member members
      have brace (cs : List Char) : skipSpace ('\x7b' :: cs) = '\x7b' :: cs := rfl
      have quoted (cs : List Char) : skipSpace ('"' :: cs) = '"' :: cs := rfl
      rw [written, readValue]
      simp only [brace, start, List.cons_append, quoted] at inside ⊢
      change (readMembers 1 _ _).bind _ = _
      rw [inside]
      rfl
  rw [ofText?, value]
  rfl

end Json

namespace Value

/-- The text of a value reads as something that is the value, or no value where a number is not
finite. -/
theorem exists_readsAs {value : Value}
    (readsBack : ∀ x, value = number x → Decimal.isFinite x = true → ReadsBack x) :
    ∃ j, Json.ReadsAs value.toJson.text.toList j ∧
      ofJson? j = if value.isFinite then some value else none := by
  cases value with
  | bool b => exact ⟨_, Json.readsAs_bool b, rfl⟩
  | text s =>
    refine ⟨.string s, ?_, rfl⟩
    rw [toJson, Json.text]
    exact Json.readsAs_quote s
  | number x =>
    rw [toJson, Json.text, Json.numberText]
    cases finite : Decimal.isFinite x with
    | false =>
      refine ⟨.null, ?_, ?_⟩
      · rw [Json.floatText, finite]
        exact Json.readsAs_null
      · rw [isFinite, finite]
        rfl
    | true =>
      obtain ⟨j, read, decoded⟩ := Option.bind_eq_some_iff.mp (readsBack x rfl finite)
      refine ⟨j, ?_, ?_⟩
      · cases j with
        | number n => exact Json.readsAs_number read
        | _ => cases decoded
      · rw [decoded, isFinite, finite]
        rfl

end Value

namespace Store

/-- The members that are written for rows are read as members that decode to the rows, unless a
number is not finite. -/
private theorem exists_reads {rows : List (String × Value)}
    (readsBack : ∀ row ∈ rows, ∀ x, row.2 = .number x → Decimal.isFinite x = true →
      Value.ReadsBack x) :
    ∃ read, List.Forall₂ Json.MemberReads (rows.map fun (name, value) ↦ (name, value.toJson)) read ∧
      (read.mapM fun (name, j) ↦ (Value.ofJson? j).map (name, ·)) =
        if rows.all (·.2.isFinite) then some rows else none := by
  induction rows with
  | nil => exact ⟨[], .nil, rfl⟩
  | cons row rows ih =>
    obtain ⟨read, reads, decoded⟩ := ih fun row mem ↦ readsBack row (List.mem_cons_of_mem _ mem)
    obtain ⟨j, readsAs, value⟩ := Value.exists_readsAs (readsBack row List.mem_cons_self)
    refine ⟨(row.1, j) :: read, .cons ⟨rfl, readsAs⟩ reads, ?_⟩
    rw [List.mapM_cons, decoded, List.all_cons]
    simp only [value]
    cases row.2.isFinite with
    | false => rfl
    | true => cases rows.all (·.2.isFinite) <;> rfl

/-- A store whose numbers read back is read from its JSON text as it is, unless a number of it is
not finite: then nothing is read. -/
theorem ofJsonText?_jsonText {s : Store}
    (readsBack : ∀ name x, s.get? name = some (.number x) → Decimal.isFinite x = true →
      Value.ReadsBack x) :
    ofJsonText? s.jsonText = if s.toList.all (·.2.isFinite) then some s else none := by
  have rows : ∀ row ∈ s.toList, ∀ x, row.2 = .number x → Decimal.isFinite x = true →
      Value.ReadsBack x := by
    rintro ⟨name, value⟩ mem x rfl
    exact readsBack name x (mem_toList_iff.mp mem)
  obtain ⟨read, reads, decoded⟩ := exists_reads rows
  rw [ofJsonText?, jsonText, toJson, Json.ofText?_object reads]
  change ofJson? (.object read) = _
  rw [ofJson?, decoded]
  cases s.toList.all (·.2.isFinite) with
  | false => rfl
  | true =>
    change some (ofList s.toList) = some s
    rw [ofList_toList]

/-- A JSON save loads, and leaves the store it was made from as it is, exactly where every number
is finite, as far as the digits of the finite ones read back. -/
theorem json_save_loads_iff {s : Store}
    (readsBack : ∀ name x, s.get? name = some (.number x) → Decimal.isFinite x = true →
      Value.ReadsBack x) :
    (∃ saved, ofJsonText? s.jsonText = some saved ∧ s.restore saved = s) ↔
      ∀ name x, s.get? name = some (.number x) → Decimal.isFinite x = true := by
  have finite_iff : s.toList.all (·.2.isFinite) = true ↔
      ∀ name x, s.get? name = some (.number x) → Decimal.isFinite x = true := by
    simp only [List.all_eq_true, Prod.forall, mem_toList_iff]
    constructor
    · intro h name x set
      exact h name _ set
    · intro h name value set
      cases value with
      | number x => exact h name x set
      | bool b => rfl
      | text t => rfl
  rw [← finite_iff, ofJsonText?_jsonText readsBack]
  constructor
  · rintro ⟨saved, loaded, -⟩
    by_contra infinite
    rw [if_neg infinite] at loaded
    cases loaded
  · intro finite
    exact ⟨s, if_pos finite, restore_self s⟩

/-- A store with a number and a text that needs escapes loads from its save. -/
theorem save_of_coins_loads :
    let s := (empty.set "coins" (.number 2)).set "na\"me" (.text "so\nya")
    Value.ReadsBack 2 ∧ ∃ saved, ofJsonText? s.jsonText = some saved ∧ s.restore saved = s := by
  intro s
  have two : Value.ReadsBack 2 := by with_unfolding_all rfl
  have value (name : String) (x : Float) (set : s.get? name = some (.number x)) : x = 2 := by
    simp only [s, get?_set] at set
    split at set
    · cases set
    · split at set
      · cases set
        rfl
      · exact nomatch set.symm.trans (get?_empty _)
  refine ⟨two, (json_save_loads_iff fun name x set _ ↦ ?_).mpr fun name x set ↦ ?_⟩
  · exact value name x set ▸ two
  · exact value name x set ▸ by decide +kernel

/-- Counting a variable that reads as infinity gives a store without finite numbers whose save does
not load. -/
theorem save_of_infinity_is_lost :
    let s := ((WatchedStore.ofStore empty).actAll [.change (.set "n" (.text "Infinity")),
      .change (.count .increment "n" 1)]).1.store
    (∀ name x, s.get? name = some (.number x) → Decimal.isFinite x = true → Value.ReadsBack x) ∧
      ¬ ∃ saved, ofJsonText? s.jsonText = some saved ∧ s.restore saved = s := by
  intro s
  have infinite : ∀ row ∈ s.toList, row.2.isFinite = false := by decide +kernel
  have lost : (ofJsonText? s.jsonText).isNone = true := by decide +kernel
  constructor
  · intro name x set finite
    exact nomatch finite.symm.trans (infinite (name, _) (mem_toList_iff.mpr set))
  · rintro ⟨saved, loaded, -⟩
    rw [loaded] at lost
    cases lost

end Store

end Teletype
