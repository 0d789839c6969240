import Teletype.Store.Basic
/-!
# Stores and their listings

A listing of a store has one row for each variable. Rows written over a store count where there is
one for the name, so that a store is made again from its listing, and a store over which its own
listing is written stays as it is.
-/

namespace Teletype.Store

/-- The rows of a store are its variables with their values. -/
theorem mem_toList_iff {s : Store} {name : String} {value : Value} :
    (name, value) ∈ s.toList ↔ s.get? name = some value :=
  Std.ExtTreeMap.mem_toList_iff_getElem?_eq_some

/-- No name has two rows. -/
theorem nodup_names (s : Store) : (s.toList.map Prod.fst).Nodup := by
  rw [toList, Std.ExtTreeMap.map_fst_toList_eq_keys]
  exact Std.ExtTreeMap.nodup_keys

/-- The rows of a store name its variables. -/
theorem mem_names_iff {s : Store} {name : String} :
    name ∈ s.toList.map Prod.fst ↔ ∃ value, s.get? name = some value := by
  simp [mem_toList_iff]

/-- Rows that do not name a variable leave its value. -/
private theorem get?_written_of_not_mem {rows : List (String × Value)} {name : String}
    (absent : name ∉ rows.map Prod.fst) (s : Store) :
    (rows.foldl (fun s (name, value) ↦ s.set name value) s).get? name = s.get? name := by
  induction rows generalizing s with
  | nil => rfl
  | cons row rows ih =>
    obtain ⟨other, absent⟩ := not_or.mp (mt List.mem_cons.mpr absent)
    rw [List.foldl_cons, ih absent, get?_set, if_neg (Ne.symm other)]

/-- Rows of different names give each variable the value of its row. -/
private theorem get?_written_of_mem {rows : List (String × Value)}
    (nodup : (rows.map Prod.fst).Nodup) {name : String} {value : Value}
    (mem : (name, value) ∈ rows) (s : Store) :
    (rows.foldl (fun s (name, value) ↦ s.set name value) s).get? name = some value := by
  induction rows generalizing s with
  | nil => cases mem
  | cons row rows ih =>
    obtain ⟨absent, nodup⟩ := List.nodup_cons.mp nodup
    rcases List.mem_cons.mp mem with rfl | mem
    · rw [List.foldl_cons, get?_written_of_not_mem absent, get?_set, if_pos rfl]
    · rw [List.foldl_cons, ih nodup mem]

/-- A saved store that is restored gives its variables their values, and the others are left. -/
theorem get?_restore (s saved : Store) (name : String) :
    (s.restore saved).get? name = (saved.get? name).or (s.get? name) := by
  cases h : saved.get? name with
  | some value => exact get?_written_of_mem saved.nodup_names (mem_toList_iff.mpr h) s
  | none =>
    refine get?_written_of_not_mem (fun named ↦ ?_) s
    obtain ⟨value, set⟩ := mem_names_iff.mp named
    exact nomatch h.symm.trans set

/-- Nothing is set before anything is. -/
theorem get?_empty (name : String) : empty.get? name = none :=
  Std.ExtTreeMap.getElem?_empty

/-- A store that is made of rows has no variables but theirs. -/
theorem mem_names_of_get?_ofList {rows : List (String × Value)} {name : String} {value : Value}
    (set : (ofList rows).get? name = some value) : name ∈ rows.map Prod.fst := by
  by_cases named : name ∈ rows.map Prod.fst
  · exact named
  · have unset : (ofList rows).get? name = empty.get? name := get?_written_of_not_mem named empty
    rw [unset, get?_empty] at set
    cases set

/-- A store is made again from its listing. -/
theorem ofList_toList (s : Store) : ofList s.toList = s := by
  refine ext fun name ↦ ?_
  have restored : (ofList s.toList).get? name = (s.get? name).or (empty.get? name) :=
    get?_restore empty s name
  rw [restored, get?_empty, Option.or_none]

/-- A store that is restored over itself stays as it is. -/
theorem restore_self (s : Store) : s.restore s = s := by
  refine ext fun name ↦ ?_
  rw [get?_restore, Option.or_self]

end Teletype.Store
