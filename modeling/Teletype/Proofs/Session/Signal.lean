import Teletype.Session.Play
/-!
# Where signals lead

Links and dialogs may alternate in any way among signals. The screen that counts is that of the last
link, and the dialogs are opened in the order in which they stand.
-/

namespace Teletype.Signal

variable {before after signals : List Signal} {id : String}

/-- The dialogs of signals are those that one of them opens. -/
theorem mem_dialogs :
    id ∈ dialogs signals ↔ .dialog id ∈ signals := by
  simp only [dialogs, List.mem_filterMap]
  constructor
  · rintro ⟨signal, hm, hs⟩
    split at hs
    · cases hs
    · cases hs
      exact hm
  · exact fun h ↦ ⟨_, h, rfl⟩

/-- The last screen that signals lead to is one that some signal leads to. -/
theorem mem_of_lastScreen? (h : lastScreen? signals = some id) : .navigate id ∈ signals := by
  obtain ⟨signal, hm, hs⟩ := List.mem_filterMap.mp (List.mem_of_getLast? h)
  split at hs
  · cases hs
    exact hm
  · cases hs

/-- Signals without a link lead to no screen. -/
theorem lastScreen?_eq_none (h : ∀ other, Signal.navigate other ∉ signals) :
    lastScreen? signals = none := by
  rw [lastScreen?, List.getLast?_eq_none_iff, List.filterMap_eq_nil_iff]
  intro signal hm
  cases signal with
  | navigate other => exact absurd hm (h other)
  | dialog => rfl

/-- Signals without a dialog open none. -/
theorem dialogs_eq_nil (h : ∀ other, Signal.dialog other ∉ signals) :
    dialogs signals = [] := by
  rw [dialogs, List.filterMap_eq_nil_iff]
  intro signal hm
  cases signal with
  | navigate => rfl
  | dialog other => exact absurd hm (h other)

/-- The last screen is the one behind which no other follows. -/
theorem lastScreen?_append_cons (h : ∀ other, Signal.navigate other ∉ after) :
    lastScreen? (before ++ .navigate id :: after) = some id := by
  have none_after := lastScreen?_eq_none h
  rw [lastScreen?, List.getLast?_eq_none_iff] at none_after
  simp only [lastScreen?, List.filterMap_append, List.filterMap_cons, none_after,
    List.getLast?_append, List.getLast?_singleton, Option.some_or]

/-- Dialogs behind others are opened after them. -/
theorem dialogs_append_cons :
    dialogs (before ++ .dialog id :: after) = dialogs before ++ id :: dialogs after := by
  simp only [dialogs, List.filterMap_append, List.filterMap_cons]

/-- The last dialog is the one behind which no other follows. -/
theorem getLast?_dialogs_append_cons (h : ∀ other, Signal.dialog other ∉ after) :
    (dialogs (before ++ .dialog id :: after)).getLast? = some id := by
  rw [dialogs_append_cons, dialogs_eq_nil h, List.getLast?_append, List.getLast?_singleton,
    Option.some_or]

/-- The first dialog with a property is one before which no dialog has it. -/
theorem find?_dialogs_append_cons {p : String → Bool}
    (h : ∀ other, Signal.dialog other ∈ before → p other = false) (hp : p id = true) :
    (dialogs (before ++ .dialog id :: after)).find? p = some id := by
  have none_before : (dialogs before).find? p = none := by
    refine List.find?_eq_none.mpr fun other hm ↦ ?_
    simp [h other (mem_dialogs.mp hm)]
  rw [dialogs_append_cons, List.find?_append, none_before, Option.none_or,
    List.find?_cons_of_pos hp]

end Teletype.Signal
