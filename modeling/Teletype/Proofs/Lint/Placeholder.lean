import Teletype.Proofs.Lint.Sound
/-!
# The placeholders of a document without warnings

A check that has nothing to warn of has found every placeholder of texts, links and toggles to name
a variable that the document knows. The prompts of inputs and countdowns are laid out as well, but
no check reads them.
-/

namespace Teletype

namespace Content

/-- Every text that an item may show, those of all states of a toggle among them. -/
def texts : Content → List String
  | text shown _ | link shown _ _ => [shown]
  | toggle states _ => states.map ToggleState.text
  | prompt p => [p.prompt]
  | countdown c => [c.prompt]
  | bitmap .. | mutate .. => []

/-- The text of an item that is a place for input or a clock. -/
def prompts : Content → List String
  | prompt p => [p.prompt]
  | countdown c => [c.prompt]
  | text .. | bitmap .. | link .. | toggle .. | mutate .. => []

/-- The prompt of an item is one of the texts that it may show. -/
theorem prompts_subset_texts (c : Content) : c.prompts ⊆ c.texts := by
  cases c with
  | prompt | countdown => exact List.Subset.refl _
  | text | bitmap | link | toggle | mutate => exact List.nil_subset _

end Content

namespace Document

/-- Every text that the items of a document may show. -/
def texts (d : Document) : List String := d.items.flatMap fun item ↦ item.content.texts

/-- The texts of a document at places for input and at clocks. -/
def prompts (d : Document) : List String := d.items.flatMap fun item ↦ item.content.prompts

/-- All the placeholders of a text name variables that a document knows. -/
def KnowsNamesOf (d : Document) (text : String) : Prop :=
  ∀ name ∈ Layout.placeholders text, name ∈ d.knownVariables

end Document

namespace Lint

/-- What is no warning. -/
def Flaw.Unwarned (f : Flaw) : Prop := f.isError = true

namespace Scope

variable {scope : Scope}

/-- In a text of which no placeholder is warned of, all of them are known. -/
theorem known_of_textFlaws {text : String} (h : ∀ f ∈ scope.textFlaws text, f.Unwarned) :
    ∀ name ∈ Layout.placeholders text, name ∈ scope.known := by
  intro name mentioned
  refine Decidable.byContradiction fun unknown ↦ ?_
  have listed : Flaw.unsetPlaceholder name ∈ scope.textFlaws text := by
    refine List.mem_map_of_mem ?_
    rw [List.mem_mergeSort, List.mem_eraseDups]
    exact List.mem_filter.mpr ⟨mentioned, by simpa using unknown⟩
  exact absurd (h _ listed) (by simp [Flaw.Unwarned, Flaw.isError])

/-- In an item without warnings all placeholders are known, but for those of prompts. -/
theorem known_of_contentFlaws {c : Content} (h : Clean Flaw.Unwarned (scope.contentFlaws c)) :
    ∀ text ∈ c.texts, text ∈ c.prompts ∨
      ∀ name ∈ Layout.placeholders text, name ∈ scope.known := by
  intro text member
  cases c with
  | prompt | countdown => exact .inl member
  | bitmap | mutate => cases member
  | text shown options =>
    obtain rfl := List.mem_singleton.mp member
    exact .inr (known_of_textFlaws h.of_pure)
  | toggle states options =>
    obtain ⟨state, hs, rfl⟩ := List.mem_map.mp member
    refine .inr (known_of_textFlaws fun f hf ↦ h.of_pure f ?_)
    exact List.mem_append_right _ (List.mem_flatMap.mpr ⟨state, hs, hf⟩)
  | link shown l options =>
    obtain rfl := List.mem_singleton.mp member
    obtain ⟨base, shift⟩ := l
    obtain ⟨source, h⟩ := h
    -- the flaws of the text stand in front of those of the actions
    cases shift <;> exact .inr (known_of_textFlaws fun f hf ↦
      h f (List.mem_append_left _ (List.mem_append_left _ hf)))

end Scope

/-- In a document without warnings the placeholders of all texts are known as soon as those of the
prompts are. -/
theorem knowsNames_iff_of_check {d : Document} (clean : (check d).warnings = []) :
    (∀ text ∈ d.texts, d.KnowsNamesOf text) ↔ ∀ text ∈ d.prompts, d.KnowsNamesOf text := by
  have unwarned : ∀ f ∈ (check d).findings, f.flaw.Unwarned := by
    intro f hf
    have none := List.map_eq_nil_iff.mp (List.append_eq_nil_iff.mp clean).1
    simpa [Flaw.Unwarned] using List.filter_eq_nil_iff.mp none f hf
  constructor
  · intro known text member
    obtain ⟨item, hi, hp⟩ := List.mem_flatMap.mp member
    exact known text (List.mem_flatMap.mpr ⟨item, hi, item.content.prompts_subset_texts hp⟩)
  · intro known text member
    obtain ⟨item, hi, ht⟩ := List.mem_flatMap.mp member
    obtain ⟨screen, hs, here⟩ := List.mem_flatMap.mp hi
    rcases Scope.known_of_contentFlaws (clean_of_check unwarned screen hs item here) text ht with
      hp | names
    · exact known text (List.mem_flatMap.mpr ⟨item, hi, hp⟩)
    · exact names

end Lint

end Teletype
