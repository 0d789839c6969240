import Teletype.Session.Layout
/-!
# Texts that cannot be laid out

Laying out an item fails only over a placeholder of its text: one that names a variable which is
unset, where nothing may stand in for it.
-/

namespace Teletype

namespace Layout

variable {store : Store} {o : Interpolation} {e : FormatError}

/-- Only one policy refuses unset variables, and it names the one it refuses. -/
theorem MissingPolicy.eq_of_text {p : MissingPolicy} {name : String} (h : p.text name = .error e) :
    p = .fail ∧ e = .missingVariable name := by
  cases p with
  | fail =>
    cases h
    exact ⟨rfl, rfl⟩
  | leave | empty | resolve => cases h

/-- The first piece that has no text decides that several have none. -/
theorem exists_of_piecesText {ps : List Piece} (h : piecesText store o ps = .error e) :
    ∃ piece ∈ ps, piece.text store o = .error e := by
  induction ps with
  | nil => cases h
  | cons piece ps ih =>
    rw [piecesText] at h
    cases first : piece.text store o with
    | error fault =>
      rw [first] at h
      cases h
      exact ⟨piece, List.mem_cons_self, first⟩
    | ok cs =>
      cases rest : piecesText store o ps with
      | error fault =>
        rw [first, rest] at h
        cases h
        obtain ⟨other, member, failed⟩ := ih rest
        exact ⟨other, List.mem_cons_of_mem _ member, failed⟩
      | ok more =>
        rw [first, rest] at h
        cases h

/-- A piece without a text is a placeholder of an unset variable that the policy refuses. -/
theorem Piece.exists_of_text {piece : Piece} (h : piece.text store o = .error e) :
    ∃ name, piece.name? = some name ∧ store.get? name = none ∧
      o.missing.text name = .error e := by
  cases piece with
  | literal | braces => cases h
  | placeholder cs =>
    refine ⟨String.ofList cs, rfl, ?_⟩
    simp only [text] at h
    cases unset : store.get? (String.ofList cs) with
    | some value =>
      rw [unset] at h
      cases h
    | none =>
      rw [unset] at h
      cases refused : o.missing.text (String.ofList cs) with
      | error fault =>
        simp only [refused, Except.map] at h
        cases h
        exact ⟨rfl, rfl⟩
      | ok shown =>
        simp only [refused, Except.map] at h
        cases h

/-- A text fails over a placeholder of it that names an unset variable. -/
theorem exists_of_interpolate {s : String} (h : interpolate store o s = .error e) :
    ∃ name ∈ placeholders s, store.get? name = none ∧ o.missing.text name = .error e := by
  unfold interpolate at h
  cases filled : piecesText store o (pieces s.toList) with
  | ok cs =>
    rw [filled] at h
    cases h
  | error fault =>
    rw [filled] at h
    cases h
    obtain ⟨piece, member, failed⟩ := exists_of_piecesText filled
    obtain ⟨name, named, unset, refused⟩ := Piece.exists_of_text failed
    exact ⟨name, List.mem_filterMap.mpr ⟨piece, member, named⟩, unset, refused⟩

/-- A text is rendered unless its placeholders cannot be filled. -/
theorem interpolate_of_render {setting : Setting} {columns : Nat} {options : TextOptions}
    {s : String} (h : render setting columns options s = .error e) :
    interpolate setting.store setting.interpolation s = .error e := by
  unfold render at h
  cases filled : interpolate setting.store setting.interpolation s with
  | ok t =>
    rw [filled] at h
    cases h
  | error fault =>
    rw [filled] at h
    cases h
    rfl

end Layout

/-- An item is laid out unless it has a text whose placeholders cannot be filled. -/
theorem Stage.exists_of_layout {stage : Stage} {item : Item} {e : Layout.FormatError}
    (h : stage.layout item = .error e) :
    ∃ text, item.sourceText? stage.toggles = some text ∧
      Layout.interpolate stage.setting.store stage.setting.interpolation text = .error e := by
  unfold layout at h
  split at h
  · next text options source _ =>
    refine ⟨text, source, ?_⟩
    cases laid : Layout.render stage.setting stage.columns options text with
    | ok cs =>
      rw [laid] at h
      cases h
    | error fault =>
      rw [laid] at h
      cases h
      exact Layout.interpolate_of_render laid
  · cases h

end Teletype
