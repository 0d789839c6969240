import Teletype.Json.Record
/-!
# Decoding what is written

What a decoder has read, from whichever of the forms it takes, it reads again from the one form that
is written. Here this is shown of plain members, and of the fields of a record: a field that must be
there, one that is left out where it is absent or false, and one that is `null` where it is absent.
-/

namespace Teletype.Json

variable {α : Type} {encode : α → Json} {decode : Json → Option α}

/-- What a decoder reads, from any value, it reads again from what is written for it. -/
def Rereads (encode : α → Json) (decode : Json → Option α) : Prop :=
  ∀ j x, decode j = some x → decode (encode x) = some x

/-- A decoder that reads everything that is written reads it again. -/
theorem Rereads.of_forall (h : ∀ x, decode (encode x) = some x) : Rereads encode decode :=
  fun _ x _ ↦ h x

/-- A field is read, and then those behind it. -/
theorem then_reads {β : Type} {x : Option α} {a : α} {f : α → Option β} {b : β} (first : x = some a)
    (rest : f a = some b) : (x >>= f) = some b :=
  Option.bind_eq_some_iff.mpr ⟨a, first, rest⟩

/-- A text is read again. -/
theorem rereads_string : Rereads string string? := .of_forall fun _ ↦ rfl

/-- A truth value is read again. -/
theorem rereads_bool : Rereads bool bool? := .of_forall fun _ ↦ rfl

/-- A whole number below a bound is read again. -/
theorem rereads_natBelow (bound : Nat) : Rereads ofNat (natBelow? bound) := by
  intro j n read
  have below : n < bound := by
    unfold natBelow? at read
    split at read
    · split at read
      · next below =>
        cases read
        exact below
      · cases read
    · cases read
  exact if_pos below

/-- Values that are read one by one are read again from the list of what is written for each. -/
theorem Rereads.list (h : Rereads encode decode) :
    Rereads (fun xs ↦ array (xs.map encode)) (list? decode) := by
  intro j xs read
  unfold list? at read
  split at read
  · next items =>
    change (xs.map encode).mapM decode = some xs
    induction items generalizing xs with
    | nil =>
      cases read
      rfl
    | cons item items ih =>
      simp only [List.mapM_cons, Option.bind_eq_bind, Option.bind_eq_some_iff,
        Option.pure_def, Option.some.injEq] at read
      obtain ⟨x, first, rest, later, rfl⟩ := read
      simp [List.mapM_cons, h item x first, ih rest later]
  · cases read

namespace Record

variable {r written : Record} {name : String} {x fallback : α}

/-- A field that must be there is read again. -/
theorem required_again (again : Rereads encode decode) (read : r.required name decode = some x)
    (stands : written.get? name = some (encode x)) : written.required name decode = some x := by
  obtain ⟨j, -, decoded⟩ := Option.bind_eq_some_iff.mp read
  rw [required, stands]
  exact again j x decoded

/-- A field with a default that is always written is read again, as far as the default itself is
read. -/
theorem defaulted_again (again : Rereads encode decode)
    (default : decode (encode fallback) = some fallback)
    (read : r.defaulted name fallback decode = some x)
    (stands : written.get? name = some (encode x)) :
    written.defaulted name fallback decode = some x := by
  rw [defaulted, stands]
  unfold defaulted at read
  split at read
  · cases read
    exact default
  · exact again _ x read

/-- A truth value that is left out where it is false is read as it was. -/
theorem defaulted_of_true {b : Bool}
    (stands : written.get? name = if b then some (.bool true) else none) :
    written.defaulted name false bool? = some b := by
  rw [defaulted, stands]
  cases b <;> rfl

variable {given : Option α}

/-- What is read for an optional field is decoded. -/
theorem exists_decode_of_optional (read : r.optional name decode = some (some x)) :
    ∃ j, decode j = some x := by
  unfold optional at read
  split at read
  · cases read
  · cases read
  · next j _ _ =>
    obtain ⟨_, decoded, same⟩ := Option.map_eq_some_iff.mp read
    cases same
    exact ⟨j, decoded⟩

/-- An optional field whose value is not `null` is read as what its value is decoded to. -/
private theorem optional_of_some {j : Json} (stands : written.get? name = some j)
    (value : j ≠ null) :
    written.optional name decode = (decode j).map some := by
  rw [optional, stands]
  cases j with
  | null => exact absurd rfl value
  | _ => rfl

/-- An optional field that is left out where it is absent is read again. -/
theorem optional_again (again : Rereads encode decode) (value : ∀ x, encode x ≠ null)
    (read : r.optional name decode = some given)
    (stands : written.get? name = given.map encode) :
    written.optional name decode = some given := by
  cases given with
  | none => rw [optional, stands]; rfl
  | some x =>
    obtain ⟨j, decoded⟩ := exists_decode_of_optional read
    rw [optional_of_some stands (value x), again j x decoded]
    rfl

/-- An optional field that is `null` where it is absent is read again. -/
theorem optional_ofOption_again (again : Rereads encode decode) (value : ∀ x, encode x ≠ null)
    (read : r.optional name decode = some given)
    (stands : written.get? name = some (ofOption encode given)) :
    written.optional name decode = some given := by
  cases given with
  | none => rw [optional, stands]; rfl
  | some x =>
    obtain ⟨j, decoded⟩ := exists_decode_of_optional read
    rw [optional_of_some stands (value x), ofOption, again j x decoded]
    rfl

end Record

end Teletype.Json
