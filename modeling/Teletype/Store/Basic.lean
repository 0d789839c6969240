import Std.Data.ExtTreeMap
import Teletype.Value.Basic
/-!
# The variable store

The variables of a story and their values, one value a name. Equality of stores is equality of the
values of all names, and listing goes by name.
-/

namespace Teletype

/-- The two directions of counting. -/
inductive Counting where
  | increment
  | decrement
  deriving DecidableEq, Repr

/-- The word for a direction of counting. -/
def Counting.word : Counting → String
  | increment => "increment"
  | decrement => "decrement"

/-- The signed amount that counting adds. -/
def Counting.signed (counting : Counting) (amount : Float) : Float :=
  match counting with
  | increment => amount
  | decrement => -amount

/-- Why a change of the store is refused. -/
inductive StoreError where
  | notNumeric (counting : Counting) (name : String)
  deriving DecidableEq, Repr

/-- What is said about a refused change. -/
def StoreError.message : StoreError → String
  | notNumeric counting name =>
    "cannot " ++ counting.word ++ " non-numeric variable \"" ++ name ++ "\""

/-- The variables with their values. -/
structure Store where
  entries : Std.ExtTreeMap String Value

namespace Store

/-- No variables. -/
def empty : Store := ⟨∅⟩

/-- The value of a variable, when it is set. -/
def get? (s : Store) (name : String) : Option Value := s.entries[name]?

/-- The value of a variable, or another value when it is unset. -/
def getD (s : Store) (name : String) (fallback : Value) : Value := (s.get? name).getD fallback

/-- Whether a variable is set. -/
def contains (s : Store) (name : String) : Bool := s.entries.contains name

/-- The number of variables. -/
def size (s : Store) : Nat := s.entries.size

/-- The variables with their values, by name. -/
def toList (s : Store) : List (String × Value) := s.entries.toList

/-- Gives a variable a value. -/
def set (s : Store) (name : String) (value : Value) : Store := ⟨s.entries.insert name value⟩

/-- Unsets a variable. -/
def remove (s : Store) (name : String) : Store := ⟨s.entries.erase name⟩

/-- A store with the given values, later ones replacing earlier ones. -/
def ofList (entries : List (String × Value)) : Store :=
  entries.foldl (fun s (name, value) ↦ s.set name value) empty

/-- What a variable becomes when it is toggled: a truth value turns over, an unset variable becomes
true, and any other value becomes the opposite of its truthiness. -/
def toggled : Option Value → Value
  | none => .bool true
  | some value => .bool (!value.isTruthy)

/-- Turns a variable over. -/
def toggle (s : Store) (name : String) : Store := s.set name (toggled (s.get? name))

/-- What a variable becomes when an amount is added to it; an unset variable counts as zero. -/
def counted (counting : Counting) (name : String) (amount : Float) :
    Option Value → Except StoreError Value
  | none => .ok (.number (0 + amount))
  | some value =>
    match value.toNumber? with
    | some x => .ok (.number (x + amount))
    | none => .error (.notNumeric counting name)

/-- Counts a variable up or down. -/
def count (s : Store) (counting : Counting) (name : String) (amount : Float) :
    Except StoreError Store := do
  let value ← counted counting name (counting.signed amount) (s.get? name)
  return s.set name value

/-- What a variable becomes when a text is joined to its display text. -/
def joined (value : String) (prepend : Bool) (current : Option Value) : Value :=
  let shown := (current.map Value.display).getD ""
  .text (if prepend then value ++ shown else shown ++ value)

/-- Joins a text to a variable, in front of it or behind it. -/
def concatenate (s : Store) (name value : String) (prepend : Bool) : Store :=
  s.set name (joined value prepend (s.get? name))

/-- Writes every value of another store; variables unset there are left as they are. -/
def restore (s saved : Store) : Store :=
  saved.toList.foldl (fun s (name, value) ↦ s.set name value) s

/-- A variable that was set has the value it was given. -/
theorem get?_set (s : Store) (name other : String) (value : Value) :
    (s.set name value).get? other = if name = other then some value else s.get? other := by
  simp [get?, set, Std.ExtTreeMap.getElem?_insert]

/-- A variable that was removed is unset. -/
theorem get?_remove (s : Store) (name other : String) :
    (s.remove name).get? other = if name = other then none else s.get? other := by
  simp [get?, remove, Std.ExtTreeMap.getElem?_erase]

/-- Stores that agree on every name are equal. -/
theorem ext {s t : Store} (h : ∀ name, s.get? name = t.get? name) : s = t := by
  cases s
  cases t
  congr 1
  exact Std.ExtTreeMap.ext_getElem? h

end Store

end Teletype
