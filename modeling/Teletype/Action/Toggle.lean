import Std.Data.ExtTreeMap
import Teletype.Content.Basic
/-!
# The toggle board

The board holds, for every toggle item, which of its states is showing. Flipping goes to the next
state and from the last one back to the first.
-/

namespace Teletype

/-- The state of a toggle: the place of the one that shows, and how many there are. -/
structure ToggleSlot where
  active : Nat
  count : Nat
  deriving DecidableEq, Repr

namespace ToggleSlot

/-- A toggle shows its first state that is marked as active, or else its first one. -/
def ofStates (states : List ToggleState) : ToggleSlot where
  active := (states.findIdx? ToggleState.active).getD 0
  count := states.length

/-- The next state; without states there is none to go to. -/
def flip (slot : ToggleSlot) : ToggleSlot :=
  if slot.count = 0 then slot else { slot with active := (slot.active + 1) % slot.count }

end ToggleSlot

/-- The toggles by the ids of their items. -/
structure ToggleBoard where
  slots : Std.ExtTreeMap String ToggleSlot

namespace ToggleBoard

/-- No toggles. -/
def empty : ToggleBoard := ⟨∅⟩

/-- Puts a toggle on the board, in place of any other of the same id. -/
def register (b : ToggleBoard) (id : String) (states : List ToggleState) : ToggleBoard :=
  ⟨b.slots.insert id (.ofStates states)⟩

/-- The board of several toggles. -/
def ofToggles (toggles : List (String × List ToggleState)) : ToggleBoard :=
  toggles.foldl (fun b (id, states) ↦ b.register id states) empty

/-- The place of the state that shows. -/
def active? (b : ToggleBoard) (id : String) : Option Nat := b.slots[id]?.map ToggleSlot.active

/-- Whether there is a toggle of an id. -/
def contains (b : ToggleBoard) (id : String) : Bool := b.slots.contains id

/-- Flips a toggle; an unknown id changes nothing. -/
def flip (b : ToggleBoard) (id : String) : ToggleBoard :=
  match b.slots[id]? with
  | some slot => ⟨b.slots.insert id slot.flip⟩
  | none => b

/-- The toggles and the places of the states that show, by id. -/
def toList (b : ToggleBoard) : List (String × Nat) :=
  b.slots.toList.map fun (id, slot) ↦ (id, slot.active)

end ToggleBoard

end Teletype
