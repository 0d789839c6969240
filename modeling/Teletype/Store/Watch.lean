import Teletype.Store.Basic
/-!
# Watching a store

A watched store delivers every change, once it is made, to all who subscribed. A change tells the
name, the value before and the value after; handles of subscriptions are never used twice.
-/

namespace Teletype

/-- One change of one variable, after it has been made. -/
structure Change where
  name : String
  previous : Option Value
  current : Option Value

/-- A change as it reaches one subscriber. -/
structure Notice where
  handle : Nat
  change : Change

/-- A store with its subscribers, in the order in which they subscribed. -/
structure WatchedStore where
  store : Store
  handles : List Nat
  nextHandle : Nat

/-- The ways to change a store. -/
inductive StoreOperation where
  | set (name : String) (value : Value)
  | remove (name : String)
  | clear
  | toggle (name : String)
  | count (counting : Counting) (name : String) (amount : Float)
  | concatenate (name value : String) (prepend : Bool)
  | restore (saved : Store)

namespace WatchedStore

/-- A store that nobody watches yet. -/
def ofStore (store : Store) : WatchedStore := ⟨store, [], 0⟩

/-- The same change for every subscriber. -/
def notices (w : WatchedStore) (change : Change) : List Notice :=
  w.handles.map fun handle ↦ ⟨handle, change⟩

/-- Gives a variable a value and tells the subscribers. -/
def set (w : WatchedStore) (name : String) (value : Value) : WatchedStore × List Notice :=
  ({ w with store := w.store.set name value },
    w.notices ⟨name, w.store.get? name, some value⟩)

/-- Unsets a variable; an unset one changes nothing and nobody is told. -/
def remove (w : WatchedStore) (name : String) : WatchedStore × List Notice :=
  match w.store.get? name with
  | none => (w, [])
  | some value =>
    ({ w with store := w.store.remove name }, w.notices ⟨name, some value, none⟩)

/-- Unsets variables one after another. -/
def removeAll (w : WatchedStore) : List String → WatchedStore × List Notice
  | [] => (w, [])
  | name :: names =>
    let (w, first) := w.remove name
    let (w, rest) := w.removeAll names
    (w, first ++ rest)

/-- Gives variables values one after another. -/
def setAll (w : WatchedStore) : List (String × Value) → WatchedStore × List Notice
  | [] => (w, [])
  | (name, value) :: entries =>
    let (w, first) := w.set name value
    let (w, rest) := w.setAll entries
    (w, first ++ rest)

/-- Performs an operation. Clearing and restoring go through the names in order. -/
def perform (w : WatchedStore) : StoreOperation → Except StoreError (WatchedStore × List Notice)
  | .set name value => .ok (w.set name value)
  | .remove name => .ok (w.remove name)
  | .clear => .ok (w.removeAll (w.store.toList.map Prod.fst))
  | .toggle name => .ok (w.set name (Store.toggled (w.store.get? name)))
  | .count counting name amount => do
    let value ← Store.counted counting name (counting.signed amount) (w.store.get? name)
    return w.set name value
  | .concatenate name value prepend =>
    .ok (w.set name (Store.joined value prepend (w.store.get? name)))
  | .restore saved => .ok (w.setAll saved.toList)

/-- Adds a subscriber under a new handle. -/
def subscribe (w : WatchedStore) : WatchedStore × Nat :=
  ({ w with handles := w.handles ++ [w.nextHandle], nextHandle := w.nextHandle + 1 },
    w.nextHandle)

/-- Removes a subscriber and tells whether there was one. -/
def unsubscribe (w : WatchedStore) (handle : Nat) : WatchedStore × Bool :=
  ({ w with handles := w.handles.filter (· ≠ handle) }, w.handles.contains handle)

end WatchedStore

end Teletype
