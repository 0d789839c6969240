import Teletype.Store.Watch
/-!
# The changes that a subscriber hears of

A subscriber that keeps a copy of a store and makes every change it is told of has, at any time, the
store itself. An operation comes to a list of changes, each of which tells the value that it
replaces; clearing and restoring come to one change for each name.
-/

namespace Teletype

/-- A copy of a store after one change. -/
def Change.applyTo (change : Change) (copy : Store) : Store :=
  match change.current with
  | some value => copy.set change.name value
  | none => copy.remove change.name

/-- The changes that one subscriber is told of. -/
def Notice.heardBy (handle : Nat) (notices : List Notice) : List Change :=
  notices.filterMap fun notice ↦ if notice.handle = handle then some notice.change else none

namespace Store

/-- A copy of a store after changes, one after another. -/
def replay (copy : Store) (changes : List Change) : Store :=
  changes.foldl (fun copy change ↦ change.applyTo copy) copy

/-- Each of the changes tells, as the value before it, what the copy has just before it is made. -/
def Follows : Store → List Change → Prop
  | _, [] => True
  | copy, change :: changes =>
    change.previous = copy.get? change.name ∧ (change.applyTo copy).Follows changes

/-- Making changes is making the first of them and then the others. -/
theorem replay_append (copy : Store) (first rest : List Change) :
    copy.replay (first ++ rest) = (copy.replay first).replay rest :=
  List.foldl_append

/-- Changes follow a copy as far as their first part follows it and the rest what that part made. -/
theorem follows_append (copy : Store) (first rest : List Change) :
    copy.Follows (first ++ rest) ↔ copy.Follows first ∧ (copy.replay first).Follows rest := by
  induction first generalizing copy with
  | nil => simp [Follows, replay]
  | cons change first ih =>
    rw [List.cons_append, Follows, Follows, ih, and_assoc]
    rfl

end Store

/-- What may happen to a watched store: its operations, and subscribers that come and go. -/
inductive StoreCall where
  | change (operation : StoreOperation)
  | subscribe
  | unsubscribe (handle : Nat)

namespace WatchedStore

/-- A watched store after a call, and what its subscribers are told. A refused operation leaves the
store and tells nobody. -/
def act (w : WatchedStore) : StoreCall → WatchedStore × List Notice
  | .change operation =>
    match w.perform operation with
    | .ok after => after
    | .error _ => (w, [])
  | .subscribe => (w.subscribe.1, [])
  | .unsubscribe handle => ((w.unsubscribe handle).1, [])

/-- A watched store after calls, and all that its subscribers are told. -/
def actAll (w : WatchedStore) : List StoreCall → WatchedStore × List Notice
  | [] => (w, [])
  | call :: calls =>
    let (w, first) := w.act call
    let (w, rest) := w.actAll calls
    (w, first ++ rest)

/-- The handles that are given out in calls. -/
def issued (w : WatchedStore) : List StoreCall → List Nat
  | [] => []
  | call :: calls =>
    (match call with
      | .subscribe => [w.subscribe.2]
      | _ => []) ++ (w.act call).1.issued calls

/-! ## What an operation comes to -/

/-- An operation comes to changes that follow the store: they are made in turn, and each is told to
everyone. -/
structure Logged (w : WatchedStore) (changes : List Change) (after : WatchedStore × List Notice) :
    Prop where
  store_eq : after.1 = { w with store := w.store.replay changes }
  follows : w.store.Follows changes
  told : after.2 = changes.flatMap w.notices

/-- Doing nothing comes to no change. -/
theorem Logged.refl (w : WatchedStore) : Logged w [] (w, []) :=
  ⟨rfl, trivial, rfl⟩

/-- Two operations come to the changes of the one and then those of the other. -/
theorem Logged.append {w middle after : WatchedStore} {told told' : List Notice}
    {changes changes' : List Change} (first : Logged w changes (middle, told))
    (rest : Logged middle changes' (after, told')) :
    Logged w (changes ++ changes') (after, told ++ told') := by
  have middle_eq : middle = { w with store := w.store.replay changes } := first.store_eq
  have same : middle.notices = w.notices := by rw [middle_eq]; rfl
  constructor
  · rw [rest.store_eq, middle_eq, Store.replay_append]
  · have follows := rest.follows
    rw [middle_eq] at follows
    exact (Store.follows_append ..).mpr ⟨first.follows, follows⟩
  · rw [List.flatMap_append, ← same, ← rest.told, same, ← first.told]

/-- Giving a variable a value is one change. -/
theorem logged_set (w : WatchedStore) (name : String) (value : Value) :
    Logged w [⟨name, w.store.get? name, some value⟩] (w.set name value) :=
  ⟨rfl, ⟨rfl, trivial⟩, (List.append_nil _).symm⟩

/-- Unsetting a variable that is unset does nothing. -/
theorem remove_of_none {w : WatchedStore} {name : String} (h : w.store.get? name = none) :
    w.remove name = (w, []) := by
  rw [remove, h]

/-- Unsetting a variable is one change, or none when it is unset. -/
theorem logged_remove (w : WatchedStore) (name : String) :
    ∃ changes, Logged w changes (w.remove name) := by
  cases h : w.store.get? name with
  | none => exact ⟨[], remove_of_none h ▸ Logged.refl w⟩
  | some value =>
    refine ⟨[⟨name, some value, none⟩], ?_⟩
    rw [remove, h]
    exact ⟨rfl, ⟨h.symm, trivial⟩, (List.append_nil _).symm⟩

/-- Unsetting variables one after another comes to the changes of all of them. -/
theorem logged_removeAll (w : WatchedStore) (names : List String) :
    ∃ changes, Logged w changes (w.removeAll names) := by
  induction names generalizing w with
  | nil => exact ⟨[], Logged.refl w⟩
  | cons name names ih =>
    obtain ⟨first, logged⟩ := logged_remove w name
    obtain ⟨rest, logged'⟩ := ih (w.remove name).1
    exact ⟨first ++ rest, logged.append logged'⟩

/-- Giving variables values one after another comes to the changes of all of them. -/
theorem logged_setAll (w : WatchedStore) (entries : List (String × Value)) :
    ∃ changes, Logged w changes (w.setAll entries) := by
  induction entries generalizing w with
  | nil => exact ⟨[], Logged.refl w⟩
  | cons entry entries ih =>
    obtain ⟨rest, logged⟩ := ih (w.set entry.1 entry.2).1
    exact ⟨_ ++ rest, (logged_set w entry.1 entry.2).append logged⟩

/-- Every operation that is not refused comes to changes. -/
theorem logged_perform {w : WatchedStore} {operation : StoreOperation}
    {after : WatchedStore × List Notice} (h : w.perform operation = .ok after) :
    ∃ changes, Logged w changes after := by
  cases operation with
  | set name value =>
    cases h
    exact ⟨_, logged_set w name value⟩
  | remove name =>
    cases h
    exact logged_remove w name
  | clear =>
    cases h
    exact logged_removeAll w _
  | toggle name =>
    cases h
    exact ⟨_, logged_set w name _⟩
  | count counting name amount =>
    rw [perform] at h
    cases value : Store.counted counting name (counting.signed amount) (w.store.get? name) with
    | error e => rw [value] at h; cases h
    | ok value' =>
      rw [value] at h
      cases h
      exact ⟨_, logged_set w name value'⟩
  | concatenate name value prepend =>
    cases h
    exact ⟨_, logged_set w name _⟩
  | restore saved =>
    cases h
    exact logged_setAll w _

/-- An operation is refused only where it counts a variable that is set and does not read as a
number. -/
theorem perform_eq_error_iff (w : WatchedStore) (operation : StoreOperation) (e : StoreError) :
    w.perform operation = .error e ↔
      ∃ counting name amount value, operation = .count counting name amount ∧
        w.store.get? name = some value ∧ value.toNumber? = none ∧ e = .notNumeric counting name := by
  cases operation with
  | count counting name amount =>
    cases current : w.store.get? name with
    | none => simp [perform, Store.counted, bind, Except.bind, pure, Except.pure, current]
    | some value =>
      cases number : value.toNumber? with
      | some x =>
        simp [perform, Store.counted, bind, Except.bind, pure, Except.pure, current, number]
      | none =>
        have refused : w.perform (.count counting name amount) =
            .error (.notNumeric counting name) := by
          simp only [perform, current, Store.counted, number, bind, Except.bind]
        rw [refused]
        constructor
        · intro h
          cases h
          exact ⟨counting, name, amount, value, rfl, current, number, rfl⟩
        · rintro ⟨_, _, _, _, ⟨⟩, -, -, rfl⟩
          rfl
  | _ => simp [perform]

/-! ## Subscribers -/

/-- Every handle in use was given out once and lies below the next one. -/
structure Numbered (w : WatchedStore) : Prop where
  nodup : w.handles.Nodup
  below : ∀ handle ∈ w.handles, handle < w.nextHandle

/-- No call takes the next handle back. -/
theorem nextHandle_act (w : WatchedStore) (call : StoreCall) :
    (w.act call).1.nextHandle =
      match call with
      | .subscribe => w.nextHandle + 1
      | _ => w.nextHandle := by
  cases call with
  | change operation =>
    rw [act]
    cases h : w.perform operation with
    | error e => rfl
    | ok after =>
      obtain ⟨changes, logged⟩ := logged_perform h
      simp only [logged.store_eq]
  | subscribe => rfl
  | unsubscribe handle => rfl

/-- The subscribers after a call. -/
theorem handles_act (w : WatchedStore) (call : StoreCall) :
    (w.act call).1.handles =
      match call with
      | .subscribe => w.handles ++ [w.nextHandle]
      | .unsubscribe handle => w.handles.filter (· ≠ handle)
      | .change _ => w.handles := by
  cases call with
  | change operation =>
    rw [act]
    cases h : w.perform operation with
    | error e => rfl
    | ok after =>
      obtain ⟨changes, logged⟩ := logged_perform h
      simp only [logged.store_eq]
  | subscribe => rfl
  | unsubscribe handle => rfl

/-- A store that nobody watches has its handles in order. -/
theorem Numbered.ofStore (s : Store) : (ofStore s).Numbered :=
  ⟨List.nodup_nil, fun _ h ↦ nomatch h⟩

/-- Calls keep the handles in order. -/
theorem Numbered.act {w : WatchedStore} (numbered : w.Numbered) (call : StoreCall) :
    (w.act call).1.Numbered := by
  constructor
  · rw [handles_act]
    cases call with
    | change operation => exact numbered.nodup
    | subscribe =>
      have fresh : w.nextHandle ∉ w.handles := fun h ↦ Nat.lt_irrefl _ (numbered.below _ h)
      exact List.nodup_append.mpr ⟨numbered.nodup, List.nodup_cons.mpr ⟨List.not_mem_nil, .nil⟩,
        fun handle h other next same ↦ fresh (List.mem_singleton.mp next ▸ same ▸ h)⟩
    | unsubscribe handle => exact numbered.nodup.filter _
  · rw [handles_act, nextHandle_act]
    cases call with
    | change operation => exact numbered.below
    | subscribe =>
      intro handle h
      rcases List.mem_append.mp h with h | h
      · exact Nat.lt_succ_of_lt (numbered.below handle h)
      · rw [List.mem_singleton.mp h]
        exact Nat.lt_succ_self _
    | unsubscribe gone => exact fun handle h ↦ numbered.below handle (List.mem_filter.mp h).1

/-- Any number of calls keeps the handles in order. -/
theorem Numbered.actAll {w : WatchedStore} (numbered : w.Numbered) (calls : List StoreCall) :
    (w.actAll calls).1.Numbered := by
  induction calls generalizing w with
  | nil => exact numbered
  | cons call calls ih => exact ih (numbered.act call)

/-- Handles that are given out grow, so that no two are the same. -/
theorem sorted_issued (w : WatchedStore) (calls : List StoreCall) :
    (w.issued calls).Pairwise (· < ·) ∧ ∀ handle ∈ w.issued calls, w.nextHandle ≤ handle := by
  induction calls generalizing w with
  | nil => exact ⟨.nil, fun _ h ↦ nomatch h⟩
  | cons call calls ih =>
    obtain ⟨sorted, above⟩ := ih (w.act call).1
    rw [nextHandle_act] at above
    cases call with
    | subscribe =>
      refine ⟨.cons (fun handle h ↦ above handle h) sorted, ?_⟩
      rintro handle (_ | ⟨_, h⟩)
      · exact Nat.le_refl _
      · exact Nat.le_of_succ_le (above handle h)
    | change operation => exact ⟨sorted, above⟩
    | unsubscribe gone => exact ⟨sorted, above⟩

/-- What is heard of a notice and of those that come after it. -/
theorem heardBy_cons (handle : Nat) (notice : Notice) (notices : List Notice) :
    Notice.heardBy handle (notice :: notices) =
      if notice.handle = handle then notice.change :: Notice.heardBy handle notices
      else Notice.heardBy handle notices := by
  by_cases h : notice.handle = handle <;> simp [Notice.heardBy, h]

/-- A handle that is not among others hears nothing. -/
private theorem heardBy_of_not_mem {handles : List Nat} {handle : Nat} (absent : handle ∉ handles)
    (change : Change) : Notice.heardBy handle (handles.map fun other ↦ ⟨other, change⟩) = [] := by
  rw [Notice.heardBy, List.filterMap_eq_nil_iff]
  intro notice told
  obtain ⟨other, mem, rfl⟩ := List.mem_map.mp told
  refine if_neg fun same ↦ absent ?_
  subst same
  exact mem

/-- A handle that stands once among others hears a change once. -/
private theorem heardBy_of_mem {handles : List Nat} (nodup : handles.Nodup) {handle : Nat}
    (watching : handle ∈ handles) (change : Change) :
    Notice.heardBy handle (handles.map fun other ↦ ⟨other, change⟩) = [change] := by
  induction handles with
  | nil => cases watching
  | cons first others ih =>
    obtain ⟨absent, nodup⟩ := List.nodup_cons.mp nodup
    rw [List.map_cons, heardBy_cons]
    by_cases h : first = handle
    · rw [if_pos h, heardBy_of_not_mem (h ▸ absent)]
    · rw [if_neg h, ih nodup ((List.mem_cons.mp watching).resolve_left (Ne.symm h))]

/-- What is heard of notices that come one after another. -/
theorem heardBy_append (handle : Nat) (first rest : List Notice) :
    Notice.heardBy handle (first ++ rest) =
      Notice.heardBy handle first ++ Notice.heardBy handle rest :=
  List.filterMap_append

/-- A subscriber hears each change that is told to everyone, once. -/
theorem heardBy_flatMap_notices {w : WatchedStore} (numbered : w.Numbered) {handle : Nat}
    (watching : handle ∈ w.handles) (changes : List Change) :
    Notice.heardBy handle (changes.flatMap w.notices) = changes := by
  induction changes with
  | nil => rfl
  | cons change changes ih =>
    have once : Notice.heardBy handle (w.notices change) = [change] :=
      heardBy_of_mem numbered.nodup watching change
    rw [List.flatMap_cons, heardBy_append, once, ih]
    rfl

/-- One call keeps the copy of a subscriber that stays equal to the store. -/
theorem heard_act {w : WatchedStore} (numbered : w.Numbered) {handle : Nat}
    (watching : handle ∈ w.handles) {call : StoreCall} (stays : call ≠ .unsubscribe handle) :
    handle ∈ (w.act call).1.handles ∧
      w.store.Follows (Notice.heardBy handle (w.act call).2) ∧
      w.store.replay (Notice.heardBy handle (w.act call).2) = (w.act call).1.store := by
  constructor
  · rw [handles_act]
    cases call with
    | change operation => exact watching
    | subscribe => exact List.mem_append_left _ watching
    | unsubscribe gone =>
      exact List.mem_filter.mpr ⟨watching, decide_eq_true fun same ↦ stays (same ▸ rfl)⟩
  · cases call with
    | change operation =>
      rw [act]
      cases h : w.perform operation with
      | error e => exact ⟨trivial, rfl⟩
      | ok after =>
        obtain ⟨changes, logged⟩ := logged_perform h
        simp only [logged.told, heardBy_flatMap_notices numbered watching]
        exact ⟨logged.follows, by rw [logged.store_eq]⟩
    | subscribe => exact ⟨trivial, rfl⟩
    | unsubscribe gone => exact ⟨trivial, rfl⟩

/-- Any number of calls keeps the copy of a subscriber that stays equal to the store. -/
theorem heard_actAll {w : WatchedStore} (numbered : w.Numbered) {handle : Nat}
    (watching : handle ∈ w.handles) {calls : List StoreCall}
    (stays : .unsubscribe handle ∉ calls) :
    w.store.Follows (Notice.heardBy handle (w.actAll calls).2) ∧
      w.store.replay (Notice.heardBy handle (w.actAll calls).2) = (w.actAll calls).1.store := by
  induction calls generalizing w with
  | nil => exact ⟨trivial, rfl⟩
  | cons call calls ih =>
    obtain ⟨other, stays⟩ := not_or.mp (mt List.mem_cons.mpr stays)
    obtain ⟨watching, follows, same⟩ := heard_act numbered watching (Ne.symm other)
    obtain ⟨follows', same'⟩ := ih (numbered.act call) watching stays
    simp only [actAll, heardBy_append, Store.follows_append, Store.replay_append, same]
    exact ⟨⟨follows, follows'⟩, same'⟩

/-- A subscriber that makes on a copy of the store, taken when it subscribed, every change it is
told of has the store at any time until it leaves, and each change tells the value that it replaces
in the copy. A count that is refused, and the removal of an unset variable, change nothing and are
told to nobody; a count is refused just where the variable is set and does not read as a number. No
handle is given out twice. -/
theorem heard_changes_make_store (start : Store) (before : List StoreCall) :
    let w := ((ofStore start).actAll before).1
    (∀ calls, .unsubscribe w.subscribe.2 ∉ calls →
      let later := w.subscribe.1.actAll calls
      let heard := Notice.heardBy w.subscribe.2 later.2
      w.store.replay heard = later.1.store ∧ w.store.Follows heard) ∧
    (∀ counting name amount,
      (∃ e, w.perform (.count counting name amount) = .error e) ↔
        ∃ value, w.store.get? name = some value ∧ value.toNumber? = none) ∧
    (∀ operation e, w.perform operation = .error e → w.act (.change operation) = (w, [])) ∧
    (∀ name, w.store.get? name = none → w.act (.change (.remove name)) = (w, [])) ∧
    ((ofStore start).issued before).Nodup := by
  intro w
  have numbered : w.Numbered := (Numbered.ofStore start).actAll before
  refine ⟨?heard, ?refused, ?failed, ?unset, ?handles⟩
  case heard =>
    intro calls stays
    have watching : w.subscribe.2 ∈ w.subscribe.1.handles :=
      List.mem_append_right _ (List.mem_singleton.mpr rfl)
    exact (heard_actAll (numbered.act .subscribe) watching stays).symm
  case refused =>
    intro counting name amount
    constructor
    · rintro ⟨e, h⟩
      obtain ⟨_, _, _, value, ⟨⟩, current, number, -⟩ := (perform_eq_error_iff w _ e).mp h
      exact ⟨value, current, number⟩
    · rintro ⟨value, current, number⟩
      exact ⟨_, (perform_eq_error_iff w _ _).mpr
        ⟨counting, name, amount, value, rfl, current, number, rfl⟩⟩
  case failed =>
    intro operation e h
    rw [act, h]
  case unset =>
    intro name h
    exact remove_of_none h
  case handles =>
    exact (sorted_issued _ before).1.imp fun below ↦ Nat.ne_of_lt below

/-- A subscriber that comes after another has left hears of a toggle and of each name that is
cleared, and not of a count that is refused; it ends with the store. -/
theorem heard_after_another_left :
    let start := Store.empty.set "name" (.text "sonya")
    let before := [.subscribe, .change (.set "coins" (.number 1)), .unsubscribe 0]
    let calls := [.change (.toggle "open"), .subscribe,
      .change (.count .increment "name" 1), .change .clear]
    let w := ((ofStore start).actAll before).1
    let later := w.subscribe.1.actAll calls
    let heard := Notice.heardBy w.subscribe.2 later.2
    heard.map Change.name = ["open", "coins", "name", "open"] ∧
      w.store.replay heard = later.1.store ∧ w.store.Follows heard := by
  intro start before calls w later heard
  have stays : .unsubscribe w.subscribe.2 ∉ calls := by simp [calls]
  exact ⟨by decide +kernel, (heard_changes_make_store start before).1 calls stays⟩

end WatchedStore

end Teletype
