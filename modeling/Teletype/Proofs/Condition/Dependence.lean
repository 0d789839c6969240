import Teletype.Condition.Basic
/-!
# What conditions depend on

A condition looks at no variable of a store but those that it reads, and it reads those that stand
in its comparisons. Without negations, unset variables can only make it false: what holds over a
store holds over every store with further variables.
-/

namespace Teletype

namespace Store

variable {larger store : Store}

/-- A store that has every variable of another with its value, and may have further ones. -/
def Extends (larger store : Store) : Prop :=
  ∀ name value, store.get? name = some value → larger.get? name = some value

/-- A store without some of its variables. -/
def without (store : Store) (names : List String) : Store := names.foldl remove store

/-- A store extends what is left of it when variables are removed. -/
theorem extends_without (store : Store) (names : List String) :
    store.Extends (store.without names) := by
  induction names generalizing store with
  | nil => exact fun _ _ set ↦ set
  | cons removed names ih =>
    intro name value set
    have left := ih (store.remove removed) name value set
    rw [get?_remove] at left
    split at left
    · cases left
    · exact left

/-- A store with a variable that was unset extends the store. -/
theorem extends_set {name : String} (unset : store.get? name = none) (value : Value) :
    (store.set name value).Extends store := by
  intro other found set
  have apart : name ≠ other := by
    rintro rfl
    rw [unset] at set
    cases set
  rw [get?_set, if_neg apart, set]

/-- An operand that has a value keeps it when there are further variables. -/
theorem Extends.resolve? (h : larger.Extends store) {operand : Operand} {value : Value}
    (resolved : operand.resolve? store = some value) : operand.resolve? larger = some value := by
  cases operand with
  | named name => exact h name value resolved
  | literal _ => exact resolved

end Store

namespace Comparison

variable {c : Comparison} {larger store other : Store}

/-- A comparison that holds has compared the values of both operands. -/
theorem exists_of_holds (h : c.holds store = true) :
    ∃ left right, c.left.resolve? store = some left ∧ c.right.resolve? store = some right := by
  unfold holds at h
  split at h
  · next left right hl hr => exact ⟨left, right, hl, hr⟩
  · cases h

/-- A comparison gives the same over stores in which its operands have the same values. -/
theorem holds_congr (left : c.left.resolve? store = c.left.resolve? other)
    (right : c.right.resolve? store = c.right.resolve? other) :
    c.holds store = c.holds other := by
  rw [holds, holds, left, right]

/-- A comparison that holds goes on to hold when there are further variables, also one that denies
something: it has found the values that it compares. -/
theorem holds_of_extends (h : larger.Extends store) (holds : c.holds store = true) :
    c.holds larger = true := by
  obtain ⟨left, right, hl, hr⟩ := exists_of_holds holds
  rw [← holds]
  exact holds_congr ((h.resolve? hl).trans hl.symm) ((h.resolve? hr).trans hr.symm)

/-- A comparison reads the variables that are its operands. -/
theorem mem_reads_iff {name : String} :
    name ∈ c.reads ↔ c.left = .named name ∨ c.right = .named name := by
  have operand (o : Operand) : name ∈ o.reads ↔ o = .named name := by
    cases o <;> simp [Operand.reads, eq_comm]
  rw [reads, List.mem_append, operand, operand]

end Comparison

namespace Condition

variable {c : Condition} {several : List Condition} {store : Store} {name : String}

/-! ## Parts -/

/-- The conditions that a condition is directly put together from. -/
def parts : Condition → List Condition
  | all parts | any parts => parts
  | negation part => [part]
  | comparison _ => []

/-- What holds of a condition whenever it holds of its parts holds of every condition. -/
@[elab_as_elim]
theorem byParts {motive : Condition → Prop}
    (step : ∀ c : Condition, (∀ part ∈ c.parts, motive part) → motive c) (c : Condition) :
    motive c :=
  @Condition.rec motive (fun parts ↦ ∀ part ∈ parts, motive part)
    (fun parts h ↦ step (all parts) h) (fun parts h ↦ step (any parts) h)
    (fun part h ↦ step (negation part) (List.forall_mem_singleton.mpr h))
    (fun c ↦ step (comparison c) (List.forall_mem_nil _)) (List.forall_mem_nil _)
    (fun _ _ first rest ↦ List.forall_mem_cons.mpr ⟨first, rest⟩) c

/-- All of several conditions hold when each of them does. -/
theorem holds_all_iff :
    (all several).holds store = true ↔ ∀ part ∈ several, part.holds store = true := by
  rw [holds]
  induction several with
  | nil => simp [allHold]
  | cons part several ih => rw [allHold, Bool.and_eq_true, ih, List.forall_mem_cons]

/-- One of several conditions holds when some of them does. -/
theorem holds_any_iff :
    (any several).holds store = true ↔ ∃ part ∈ several, part.holds store = true := by
  rw [holds]
  induction several with
  | nil => simp [anyHolds]
  | cons part several ih => simp [anyHolds, ih]

/-- Several conditions read what some of them reads. -/
private theorem mem_readsOf_iff : name ∈ readsOf several ↔ ∃ part ∈ several, name ∈ part.reads := by
  induction several with
  | nil => simp [readsOf]
  | cons part several ih => simp [readsOf, ih]

/-- A condition reads what its own comparison reads, or else what some part of it reads. -/
theorem mem_reads_cases :
    name ∈ c.reads ↔
      (∃ own, c = comparison own ∧ name ∈ own.reads) ∨ ∃ part ∈ c.parts, name ∈ part.reads := by
  cases c with
  | all | any => simp [reads, parts, mem_readsOf_iff]
  | negation | comparison => simp [reads, parts]

/-! ## The variables that are looked at -/

/-- A comparison that stands somewhere in a condition. -/
inductive Compares : Condition → Comparison → Prop
  | self (own : Comparison) : Compares (comparison own) own
  | inside {c part : Condition} {asked : Comparison} (member : part ∈ c.parts)
    (deeper : Compares part asked) : Compares c asked

/-- A condition reads what the comparisons in it read. -/
theorem mem_reads_iff : name ∈ c.reads ↔ ∃ asked, c.Compares asked ∧ name ∈ asked.reads := by
  constructor
  · intro read
    induction c using byParts with | step c ih =>
    rcases mem_reads_cases.mp read with ⟨own, rfl, read⟩ | ⟨part, member, read⟩
    · exact ⟨own, .self own, read⟩
    · obtain ⟨asked, deeper, read⟩ := ih part member read
      exact ⟨asked, .inside member deeper, read⟩
  · rintro ⟨asked, stands, read⟩
    induction stands with
    | self own => exact read
    | inside member _ ih => exact mem_reads_cases.mpr (.inr ⟨_, member, ih read⟩)

/-- A condition gives the same over stores that agree on the variables it reads. -/
theorem holds_congr {other : Store}
    (agree : ∀ name ∈ c.reads, store.get? name = other.get? name) :
    c.holds store = c.holds other := by
  induction c using byParts with | step c ih =>
  -- the parts read no more than the whole, so the stores agree on what they read
  have inside : ∀ part ∈ c.parts, part.holds store = part.holds other :=
    fun part member ↦ ih part member fun name read ↦
      agree name (mem_reads_cases.mpr (.inr ⟨part, member, read⟩))
  cases c with
  | all parts =>
    rw [Bool.eq_iff_iff, holds_all_iff, holds_all_iff]
    exact forall₂_congr fun part member ↦ by rw [inside part member]
  | any parts =>
    rw [Bool.eq_iff_iff, holds_any_iff, holds_any_iff]
    exact exists_congr fun part ↦ and_congr_right fun member ↦ by rw [inside part member]
  | negation part => rw [holds, holds, inside part (List.mem_singleton.mpr rfl)]
  | comparison own =>
    have operand {o : Operand} (reads : ∀ name ∈ o.reads, name ∈ own.reads) :
        o.resolve? store = o.resolve? other := by
      cases o with
      | named name => exact agree name (reads name (List.mem_singleton.mpr rfl))
      | literal value => rfl
    rw [holds, holds]
    exact Comparison.holds_congr (operand fun _ h ↦ List.mem_append_left _ h)
      (operand fun _ h ↦ List.mem_append_right _ h)

/-- What a condition gives depends on nothing but the variables that it lists, and it lists those
that are operands of the comparisons in it, however deep they stand, and no others. -/
theorem holds_depends_on_reads (c : Condition) :
    (∀ store other : Store, (∀ name ∈ c.reads, store.get? name = other.get? name) →
        c.holds store = c.holds other) ∧
      ∀ name, name ∈ c.reads ↔
        ∃ asked, c.Compares asked ∧ (asked.left = .named name ∨ asked.right = .named name) := by
  refine ⟨fun store other agree ↦ holds_congr agree, fun name ↦ ?_⟩
  rw [mem_reads_iff]
  exact exists_congr fun asked ↦ and_congr_right fun _ ↦ Comparison.mem_reads_iff

/-- The log begins well or somebody else has written it, and it tells of no alarm. -/
def calmNight : Condition :=
  .all [.any [.comparison ⟨.notEqual, .named "name", .literal (.text "sonya"), true⟩,
      .comparison ⟨.startsWith, .named "log", .literal (.text "all"), false⟩],
    .comparison ⟨.lacks, .named "log", .literal (.text "alarm"), false⟩]

/-- The desk of the night watch. -/
def desk : Store := (Store.empty.set "name" (.text "SONYA")).set "log" (.text "all quiet")

/-- Whether a door is open has no part in whether the night is not calm, but the log has. -/
theorem open_door_makes_no_difference :
    (∀ name ∈ (negation calmNight).reads,
        desk.get? name = (desk.set "door" (.bool true)).get? name) ∧
      (negation calmNight).holds desk = (negation calmNight).holds (desk.set "door" (.bool true)) ∧
      ∃ asked, (negation calmNight).Compares asked ∧
        (asked.left = .named "log" ∨ asked.right = .named "log") := by
  have unread : "door" ∉ (negation calmNight).reads := by decide
  have agree : ∀ name ∈ (negation calmNight).reads,
      desk.get? name = (desk.set "door" (.bool true)).get? name := by
    intro name read
    rw [Store.get?_set, if_neg (ne_of_mem_of_not_mem read unread).symm]
  obtain ⟨same, listed⟩ := holds_depends_on_reads (negation calmNight)
  exact ⟨agree, same _ _ agree, (listed "log").mp (by decide)⟩

/-! ## Further variables -/

/-- A condition without negations. -/
inductive IsPositive : Condition → Prop
  | all {parts : List Condition} (inside : ∀ part ∈ parts, IsPositive part) : IsPositive (all parts)
  | any {parts : List Condition} (inside : ∀ part ∈ parts, IsPositive part) : IsPositive (any parts)
  | comparison (own : Comparison) : IsPositive (comparison own)

/-- A condition without negations that holds goes on to hold when there are further variables. -/
theorem IsPositive.holds_of_extends (positive : c.IsPositive) {larger : Store}
    (h : larger.Extends store) (holds : c.holds store = true) : c.holds larger = true := by
  induction positive with
  | all _ ih =>
    rw [holds_all_iff] at holds ⊢
    exact fun part member ↦ ih part member (holds part member)
  | any _ ih =>
    rw [holds_any_iff] at holds ⊢
    obtain ⟨part, member, some_holds⟩ := holds
    exact ⟨part, member, ih part member some_holds⟩
  | comparison own =>
    rw [Condition.holds] at holds ⊢
    exact Comparison.holds_of_extends h holds

/-- Unset variables can only make a condition without negations false: where it holds, it holds with
any further variables, and where it does not hold, removing variables does not make it hold. -/
theorem IsPositive.unset_only_refuses (positive : c.IsPositive) (store : Store) :
    (c.holds store = true → ∀ larger : Store, larger.Extends store → c.holds larger = true) ∧
      (c.holds store = false → ∀ names, c.holds (store.without names) = false) := by
  refine ⟨fun holds larger h ↦ positive.holds_of_extends h holds, fun fails names ↦ ?_⟩
  rw [Bool.eq_false_iff] at fails ⊢
  exact fun holds ↦ fails (positive.holds_of_extends (store.extends_without names) holds)

/-- The calm of a night does not depend on what else is known, and cannot be told without a log. -/
theorem calm_night_stays_calm :
    calmNight.IsPositive ∧ calmNight.holds desk = true ∧
      calmNight.holds (desk.set "door" (.bool true)) = true ∧
      calmNight.holds (desk.without ["log"]) = false ∧
      calmNight.holds ((desk.without ["log"]).without ["name"]) = false := by
  have positive : calmNight.IsPositive := by
    refine .all ?_
    simp only [List.forall_mem_cons, List.not_mem_nil, false_implies, implies_true, and_true]
    refine ⟨.any ?_, .comparison _⟩
    simp only [List.forall_mem_cons, List.not_mem_nil, false_implies, implies_true, and_true]
    exact ⟨.comparison _, .comparison _⟩
  have calm : calmNight.holds desk = true := by decide +kernel
  have untold : calmNight.holds (desk.without ["log"]) = false := by decide +kernel
  have unset : desk.get? "door" = none := by decide +kernel
  exact ⟨positive, calm,
    (positive.unset_only_refuses desk).1 calm _ (Store.extends_set unset _), untold,
    (positive.unset_only_refuses _).2 untold ["name"]⟩

end Condition

end Teletype
