import Teletype.Proofs.Command.Choice
/-!
# Dispatching after any history

A dispatcher keeps what it has read of patterns, patterns that cannot be read included. What is kept
of a pattern is always what reading it anew gives, so the command that an input runs depends on the
commands and the input alone: it is the first one that the input answers to.
-/

namespace Teletype

/-- Whether an input answers to a command: it is one of its words, or one of its patterns, read
anew, matches it. -/
def Command.answers (c : Command) (input : String) : Bool :=
  c.patterns.any fun source ↦
    if c.allowRegex then
      (compilePattern source).toOption.any fun r ↦ r.occursIn (Text.trimChars input.toList)
    else foldInput input == foldInput source

namespace PatternCache

/-- What is kept of each pattern is what reading it anew gives. -/
def IsFaithful (cache : PatternCache) : Prop :=
  ∀ source read, cache[source]? = some read → read = (compilePattern source).toOption

/-- Nothing is kept wrongly where nothing is kept. -/
theorem isFaithful_empty : IsFaithful ∅ := by
  intro source read kept
  rw [Std.ExtTreeMap.getElem?_empty] at kept
  cases kept

variable {cache : PatternCache}

/-- Keeping what a pattern turned out to be keeps nothing wrongly. -/
private theorem IsFaithful.insert (h : cache.IsFaithful) (source : String) :
    IsFaithful (Std.ExtTreeMap.insert cache source (compilePattern source).toOption) := by
  intro other read kept
  rw [Std.ExtTreeMap.getElem?_insert] at kept
  split at kept
  · next same =>
    cases kept
    rw [Std.LawfulEqOrd.eq_of_compare same]
  · exact h other read kept

/-! ## What a faithful cache gives -/

/-- Looking a pattern up is reading it anew. -/
theorem IsFaithful.fst_lookup (h : cache.IsFaithful) (source : String) :
    (cache.lookup source).1 = (compilePattern source).toOption := by
  unfold lookup
  cases kept : cache[source]? with
  | some read => exact h source read kept
  | none => rfl

/-- Looking a pattern up keeps nothing wrongly. -/
theorem IsFaithful.snd_lookup (h : cache.IsFaithful) (source : String) :
    (cache.lookup source).2.IsFaithful := by
  unfold lookup
  cases cache[source]? with
  | some read => exact h
  | none => exact h.insert source

/-- Looking several patterns up is reading each of them anew. -/
theorem IsFaithful.fst_lookupAll (h : cache.IsFaithful) (sources : List String) :
    (cache.lookupAll sources).1 = sources.filterMap fun s ↦ (compilePattern s).toOption := by
  induction sources generalizing cache with
  | nil => rfl
  | cons source sources ih =>
    change (cache.lookup source).1.toList ++ ((cache.lookup source).2.lookupAll sources).1 = _
    rw [ih (h.snd_lookup source), h.fst_lookup, List.filterMap_cons]
    cases (compilePattern source).toOption <;> rfl

/-- Looking several patterns up keeps nothing wrongly. -/
theorem IsFaithful.snd_lookupAll (h : cache.IsFaithful) (sources : List String) :
    (cache.lookupAll sources).2.IsFaithful := by
  induction sources generalizing cache with
  | nil => exact h
  | cons source sources ih => exact ih (h.snd_lookup source)

/-- The matcher of a command accepts what answers to the command. -/
theorem IsFaithful.accepts_matcher (h : cache.IsFaithful) (c : Command) (input : String) :
    (cache.matcher c).1.accepts input = c.answers input := by
  unfold matcher Command.answers
  cases c.allowRegex with
  | true =>
    change (cache.lookupAll c.patterns).1.any _ = _
    rw [h.fst_lookupAll, List.any_filterMap]
    rfl
  | false =>
    change (c.patterns.map foldInput).contains (foldInput input) = _
    rw [List.contains_eq_any_beq, List.any_map]
    rfl

/-- Making a matcher keeps nothing wrongly. -/
theorem IsFaithful.snd_matcher (h : cache.IsFaithful) (c : Command) :
    (cache.matcher c).2.IsFaithful := by
  unfold matcher
  cases c.allowRegex with
  | true => exact h.snd_lookupAll c.patterns
  | false => exact h

/-- The command that is found is the first one that the input answers to. -/
theorem IsFaithful.fst_find? (h : cache.IsFaithful) (input : String) (commands : List Command) :
    (cache.find? input commands).1 = commands.find? fun c ↦ c.answers input := by
  induction commands generalizing cache with
  | nil => rfl
  | cons c commands ih =>
    rw [PatternCache.find?, List.find?_cons, ← h.accepts_matcher c input]
    cases accepted : (cache.matcher c).1.accepts input with
    | true => simp [accepted]
    | false => simpa [accepted] using ih (h.snd_matcher c)

/-- Looking for a command keeps nothing wrongly. -/
theorem IsFaithful.snd_find? (h : cache.IsFaithful) (input : String) (commands : List Command) :
    (cache.find? input commands).2.IsFaithful := by
  induction commands generalizing cache with
  | nil => exact h
  | cons c commands ih =>
    rw [PatternCache.find?]
    cases accepted : (cache.matcher c).1.accepts input with
    | true => simpa [accepted] using h.snd_matcher c
    | false => simpa [accepted] using ih (h.snd_matcher c)

end PatternCache

/-! ## Dispatchers in use -/

/-- What a dispatcher is asked for: the matcher of a command, the first of several commands that an
input answers to, or to run an input at a prompt. -/
inductive DispatcherCall where
  | matcher (c : Command)
  | find (commands : List Command) (input : String)
  | dispatch (p : Prompt) (input : String) (w : World)

namespace Dispatcher

/-- A dispatcher after a call. -/
def after (d : Dispatcher) : DispatcherCall → Dispatcher
  | .matcher c => { d with cache := (d.cache.matcher c).2 }
  | .find commands input => (d.find? commands input).2
  | .dispatch p input w => (d.dispatch p input w).2

/-- A dispatcher after calls. -/
def afterAll (d : Dispatcher) (calls : List DispatcherCall) : Dispatcher := calls.foldl after d

/-- A dispatcher knows its host's commands and keeps nothing wrongly. -/
structure Serves (hostCommands : List Command) (d : Dispatcher) : Prop where
  hostCommands_eq : d.hostCommands = hostCommands
  faithful : d.cache.IsFaithful

variable {hostCommands : List Command} {d : Dispatcher}

/-- A new dispatcher serves its host. -/
theorem serves_ofCommands (hostCommands : List Command) :
    (ofCommands hostCommands).Serves hostCommands :=
  ⟨rfl, PatternCache.isFaithful_empty⟩

/-- The command that is chosen at a prompt is the first one that the input answers to among the
host's, where they are allowed, and the prompt's own. -/
theorem Serves.fst_choose (h : d.Serves hostCommands) (p : Prompt) (input : String) :
    (d.choose p input).1 =
      ((if p.allowMetaCommands then hostCommands else []) ++ p.commands).find?
        fun c ↦ c.answers input := by
  unfold choose
  cases p.allowMetaCommands with
  | false => exact h.faithful.fst_find? input p.commands
  | true =>
    have first := h.faithful.fst_find? input d.hostCommands
    have later := (h.faithful.snd_find? input d.hostCommands).fst_find? input p.commands
    rw [h.hostCommands_eq] at first later ⊢
    rw [if_pos rfl, if_pos rfl, List.find?_append, ← first, ← later]
    unfold find?
    rcases d.cache.find? input hostCommands with ⟨_ | c, cache⟩ <;> rfl

/-- Choosing a command keeps nothing wrongly. -/
theorem Serves.snd_choose (h : d.Serves hostCommands) (p : Prompt) (input : String) :
    (d.choose p input).2.Serves hostCommands := by
  refine ⟨(hostCommands_choose d p input).trans h.hostCommands_eq, ?_⟩
  have first := h.faithful.snd_find? input d.hostCommands
  unfold choose find?
  cases p.allowMetaCommands with
  | false => exact h.faithful.snd_find? input p.commands
  | true =>
    rw [if_pos rfl]
    rcases found : d.cache.find? input d.hostCommands with ⟨_ | c, cache⟩
    · rw [found] at first
      exact first.snd_find? input p.commands
    · rw [found] at first
      exact first

/-- A dispatcher that serves its host goes on doing so after a call. -/
theorem Serves.after (h : d.Serves hostCommands) (call : DispatcherCall) :
    (d.after call).Serves hostCommands := by
  cases call with
  | matcher c => exact ⟨h.hostCommands_eq, h.faithful.snd_matcher c⟩
  | find commands input => exact ⟨h.hostCommands_eq, h.faithful.snd_find? input commands⟩
  | dispatch p input w =>
    rw [Dispatcher.after, dispatch_eq]
    exact h.snd_choose p input

/-- A dispatcher that serves its host goes on doing so after calls. -/
theorem Serves.afterAll (h : d.Serves hostCommands) (calls : List DispatcherCall) :
    (d.afterAll calls).Serves hostCommands := by
  induction calls generalizing d with
  | nil => exact h
  | cons call calls ih => exact ih (h.after call)

/-- Whatever a dispatcher was asked for before, an input runs the first command that it answers to,
among the host's where the prompt allows them and then the prompt's own. The input is kept before
the action runs, and what the action comes to, failures included, is what comes of the input. An
input that answers to nothing changes nothing. -/
theorem dispatch_afterAll (hostCommands : List Command) (calls : List DispatcherCall) (p : Prompt)
    (input : String) (w : World) :
    (((ofCommands hostCommands).afterAll calls).dispatch p input w).1 =
      match ((if p.allowMetaCommands then hostCommands else []) ++ p.commands).find?
        fun c ↦ c.answers input with
      | none => .ok .unhandled w
      | some c =>
        match c.action.perform (some input)
          { w with store := w.store.set lastCommandName (.text input) } with
        | .ok signals t => .ok ⟨true, signals⟩ t
        | .error e t => .error e t := by
  have serves := (serves_ofCommands hostCommands).afterAll calls
  rw [dispatch_eq, serves.fst_choose]
  cases ((if p.allowMetaCommands then hostCommands else []) ++ p.commands).find?
      fun c ↦ c.answers input with
  | none => rfl
  | some c => exact c.run_eq input w

end Dispatcher

end Teletype
