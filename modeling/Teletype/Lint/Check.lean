import Teletype.Document.Links
import Teletype.Layout.Placeholder
/-!
# Checking a document

What can go wrong when a document is played is looked for beforehand. Errors are references to what
does not exist and steps that cannot be carried out; warnings are variables that nothing sets,
prompts without commands, and screens that nothing leads to.
-/

namespace Teletype.Lint

/-- What is wrong at a place of a document. -/
inductive Flaw where
  | noStates
  | badPattern (pattern : String)
  | missingScreen (id : String)
  | missingDialog (id : String)
  | missingToggle (id : String)
  | unknownMutation (kind target : String)
  | badRule (e : RuleError)
  | unknownStep
  | noCommands
  | unsetVariable (name : String)
  | unsetPlaceholder (name : String)
  deriving DecidableEq, Repr

namespace Flaw

/-- Whether a flaw is an error or no more than a warning. -/
def isError : Flaw → Bool
  | noCommands | unsetVariable _ | unsetPlaceholder _ => false
  | _ => true

/-- What is said about a flaw. -/
def message : Flaw → String
  | noStates => "toggle has no states"
  | badPattern pattern => "command pattern '" ++ pattern ++ "' does not compile"
  | missingScreen id => "link to missing screen '" ++ id ++ "'"
  | missingDialog id => "missing dialog '" ++ id ++ "'"
  | missingToggle id => "no toggle item '" ++ id ++ "'"
  | unknownMutation kind target =>
    "unknown variable action '" ++ kind ++ "' on '" ++ target ++ "'"
  | badRule e => e.message
  | unknownStep => "unknown action type"
  | noCommands => "prompt has no commands"
  | unsetVariable name =>
    "condition reads '" ++ name ++ "', which is never declared or set"
  | unsetPlaceholder name =>
    "placeholder '\x7b\x7b" ++ name ++ "\x7d\x7d' names a variable that is never declared or set"

end Flaw

/-- What checking looks things up in. -/
structure Scope where
  document : Document
  /-- The variables that the document declares or changes. -/
  known : List String
  /-- The ids of its toggles. -/
  toggles : List String

/-- The scope of a document. -/
def Scope.of (d : Document) : Scope := ⟨d, d.knownVariables, d.toggles.map Prod.fst⟩

namespace Scope

/-- The placeholders of a text that name unset variables, each once and in order. -/
def textFlaws (scope : Scope) (text : String) : List Flaw :=
  let unset := (Layout.placeholders text).filter fun name ↦ !scope.known.contains name
  (unset.eraseDups.mergeSort fun a b ↦ decide (a ≤ b)).map .unsetPlaceholder

/-- The rule by which a change makes a value up. -/
def usedRule? (m : Mutation) : Option String :=
  match m.kind, m.value with
  | .set, none => m.rule
  | _, _ => none

/-- The flaws of a change of a variable. Its rule is tried out. -/
def mutationFlaws (target : String) (m : Mutation) : StateM Random.Source (List Flaw) :=
  match m.kind with
  | .unsupported kind => return [.unknownMutation kind target]
  | _ =>
    match usedRule? m with
    | some rule => fun source ↦
      match Rule.generate rule source with
      | (.ok _, source) => ([], source)
      | (.error e, source) => ([.badRule e], source)
    | none => return []

/-- The flaws of a step, those in its branches aside. -/
def stepFlaws (scope : Scope) : Step → StateM Random.Source (List Flaw)
  | .link target _ =>
    return if (scope.document.screen? target).isSome then [] else [.missingScreen target]
  | .dialog target =>
    return if (scope.document.dialog? target).isSome then [] else [.missingDialog target]
  | .toggle target => return if scope.toggles.contains target then [] else [.missingToggle target]
  | .mutate target m => mutationFlaws target m
  | .branch test _ _ =>
    return (test.reads.filter fun name ↦ !scope.known.contains name).map .unsetVariable
  | .unknown => return [.unknownStep]

/-- The flaws of several steps. -/
def stepsFlaws (scope : Scope) : List Step → StateM Random.Source (List Flaw)
  | [] => return []
  | step :: steps => do
    let first ← scope.stepFlaws step
    let rest ← scope.stepsFlaws steps
    return first ++ rest

/-- The flaws of an action. -/
def actionFlaws (scope : Scope) (action : Action) : StateM Random.Source (List Flaw) :=
  scope.stepsFlaws action.everyStep

/-- The patterns of a command that cannot be read. -/
def patternFlaws (c : Command) : List Flaw :=
  if c.allowRegex then
    (c.patterns.filter fun pattern ↦ !(compilePattern pattern).isOk).map .badPattern
  else []

/-- The flaws of several commands. -/
def commandsFlaws (scope : Scope) : List Command → StateM Random.Source (List Flaw)
  | [] => return []
  | c :: commands => do
    let first ← scope.actionFlaws c.action
    let rest ← scope.commandsFlaws commands
    return patternFlaws c ++ first ++ rest

/-- The flaws of an item. Prompts and countdowns are not searched for placeholders. -/
def contentFlaws (scope : Scope) : Content → StateM Random.Source (List Flaw)
  | .text text _ => return scope.textFlaws text
  | .link text l _ => do
    let base ← scope.actionFlaws l.base
    let shift ← match l.shift with
      | some action => scope.actionFlaws action
      | none => pure []
    return scope.textFlaws text ++ base ++ shift
  | .toggle states _ =>
    return (if states.isEmpty then [.noStates] else []) ++
      states.flatMap fun state ↦ scope.textFlaws state.text
  | .prompt p => do
    let flaws ← scope.commandsFlaws p.commands
    return (if p.commands.isEmpty && !p.allowMetaCommands then [.noCommands] else []) ++ flaws
  | .mutate target m => mutationFlaws target m
  | .bitmap .. | .countdown _ => return []

end Scope

/-- A flaw and the place where it is: the screen and the item. -/
structure Finding where
  screen : String
  item : String
  flaw : Flaw
  deriving DecidableEq, Repr

/-- What is said about a finding. -/
def Finding.message (f : Finding) : String :=
  f.screen ++ "/" ++ f.item ++ ": " ++ f.flaw.message

/-- What was found in a document. -/
structure Report where
  findings : List Finding
  unreachable : List String
  deriving DecidableEq, Repr

namespace Report

/-- The errors of a report. -/
def errors (r : Report) : List String :=
  (r.findings.filter fun f ↦ f.flaw.isError).map Finding.message

/-- The warnings of a report, unreachable screens last. -/
def warnings (r : Report) : List String :=
  (r.findings.filter fun f ↦ !f.flaw.isError).map Finding.message ++
    r.unreachable.map fun id ↦ "Screen '" ++ id ++ "' is unreachable from the start screen"

end Report

/-- The findings in several items of a screen. -/
def itemsFindings (scope : Scope) (screen : String) :
    List Item → StateM Random.Source (List Finding)
  | [] => return []
  | item :: items => do
    let flaws ← scope.contentFlaws item.content
    let rest ← itemsFindings scope screen items
    return flaws.map (⟨screen, item.id, ·⟩) ++ rest

/-- The findings in several screens. -/
def screensFindings (scope : Scope) : List Screen → StateM Random.Source (List Finding)
  | [] => return []
  | screen :: screens => do
    let first ← itemsFindings scope screen.id screen.items
    let rest ← screensFindings scope screens
    return first ++ rest

/-- Checks a document. Rules are tried out on one random source, screen after screen. -/
def check (d : Document) : Report where
  findings := ((screensFindings (.of d) d.screens).run (.ofSeed 0)).1
  unreachable := d.unreachable

end Teletype.Lint
