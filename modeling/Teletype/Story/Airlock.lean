import Teletype.Document.Json
/-!
# The airlock

A short story that comes with the library: a login, a menu with a locked door, an empty log, and a
way out for who gives the right name.
-/

namespace Teletype.Story.Airlock

/-- An entry with an id. -/
def entry (id : String) (content : Content) : Entry := { id := some id, content := some content }

/-- The step that shows a screen. -/
def go (screen : String) : Step := .link screen false

/-- A command of one word. -/
def command (word : String) (action : Action) : Command := ⟨.one word, action, false⟩

/-- Whether a variable equals a value. -/
def equals (name : String) (value : Value) (ignoreCase : Bool) : Condition :=
  .comparison ⟨.equal, .named name, .literal value, ignoreCase⟩

/-- The screen that asks for a name. -/
def login : Page where
  id := "login"
  kind := .screen
  entries := [
    entry "banner" (.text "AIRLOCK CONTROL" { align := .center, speed := some 40 }),
    entry "rule" (.text "=" { fillWidth := true }),
    { id := some "mint"
      onLoad := some false
      content := some (.mutate "passphrase" ⟨.set, none, some "EEEE-EEEE"⟩) },
    { content := some (.text "Enter your name." {}) },
    { content := none },
    entry "login-prompt" (.prompt {
      prompt := "NAME> "
      commands := [
        .words ["help", "?"] (.dialog "help"),
        .regex ".+" (.chain [.change "username" .set, go "menu"])]
      allowMetaCommands := true
      options := {} })]

/-- What opens the door: the right name while it is still sealed. -/
def openDoor : Action :=
  .single (.branch
    (.all [equals "username" (.text "sonya") true,
      .negation (equals "sealed" (.bool false) false)])
    (.chain [.change "sealed" .toggle, go "open"])
    (.chain [.change "attempts" (.count .increment), .dialog "denied"]))

/-- The screen with the menu. -/
def menu : Page where
  id := "menu"
  kind := .screen
  entries := [
    entry "greeting" (.text "Welcome, \x7b\x7busername\x7d\x7d." {}),
    entry "pressure" (.toggle [
      { text := "[ ] PRESSURIZE", active := true, delayMs := none, delayText := none },
      { text := "[x] PRESSURIZE", active := false, delayMs := some 800,
        delayText := some "CYCLING..." }] {}),
    entry "to-logs" (.link "> LOGS"
      ⟨.chain [go "logs"], some (.chain [.dialog "restricted"])⟩ {}),
    entry "timer" (.countdown { prompt := "T-MINUS ", duration := 600, options := {} }),
    entry "menu-prompt" (.prompt {
      prompt := "> "
      commands := [
        .words ["back", "exit"] (.link "login"),
        command "open" openDoor,
        .regex "note .+" (.single (.change "log" .concatenate)),
        command "pressure" (.single (.toggle "pressure")),
        command "break" (.chain [
          .assign "attempts" (.number 9),
          .change "username" (.count .increment),
          go "open"])]
      allowMetaCommands := false
      options := {} })]

/-- The screen with the log. -/
def logs : Page where
  id := "logs"
  kind := .screen
  entries := [
    entry "entry"
      (.text "\x7bwarn:NO LOGS\x7d since \x7b\x7busername\x7d\x7d" { speed := some 30 }),
    entry "logs-back" (.link "< BACK" ⟨.link "menu", none⟩ {})]

/-- The screen outside. -/
def outside : Page where
  id := "open"
  kind := .fixed
  entries := [
    { content := some (.text "The outer door opens." {}) },
    entry "pass" (.text "PASS \x7b\x7bpassphrase\x7d\x7d" {})]

/-- The story as it is written. -/
def manuscript : Manuscript where
  metadata := { title := "Airlock Terminal", comment := "Scripted demo", version := "1.0" }
  config := { name := "AIRLOCK", minWidth := some 20, maxWidth := some 60, theme := some "green" }
  pages := [login, menu, logs, outside]
  dialogs := [
    ⟨"help", .alert, ["Type your name to log in."]⟩,
    ⟨"denied", .alert, ["ACCESS DENIED"]⟩,
    ⟨"restricted", .dialog, ["Restricted."]⟩]
  declarations := [
    ⟨"username", .string, .text ""⟩,
    ⟨"attempts", .number, .number 0⟩,
    ⟨"sealed", .boolean, .bool true⟩]

/-- The story. -/
def document : Except DocumentError Document := manuscript.document

end Teletype.Story.Airlock
