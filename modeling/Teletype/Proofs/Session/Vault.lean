import Teletype.Proofs.Document.Tables
import Teletype.Session.Setup
/-!
# The vault

A small story: the hall has a door to the vault, and whoever enters the vault counts up a variable.
Its first value is a text, which cannot be counted.
-/

namespace Teletype.Vault

/-- The link that leads into the vault. -/
def door : Item := ⟨"door", none, true, .link "" ⟨.link "vault", none⟩ {}⟩

/-- The count that is made when the vault is entered. -/
def visit : Item := ⟨"visit", none, false, .mutate "name" ⟨.count .increment, none, none⟩⟩

/-- The story as a document. -/
def document : Document where
  metadata := {}
  config := {}
  screens := [⟨"hall", .screen, [door]⟩, ⟨"vault", .screen, [visit]⟩]
  dialogs := []
  declarations := [⟨"name", .string, .text "sonya"⟩]
  screenTable := ((∅ : IdTable).insert "hall" 0).insert "vault" 1
  dialogTable := ∅

/-- The story is made of its parts. -/
theorem isMade_document : document.IsMade :=
  ⟨{}, {}, document.screens, [], document.declarations, rfl⟩

/-- The story without further settings. -/
def setup : Setup where
  document := .given document

/-- The session in which nothing shows yet. -/
def opening : Session where
  document
  world := {
    store := document.initialStore
    toggles := .ofToggles document.toggles
    random := .ofSeed 0 }
  dispatcher := .ofCommands []
  interpolation := { missing := .leave }
  fonts := none
  columns := 80
  cursor := '.'
  tickInterval := .ofMillis 16
  start := "hall"
  run := none
  dialog := none

/-- The story starts with the session in which nothing shows yet. -/
theorem session_setup : setup.session = .ok opening := rfl

end Teletype.Vault
