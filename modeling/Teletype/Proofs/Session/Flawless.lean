import Teletype.Proofs.Session.Sound
import Teletype.Proofs.Session.Vault
/-!
# Documents without errors play without flaws

However a session of a document without errors is played, no call fails because a screen, a dialog
or a step is not known or a rule cannot be read.
-/

namespace Teletype

variable {d : Document}

/-- What a player asks for is sound, unless it names a screen of its own choice. -/
theorem Request.sound_play (sound : d.IsSound) (r : Request)
    (h : (Call.request r).isGuided = true) : Play.Sound d (fun _ ↦ True) r.play := by
  cases r with
  | typeOn screen input => cases h
  | type input =>
    exact (Session.sound_submit sound input).bind fun _ _ ↦ keeps_pure trivial
  | click item shift => exact Session.sound_followLink sound item shift

/-- Every call that shows no screen of the choice of the host is sound. -/
theorem Call.sound_play (sound : d.IsSound) (c : Call) (h : c.isGuided = true) :
    Play.Sound d (fun _ ↦ True) c.play := by
  -- calls that cannot fail change a session and report nothing
  have quiet : ∀ f : Session → Session, (∀ s, s.Guarded d → (f s).Guarded d) →
      Play.Sound d (fun _ ↦ True) (do
        modify f
        return ([] : List LifecycleEvent)) :=
    fun f hf ↦ (keeps_modify hf).bind fun _ _ ↦ keeps_pure trivial
  cases c with
  | begin => exact Session.sound_begin sound
  | activate screen => cases h
  | request r => exact (r.sound_play sound h).bind fun _ _ ↦ keeps_pure trivial
  | tick => exact Session.sound_tick sound
  | tickBy elapsed => exact Session.sound_tickBy sound elapsed
  | skip => exact Session.sound_skip sound
  | flip item => exact quiet _ fun s hs ↦ hs.with_world _
  | dismiss => exact quiet _ fun s hs ↦ hs.with_dialog none
  | resize columns =>
    exact quiet _ fun s hs ↦ ⟨hs.document_eq, hs.commands_eq, hs.start_known, hs.shown_known⟩
  | restore saved => exact quiet _ fun s hs ↦ hs.with_world _
  | write store => exact quiet _ fun s hs ↦ hs.with_world _

/-- The screen to begin with is one of the document. -/
theorem Setup.isSome_screen?_of_startScreen {settings : Settings} {start : String} (made : d.IsMade)
    (h : startScreen settings d = .ok start) : (d.screen? start).isSome = true := by
  unfold startScreen at h
  split at h
  · cases h
  · next first hfirst _ =>
    cases h
    exact Document.isSome_screen?_of_mem made (List.mem_of_head? hfirst)
  · split at h
    · next known =>
      cases h
      exact known
    · cases h

namespace Session

/-- A session of a document that is made, without commands of the host, is guarded from the
start. -/
theorem guarded_of_session {setup : Setup} {s : Session} (made : d.IsMade)
    (document : setup.ownDocument = .ok d) (commands : setup.hostCommands = [])
    (h : setup.session = .ok s) : s.Guarded d := by
  obtain ⟨settings, opens⟩ := Setup.exists_opensFrom h
  have same : s.document = d := Except.ok.inj (opens.document.symm.trans document)
  refine ⟨same, ?_, ?_, by simp [opens.run]⟩
  · rw [opens.dispatcher]
    exact commands
  · exact Setup.isSome_screen?_of_startScreen made (same ▸ opens.start)

/-- A guarded session of a sound document meets no flaw in any calls. -/
theorem Guarded.not_isFlaw {s : Session} (h : s.Guarded d) (sound : d.IsSound)
    {calls : List Call} (guided : ∀ c ∈ calls, c.isGuided = true) :
    ∀ e ∈ s.failures calls, ¬ e.IsFlaw := by
  induction calls generalizing s with
  | nil => simp [failures]
  | cons c calls ih =>
    obtain ⟨first, rest⟩ := List.forall_mem_cons.mp guided
    have kept := c.sound_play sound first
    unfold failures
    cases hc : c.play s with
    | ok events t => exact ih (kept.of_ok h hc).1 rest
    | error e t =>
      obtain ⟨ht, he⟩ := kept.of_error h hc
      exact List.forall_mem_cons.mpr ⟨he, ih ht rest⟩

/-- However a session of a document without errors is played, whatever the seed, the settings and
the variables are, no call fails because a screen, a dialog or a step is not known or a rule cannot
be read. -/
theorem not_isFlaw_of_mem_failures {setup : Setup} {s : Session} (made : d.IsMade)
    (clean : (Lint.check d).errors = []) (document : setup.ownDocument = .ok d)
    (commands : setup.hostCommands = []) (h : setup.session = .ok s) {calls : List Call}
    (guided : ∀ c ∈ calls, c.isGuided = true) : ∀ e ∈ s.failures calls, ¬ e.IsFlaw :=
  (guarded_of_session made document commands h).not_isFlaw (Lint.isSound_of_check clean) guided

/-- In the vault something fails, but the document is not to blame. -/
theorem failures_vault :
    (Lint.check Vault.document).errors = [] ∧
      Vault.opening.failures [.begin, .request (.click "door" false), .skip] ≠ [] ∧
      ∀ e ∈ Vault.opening.failures [.begin, .request (.click "door" false), .skip], ¬ e.IsFlaw := by
  have clean : (Lint.check Vault.document).errors = [] := by decide +kernel
  refine ⟨clean, ?_, ?_⟩
  · intro h
    cases h
  · exact not_isFlaw_of_mem_failures Vault.isMade_document clean rfl rfl Vault.session_setup
      (by decide)

end Session

end Teletype
