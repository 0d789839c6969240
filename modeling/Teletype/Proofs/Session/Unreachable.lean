import Teletype.Proofs.Session.Vault
import Teletype.Proofs.Session.Within
/-!
# Screens that nothing leads to never show

Without commands of the host and with the first screen to begin with, a session whose host asks for
no screen by itself shows only screens that a chain of links leads to from the first one. The
screens that the check lists are the others.
-/

namespace Teletype

namespace Document

/-- The bounds of a session without commands of the host that shows only screens that links lead
to. -/
def linked (d : Document) : Bounds := ⟨d, [], fun id ↦ ∃ screen, d.Reaches screen ∧ screen.id = id⟩

variable {d : Document} (made : d.IsMade)

include made

/-- Screens that links lead to lead only to such screens. -/
theorem closed_linked : d.linked.Closed := by
  constructor
  case links =>
    rintro _ screen ⟨source, reaches, rfl⟩ found target links exists_target
    obtain ⟨member, same⟩ := (screen?_eq_some_iff made).mp found
    obtain rfl := eq_of_id_eq made member reaches.mem same
    obtain ⟨other, found⟩ := Option.isSome_iff_exists.mp exists_target
    obtain ⟨target_mem, rfl⟩ := (screen?_eq_some_iff made).mp found
    exact ⟨other, reaches.leads ⟨member, target_mem, links⟩, rfl⟩
  case commands =>
    intro c member
    cases member

end Document

/-- The first screen is one that links lead to. -/
theorem Setup.admits_of_startScreen {d : Document} {settings : Settings} {id : String}
    (unset : settings.startScreen = none) (h : startScreen settings d = .ok id) :
    d.linked.Admits id := by
  unfold startScreen at h
  rw [unset] at h
  cases hf : d.startScreen? with
  | none =>
    rw [hf] at h
    cases h
  | some first =>
    rw [hf] at h
    cases h
    exact fun _ ↦ ⟨first, ⟨first, hf, .refl⟩, rfl⟩

/-- A call that shows no screen of the choice of the host asks for none. -/
theorem Call.respects_of_isGuided {b : Bounds} {c : Call} (h : c.isGuided = true) :
    c.Respects b := by
  cases c with
  | activate id => cases h
  | request r =>
    cases r with
    | typeOn id input => cases h
    | type | click => trivial
  | begin | tick | tickBy | skip | flip | dismiss | resize | restore | write => trivial

namespace Session

open Classical in
/-- The search lists in order the screens that no chain of links leads to, and none of them ever
shows in a session without commands of the host and with no other screen to begin with, whatever is
called but to show a screen of the choice of the host. -/
theorem unreachable_never_shown {d : Document} (made : d.IsMade) :
    d.unreachable = (d.screens.filter fun screen ↦ ¬ d.Reaches screen).map Screen.id ∧
      ∀ {setup : Setup} {settings : Settings} {s : Session}, setup.ownDocument = .ok d →
        setup.hostCommands = [] → setup.ownSettings = .ok settings →
        settings.startScreen = none → setup.session = .ok s →
        ∀ {calls : List Call}, (∀ c ∈ calls, c.isGuided = true) →
          ∀ id ∈ d.unreachable, (s.afterAll calls).screenId? ≠ some id := by
  refine ⟨Document.unreachable_eq made, ?_⟩
  intro setup settings s document commands own unset h calls guided id listed shows
  have opened : s.Within d.linked (setup.overriding settings).columns :=
    within_of_session document commands own (fun _ ↦ Setup.admits_of_startScreen unset) h
  have kept := opened.afterAll (Document.closed_linked made) fun c member ↦
    Call.respects_of_isGuided (guided c member)
  obtain ⟨run, hr, rfl⟩ := Option.map_eq_some_iff.mp shows
  obtain ⟨⟨screen, reaches, same⟩, -⟩ := kept.shown run hr
  exact Document.not_reaches_of_mem_unreachable made (same ▸ listed) reaches

end Session

namespace Vault

/-- The story with an attic that nothing leads to. -/
def haunted : Document :=
  { document with
    screens := document.screens ++ [⟨"attic", .screen, []⟩]
    screenTable := document.screenTable.insert "attic" 2 }

/-- The attic never shows, also when the door of the vault fails to open. -/
theorem attic_never_shown :
    haunted.unreachable = ["attic"] ∧
      ∃ s : Session, { setup with document := .given haunted }.session = .ok s ∧
        (s.afterAll [.begin, .request (.click "door" false), .skip]).screenId? = some "vault" ∧
        (s.afterAll [.begin, .request (.click "door" false), .skip]).screenId? ≠ some "attic" := by
  have made : haunted.IsMade := ⟨{}, {}, haunted.screens, [], haunted.declarations, rfl⟩
  have listed : haunted.unreachable = ["attic"] := by decide +kernel
  refine ⟨listed, _, rfl, rfl, ?_⟩
  have document : { setup with document := .given haunted }.ownDocument = .ok haunted := rfl
  exact (Session.unreachable_never_shown made).2 document rfl rfl rfl rfl (by decide) "attic"
    (by simp [listed])

end Vault

end Teletype
