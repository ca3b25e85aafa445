import ScopeCheck.FileCheck
import ScopeCheck.Proofs.Configuration
import ScopeCheck.Proofs.Linter.Findings

/-!
# Files that can be checked

A path leads to nothing that can be read, to bytes that are no text, or to a text. A settings file fails
in the third case where its text gives no settings, and a file to check as the validation of its text
does.
-/

namespace ScopeCheck

namespace Files

/-- A path leads to nothing that can be read, and not because of what is written there. -/
def Unreadable (files : Files) (path : String) (cause : ReadFailure) : Prop :=
  files path = .error cause ∧ cause ≠ .notText

/-- A path leads to a file that is no UTF-8 text. -/
def NotText (files : Files) (path : String) : Prop :=
  files path = .error .notText ∨ ∃ bytes, files path = .ok bytes ∧ String.fromUTF8? bytes = none

/-- A path leads to a text. -/
def Holds (files : Files) (path text : String) : Prop :=
  ∃ bytes, files path = .ok bytes ∧ String.fromUTF8? bytes = some text

theorem readable_cases (files : Files) (path : String) :
    (∃ cause, files.Unreadable path cause) ∨ files.NotText path ∨
      ∃ text, files.Holds path text := by
  cases found : files path with
  | error cause =>
    -- The reader of files may itself say that a file is no text.
    by_cases encoding : cause = .notText
    · subst encoding
      exact .inr (.inl (.inl found))
    · exact .inl ⟨cause, found, encoding⟩
  | ok bytes =>
    cases decoded : String.fromUTF8? bytes with
    | none => exact .inr (.inl (.inr ⟨bytes, found, decoded⟩))
    | some text => exact .inr (.inr ⟨text, bytes, found, decoded⟩)

theorem readText_of_unreadable {files : Files} {path : String} {cause : ReadFailure}
    (unreadable : files.Unreadable path cause) :
    files.readText path = .error (.fileNotAccessible path cause) := by
  obtain ⟨found, other⟩ := unreadable
  rw [readText, found]
  cases cause with
  | notText => exact absurd rfl other
  | notFound | denied | unreadable => rfl

theorem readText_of_notText {files : Files} {path : String} (notText : files.NotText path) :
    files.readText path = .error (.invalidEncoding path) := by
  rcases notText with found | ⟨bytes, found, decoded⟩
  · rw [readText, found]
    rfl
  · simp only [readText, found, decoded]
    rfl

theorem readText_of_holds {files : Files} {path text : String} (holds : files.Holds path text) :
    files.readText path = .ok text := by
  obtain ⟨bytes, found, decoded⟩ := holds
  simp only [readText, found, decoded]

end Files

/-! ### Settings files -/

/-- The settings that a settings file gives. -/
def Loads (files : Files) (path : String) (settings : Settings) : Prop :=
  ∃ text, files.Holds path text ∧ Configuration.Gives text settings

/-- The ways in which a settings file can fail. -/
inductive Unloadable (refusal : Configuration.Refusal) (files : Files) (path : String) :
    Failure → Prop
  | unreadable {cause : ReadFailure} : files.Unreadable path cause →
    Unloadable refusal files path (.fileNotAccessible path cause)
  | notText : files.NotText path → Unloadable refusal files path (.invalidEncoding path)
  /-- The text is no TOML, or has a value of the wrong type. -/
  | invalid {text : String} : files.Holds path text →
    (∀ settings, ¬ Configuration.Gives text settings) →
    Unloadable refusal files path (.invalidConfiguration (refusal text))

namespace Configuration

variable {files : Files} {path : String}

theorem load_of_holds (refusal : Refusal) {text : String} (holds : files.Holds path text) :
    load refusal files path = read refusal text := by
  rw [load, Files.readText_of_holds holds]
  rfl

theorem load_of_unreadable (refusal : Refusal) {cause : ReadFailure}
    (unreadable : files.Unreadable path cause) :
    load refusal files path = .error (.fileNotAccessible path cause) := by
  rw [load, Files.readText_of_unreadable unreadable]
  rfl

theorem load_of_notText (refusal : Refusal) (notText : files.NotText path) :
    load refusal files path = .error (.invalidEncoding path) := by
  rw [load, Files.readText_of_notText notText]
  rfl

/-- A settings file fails in these ways and in no other. -/
theorem load_error_iff (refusal : Refusal) (files : Files) (path : String) (failure : Failure) :
    load refusal files path = .error failure ↔ Unloadable refusal files path failure := by
  constructor
  · intro failed
    rcases files.readable_cases path with ⟨cause, unreadable⟩ | notText | ⟨text, holds⟩
    · rw [load_of_unreadable refusal unreadable] at failed
      cases failed
      exact .unreadable unreadable
    · rw [load_of_notText refusal notText] at failed
      cases failed
      exact .notText notText
    · rw [load_of_holds refusal holds] at failed
      obtain ⟨givesNone, rfl⟩ := (read_error_iff refusal text failure).mp failed
      exact .invalid holds givesNone
  · intro unloadable
    cases unloadable with
    | unreadable unreadable => exact load_of_unreadable refusal unreadable
    | notText notText => exact load_of_notText refusal notText
    | invalid holds givesNone =>
      rw [load_of_holds refusal holds]
      exact (read_error_iff refusal _ _).mpr ⟨givesNone, rfl⟩

end Configuration

/-- What loading a settings file gives depends on that file alone. -/
theorem Unloadable.congr {refusal : Configuration.Refusal} {files other : Files} {config : String}
    {failure : Failure} (unloadable : Unloadable refusal files config failure)
    (same : other config = files config) : Unloadable refusal other config failure := by
  rw [← Configuration.load_error_iff] at unloadable ⊢
  rw [← unloadable]
  simp only [Configuration.load, Files.readText, same]

/-! ### Files to check -/

end ScopeCheck
