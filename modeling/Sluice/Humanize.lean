import Sluice.Error
import Sluice.Pattern

/-!
# Connection failures in plain words

Drivers know patterns of their backend's messages. A message that matches one is replaced by a
friendly text; any other is passed on.
-/

namespace Sluice

inductive FailureKind where
  | relativePath | missingDatabase | badCredentials | other
deriving DecidableEq, Inhabited

namespace FailureKind

def all : List FailureKind := [relativePath, missingDatabase, badCredentials, other]

def name : FailureKind → String
  | relativePath => "implicitly-relative-db-file-path"
  | missingDatabase => "db-file-not-found"
  | badCredentials => "username-or-password-incorrect"
  | other => "other"

def ofName? (s : String) : Option FailureKind := all.find? (·.name == s)

/-- The text shown in place of the message. -/
def friendly? : FailureKind → Option String
  | relativePath => some "The database file path must be absolute."
  | missingDatabase => some "No database file was found at that path."
  | badCredentials => some "The username or password is incorrect."
  | other => none

end FailureKind

/-- A pattern of messages and what they are about. -/
structure ErrorPattern where
  pattern : Pattern
  kind : FailureKind

namespace ErrorPattern

def ofText (text : String) (kind : FailureKind) : Except Error ErrorPattern :=
  match Pattern.parse? text with
  | some pattern => .ok ⟨pattern, kind⟩
  | none => .error (.configuration (.invalidErrorPattern text))

end ErrorPattern

structure FriendlyFailure where
  kind : FailureKind
  message : String
deriving DecidableEq, Inhabited

/-- Explain a message by the first pattern that occurs in it. -/
def humanize (patterns : List ErrorPattern) (message : String) : FriendlyFailure :=
  match patterns.find? fun p => p.pattern.occursIn message with
  | some p =>
    match p.kind.friendly? with
    | some text => ⟨p.kind, text⟩
    | none => ⟨.other, message⟩
  | none => ⟨.other, message⟩

end Sluice
