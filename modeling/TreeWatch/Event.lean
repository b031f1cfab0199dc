import TreeWatch.Entry

/-!
# Alterations

What can happen to an entry between two snapshots, and the events that report it.
-/

namespace TreeWatch

/-- What happened to an entry. -/
inductive Alteration where
  | directoryCreate
  | directoryChange
  | directoryDelete
  | fileCreate
  | fileChange
  | fileDelete
deriving DecidableEq, Repr, Inhabited

namespace Alteration

def text : Alteration → String
  | directoryCreate => "directory-create"
  | directoryChange => "directory-change"
  | directoryDelete => "directory-delete"
  | fileCreate => "file-create"
  | fileChange => "file-change"
  | fileDelete => "file-delete"

def created (e : Entry) : Alteration := if e.isDirectory then directoryCreate else fileCreate

def deleted (e : Entry) : Alteration := if e.isDirectory then directoryDelete else fileDelete

end Alteration

/-- One reported alteration. A deletion carries the old entry, all else the new one. -/
structure Event where
  kind : Alteration
  entry : Entry
deriving BEq, Inhabited

namespace Event

def text (e : Event) : String := e.kind.text ++ " " ++ e.entry.path.text

end Event

end TreeWatch
