import TreeWatch.Observer

/-!
# Listeners of every kind

Listeners as values: one that writes down what it is told and may refuse some of it, one that
does nothing, one that notes every event in the journal, and one that passes events on to a
receiver.
-/

namespace TreeWatch

inductive Listener where
  /-- Writes down what it is told, under its name; refuses what it is told by some hooks. -/
  | recorder (name : String) (refuses : List String)
  | silent
  | journal (label : Option String)
  /-- Passes events on; the received ones wait, the oldest first, until they are taken. -/
  | channel (isOpen : Bool) (waiting : List Event)
deriving Inhabited

/-- What a listener did when it was told something. -/
structure Response where
  listener : Listener
  heard : List String := []
  notes : List Remark := []
  result : Except String Unit := .ok ()

namespace Signal

def subject : Signal → String
  | start root snapshot => root.text ++ " " ++ toString snapshot.descendants.length
  | event e => e.entry.path.text
  | stop root snapshot => root.text ++ " " ++ toString snapshot.descendants.length

end Signal

namespace Listener

def tell : Listener → Signal → Response
  | recorder name refuses, s =>
    if s.hook ∈ refuses then
      { listener := recorder name refuses, result := .error (name ++ " refuses " ++ s.subject) }
    else
      { listener := recorder name refuses, heard := [name ++ ": " ++ s.hook ++ " " ++ s.subject] }
  | journal label, .event e =>
    { listener := journal label, notes := [.alteration (label.getD "-") e] }
  | channel true waiting, .event e => { listener := channel true (waiting ++ [e]) }
  | channel false waiting, .event e =>
    { listener := channel false waiting,
      result := .error ("event receiver for " ++ e.entry.path.text ++ " dropped") }
  | l, _ => { listener := l }

end Listener

end TreeWatch
