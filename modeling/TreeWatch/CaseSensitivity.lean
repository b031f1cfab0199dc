import TreeWatch.Text.Blank
import TreeWatch.Text.Lowercase

/-!
# Case sensitivity

How names are compared: as they are, or after both have been put in lower case. The third
setting stands for whatever the host does, and this host tells upper from lower case.
-/

namespace TreeWatch

inductive CaseSensitivity where
  | sensitive
  | insensitive
  | system
deriving DecidableEq, Repr, Inhabited

namespace CaseSensitivity

def isSensitive : CaseSensitivity → Bool
  | sensitive => true
  | insensitive => false
  | system => true

/-- The form of a name that takes part in comparisons. -/
def fold (c : CaseSensitivity) (name : String) : String :=
  if c.isSensitive then name else Text.lower name

def order (c : CaseSensitivity) (a b : String) : Ordering := Ord.compare (c.fold a) (c.fold b)

def equals (c : CaseSensitivity) (a b : String) : Bool := c.order a b == .eq

def startsWith (c : CaseSensitivity) (name start : String) : Bool :=
  (c.fold start).toList.isPrefixOf (c.fold name).toList

def endsWith (c : CaseSensitivity) (name ending : String) : Bool :=
  (c.fold ending).toList.isSuffixOf (c.fold name).toList

def text : CaseSensitivity → String
  | sensitive => "sensitive"
  | insensitive => "insensitive"
  | system => "system"

def label : CaseSensitivity → String
  | sensitive => "Sensitive"
  | insensitive => "Insensitive"
  | system => "System"

def ofText? (word : String) : Option CaseSensitivity :=
  [sensitive, insensitive, system].find? (·.text == word)

/-- Reads a setting, in any case and with blanks around it. A word that is none of the three is
given back in lower case. -/
def parse (s : String) : Except String CaseSensitivity :=
  let word := Text.lower (Text.trim s)
  match ofText? word with
  | some c => .ok c
  | none => .error word

def unknownWordMessage (word : String) : String :=
  "invalid case_sensitivity: " ++ word
    ++ " (expected \"sensitive\", \"insensitive\" or \"system\")"

end CaseSensitivity

end TreeWatch
