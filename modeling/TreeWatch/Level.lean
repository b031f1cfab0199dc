import TreeWatch.Text.Blank
import TreeWatch.Text.Lowercase

/-!
# Levels

How much a note matters, and which level is chosen if several places ask for one.
-/

namespace TreeWatch

/-- How much a note matters. -/
inductive Level where
  | error
  | warn
  | info
  | debug
  | trace
deriving DecidableEq, Repr, Inhabited

namespace Level

def rank : Level → Nat
  | error => 0
  | warn => 1
  | info => 2
  | debug => 3
  | trace => 4

def text : Level → String
  | error => "error"
  | warn => "warn"
  | info => "info"
  | debug => "debug"
  | trace => "trace"

def heading (l : Level) : String := l.text.toUpper

def all : List Level := [error, warn, info, debug, trace]

def ofText? (word : String) : Option Level := all.find? (·.text == word)

/-- Whether notes of a level are kept where this one is asked for. -/
def admits (asked l : Level) : Bool := l.rank ≤ asked.rank

/-- The level that a setting asks for: its word in any case, with blanks around it, and also the
long word for warnings. -/
def ofSetting? (setting : String) : Option Level :=
  let word := Text.lower (Text.trim setting)
  if word = "warning" then some warn else ofText? word

/-- The level that applies: one that was asked for outright, else that of a setting, else
`info`. -/
def chosen (asked : Option Level) (setting : Option String) : Level :=
  (asked <|> setting.bind ofSetting?).getD info

end Level

end TreeWatch
