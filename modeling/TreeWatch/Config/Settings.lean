import Std.Data.TreeMap
import TreeWatch.CaseSensitivity
import TreeWatch.Text.Quoted
import TreeWatch.Toml.Document

/-!
# Settings

The sections of a configuration and how they are read from the values of a document. Names
that are not known are passed over; a list may stand for a section and gives its settings in
their order.
-/

namespace TreeWatch

open Toml (Value)

/-- Why a value does not fit a setting. -/
inductive DecodeFault where
  | wrongType (found expected : String)
  | missing (setting : String)
  | unknownWord (word : String)
  | noWord
  | emptyWordTable
  | longWordTable
  | wordWithItems
  | wordWithEntries
  | wordWithValue (kind : String)
  | tooFewItems (count : Nat) (expected : String)
  | hugeInteger
  | hugeFloat
deriving DecidableEq, Repr

namespace DecodeFault

def message : DecodeFault → String
  | wrongType found expected => "invalid type: " ++ found ++ ", expected " ++ expected
  | missing setting => "missing field \x60" ++ setting ++ "\x60"
  | unknownWord word =>
    "unknown variant \x60" ++ word
      ++ "\x60, expected one of \x60sensitive\x60, \x60insensitive\x60, \x60system\x60"
  | noWord => "wanted string or table"
  | emptyWordTable => "wanted exactly 1 element, found 0 elements"
  | longWordTable => "wanted exactly 1 element, more than 1 element"
  | wordWithItems => "expected empty array"
  | wordWithEntries => "expected empty table"
  | wordWithValue kind => "expected table, found " ++ kind
  | tooFewItems count expected => "invalid length " ++ toString count ++ ", expected " ++ expected
  | hugeInteger => "integer number overflowed"
  | hugeFloat => "floating-point number overflowed"

end DecodeFault

/-- How often the file system is looked at. -/
structure MonitorSection where
  interval : String := "1s"
deriving DecidableEq, Repr

/-- What observers take over unless they have their own. -/
structure DefaultSection where
  includes : List String := []
  excludes : List String := []
  sensitivity : CaseSensitivity := .system
  ignoreHidden : Bool := false
deriving DecidableEq, Repr

/-- What one observer looks at. -/
structure ObserverSection where
  path : String
  includes : Option (List String) := none
  excludes : Option (List String) := none
  appendIncludes : Bool := false
  appendExcludes : Bool := false
  sensitivity : Option CaseSensitivity := none
  ignoreHidden : Option Bool := none
deriving DecidableEq, Repr

/-- A configuration as it was written. -/
structure Settings where
  monitor : MonitorSection := {}
  defaults : DefaultSection := {}
  observers : Std.TreeMap String ObserverSection := {}

namespace Decode

/-- A whole number in words; `none` if it is too large. -/
def integerText? (n : Int) : Option String :=
  let plain := "integer \x60" ++ toString n ++ "\x60"
  if -(Int.pow 2 63) ≤ n ∧ n < Int.pow 2 64 then some plain
  else if -(Int.pow 2 127) ≤ n ∧ n < Int.pow 2 127 then some (plain ++ " as i128")
  else if 0 ≤ n ∧ n < Int.pow 2 128 then some (plain ++ " as u128")
  else none

def mismatch (expected : String) : Value → DecodeFault
  | .string s => .wrongType ("string " ++ Text.quoted s) expected
  | .integer n =>
    match integerText? n with
    | some found => .wrongType found expected
    | none => .hugeInteger
  | .float x => .wrongType ("floating point \x60" ++ x.text ++ "\x60") expected
  | .hugeFloat => .hugeFloat
  | .boolean b => .wrongType ("boolean \x60" ++ toString b ++ "\x60") expected
  | .datetime _ => .wrongType "map" expected
  | .array _ => .wrongType "sequence" expected
  | .table _ => .wrongType "map" expected

def string : Value → Except DecodeFault String
  | .string s => .ok s
  | v => .error (mismatch "a string" v)

def boolean : Value → Except DecodeFault Bool
  | .boolean b => .ok b
  | v => .error (mismatch "a boolean" v)

def strings : Value → Except DecodeFault (List String)
  | .array items => items.mapM string
  | v => .error (mismatch "a sequence" v)

def word (s : String) : Except DecodeFault CaseSensitivity :=
  match CaseSensitivity.ofText? s with
  | some c => .ok c
  | none => .error (.unknownWord s)

/-- What goes with a word that stands as a name in a table has to be empty. -/
def emptyValue : Value → Except DecodeFault Unit
  | .array [] => .ok ()
  | .array _ => .error .wordWithItems
  | .table [] => .ok ()
  | .table _ => .error .wordWithEntries
  | v => .error (.wordWithValue v.kindText)

/-- Reads a case setting: a word, or a table with the word as its only name. -/
def sensitivity : Value → Except DecodeFault CaseSensitivity
  | .string s => word s
  | .table [] => .error .emptyWordTable
  | .table [(s, v)] => do
    let c ← word s
    emptyValue v
    return c
  | .table _ => .error .longWordTable
  | _ => .error .noWord

/-- Passes over a value; numbers in it have to be within range all the same. -/
def ignore : Value → Except DecodeFault Unit
  | .integer n => if (integerText? n).isSome then .ok () else .error .hugeInteger
  | .hugeFloat => .error .hugeFloat
  | .array items => ignoreItems items
  | .table entries => ignoreEntries entries
  | _ => .ok ()
where
  ignoreItems : List Value → Except DecodeFault Unit
  | [] => .ok ()
  | v :: vs => do
    ignore v
    ignoreItems vs
  ignoreEntries : List (String × Value) → Except DecodeFault Unit
  | [] => .ok ()
  | (_, v) :: es => do
    ignore v
    ignoreEntries es

/-- The entries of a table. A date is a table of one entry with a name of its own. -/
def entries? : Value → Option (List (String × Value))
  | .table entries => some entries
  | .datetime text => some [("$__toml_private_datetime", .string text)]
  | _ => none

/-- The entries of a section: those of a table, or the items of a list under the names of the
section's settings. -/
def sectionEntries (expected : String) (names : List String) (v : Value) :
    Except DecodeFault (List (String × Value)) :=
  match v with
  | .array items => .ok (names.zip items)
  | v =>
    match entries? v with
    | some entries => .ok entries
    | none => .error (mismatch expected v)

def monitorSetting (s : MonitorSection) (e : String × Value) :
    Except DecodeFault MonitorSection := do
  match e.1 with
  | "interval" => return { s with interval := ← string e.2 }
  | _ =>
    ignore e.2
    return s

def monitor (v : Value) : Except DecodeFault MonitorSection := do
  (← sectionEntries "struct MonitorSection" ["interval"] v).foldlM monitorSetting {}

def defaultSetting (s : DefaultSection) (e : String × Value) :
    Except DecodeFault DefaultSection := do
  match e.1 with
  | "include" => return { s with includes := ← strings e.2 }
  | "exclude" => return { s with excludes := ← strings e.2 }
  | "case_sensitivity" => return { s with sensitivity := ← sensitivity e.2 }
  | "ignore_hidden" => return { s with ignoreHidden := ← boolean e.2 }
  | _ =>
    ignore e.2
    return s

def defaults (v : Value) : Except DecodeFault DefaultSection := do
  let names := ["include", "exclude", "case_sensitivity", "ignore_hidden"]
  (← sectionEntries "struct DefaultSection" names v).foldlM defaultSetting {}

def observerSettings : List String :=
  ["path", "include", "exclude", "append_default_include", "append_default_exclude",
    "case_sensitivity", "ignore_hidden"]

/-- Reads one setting of an observer; the path is kept apart until it has been found. -/
def observerSetting (s : Option String × ObserverSection) (e : String × Value) :
    Except DecodeFault (Option String × ObserverSection) := do
  let (path, o) := s
  match e.1 with
  | "path" => return (some (← string e.2), o)
  | "include" => return (path, { o with includes := some (← strings e.2) })
  | "exclude" => return (path, { o with excludes := some (← strings e.2) })
  | "append_default_include" => return (path, { o with appendIncludes := ← boolean e.2 })
  | "append_default_exclude" => return (path, { o with appendExcludes := ← boolean e.2 })
  | "case_sensitivity" => return (path, { o with sensitivity := some (← sensitivity e.2) })
  | "ignore_hidden" => return (path, { o with ignoreHidden := some (← boolean e.2) })
  | _ =>
    ignore e.2
    return (path, o)

def observer (v : Value) : Except DecodeFault ObserverSection := do
  let expected := "struct ObserverSection"
  let entries ← sectionEntries expected observerSettings v
  let (path, o) ← entries.foldlM observerSetting (none, ⟨"", none, none, false, false, none, none⟩)
  match path, v with
  | some path, _ => return { o with path }
  | none, .array _ => throw (.tooFewItems 0 (expected ++ " with 7 elements"))
  | none, _ => throw (.missing "path")

def observers (v : Value) : Except DecodeFault (Std.TreeMap String ObserverSection) :=
  match entries? v with
  | some entries => entries.foldlM (fun t e => return t.insert e.1 (← observer e.2)) {}
  | none => .error (mismatch "a map" v)

def settingsSection (s : Settings) (e : String × Value) : Except DecodeFault Settings := do
  match e.1 with
  | "monitor" => return { s with monitor := ← monitor e.2 }
  | "default" => return { s with defaults := ← defaults e.2 }
  | "observer" => return { s with observers := ← observers e.2 }
  | _ =>
    ignore e.2
    return s

def settings (v : Value) : Except DecodeFault Settings := do
  let entries ← sectionEntries "struct RawConfigFile" ["monitor", "default", "observer"] v
  entries.foldlM settingsSection {}

end Decode

/-- Why a text is no configuration. -/
inductive TomlError where
  | malformed
  | unfit (fault : DecodeFault)
deriving DecidableEq, Repr

namespace TomlError

def message : TomlError → String
  | malformed => "malformed document"
  | unfit fault => fault.message

end TomlError

namespace Settings

def parse (text : String) : Except TomlError Settings :=
  match Toml.parse text with
  | none => .error .malformed
  | some v =>
    match Decode.settings v with
    | .ok s => .ok s
    | .error fault => .error (.unfit fault)

end Settings

end TreeWatch
