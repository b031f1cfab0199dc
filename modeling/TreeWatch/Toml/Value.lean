import TreeWatch.Toml.Binary64

/-!
# Values of configuration files

What a configuration text says: values, and tables of values by name. Tables list their
entries by name in increasing order.
-/

namespace TreeWatch.Toml

inductive Value where
  | string (s : String)
  | integer (n : Int)
  | float (x : Binary64)
  /-- A number too large for any floating-point number. -/
  | hugeFloat
  | boolean (b : Bool)
  /-- A date, a time or both, in their usual spelling. -/
  | datetime (text : String)
  | array (items : List Value)
  | table (entries : List (String × Value))
deriving Inhabited

namespace Value

def ofEntries (entries : List (String × Value)) : Value :=
  .table (entries.mergeSort fun a b => (Ord.compare a.1 b.1).isLE)

def kindText : Value → String
  | string _ => "string"
  | integer _ => "integer"
  | float _ => "float"
  | hugeFloat => "float"
  | boolean _ => "boolean"
  | datetime _ => "datetime"
  | array _ => "array"
  | table _ => "table"

end Value

/-- How a table came into being. -/
inductive Origin where
  | implied
  | dotted
  | header
deriving DecidableEq, Repr

/-- A part of a document that is being read. -/
inductive Node where
  | leaf (v : Value)
  | table (origin : Origin) (entries : List (String × Node))
  /-- The tables of one repeated header, the latest first. -/
  | tables (items : List (List (String × Node)))
deriving Inhabited

namespace Node

abbrev Entries := List (String × Node)

def put (name : String) (n : Node) : Entries → Entries
  | [] => [(name, n)]
  | e :: es => if e.1 = name then (name, n) :: es else e :: put name n es

/-- Changes the table at a path. Missing tables on the way are made; names with dots must not
lead into a table that has a header of its own. -/
def update (dotted : Bool) (change : Origin → Entries → Option (Origin × Entries)) :
    List String → Origin → Entries → Option (Origin × Entries)
  | [], origin, entries => change origin entries
  | name :: path, origin, entries =>
    match entries.lookup name with
    | none => do
      let (o, es) ← update dotted change path (if dotted then .dotted else .implied) []
      return (origin, put name (.table o es) entries)
    | some (.leaf _) => none
    | some (.tables []) => none
    | some (.tables (latest :: items)) => do
      let (_, es) ← update dotted change path .header latest
      return (origin, put name (.tables (es :: items)) entries)
    | some (.table o es) =>
      if dotted && o == .header then none
      else do
        let (o, es) ← update dotted change path o es
        return (origin, put name (.table o es) entries)

/-- Adds a value under a new name. The tables that the dots of its full name lead through must
have come into being by dots alone. -/
def addValue (viaDots : Bool) (name : String) (v : Value) (origin : Origin) (entries : Entries) :
    Option (Origin × Entries) :=
  if (origin == .dotted) != viaDots then none
  else if (entries.lookup name).isSome then none
  else some (origin, put name (.leaf v) entries)

def addPath (path : List String) (v : Value) (origin : Origin) (entries : Entries) :
    Option (Origin × Entries) :=
  match path.getLast? with
  | none => none
  | some name =>
    let way := path.dropLast
    update true (addValue (!way.isEmpty) name v) way origin entries

def openTable (name : String) (origin : Origin) (entries : Entries) : Option (Origin × Entries) :=
  match entries.lookup name with
  | none => some (origin, put name (.table .header []) entries)
  | some (.table .implied es) => some (origin, put name (.table .header es) entries)
  | _ => none

def addTable (name : String) (origin : Origin) (entries : Entries) : Option (Origin × Entries) :=
  match entries.lookup name with
  | none => some (origin, put name (.tables [[]]) entries)
  | some (.tables items) => some (origin, put name (.tables ([] :: items)) entries)
  | _ => none

def toValue : Node → Value
  | leaf v => v
  | table _ entries => .ofEntries (entryValues entries)
  | tables items => .array (tableValues items).reverse
where
  entryValues : List (String × Node) → List (String × Value)
  | [] => []
  | (name, n) :: es => (name, n.toValue) :: entryValues es
  tableValues : List (List (String × Node)) → List Value
  | [] => []
  | es :: items => .ofEntries (entryValues es) :: tableValues items

end Node

end TreeWatch.Toml
