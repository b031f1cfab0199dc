import TreeWatch.Text.Blank
import TreeWatch.Toml.Scalar

/-!
# Configuration texts

Reads a configuration text: lines with a name and a value, and headers that say to which table
the lines after them belong. A text that breaks a rule of the format has no reading.
-/

namespace TreeWatch.Toml

abbrev Reader (α : Type) := List Char → Option (α × List Char)

/-- Whether a character may stand in comments and on one line of quoted text. -/
def isPlain (c : Char) : Bool := c = '\t' || (' ' ≤ c && c ≠ '\x7f')

def skipSpace (cs : List Char) : List Char := cs.dropWhile fun c => c = ' ' || c = '\t'

def readNewline? : List Char → Option (List Char)
  | '\n' :: rest => some rest
  | '\r' :: '\n' :: rest => some rest
  | _ => none

/-- Drops a comment, if there is one; it holds no control characters. -/
def skipComment? : List Char → Option (List Char)
  | '#' :: rest => some (rest.dropWhile isPlain)
  | cs => some cs

def readLineEnd? (cs : List Char) : Option (List Char) := do
  match ← skipComment? (skipSpace cs) with
  | [] => return []
  | rest => readNewline? rest

def skipLines : Nat → List Char → List Char
  | 0, cs => cs
  | fuel + 1, cs =>
    let rest := skipSpace cs
    match rest with
    | '#' :: after => skipLines fuel (after.dropWhile isPlain)
    | rest =>
      match readNewline? rest with
      | some after => skipLines fuel after
      | none => rest

def codeChar? (ds : List Char) : Option Char := do
  let n ← ds.foldlM (fun n c => (Text.CodeSpan.hexDigit? c).map (n * 16 + ·)) 0
  if n.isValidChar then return Char.ofNat n else none

def readEscape? : Reader Char
  | 'b' :: rest => some ('\x08', rest)
  | 't' :: rest => some ('\t', rest)
  | 'n' :: rest => some ('\n', rest)
  | 'f' :: rest => some ('\x0c', rest)
  | 'r' :: rest => some ('\r', rest)
  | '"' :: rest => some ('"', rest)
  | '\\' :: rest => some ('\\', rest)
  | 'u' :: rest =>
    if rest.length < 4 then none else (codeChar? (rest.take 4)).map (·, rest.drop 4)
  | 'U' :: rest =>
    if rest.length < 8 then none else (codeChar? (rest.take 8)).map (·, rest.drop 8)
  | _ => none

def readBasic (fuel : Nat) (cs : List Char) : Option (List Char × List Char) :=
  match fuel, cs with
  | 0, _ => none
  | _, [] => none
  | _, '"' :: rest => some ([], rest)
  | fuel + 1, '\\' :: rest => do
    let (c, rest) ← readEscape? rest
    let (s, rest) ← readBasic fuel rest
    return (c :: s, rest)
  | fuel + 1, c :: rest =>
    if isPlain c then (readBasic fuel rest).map fun (s, rest) => (c :: s, rest) else none

def readLiteral : List Char → Option (List Char × List Char)
  | [] => none
  | '\'' :: rest => some ([], rest)
  | c :: rest => if isPlain c then (readLiteral rest).map fun (s, rest) => (c :: s, rest) else none

/-- Up to two quotes before three closing ones belong to the text. -/
def readClosing (quote : Char) : List Char → Option (List Char × List Char)
  | a :: b :: c :: d :: e :: rest =>
    if a = quote ∧ b = quote ∧ c = quote then
      if d = quote ∧ e = quote then some ([quote, quote], rest)
      else if d = quote then some ([quote], e :: rest)
      else some ([], d :: e :: rest)
    else none
  | [a, b, c, d] =>
    if a = quote ∧ b = quote ∧ c = quote then
      if d = quote then some ([quote], []) else some ([], [d])
    else none
  | [a, b, c] => if a = quote ∧ b = quote ∧ c = quote then some ([], []) else none
  | _ => none

def skipContinuation? (cs : List Char) : Option (List Char) := do
  let rest ← readNewline? (skipSpace cs)
  return rest.dropWhile fun c => c = ' ' || c = '\t' || c = '\n' || c = '\r'

def readBasicLines (fuel : Nat) (cs : List Char) : Option (List Char × List Char) :=
  match fuel, cs with
  | 0, _ => none
  | _, [] => none
  | fuel + 1, c :: rest =>
    match readClosing '"' (c :: rest) with
    | some r => some r
    | none =>
      if c = '\\' then
        match skipContinuation? rest with
        | some rest => readBasicLines fuel rest
        | none => do
          let (e, rest) ← readEscape? rest
          let (s, rest) ← readBasicLines fuel rest
          return (e :: s, rest)
      else
        match readNewline? (c :: rest) with
        | some rest => (readBasicLines fuel rest).map fun (s, rest) => ('\n' :: s, rest)
        | none =>
          if isPlain c then (readBasicLines fuel rest).map fun (s, rest) => (c :: s, rest) else none

def readLiteralLines (fuel : Nat) (cs : List Char) : Option (List Char × List Char) :=
  match fuel, cs with
  | 0, _ => none
  | _, [] => none
  | fuel + 1, c :: rest =>
    match readClosing '\'' (c :: rest) with
    | some r => some r
    | none =>
      match readNewline? (c :: rest) with
      | some rest => (readLiteralLines fuel rest).map fun (s, rest) => ('\n' :: s, rest)
      | none =>
        if isPlain c then (readLiteralLines fuel rest).map fun (s, rest) => (c :: s, rest) else none

def dropFirstNewline (cs : List Char) : List Char := (readNewline? cs).getD cs

def readString (cs : List Char) : Option (String × List Char) :=
  let result :=
    match cs with
    | '"' :: '"' :: '"' :: rest => readBasicLines cs.length (dropFirstNewline rest)
    | '\'' :: '\'' :: '\'' :: rest => readLiteralLines cs.length (dropFirstNewline rest)
    | '"' :: rest => readBasic cs.length rest
    | '\'' :: rest => readLiteral rest
    | _ => none
  result.map fun (s, rest) => (String.ofList s, rest)

def isBareNameChar (c : Char) : Bool := c.isAlphanum || c = '_' || c = '-'

def readNamePart (cs : List Char) : Option (String × List Char) :=
  match cs with
  | '"' :: rest => (readBasic cs.length rest).map fun (s, rest) => (String.ofList s, rest)
  | '\'' :: rest => (readLiteral rest).map fun (s, rest) => (String.ofList s, rest)
  | cs =>
    let bare := cs.takeWhile isBareNameChar
    if bare.isEmpty then none else some (String.ofList bare, cs.dropWhile isBareNameChar)

def readName : Nat → List Char → Option (List String × List Char)
  | 0, _ => none
  | fuel + 1, cs => do
    let (part, rest) ← readNamePart (skipSpace cs)
    match skipSpace rest with
    | '.' :: rest =>
      let (parts, rest) ← readName fuel rest
      return (part :: parts, rest)
    | rest => return ([part], rest)

def isScalarChar (c : Char) : Bool :=
  c.isAlphanum || c = '_' || c = '-' || c = '+' || c = '.' || c = ':'

/-- Reads a value without quotes or brackets. One space may stand between a date and a time. -/
def readScalar (cs : List Char) : Option (Value × List Char) := do
  let word := cs.takeWhile isScalarChar
  let rest := cs.dropWhile isScalarChar
  match date? word, rest with
  | some (_, []), ' ' :: c :: after =>
    if c.isDigit then
      let time := (c :: after).takeWhile isScalarChar
      return (← scalar? (word ++ ' ' :: time), (c :: after).dropWhile isScalarChar)
    else return (← scalar? word, rest)
  | _, _ => return (← scalar? word, rest)

def inlineTable? (entries : List (List String × Value)) : Option Value := do
  let (_, es) ← entries.foldlM (fun (o, es) (path, v) => Node.addPath path v o es)
    (Origin.header, [])
  return (Node.table .header es).toValue

mutual

def readValue : Nat → List Char → Option (Value × List Char)
  | 0, _ => none
  | fuel + 1, cs =>
    match cs with
    | '[' :: rest => do
      let (items, rest) ← readItems fuel rest
      return (.array items, rest)
    | '\x7b' :: rest =>
      match skipSpace rest with
      | '\x7d' :: rest => some (.table [], rest)
      | rest => do
        let (entries, rest) ← readEntries fuel rest
        return (← inlineTable? entries, rest)
    | c :: _ =>
      if c = '"' ∨ c = '\'' then (readString cs).map fun (s, rest) => (.string s, rest)
      else readScalar cs
    | [] => none

def readItems : Nat → List Char → Option (List Value × List Char)
  | 0, _ => none
  | fuel + 1, cs =>
    match skipLines (cs.length + 1) cs with
    | ']' :: rest => some ([], rest)
    | cs => do
      let (v, rest) ← readValue fuel cs
      match skipLines (rest.length + 1) rest with
      | ',' :: rest =>
        let (vs, rest) ← readItems fuel rest
        return (v :: vs, rest)
      | ']' :: rest => return ([v], rest)
      | _ => none

def readEntries : Nat → List Char → Option (List (List String × Value) × List Char)
  | 0, _ => none
  | fuel + 1, cs => do
    let (e, rest) ← readEntry fuel cs
    match skipSpace rest with
    | ',' :: rest =>
      let (es, rest) ← readEntries fuel rest
      return (e :: es, rest)
    | '\x7d' :: rest => return ([e], rest)
    | _ => none

def readEntry : Nat → List Char → Option ((List String × Value) × List Char)
  | 0, _ => none
  | fuel + 1, cs => do
    let (path, rest) ← readName (cs.length + 1) cs
    match rest with
    | '=' :: rest =>
      let (v, rest) ← readValue fuel (skipSpace rest)
      return ((path, v), rest)
    | _ => none

end

/-- One line of a document that says something. -/
inductive Line where
  | entry (path : List String) (v : Value)
  | table (path : List String)
  | repeatedTable (path : List String)

def readLine (cs : List Char) : Option (Line × List Char) :=
  match cs with
  | '[' :: '[' :: rest => do
    let (path, rest) ← readName (cs.length + 1) rest
    match rest with
    | ']' :: ']' :: rest => return (.repeatedTable path, rest)
    | _ => none
  | '[' :: rest => do
    let (path, rest) ← readName (cs.length + 1) rest
    match rest with
    | ']' :: rest => return (.table path, rest)
    | _ => none
  | cs => do
    let ((path, v), rest) ← readEntry (cs.length + 1) cs
    return (.entry path v, rest)

def readLines : Nat → List Char → Option (List Line)
  | 0, _ => none
  | fuel + 1, cs =>
    match skipLines (cs.length + 1) cs with
    | [] => some []
    | cs => do
      let (line, rest) ← readLine cs
      let lines ← readLines fuel (← readLineEnd? rest)
      return line :: lines

/-- A document that is being read: the table that entries belong to, and all tables. -/
structure Draft where
  current : List String
  entries : Node.Entries

def Draft.header (d : Draft) (path : List String)
    (change : String → Origin → Node.Entries → Option (Origin × Node.Entries)) :
    Option Draft := do
  let name ← path.getLast?
  let (_, es) ← Node.update false (change name) path.dropLast .header d.entries
  return ⟨path, es⟩

def Draft.add (d : Draft) : Line → Option Draft
  | .table path => d.header path Node.openTable
  | .repeatedTable path => d.header path Node.addTable
  | .entry path v => do
    let (_, es) ← Node.update false (Node.addPath path v) d.current .header d.entries
    return { d with entries := es }

/-- The characters of a document without the mark that may stand before them. -/
def dropMark : List Char → List Char
  | '\ufeff' :: rest => rest
  | cs => cs

def parse (s : String) : Option Value := do
  let cs := dropMark s.toList
  let lines ← readLines (cs.length + 1) cs
  let d ← lines.foldlM Draft.add ⟨[], []⟩
  return (Node.table .header d.entries).toValue

end TreeWatch.Toml
