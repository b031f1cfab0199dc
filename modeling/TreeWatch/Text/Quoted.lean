import TreeWatch.Text.HiddenTable

/-!
# Quoted text

How texts, paths and lists of texts are shown inside messages: between double quotes, with
quotes and backslashes escaped, the usual control characters by letter, and all other
characters that would not be seen by number.
-/

namespace TreeWatch.Text

def hexText (n : Nat) : String := String.ofList (Nat.toDigits 16 n)

def isHidden (c : Char) : Bool :=
  if c.toNat < 0x7F then c.toNat < 0x20 else CodeSpan.anyContains hiddenSpans c.toNat

def quoteChar (c : Char) : String :=
  if c = '\x00' then "\\0"
  else if c = '\t' then "\\t"
  else if c = '\n' then "\\n"
  else if c = '\r' then "\\r"
  else if c = '"' then "\\\""
  else if c = '\\' then "\\\\"
  else if isHidden c then "\\u\x7b" ++ hexText c.toNat ++ "\x7d"
  else c.toString

def quoted (s : String) : String := "\"" ++ String.join (s.toList.map quoteChar) ++ "\""

def bracketed (items : List String) : String := "[" ++ String.intercalate ", " items ++ "]"

def quotedList (items : List String) : String := bracketed (items.map quoted)

def recordText (name : String) (fields : List (String × String)) : String :=
  name ++ " \x7b " ++ String.intercalate ", " (fields.map fun (k, v) => k ++ ": " ++ v) ++ " \x7d"

end TreeWatch.Text
