import Preferences.Toml.Value

/-!
# Writing TOML

Entries that are no tables come first, one `key = value` to a line; then each table with its header
and its entries, after an empty line unless the table comes first. Arrays of more than one item are
written over several lines.

A string is written in the first of five forms that suits it: between quotes, between apostrophes,
and between three of either, all without escapes; and last, with escapes, between quotes or three
quotes. Forms with three delimiters begin with a line break if the string has one.
-/

namespace Preferences.Toml

/-! ### Strings -/

/-- A control character other than tab and line feed. -/
def isControl (c : Char) : Bool :=
  (c.toNat < 32 && c != '\t' && c != '\n') || c.toNat == 127

/-- Whether three of a character stand in a row. -/
def hasTriple (c : Char) : List Char → Bool
  | a :: b :: d :: rest => (a == c && b == c && d == c) || hasTriple c (b :: d :: rest)
  | _ => false

def upperHexChar (n : Nat) : Char := (Nat.digitChar n).toUpper

def escapeControl (c : Char) : List Char :=
  if c = '\x08' then ['\\', 'b']
  else if c = '\t' then ['\\', 't']
  else if c = '\n' then ['\\', 'n']
  else if c = '\x0c' then ['\\', 'f']
  else if c = '\r' then ['\\', 'r']
  else ['\\', 'u', '0', '0', upperHexChar (c.toNat / 16), upperHexChar (c.toNat % 16)]

def escape (c : Char) : List Char :=
  if c = '"' then ['\\', '"']
  else if c = '\\' then ['\\', '\\']
  else if isControl c ∨ c = '\t' ∨ c = '\n' then escapeControl c
  else [c]

/-- Characters between three quotes, after `run` quotes in a row: line breaks stand for themselves,
and of every three quotes in a row the third is escaped. -/
def escapeLines (run : Nat) : List Char → List Char
  | [] => []
  | c :: rest =>
    if c = '"' then
      if run = 2 then '\\' :: '"' :: escapeLines 0 rest else '"' :: escapeLines (run + 1) rest
    else if c = '\n' then '\n' :: escapeLines 0 rest
    else escape c ++ escapeLines 0 rest

def quoted (cs : List Char) : List Char := '"' :: cs.flatMap escape ++ ['"']

def literal (cs : List Char) : List Char := '\'' :: cs ++ ['\'']

/-- What stands between the opening delimiter and the string. -/
def lead (cs : List Char) : List Char := if cs.contains '\n' then ['\n'] else []

def quotedLines (cs : List Char) : List Char :=
  ['"', '"', '"'] ++ lead cs ++ escapeLines 0 cs ++ ['"', '"', '"']

def literalLines (cs : List Char) : List Char :=
  ['\'', '\'', '\''] ++ lead cs ++ cs ++ ['\'', '\'', '\'']

def stringChars (cs : List Char) : List Char :=
  let hasControl := cs.any isControl
  let hasLine := cs.contains '\n'
  if !hasControl && !cs.contains '\\' && !cs.contains '"' && !hasLine then quoted cs
  else if !hasControl && !cs.contains '\'' && !hasLine then literal cs
  else if !hasControl && !cs.contains '\\' && !hasTriple '"' cs then quotedLines cs
  else if !hasControl && !hasTriple '\'' cs then literalLines cs
  else if hasLine then quotedLines cs
  else quoted cs

/-! ### Keys -/

def keyChars (cs : List Char) : List Char :=
  let hasControl := cs.any fun c => isControl c || c == '\n'
  if !cs.isEmpty && cs.all isBareChar then cs
  else if !hasControl && !cs.contains '\\' && !cs.contains '"' then quoted cs
  else if !hasControl && !cs.contains '\'' then literal cs
  else quoted cs

/-! ### Values -/

def itemLine (item : List Char) : List Char := "\n    ".toList ++ item ++ [',']

mutual

def render : Value → List Char
  | .string s => stringChars s.toList
  | .integer n => (toString n.toInt).toList
  | .float x => (numbers.render x).toList
  | .bool true => "true".toList
  | .bool false => "false".toList
  | .datetime d => d.text.toList
  | .array [] => ['[', ']']
  | .array [item] => '[' :: render item ++ [']']
  | .array (first :: second :: rest) =>
    '[' :: itemLine (render first) ++ itemLine (render second) ++ renderItems rest ++ ['\n', ']']
  | .table [] => ['\x7b', '\x7d']
  | .table ((key, value) :: rest) =>
    '\x7b' :: ' ' :: keyChars key.toList ++ " = ".toList ++ render value ++ renderEntries rest ++
      [' ', '\x7d']

def renderItems : List Value → List Char
  | [] => []
  | item :: rest => itemLine (render item) ++ renderItems rest

/-- The entries after the first of a table within a value. -/
def renderEntries : List (String × Value) → List Char
  | [] => []
  | (key, value) :: rest =>
    ", ".toList ++ keyChars key.toList ++ " = ".toList ++ render value ++ renderEntries rest

end

/-! ### Documents -/

def entryLine (entry : String × Value) : List Char :=
  keyChars entry.1.toList ++ " = ".toList ++ render entry.2 ++ ['\n']

def tableLines (key : String) (entries : List (String × Value)) : List Char :=
  '[' :: keyChars key.toList ++ [']', '\n'] ++ entries.flatMap entryLine

def isTable : Value → Bool
  | .table _ => true
  | _ => false

def entriesOf : Value → List (String × Value)
  | .table entries => entries
  | _ => []

/-- The text of a document of entries, and of tables of entries. -/
def print (document : List (String × Value)) : String :=
  let plain := document.filter fun entry => !isTable entry.2
  let tables := document.filter fun entry => isTable entry.2
  let blocks := (if plain.isEmpty then [] else [plain.flatMap entryLine]) ++
    tables.map fun entry => tableLines entry.1 (entriesOf entry.2)
  String.ofList (List.intercalate ['\n'] blocks)

end Preferences.Toml
