import Preferences.Json.Value

/-!
# Writing JSON

Values are written over several lines, with two spaces for each level and one item or member to a
line. In strings the quote, the backslash and the control characters are escaped and nothing else.
What is no finite number is written as `null`.
-/

namespace Preferences.Json

/-! ### Strings -/

/-- The lower-case hexadecimal digit for a number below sixteen. -/
def hexChar (n : Nat) : Char := Nat.digitChar n

def escape (c : Char) : List Char :=
  if c = '"' then ['\\', '"']
  else if c = '\\' then ['\\', '\\']
  else if c = '\x08' then ['\\', 'b']
  else if c = '\x0c' then ['\\', 'f']
  else if c = '\n' then ['\\', 'n']
  else if c = '\r' then ['\\', 'r']
  else if c = '\t' then ['\\', 't']
  else if c.toNat < 32 then
    ['\\', 'u', '0', '0', hexChar (c.toNat / 16), hexChar (c.toNat % 16)]
  else [c]

def quote (s : String) : List Char := '"' :: (s.toList.flatMap escape ++ ['"'])

/-! ### Values -/

/-- A line break and the indentation of a level. -/
def newLine (level : Nat) : List Char := '\n' :: List.replicate (2 * level) ' '

mutual

def render (level : Nat) : Value → List Char
  | .null => "null".toList
  | .bool true => "true".toList
  | .bool false => "false".toList
  | .integer n => (toString n.toInt).toList
  | .float x => if x.isFinite then (numbers.render x).toList else "null".toList
  | .string s => quote s
  | .array [] => ['[', ']']
  | .array (item :: rest) =>
    '[' :: newLine (level + 1) ++ render (level + 1) item ++ renderItems (level + 1) rest ++
      newLine level ++ [']']
  | .object [] => ['\x7b', '\x7d']
  | .object ((name, value) :: rest) =>
    '\x7b' :: newLine (level + 1) ++ quote name ++ [':', ' '] ++ render (level + 1) value ++
      renderMembers (level + 1) rest ++ newLine level ++ ['\x7d']

def renderItems (level : Nat) : List Value → List Char
  | [] => []
  | item :: rest => ',' :: newLine level ++ render level item ++ renderItems level rest

def renderMembers (level : Nat) : List (String × Value) → List Char
  | [] => []
  | (name, value) :: rest =>
    ',' :: newLine level ++ quote name ++ [':', ' '] ++ render level value ++
      renderMembers level rest

end

def print (value : Value) : String := String.ofList (render 0 value)

end Preferences.Json
