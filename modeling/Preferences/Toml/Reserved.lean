import Preferences.Toml.Reader

/-!
# Date-times written as tables

A table whose first key is the reserved one stands for the date-time that the string under that key
spells; further keys count for nothing. In any other place the reserved key is a key like others.
-/

namespace Preferences.Toml

def datetimeKey : String := "$__toml_private_datetime"

mutual

/-- The value with date-times in place of the tables that stand for them, if each of these tables
spells one. -/
def Value.resolve? : Value → Option Value
  | .array items => (resolveItems? items).map .array
  | .table ((key, value) :: rest) =>
    if key = datetimeKey then
      match value with
      | .string text => (Datetime.ofString? text).map .datetime
      | _ => none
    else do
      let first ← value.resolve?
      let others ← resolveEntries? rest
      some (.table ((key, first) :: others))
  | value => some value

def resolveItems? : List Value → Option (List Value)
  | [] => some []
  | item :: rest => do
    let first ← item.resolve?
    let others ← resolveItems? rest
    some (first :: others)

/-- Resolves the values of entries whatever their keys. -/
def resolveEntries? : List (String × Value) → Option (List (String × Value))
  | [] => some []
  | (key, value) :: rest => do
    let first ← value.resolve?
    let others ← resolveEntries? rest
    some ((key, first) :: others)

end

/-- The entries of the document that a text spells. -/
def read? (text : String) : Option (List (String × Value)) := do
  resolveEntries? (← parse? text).entries

end Preferences.Toml
