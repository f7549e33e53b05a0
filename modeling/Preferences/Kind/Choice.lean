import Preferences.Outcome

/-!
# Choices

A choice takes the keys of a fixed list of entries. What is kept is the place of the chosen entry;
of several entries with one key the first is meant. A choice is a `MultichoiceValue`, of which
`build`, `withDefault`, `accepts` and `set` are `new`, `with_default`, `validate` and `set_value`.
-/

namespace Preferences

structure Entry where
  key : String
  name : String
  description : String
deriving DecidableEq, Repr

structure Choice where
  entries : List Entry
  selected : Fin entries.length
  default : Fin entries.length
deriving DecidableEq

namespace Choice

/-- The first place of a key (`MultichoiceValue::permissible_value_index`). -/
def place? (entries : List Entry) (key : String) : Option (Fin entries.length) :=
  entries.findFinIdx? fun entry => entry.key == key

def build (id : Identity) (entries : List Entry) : Except Error Choice :=
  if h : 0 < entries.length then .ok ⟨entries, ⟨0, h⟩, ⟨0, h⟩⟩
  else .error (.noChoices id.page id.name)

/-- Makes the entry with a key both the chosen one and the default. -/
def withDefault (c : Choice) (key : String) : Except Error Choice :=
  match place? c.entries key with
  | some place => .ok ⟨c.entries, place, place⟩
  | none => .error (.invalidChoice key)

def value (c : Choice) : String := c.entries[c.selected].key

def defaultValue (c : Choice) : String := c.entries[c.default].key

def accepts (c : Choice) (key : String) : Bool := (place? c.entries key).isSome

def set (id : Identity) (c : Choice) (key : String) : Outcome Choice Unit :=
  match place? c.entries key with
  | some place => .done ⟨c.entries, place, c.default⟩ ()
  | none => .failed c (.invalidChoice key) [.notAChoice id key]

def reset (c : Choice) : Choice := ⟨c.entries, c.default, c.default⟩

def isChanged (c : Choice) : Bool := c.selected != c.default

end Choice

end Preferences
