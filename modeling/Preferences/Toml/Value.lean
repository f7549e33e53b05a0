import Preferences.Number.Layout
import Preferences.Toml.Datetime

/-!
# TOML values

Tables list their entries in the order in which these came into the document.
-/

namespace Preferences.Toml

inductive Value where
  | string (value : String)
  | integer (value : Int64)
  | float (value : Binary64)
  | bool (value : Bool)
  | datetime (value : Datetime)
  | array (items : List Value)
  | table (entries : List (String × Value))

instance : Inhabited Value := ⟨.table []⟩

/-- How floating-point numbers are written: without an exponent, and always told apart from
integers. -/
def numbers : Layout where
  tie := .up
  plain _ := true
  wholeMark := ".0"
  nan := "nan"
  infinity := "inf"

/-- A character that a key may have without quotes. -/
def isBareChar (c : Char) : Bool :=
  ('A' ≤ c && c ≤ 'Z') || ('a' ≤ c && c ≤ 'z') || ('0' ≤ c && c ≤ '9') || c == '_' || c == '-'

end Preferences.Toml
