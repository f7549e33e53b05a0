import Preferences.Number.Layout

/-!
# JSON values

A number is an integer of 64 bits where its text is one, and a floating-point number otherwise.
Members of an object keep the order of the text, and names may repeat.
-/

namespace Preferences.Json

inductive Value where
  | null
  | bool (value : Bool)
  | integer (value : Int64)
  | float (value : Binary64)
  | string (value : String)
  | array (items : List Value)
  | object (members : List (String × Value))

instance : Inhabited Value := ⟨.null⟩

/-- How floating-point numbers are written: without an exponent from `0.00001` up to, and not
including, `10 ^ 16`, and always told apart from integers. -/
def numbers : Layout where
  tie := .even
  plain e := decide (-5 ≤ e ∧ e < 16)
  wholeMark := ".0"
  nan := "null"
  infinity := "null"

end Preferences.Json
