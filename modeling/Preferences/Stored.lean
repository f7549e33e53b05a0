import Preferences.Number.Layout

/-!
# Stored values

What a document can hold under a name: nothing, a scalar, or a list of such values.
-/

namespace Preferences

/-- A value in a document (`StoredValue`). -/
inductive Stored where
  | null
  | flag (value : Bool)
  | integer (value : Int64)
  | float (value : Binary64)
  | text (value : String)
  | list (items : List Stored)

namespace Stored

instance : Inhabited Stored := ⟨null⟩

/-! ### Views -/

def isNull : Stored → Bool
  | null => true
  | _ => false

def flag? : Stored → Option Bool
  | flag value => some value
  | _ => none

def integer? : Stored → Option Int64
  | integer value => some value
  | _ => none

/-- The number held (`StoredValue::as_float`); an integer counts as the nearest floating-point
number. -/
def float? : Stored → Option Binary64
  | float value => some value
  | integer value => some (.ofInt value.toInt)
  | _ => none

def text? : Stored → Option String
  | text value => some value
  | _ => none

def list? : Stored → Option (List Stored)
  | list items => some items
  | _ => none

/-- What messages call a value (`StoredValue::kind_name`). -/
def description : Stored → String
  | null => "null"
  | flag _ => "a boolean"
  | integer _ => "an integer"
  | float _ => "a float"
  | text _ => "a string"
  | list _ => "an array"

/-! ### Equality -/

mutual

/-- Equality in which numbers are compared as numbers, so `nan` differs from itself. -/
def same : Stored → Stored → Bool
  | null, null => true
  | flag a, flag b => a == b
  | integer a, integer b => a == b
  | float a, float b => a == b
  | text a, text b => a == b
  | list a, list b => sameItems a b
  | _, _ => false

def sameItems : List Stored → List Stored → Bool
  | [], [] => true
  | a :: as, b :: bs => same a b && sameItems as bs
  | _, _ => false

end

end Stored

end Preferences
