import Preferences.Calendar.Period
import Preferences.Guid
import Preferences.Number.Layout

/-!
# Typed values

The values that a preference can be asked for or set to, each with its type. A type has a name,
which messages use.
-/

namespace Preferences

open Calendar (Selection)

/-- The types that preferences are asked for (`OptionType`). -/
inductive ValueType where
  | text
  | flag
  | int64
  | int32
  | float
  | reference
  | references
  | selection
deriving DecidableEq, Repr

namespace ValueType

/-- The name in messages (`OptionType::TYPE_NAME`). -/
def name : ValueType → String
  | text => "String"
  | flag => "bool"
  | int64 => "i64"
  | int32 => "i32"
  | float => "f64"
  | reference => "Option<Guid>"
  | references => "Vec<Guid>"
  | selection => "DateSelection"

instance : Named ValueType where
  all := [text, flag, int64, int32, float, reference, references, selection]
  name := name
  mem_all type := by cases type <;> decide
  names_differ := by decide

end ValueType

/-- A value of one of the types. A reference is to one object or to none. -/
inductive Value where
  | text (value : String)
  | flag (value : Bool)
  | int64 (value : Int64)
  | int32 (value : Int32)
  | float (value : Binary64)
  | reference (value : Option Guid)
  | references (value : List Guid)
  | selection (value : Selection)
deriving DecidableEq

namespace Value

def type : Value → ValueType
  | text _ => .text
  | flag _ => .flag
  | int64 _ => .int64
  | int32 _ => .int32
  | float _ => .float
  | reference _ => .reference
  | references _ => .references
  | selection _ => .selection

end Value

class Shown (α : Type) where
  text : α → String

instance : Shown Int32 := ⟨fun n => toString n.toInt⟩

instance : Shown Int64 := ⟨fun n => toString n.toInt⟩

instance {f : Format} : Shown (Binary f) := ⟨Binary.text⟩

end Preferences
