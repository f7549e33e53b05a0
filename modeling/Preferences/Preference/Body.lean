import Preferences.Kind.Checked
import Preferences.Kind.Choice
import Preferences.Kind.DateChoice
import Preferences.Kind.Plain
import Preferences.Kind.Range

/-!
# What a preference holds

The body of a preference is a value of one of five kinds over a type from a closed list. It is read
and set in its own type; a choice is read and set as text, a date as a selection or as a time. Any
other type is a mismatch, whatever the value, and leaves the body as it was.
-/

namespace Preferences

open Calendar

/-- Every kind with every type that it comes in (`OptionVariant`). -/
inductive Body where
  | text (plain : Plain String)
  | flag (plain : Plain Bool)
  | integer (plain : Plain Int64)
  | reference (plain : Plain (Option Guid))
  | references (plain : Plain (List Guid))
  | choice (choice : Choice)
  | intRange (range : Range Int32)
  | floatRange (range : Range Binary64)
  | checkedReference (checked : Checked (Option Guid))
  | date (date : DateChoice)

namespace Body

def kind : Body → Kind
  | text _ | flag _ | integer _ | reference _ | references _ => .plain
  | choice _ => .choice
  | intRange _ | floatRange _ => .range
  | checkedReference _ => .validated
  | date _ => .date

/-- The type that is named as the one held (`OptionVariant::value_type_name`). -/
def held : Body → ValueType
  | text _ | choice _ => .text
  | flag _ => .flag
  | integer _ | date _ => .int64
  | reference _ | checkedReference _ => .reference
  | references _ => .references
  | intRange _ => .int32
  | floatRange _ => .float

/-! ### Reading -/

def mismatch (expected : ValueType) (body : Body) : Error :=
  .typeMismatch expected.name body.held.name

/-- The time that a service told, if it did not abort. -/
def told : Option Int64 → Except Fault Value
  | some time => .ok (.int64 time)
  | none => .error .aborted

/-- The value, read in a type at a time (`OptionType::get`). -/
def get (tick : Int64) : Body → ValueType → Except Fault Value
  | text p, .text => .ok (.text p.value)
  | choice c, .text => .ok (.text c.value)
  | flag p, .flag => .ok (.flag p.value)
  | integer p, .int64 => .ok (.int64 p.value)
  | date d, .int64 => told (d.value tick)
  | date d, .selection => .ok (.selection d.selection)
  | intRange r, .int32 => .ok (.int32 r.value)
  | floatRange r, .float => .ok (.float r.value)
  | reference p, .reference => .ok (.reference p.value)
  | checkedReference c, .reference => .ok (.reference c.value)
  | references p, .references => .ok (.references p.value)
  | body, expected => .error (.failed (mismatch expected body))

/-- The default, read in a type at a time (`OptionType::get_default`). -/
def getDefault (tick : Int64) : Body → ValueType → Except Fault Value
  | text p, .text => .ok (.text p.default)
  | choice c, .text => .ok (.text c.defaultValue)
  | flag p, .flag => .ok (.flag p.default)
  | integer p, .int64 => .ok (.int64 p.default)
  | date d, .int64 => .ok (.int64 (d.defaultValue tick))
  | date d, .selection => .ok (.selection (.absolute (d.defaultValue tick)))
  | intRange r, .int32 => .ok (.int32 r.default)
  | floatRange r, .float => .ok (.float r.default)
  | reference p, .reference => .ok (.reference p.default)
  | checkedReference c, .reference => .ok (.reference c.default)
  | references p, .references => .ok (.references p.default)
  | body, expected => .error (.failed (mismatch expected body))

/-- Events of reading the value: those of the service that is asked for a date. -/
def getLog (tick : Int64) : Body → ValueType → List Event
  | date d, .int64 => d.valueLog tick
  | _, _ => []

/-- Whether the value differs from the default; a date has no default to differ from. -/
def isChanged? : Body → Option Bool
  | text p => some p.isChanged
  | flag p => some p.isChanged
  | integer p => some p.isChanged
  | reference p => some p.isChanged
  | references p => some p.isChanged
  | choice c => some c.isChanged
  | intRange r => some r.isChanged
  | floatRange r => some r.isChanged
  | checkedReference c => some c.isChanged
  | date _ => none

/-- Bounds and step of a range as floating-point numbers (`OptionHandle::range_bounds`). -/
def bounds? : Body → Option (Binary64 × Binary64 × Binary64)
  | intRange r => some (.ofInt r.min.toInt, .ofInt r.max.toInt, .ofInt r.step.toInt)
  | floatRange r => some (r.min, r.max, r.step)
  | _ => none

def choice? : Body → Option Choice
  | choice c => some c
  | _ => none

def date? : Body → Option DateChoice
  | date d => some d
  | _ => none

/-- Whether a value would be taken; asked of the kinds that refuse some, in the type they hold. -/
def accepts? : Body → Value → Option Bool
  | choice c, .text key => some (c.accepts key)
  | intRange r, .int32 value => some (r.accepts value)
  | floatRange r, .float value => some (r.accepts value)
  | checkedReference c, .reference value => some (c.accepts value)
  | _, _ => none

/-! ### Setting -/

/-- Sets the value in its type (`OptionType::set`). -/
def set (id : Identity) : Body → Value → Outcome Body Unit
  | text p, .text value => .done (text (p.set value)) ()
  | choice c, .text key => (c.set id key).within choice
  | flag p, .flag value => .done (flag (p.set value)) ()
  | integer p, .int64 value => .done (integer (p.set value)) ()
  | date d, .int64 time => .done (date (d.set time)) ()
  | date d, .selection selection => .done (date (d.select selection)) ()
  | intRange r, .int32 value => (r.set id value).within intRange
  | floatRange r, .float value => (r.set id value).within floatRange
  | reference p, .reference value => .done (reference (p.set value)) ()
  | checkedReference c, .reference value => (c.set id value).within checkedReference
  | references p, .references value => .done (references (p.set value)) ()
  | body, value => .failed body (mismatch value.type body) []

/-- Goes back to the default (`OptionVariant::reset_default_value`). -/
def reset (tick : Int64) : Body → Body
  | text p => text p.reset
  | flag p => flag p.reset
  | integer p => integer p.reset
  | reference p => reference p.reset
  | references p => references p.reset
  | choice c => choice c.reset
  | intRange r => intRange r.reset
  | floatRange r => floatRange r.reset
  | checkedReference c => checkedReference c.reset
  | date d => date (d.reset tick)

end Body

end Preferences
