import Preferences.Calendar.TimeService

/-!
# Dates

A date is a fixed time, or the start or the end of a period, and is read as the time that this
means when it is read. The fixed time last set is retained while a period is selected, and a fixed
time goes with the period `today`. The default is the present time, whenever that is asked for. The
ticks told to these functions are those at which they are called.

A date is a `DateValue`. Its service may be any, and is given to `build` as it is to
`DateValue::with_time_service`. `set` and `select` are `set_value` and `set_selection`, and `reset`
is `reset_default_value`.
-/

namespace Preferences

open Calendar

structure DateChoice where
  mode : Mode
  period : Period
  /-- The fixed time last set. -/
  time : Int64
  service : TimeService

namespace DateChoice

def selection (d : DateChoice) : Selection :=
  match d.mode with
  | .absolute => .absolute d.time
  | .starting => .starting d.period
  | .ending => .ending d.period

def set (d : DateChoice) (time : Int64) : DateChoice :=
  { d with mode := .absolute, period := .today, time := time }

/-- A period leaves the fixed time as it was. -/
def select (d : DateChoice) (selection : Selection) : DateChoice :=
  match selection with
  | .absolute time => d.set time
  | .starting period | .ending period => { d with mode := selection.mode, period := period }

def build (service : TimeService) (tick : Int64) : DateChoice :=
  ⟨.absolute, .today, service.now tick, service⟩

/-- The time that is meant; nothing if the service aborts. -/
def value (d : DateChoice) (tick : Int64) : Option Int64 := d.service.resolve tick d.selection

def valueLog (d : DateChoice) (tick : Int64) : List Event := d.service.resolveLog tick d.selection

def defaultValue (d : DateChoice) (tick : Int64) : Int64 := d.service.now tick

def reset (d : DateChoice) (tick : Int64) : DateChoice := d.set (d.defaultValue tick)

end DateChoice

end Preferences
