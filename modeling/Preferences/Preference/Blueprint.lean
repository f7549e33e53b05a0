import Preferences.Preference

/-!
# Blueprints

A blueprint says what preference to build: its identity, its body at the start, and the sort of
control for the kinds that leave it open. These are what `OptionHandle::from_value` and the `new` of
each kind are given. Ranges are always shown as ranges of numbers and dates as dates. A validated
preference with data for its validator has no interface. A date whose service could not be set up
fails to be built.
-/

namespace Preferences

open Calendar

inductive Design where
  | text (value : String) (control : Control)
  | flag (value : Bool) (control : Control)
  | integer (value : Int64) (control : Control)
  | reference (value : Option Guid) (control : Control)
  | references (value : List Guid) (control : Control)
  | intRange (value min max step : Int32)
  | floatRange (value min max step : Binary64)
  | choice (entries : List Entry) (default : Option String) (control : Control)
  | checked (value : Option Guid) (accepts : Option Guid → Bool) (control : Control)
  | checkedWithData (value : Option Guid) (accepts : Option Guid → Bool) (data : Option Guid)
  | date (service : Except Error TimeService)

namespace Design

/-- Starts a choice at the entry with a key, or at the first. -/
def buildChoice (id : Identity) (entries : List Entry) (default : Option String) :
    Except Error Choice := do
  let choice ← Choice.build id entries
  match default with
  | none => .ok choice
  | some key => choice.withDefault key

def build (id : Identity) (tick : Int64) : Design → Except Error Preference × List Event
  | text value control => (.ok (.ofBody id control (.text (.of value))), [])
  | flag value control => (.ok (.ofBody id control (.flag (.of value))), [])
  | integer value control => (.ok (.ofBody id control (.integer (.of value))), [])
  | reference value control => (.ok (.ofBody id control (.reference (.of value))), [])
  | references value control => (.ok (.ofBody id control (.references (.of value))), [])
  | intRange value min max step =>
    let (range, log) := Range.build id value min max step
    (.ok (.ofBody id .numberRange (.intRange range)), log)
  | floatRange value min max step =>
    let (range, log) := Range.build id value min max step
    (.ok (.ofBody id .numberRange (.floatRange range)), log)
  | choice entries default control =>
    ((buildChoice id entries default).map fun c => .ofBody id control (.choice c), [])
  | checked value accepts control =>
    ((Checked.build id accepts none value).map fun c =>
      .ofBody id control (.checkedReference c), [])
  | checkedWithData value accepts data =>
    ((Checked.build id accepts (some data) value).map fun c =>
      .ofBody id .internal (.checkedReference c), [])
  | date service => (service.map fun s => .ofBody id .date (.date (.build s tick)), [])

end Design

structure Blueprint where
  id : Identity
  design : Design

def Blueprint.build (b : Blueprint) (tick : Int64) : Except Error Preference × List Event :=
  b.design.build b.id tick

end Preferences
