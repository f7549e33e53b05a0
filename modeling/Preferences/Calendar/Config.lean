import Preferences.Calendar.Service
import Preferences.Folder
import Preferences.Toml.Printer
import Preferences.Toml.Reader

/-!
# Configuration of a time service

A configuration says where the fiscal year starts and in which zone days are measured. It can be
read from TOML, where what is not said has its default and keys of other names do not count. Only a
configuration with a month, a day that every month has, and a zone with a known name is valid, and
only a valid one can be read or make a service. Which names are known, and the rules of their zones,
is for a time zone database to say, and any will do.
-/

namespace Preferences.Calendar

/-- What a configuration says (`TimeServiceConfig`). -/
structure Config where
  fiscalMonth : UInt32
  fiscalDay : UInt32
  useUtc : Bool
  timeZone : Option String
deriving DecidableEq, Repr

namespace Config

def default : Config := ⟨1, 1, false, none⟩

instance : Inhabited Config := ⟨default⟩

/-! ### Validity -/

/-- The rules of the zones that a time zone database knows by a name. -/
abbrev KnownZones := String → Option ZoneRules

/-- The zone that is named, if one is (`TimeServiceConfig::parsed_time_zone`). -/
def parsedZone (config : Config) (known : KnownZones) : Except Error (Option Zone) :=
  match config.timeZone with
  | none => .ok none
  | some name =>
    match known name with
    | some rules => .ok (some (.named name rules))
    | none => .error (.configuration "time_zone" s!"'{name}' is not a known time zone")

/-- Success for a valid configuration (`TimeServiceConfig::validate`), and otherwise the first field
that is wrong. -/
def validate (config : Config) (known : KnownZones) : Except Error Unit := do
  if config.fiscalMonth < 1 ∨ 12 < config.fiscalMonth then
    throw (.configuration "fiscal_year_start_month"
      s!"{config.fiscalMonth.toNat} is not a month")
  if config.fiscalDay < 1 ∨ 28 < config.fiscalDay then
    throw (.configuration "fiscal_year_start_day"
      s!"{config.fiscalDay.toNat} must be between 1 and 28")
  let _ ← config.parsedZone known

/-- The service that a configuration describes (`CalendarTimeService::from_config`). Universal time
wins over a named zone. -/
def service (config : Config) (known : KnownZones) : Except Error Service := do
  config.validate known
  let named ← config.parsedZone known
  let zone := if config.useUtc then Zone.utc else named.getD .system
  .ok ((Service.ofZone zone).withFiscalStart config.fiscalMonth.toNat config.fiscalDay.toNat)

/-! ### TOML -/

def toToml (config : Config) : List (String × Toml.Value) :=
  [("fiscal_year_start_month", .integer (.ofNat config.fiscalMonth.toNat)),
    ("fiscal_year_start_day", .integer (.ofNat config.fiscalDay.toNat)),
    ("use_utc", .bool config.useUtc)] ++
  config.timeZone.toList.map fun name => ("time_zone", .string name)

def print (config : Config) : String := Toml.print config.toToml

/-- The value under a key, read as `read` says; `absent` if there is none. -/
def field {α : Type} (document : Dict Toml.Value) (key : String) (absent : α)
    (read : Toml.Value → Option α) : Option α :=
  match document.get? key with
  | none => some absent
  | some value => read value

def word? : Toml.Value → Option UInt32
  | .integer n => if 0 ≤ n.toInt ∧ n.toInt < UInt32.size then some (.ofNat n.toInt.toNat) else none
  | _ => none

def flag? : Toml.Value → Option Bool
  | .bool value => some value
  | _ => none

def text? : Toml.Value → Option (Option String)
  | .string value => some (some value)
  | _ => none

def ofToml? (document : Dict Toml.Value) : Option Config := do
  let fiscalMonth ← field document "fiscal_year_start_month" default.fiscalMonth word?
  let fiscalDay ← field document "fiscal_year_start_day" default.fiscalDay word?
  let useUtc ← field document "use_utc" default.useUtc flag?
  let timeZone ← field document "time_zone" default.timeZone text?
  some ⟨fiscalMonth, fiscalDay, useUtc, timeZone⟩

/-- Reads a configuration from text that goes by a path. -/
def parse (known : KnownZones) (path text : String) : Except Error Config :=
  match (Toml.parse? text).bind ofToml? with
  | none => .error (.unreadable path .malformed)
  | some config => do
    config.validate known
    .ok config

/-- Reads a configuration from text that comes from no file (`TimeServiceConfig::from_toml_str`). -/
def ofText (known : KnownZones) (text : String) : Except Error Config :=
  parse known "<string>" text

/-- Reads a configuration from a file (`TimeServiceConfig::load`). -/
def load (known : KnownZones) (folder : Folder) (path : String) : Except Error Config := do
  let text ← folder.read path
  parse known path text

end Config

end Preferences.Calendar
