import Preferences.Error
import Preferences.Text.Named

/-!
# Periods relative to today, and date selections

A date is chosen either as a fixed time or as the start or the end of a period that moves with
today. Periods have stable ordinals and names; a selection is also written as a pair of a mode and
a number, the number being a time or the ordinal of a period. Names are those of `as_str`, and are
read by `Named.ofName?` as by `from_str`.
-/

namespace Preferences.Calendar

/-! ### Periods -/

/-- The periods that move with today (`RelativeDatePeriod`). -/
inductive Period where
  | today
  | thisMonth
  | previousMonth
  | thisQuarter
  | previousQuarter
  | thisYear
  | previousYear
  /-- The fiscal year that today belongs to. -/
  | fiscalYear
deriving DecidableEq, Repr

namespace Period

/-- Every period, in the order of the ordinals. -/
def all : List Period :=
  [today, thisMonth, previousMonth, thisQuarter, previousQuarter, thisYear, previousYear,
    fiscalYear]

def ordinal : Period → Nat
  | today => 0
  | thisMonth => 1
  | previousMonth => 2
  | thisQuarter => 3
  | previousQuarter => 4
  | thisYear => 5
  | previousYear => 6
  | fiscalYear => 7

/-- The period with an ordinal (`RelativeDatePeriod::from_ordinal`). -/
def ofOrdinal? (ordinal : Int) : Option Period :=
  if ordinal < 0 then none else all[ordinal.toNat]?

def name : Period → String
  | today => "today"
  | thisMonth => "this-month"
  | previousMonth => "prev-month"
  | thisQuarter => "current-quarter"
  | previousQuarter => "prev-quarter"
  | thisYear => "cal-year"
  | previousYear => "prev-year"
  | fiscalYear => "accounting-period"

instance : Named Period where
  all := all
  name := name
  mem_all period := by cases period <;> decide
  names_differ := by decide

/-- What is said of a name that is not a period's. -/
def unknownName (name : String) : String := s!"unknown relative date period '{name}'"

theorem ofOrdinal?_ordinal (period : Period) : ofOrdinal? period.ordinal = some period := by
  cases period <;> rfl

end Period

/-! ### Modes -/

/-- The three ways to choose a date (`DateType`). -/
inductive Mode where
  | absolute
  | starting
  | ending
deriving DecidableEq, Repr

namespace Mode

def name : Mode → String
  | absolute => "absolute"
  | starting => "starting"
  | ending => "ending"

instance : Named Mode where
  all := [absolute, starting, ending]
  name := name
  mem_all mode := by cases mode <;> decide
  names_differ := by decide

/-- What is said of a name that is not a mode's. -/
def unknownName (name : String) : String := s!"unknown date type '{name}'"

end Mode

/-! ### Selections -/

/-- What is chosen for a date (`DateSelection`). -/
inductive Selection where
  | absolute (time : Int64)
  | starting (period : Period)
  | ending (period : Period)
deriving DecidableEq, Repr

namespace Selection

def mode : Selection → Mode
  | absolute _ => .absolute
  | starting _ => .starting
  | ending _ => .ending

/-- The chosen period; a fixed time counts as chosen today. -/
def period : Selection → Period
  | absolute _ => .today
  | starting period => period
  | ending period => period

/-- The number that goes with the mode in a pair: the time, or the ordinal of the period. -/
def code : Selection → Int64
  | absolute time => time
  | starting period => .ofNat period.ordinal
  | ending period => .ofNat period.ordinal

/-- The selection that a mode and a number stand for. -/
def ofCode? (mode : Mode) (code : Int64) : Option Selection :=
  match mode with
  | .absolute => some (absolute code)
  | .starting => (Period.ofOrdinal? code.toInt).map starting
  | .ending => (Period.ofOrdinal? code.toInt).map ending

/-- The selection that a mode and a number stand for (`DateSelection::try_from`); a number that is
no ordinal is reported. -/
def ofCode (mode : Mode) (code : Int64) : Except Error Selection :=
  match ofCode? mode code with
  | some selection => .ok selection
  | none => .error (.invalidPeriod code.toInt)

theorem ofCode?_code (selection : Selection) :
    ofCode? selection.mode selection.code = some selection := by
  cases selection with
  | absolute time => rfl
  | starting period => cases period <;> rfl
  | ending period => cases period <;> rfl

end Selection

end Preferences.Calendar
