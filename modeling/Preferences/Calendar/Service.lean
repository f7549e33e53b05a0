import Preferences.Calendar.TimeService
import Preferences.Calendar.Zone

/-!
# Where periods start and end

A service measures days in a zone and knows where the fiscal year starts. A period is a run of
days, from its first day to the day past its last, and lasts from the start of the one to the
second before the start of the other. Periods are taken relative to the local day of `now`, and
`now` counts as the nearest instant of the calendar when it lies outside.

A day that would lie outside the calendar is replaced: the start of a month by the first day of the
calendar, the start of a fiscal year by the start of its January, the day after the last by the
last itself. Where local time itself has left the calendar there is no today, and no period.
-/

namespace Preferences.Calendar

/-! ### Fiscal years -/

/-- A day of the year that every year has. -/
structure FiscalStart where
  month : Nat
  day : Nat
  month_mem : 1 ≤ month ∧ month ≤ 12
  day_mem : 1 ≤ day ∧ day ≤ 28
deriving DecidableEq

namespace FiscalStart

def clamp (month day : Nat) : FiscalStart :=
  ⟨max 1 (min month 12), max 1 (min day 28), by omega, by omega⟩

def newYear : FiscalStart := clamp 1 1

instance : Inhabited FiscalStart := ⟨newYear⟩

end FiscalStart

/-! ### Days of a period -/

def isCoveredYear (year : Int) : Bool := firstYear ≤ year && year ≤ lastYear

/-- The number of a date's month, counted from January of year zero. -/
def Date.monthIndex (date : Date) : Int := date.year * 12 + ((date.month : Int) - 1)

/-- The first day of a month (`month_start`). -/
def monthStart (index : Int) : Int :=
  if isCoveredYear (index / 12) then dayNumber (index / 12) ((index % 12).toNat + 1) 1
  else firstDay

/-- The start of the fiscal year that starts in a year (`fiscal_start`). -/
def FiscalStart.inYear (start : FiscalStart) (year : Int) : Int :=
  if isCoveredYear year then dayNumber year start.month start.day else monthStart (year * 12)

/-- The first day of a period and the day past its last, as seen on `day`
(`CalendarTimeService::period_days`). -/
def Period.days (fiscal : FiscalStart) (day : Int) (period : Period) : Int × Int :=
  let date := Date.ofDay day
  let month := date.monthIndex
  let quarter := month - month % 3
  let january := date.year * 12
  match period with
  | .today => (day, if day < lastDay then day + 1 else day)
  | .thisMonth => (monthStart month, monthStart (month + 1))
  | .previousMonth => (monthStart (month - 1), monthStart month)
  | .thisQuarter => (monthStart quarter, monthStart (quarter + 3))
  | .previousQuarter => (monthStart (quarter - 3), monthStart quarter)
  | .thisYear => (monthStart january, monthStart (january + 12))
  | .previousYear => (monthStart (january - 12), monthStart january)
  | .fiscalYear =>
    let inThisYear := fiscal.inYear date.year
    let start := if day < inThisYear then fiscal.inYear (date.year - 1) else inThisYear
    (start, fiscal.inYear ((Date.ofDay start).year + 1))

/-! ### The service -/

inductive Clock where
  /-- The time that is told when the service is asked. -/
  | running
  | fixed (now : Int64)
deriving DecidableEq

/-- A zone, where its fiscal years start, and a clock (`CalendarTimeService`). -/
structure Service where
  zone : Zone
  fiscal : FiscalStart
  clock : Clock
deriving DecidableEq

namespace Service

/-- A service in a zone (`CalendarTimeService::with_zone`), with fiscal years that are calendar
years. -/
def ofZone (zone : Zone) : Service := ⟨zone, .newYear, .running⟩

/-- Sets where the fiscal year starts (`CalendarTimeService::with_fiscal_year_start`); the nearest
permitted month and day are taken. -/
def withFiscalStart (service : Service) (month day : Nat) : Service :=
  { service with fiscal := .clamp month day }

def withFixedNow (service : Service) (now : Int64) : Service :=
  { service with clock := .fixed now }

instance : Inhabited Service := ⟨ofZone .system⟩

/-- The present time for a service that is asked at `tick`. -/
def now (service : Service) (tick : Int64) : Int64 :=
  match service.clock with
  | .running => tick
  | .fixed now => now

/-- Whether the present time had to be replaced by the nearest instant of the calendar. -/
def isClamped (service : Service) (tick : Int64) : Bool := !isCovered (service.now tick).toInt

/-- The present time within the calendar (`CalendarTimeService::now_utc`). -/
def nowInstant (service : Service) (tick : Int64) : Int := clampInstant (service.now tick).toInt

/-- Seconds that local time is ahead of universal time now (`CalendarTimeService::offset`). -/
def offset (service : Service) (tick : Int64) : Int :=
  service.zone.offsetAt (service.nowInstant tick)

/-- The local day of now, if there is one (`CalendarTimeService::today`). -/
def today? (service : Service) (tick : Int64) : Option Int :=
  service.zone.dayAt? (service.nowInstant tick)

/-- The first second of a period (`TimeService::period_start`). -/
def periodStart? (service : Service) (tick : Int64) (period : Period) : Option Int :=
  (service.today? tick).map fun today =>
    service.zone.startOfDay (period.days service.fiscal today).1

/-- The last second of a period (`TimeService::period_end`). -/
def periodEnd? (service : Service) (tick : Int64) (period : Period) : Option Int :=
  (service.today? tick).map fun today =>
    service.zone.startOfDay (period.days service.fiscal today).2 - 1

/-- Events of asking for today: the remark on a present time outside the calendar. -/
def clockLog (service : Service) (tick : Int64) : List Event :=
  if service.isClamped tick then [.clockClamped (service.now tick)] else []

/-- The service as one of all time services. It aborts where there is no today. -/
def toTimeService (service : Service) : TimeService where
  now := service.now
  periodStart tick period := (service.periodStart? tick period).map .ofInt
  periodEnd tick period := (service.periodEnd? tick period).map .ofInt
  periodLog := service.clockLog

end Service

end Preferences.Calendar
