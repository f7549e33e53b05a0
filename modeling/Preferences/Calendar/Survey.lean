import Preferences.Calendar.Service

/-!
# Surveys

A survey asks a service everything at one time: where every period starts and ends, what some
selections mean, and the offset. Every question that depends on the present time is remarked on
once if that time lies outside the calendar. There is no survey if the service aborts.
-/

namespace Preferences.Calendar

structure Survey where
  periods : List (Period × Int64 × Int64)
  resolved : List Int64
  offset : Int
  log : List Event

namespace Service

def survey? (service : Service) (tick : Int64) (selections : List Selection) : Option Survey := do
  let asked := service.toTimeService
  let periods ← Period.all.mapM fun period => do
    return (period, ← asked.periodStart tick period, ← asked.periodEnd tick period)
  let resolved ← selections.mapM (asked.resolve tick)
  return {
    periods, resolved, offset := service.offset tick
    log :=
      (Period.all.flatMap fun period =>
        asked.resolveLog tick (.starting period) ++ asked.resolveLog tick (.ending period)) ++
      selections.flatMap (asked.resolveLog tick) ++ service.clockLog tick }

end Service

end Preferences.Calendar
