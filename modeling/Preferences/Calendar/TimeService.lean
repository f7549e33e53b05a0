import Preferences.Outcome

/-!
# Time services

A time service tells the present time, and where the periods relative to it start and end. It is
asked at a tick of the clock. It need not tell where a period lies: it may abort instead, and
whoever asked aborts with it. A selection is resolved by asking for its period, and a fixed time
stands for itself.
-/

namespace Preferences.Calendar

/-- Any service will do (`TimeService`). What it answers at a tick is all that is known of it. -/
structure TimeService where
  now : Int64 → Int64
  /-- The first second of a period; nothing if the service aborts. -/
  periodStart : Int64 → Period → Option Int64
  /-- The last second of a period; nothing if the service aborts. -/
  periodEnd : Int64 → Period → Option Int64
  /-- Events of asking where a period lies. -/
  periodLog : Int64 → List Event

namespace TimeService

/-- The time that a selection means at a tick (`TimeService::resolve`). -/
def resolve (service : TimeService) (tick : Int64) : Selection → Option Int64
  | .absolute time => some time
  | .starting period => service.periodStart tick period
  | .ending period => service.periodEnd tick period

def resolveLog (service : TimeService) (tick : Int64) : Selection → List Event
  | .absolute _ => []
  | .starting _ | .ending _ => service.periodLog tick

end TimeService

end Preferences.Calendar
