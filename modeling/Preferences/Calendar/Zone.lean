import Preferences.Calendar.Date

/-!
# Time zones

A zone gives the offset of local time from universal time, in seconds east, at every instant. The
offsets of a zone change at listed instants. A local time belongs to every instant that reads as
it: two or more where clocks were set back, none where they were set forward over it.
-/

namespace Preferences.Calendar

/-- An offset and the instants at which it is replaced by another, in ascending order. -/
structure ZoneRules where
  base : Int
  changes : List (Int × Int)
deriving DecidableEq, Repr

namespace ZoneRules

/-- The offset after those of the `changes` that `instant` has reached. -/
def offsetAfter (base : Int) (changes : List (Int × Int)) (instant : Int) : Int :=
  match changes with
  | [] => base
  | (start, offset) :: later =>
    if start ≤ instant then offsetAfter offset later instant else base

def offsetAt (rules : ZoneRules) (instant : Int) : Int :=
  offsetAfter rules.base rules.changes instant

def offsets (rules : ZoneRules) : List Int := rules.base :: rules.changes.map Prod.snd

/-- Instants within the calendar that read as the local time `reading`. -/
def instantsReading (rules : ZoneRules) (reading : Int) : List Int :=
  (rules.offsets.map (reading - ·)).filter fun instant =>
    decide (instant + rules.offsetAt instant = reading) && isCovered instant

/-- The first instant that reads as the local time `reading`. -/
def earliest? (rules : ZoneRules) (reading : Int) : Option Int :=
  (rules.instantsReading reading).min?

/-- The start of a day (`local_midnight`): the first local midnight; where midnight is skipped, one
o'clock; where that is skipped too, midnight in universal time. -/
def startOfDay (rules : ZoneRules) (day : Int) : Int :=
  let midnight := day * secondsPerDay
  ((rules.earliest? midnight).or (rules.earliest? (midnight + 3600))).getD midnight

theorem offsetAfter_mem (base : Int) (changes : List (Int × Int)) (instant : Int) :
    offsetAfter base changes instant ∈ base :: changes.map Prod.snd := by
  induction changes generalizing base with
  | nil => simp [offsetAfter]
  | cons change later ih =>
    obtain ⟨start, offset⟩ := change
    unfold offsetAfter
    split
    · exact List.mem_cons_of_mem _ (ih offset)
    · exact List.mem_cons_self

theorem mem_instantsReading {rules : ZoneRules} {reading instant : Int} :
    instant ∈ rules.instantsReading reading ↔
      instant + rules.offsetAt instant = reading ∧ isCovered instant = true := by
  simp only [instantsReading, List.mem_filter, Bool.and_eq_true, decide_eq_true_eq]
  refine ⟨And.right, fun h => ⟨?_, h⟩⟩
  refine List.mem_map.2 ⟨rules.offsetAt instant, offsetAfter_mem _ _ _, ?_⟩
  omega

end ZoneRules

/-- Where days are measured (`CalendarZone`). -/
inductive Zone where
  /-- The zone of the machine, which keeps universal time. -/
  | system
  | fixed (offset : Int)
  | named (name : String) (rules : ZoneRules)
deriving DecidableEq, Repr

namespace Zone

def utc : Zone := fixed 0

def rules : Zone → ZoneRules
  | system => ⟨0, []⟩
  | fixed offset => ⟨offset, []⟩
  | named _ rules => rules

def offsetAt (zone : Zone) (instant : Int) : Int := zone.rules.offsetAt instant

def startOfDay (zone : Zone) (day : Int) : Int := zone.rules.startOfDay day

/-- The local day of an instant, if local time has not left the calendar. -/
def dayAt? (zone : Zone) (instant : Int) : Option Int :=
  let reading := instant + zone.offsetAt instant
  if isCovered reading then some (dayOfSeconds reading) else none

end Zone

end Preferences.Calendar
