import Preferences.Calendar.ZoneTable
import Preferences.Proofs.Calendar.FixedOffset

/-!
# Periods in a zone that changes its offset

What clocks show decides whether a day has started (`ZoneRules.HasStarted`), and an instant lies in
a period exactly when the first day of the period has started and the day past it has not. That is
what the local date says wherever the days dawn (`ZoneRules.DawnsAt`): local time passes the
midnight that begins the day once and for good, or clocks are set forward there by what the start of
a day allows for. Where clocks are set forward further, or back over midnight, the present time can
lie outside today.
-/

namespace Preferences.Calendar

namespace ZoneRules

variable {rules : ZoneRules}

/-! ### Clocks -/

/-- Whether clocks show a local time at an instant. -/
def Shows (rules : ZoneRules) (instant reading : Int) : Prop :=
  instant + rules.offsetAt instant = reading

def localDay (rules : ZoneRules) (instant : Int) : Int :=
  dayOfSeconds (instant + rules.offsetAt instant)

/-- Whether a day has started at an instant: clocks have shown its midnight, or, if they never show
that, one o'clock. If they never show that either, it is midnight in universal time that counts. -/
def HasStarted (rules : ZoneRules) (day instant : Int) : Prop :=
  let midnight := day * secondsPerDay
  (∃ i, i ≤ instant ∧ rules.Shows i midnight) ∨
    (∀ i, ¬ rules.Shows i midnight) ∧
      ((∃ i, i ≤ instant ∧ rules.Shows i (midnight + 3600)) ∨
        (∀ i, ¬ rules.Shows i (midnight + 3600)) ∧ midnight ≤ instant)

/-- A day dawns at an instant: local dates are before the day until then, and not any more from then
on, and what clocks show at that instant is what counts as the start of the day. -/
structure DawnsAt (rules : ZoneRules) (day start : Int) : Prop where
  date : ∀ instant, start ≤ instant ↔ day ≤ rules.localDay instant
  clock : rules.Shows start (day * secondsPerDay) ∨
    (∀ i, ¬ rules.Shows i (day * secondsPerDay)) ∧
      (rules.Shows start (day * secondsPerDay + 3600) ∨
        (∀ i, ¬ rules.Shows i (day * secondsPerDay + 3600)) ∧ start = day * secondsPerDay)

/-! ### The start of a day -/

section

variable (hoffsets : ∀ offset ∈ rules.offsets, IsOffset offset)
include hoffsets

theorem isOffset_offsetAt (instant : Int) : IsOffset (rules.offsetAt instant) :=
  hoffsets _ (offsetAfter_mem _ _ _)

theorem mem_instantsReading_iff {reading : Int} (hfrom : firstInstant + secondsPerDay ≤ reading)
    (hto : reading ≤ lastInstant - secondsPerDay) {instant : Int} :
    instant ∈ rules.instantsReading reading ↔ rules.Shows instant reading := by
  refine mem_instantsReading.trans ⟨And.left, fun hshows => ⟨hshows, ?_⟩⟩
  obtain ⟨hlow, hhigh⟩ := isOffset_offsetAt hoffsets instant
  unfold Shows at hshows
  rw [isCovered_iff]
  unfold secondsPerDay at hfrom hto
  omega

theorem earliest?_cases {reading : Int} (hfrom : firstInstant + secondsPerDay ≤ reading)
    (hto : reading ≤ lastInstant - secondsPerDay) :
    (∃ first, rules.earliest? reading = some first ∧ rules.Shows first reading ∧
      ∀ i, rules.Shows i reading → first ≤ i) ∨
    rules.earliest? reading = none ∧ ∀ i, ¬ rules.Shows i reading := by
  have hmem : ∀ i, i ∈ rules.instantsReading reading ↔ rules.Shows i reading := fun _ =>
    mem_instantsReading_iff hoffsets hfrom hto
  unfold earliest?
  cases hmin : (rules.instantsReading reading).min? with
  | none =>
    have hnil := List.min?_eq_none_iff.1 hmin
    refine .inr ⟨rfl, fun i hshows => ?_⟩
    have himem := (hmem i).2 hshows
    rw [hnil] at himem
    cases himem
  | some first =>
    obtain ⟨hfirst, hleast⟩ := List.min?_eq_some_iff.1 hmin
    exact .inl ⟨first, rfl, (hmem first).1 hfirst, fun i hshows => hleast i ((hmem i).2 hshows)⟩

variable {day : Int} (hfirst : firstDay < day) (hlast : day < lastDay)
include hfirst hlast

/-- A day starts at the first instant that reads as its midnight; if there is none, as one o'clock;
if there is none either, at midnight in universal time. -/
theorem startOfDay_cases :
    (rules.Shows (rules.startOfDay day) (day * secondsPerDay) ∧
      ∀ i, rules.Shows i (day * secondsPerDay) → rules.startOfDay day ≤ i) ∨
    (∀ i, ¬ rules.Shows i (day * secondsPerDay)) ∧
      ((rules.Shows (rules.startOfDay day) (day * secondsPerDay + 3600) ∧
        ∀ i, rules.Shows i (day * secondsPerDay + 3600) → rules.startOfDay day ≤ i) ∨
      (∀ i, ¬ rules.Shows i (day * secondsPerDay + 3600)) ∧
        rules.startOfDay day = day * secondsPerDay) := by
  have hbounds : firstInstant + secondsPerDay ≤ day * secondsPerDay ∧
      day * secondsPerDay + 3600 ≤ lastInstant - secondsPerDay := by
    unfold firstInstant lastInstant secondsPerDay
    omega
  obtain ⟨hfrom, hto⟩ := hbounds
  have hto' : day * secondsPerDay ≤ lastInstant - secondsPerDay := by omega
  have hfrom' : firstInstant + secondsPerDay ≤ day * secondsPerDay + 3600 := by omega
  unfold startOfDay
  dsimp only
  rcases earliest?_cases hoffsets hfrom hto' with
    ⟨first, heq, hshows, hleast⟩ | ⟨heq, hnone⟩
  · rw [heq]
    exact .inl ⟨hshows, hleast⟩
  · refine .inr ⟨hnone, ?_⟩
    rw [heq]
    rcases earliest?_cases hoffsets hfrom' hto with
      ⟨first, heq, hshows, hleast⟩ | ⟨heq, hnone⟩
    · rw [heq]
      exact .inl ⟨hshows, hleast⟩
    · rw [heq]
      exact .inr ⟨hnone, rfl⟩

theorem isCovered_startOfDay : isCovered (rules.startOfDay day) = true := by
  obtain ⟨hlow, hhigh⟩ := isOffset_offsetAt hoffsets (rules.startOfDay day)
  rw [isCovered_iff]
  unfold firstInstant lastInstant
  rcases startOfDay_cases hoffsets hfirst hlast with
    ⟨hshows, -⟩ | ⟨-, ⟨hshows, -⟩ | ⟨-, hstart⟩⟩
  · unfold Shows secondsPerDay at *
    omega
  · unfold Shows secondsPerDay at *
    omega
  · rw [hstart]
    unfold secondsPerDay
    omega

theorem startOfDay_le_iff (instant : Int) :
    rules.startOfDay day ≤ instant ↔ rules.HasStarted day instant := by
  unfold HasStarted
  dsimp only
  rcases startOfDay_cases hoffsets hfirst hlast with
    ⟨hshows, hleast⟩ | ⟨hnone, ⟨hshows, hleast⟩ | ⟨hnone', hstart⟩⟩
  · constructor
    · exact fun hle => .inl ⟨_, hle, hshows⟩
    · rintro (⟨i, hi, hshown⟩ | ⟨hnone, -⟩)
      · exact Int.le_trans (hleast i hshown) hi
      · exact absurd hshows (hnone _)
  · constructor
    · exact fun hle => .inr ⟨hnone, .inl ⟨_, hle, hshows⟩⟩
    · rintro (⟨i, -, hshown⟩ | ⟨-, ⟨i, hi, hshown⟩ | ⟨hnone', -⟩⟩)
      · exact absurd hshown (hnone i)
      · exact Int.le_trans (hleast i hshown) hi
      · exact absurd hshows (hnone' _)
  · rw [hstart]
    constructor
    · exact fun hle => .inr ⟨hnone, .inr ⟨hnone', hle⟩⟩
    · rintro (⟨i, -, hshown⟩ | ⟨-, ⟨i, -, hshown⟩ | ⟨-, hle⟩⟩)
      · exact absurd hshown (hnone i)
      · exact absurd hshown (hnone' i)
      · exact hle

/-- Suppose that clocks show no time of a day before some instant. The day starts at that instant if
what clocks show there is what counts as the start of the day, and only then. -/
theorem startOfDay_eq_iff {start : Int} (hafter : ∀ i seconds, 0 ≤ seconds →
    rules.Shows i (day * secondsPerDay + seconds) → start ≤ i) :
    rules.startOfDay day = start ↔
      rules.Shows start (day * secondsPerDay) ∨
      (∀ i, ¬ rules.Shows i (day * secondsPerDay)) ∧
        (rules.Shows start (day * secondsPerDay + 3600) ∨
          (∀ i, ¬ rules.Shows i (day * secondsPerDay + 3600)) ∧
            start = day * secondsPerDay) := by
  constructor
  · rintro rfl
    rcases startOfDay_cases hoffsets hfirst hlast with
      ⟨hshows, -⟩ | ⟨hnone, ⟨hshows, -⟩ | ⟨hnone', hstart⟩⟩
    · exact .inl hshows
    · exact .inr ⟨hnone, .inl hshows⟩
    · exact .inr ⟨hnone, .inr ⟨hnone', hstart⟩⟩
  · intro hclock
    rcases startOfDay_cases hoffsets hfirst hlast with
      ⟨hshows, hleast⟩ | ⟨hnone, ⟨hshows, hleast⟩ | ⟨hnone', hstart⟩⟩
    · rcases hclock with hclock | ⟨hnone, -⟩
      · exact Int.le_antisymm (hleast start hclock)
          (hafter _ 0 (by decide) (by rwa [Int.add_zero]))
      · exact absurd hshows (hnone _)
    · rcases hclock with hclock | ⟨-, hclock | ⟨hnone', -⟩⟩
      · exact absurd hclock (hnone _)
      · exact Int.le_antisymm (hleast start hclock) (hafter _ 3600 (by decide) hshows)
      · exact absurd hshows (hnone' _)
    · rcases hclock with hclock | ⟨-, hclock | ⟨-, hclock⟩⟩
      · exact absurd hclock (hnone _)
      · exact absurd hclock (hnone' _)
      · exact hstart.trans hclock.symm

/-- A day dawns where it starts, if that is where local dates pass from before the day to the day or
a later one; and nowhere else. -/
theorem dawnsAt_iff {start : Int} :
    rules.DawnsAt day start ↔
      rules.startOfDay day = start ∧ ∀ instant, start ≤ instant ↔ day ≤ rules.localDay instant := by
  -- What reads as a time of the day reads so after the day has dawned.
  have hafter : (∀ instant, start ≤ instant ↔ day ≤ rules.localDay instant) →
      ∀ i seconds, 0 ≤ seconds → rules.Shows i (day * secondsPerDay + seconds) → start ≤ i := by
    intro hdate i seconds hseconds hshows
    refine (hdate i).2 ?_
    unfold Shows at hshows
    unfold localDay dayOfSeconds
    rw [hshows]
    unfold secondsPerDay
    omega
  constructor
  · rintro ⟨hdate, hclock⟩
    exact ⟨(startOfDay_eq_iff hoffsets hfirst hlast (hafter hdate)).2 hclock, hdate⟩
  · rintro ⟨hstart, hdate⟩
    exact ⟨hdate, (startOfDay_eq_iff hoffsets hfirst hlast (hafter hdate)).1 hstart⟩

end

end ZoneRules

/-! ### Periods -/

/-- The periods that the present time belongs to. -/
def Period.IsCurrent : Period → Prop
  | .previousMonth | .previousQuarter | .previousYear => False
  | _ => True

theorem Period.covers_self_iff (fiscal : FiscalStart) (today : Date) (period : Period) :
    period.Covers fiscal today today ↔ period.IsCurrent := by
  cases period <;> simp [Covers, IsCurrent] <;> omega

/-- Where both bounds of a period are days within the calendar, an instant lies in the period when
the first day has started and the day past the last has not. -/
theorem mem_period_iff_hasStarted (service : Service) (tick : Int64) (period : Period)
    (hoffsets : ∀ offset ∈ service.zone.rules.offsets, IsOffset offset)
    (hyear : Central (service.zone.localDate (service.now tick).toInt).year) :
    let rules := service.zone.rules
    let days := period.days service.fiscal (rules.localDay (service.now tick).toInt)
    ∃ first last : Int64, service.Spans tick period first last ∧
      (∀ instant : Int, first.toInt ≤ instant ∧ instant ≤ last.toInt ↔
        rules.HasStarted days.1 instant ∧ ¬ rules.HasStarted days.2 instant) ∧
      ∀ start past, rules.DawnsAt days.1 start → rules.DawnsAt days.2 past →
        ∀ instant : Int, first.toInt ≤ instant ∧ instant ≤ last.toInt ↔
          period.Covers service.fiscal (service.zone.localDate (service.now tick).toInt)
            (service.zone.localDate instant) := by
  intro rules days
  have hoffset : IsOffset (service.zone.offsetAt (service.now tick).toInt) :=
    ZoneRules.isOffset_offsetAt hoffsets _
  have htoday : service.today? tick = some (rules.localDay (service.now tick).toInt) :=
    today?_of_central hoffset hyear
  have hcentral : Central (Date.ofDay (rules.localDay (service.now tick).toInt)).year := hyear
  obtain ⟨d, past, hd, hdyear, hpast, hpastyear, hdays⟩ :=
    Period.days_eq_numbers service.fiscal period hcentral
  have hfrom : days.1 = d.number := congrArg Prod.fst hdays
  have hto : days.2 = past.number := congrArg Prod.snd hdays
  obtain ⟨hdfirst, hdlast⟩ := Date.number_inReach hd hdyear
  obtain ⟨hpfirst, hplast⟩ := Date.number_inReach hpast hpastyear
  rw [← hfrom] at hdfirst hdlast
  rw [← hto] at hpfirst hplast
  obtain ⟨first, last, hspans, hfirst, hlast⟩ := Service.exists_spans period htoday rfl rfl
    (ZoneRules.isCovered_startOfDay hoffsets hdfirst hdlast)
    (ZoneRules.isCovered_startOfDay hoffsets hpfirst hplast)
  have hfirst : first.toInt = rules.startOfDay days.1 := hfirst
  have hlast : last.toInt = rules.startOfDay days.2 - 1 := hlast
  have hmem : ∀ instant : Int, first.toInt ≤ instant ∧ instant ≤ last.toInt ↔
      rules.startOfDay days.1 ≤ instant ∧ ¬ rules.startOfDay days.2 ≤ instant := by
    intro instant
    rw [hfirst, hlast]
    omega
  refine ⟨first, last, hspans, ?_, ?_⟩
  · intro instant
    rw [hmem, ZoneRules.startOfDay_le_iff hoffsets hdfirst hdlast,
      ZoneRules.startOfDay_le_iff hoffsets hpfirst hplast]
  · intro start past hdawn hdawn' instant
    obtain ⟨rfl, hdate⟩ := (ZoneRules.dawnsAt_iff hoffsets hdfirst hdlast).1 hdawn
    obtain ⟨rfl, hdate'⟩ := (ZoneRules.dawnsAt_iff hoffsets hpfirst hplast).1 hdawn'
    rw [hmem, hdate, hdate', Int.not_le]
    exact Period.mem_days_iff service.fiscal period hcentral (rules.localDay instant)

/-- In whatever zone, a current period has a start and an end, and the present time lies between
them exactly when the first day of the period has started and the day past its last has not. It does
when both of these days dawn. -/
theorem now_mem_currentPeriod_iff (service : Service) (month day : Nat) (tick : Int64)
    (period : Period) (hperiod : period.IsCurrent)
    (hoffsets : ∀ offset ∈ service.zone.rules.offsets, IsOffset offset)
    (hyear : Central (service.zone.localDate (service.now tick).toInt).year) :
    let rules := service.zone.rules
    let now := (service.now tick).toInt
    let days := period.days (.clamp month day) (rules.localDay now)
    ∃ first last : Int64, (service.withFiscalStart month day).Spans tick period first last ∧
      (first.toInt ≤ now ∧ now ≤ last.toInt ↔
        rules.HasStarted days.1 now ∧ ¬ rules.HasStarted days.2 now) ∧
      ((∃ start, rules.DawnsAt days.1 start) → (∃ past, rules.DawnsAt days.2 past) →
        first.toInt ≤ now ∧ now ≤ last.toInt) := by
  intro rules now days
  obtain ⟨first, last, hspans, hmem, hcovers⟩ :=
    mem_period_iff_hasStarted (service.withFiscalStart month day) tick period hoffsets hyear
  refine ⟨first, last, hspans, hmem now, ?_⟩
  rintro ⟨start, hdawn⟩ ⟨past, hdawn'⟩
  exact (hcovers start past hdawn hdawn' now).2 ((Period.covers_self_iff _ _ period).2 hperiod)

/-- Where a whole day is skipped, the day before ends at midnight in universal time, which is
fourteen o'clock there: in the evening the present time is past the end of today. -/
theorem evening_before_skipped_day_is_not_today :
    let service := (Service.ofZone (.named "Pacific/Apia" ZoneTable.apia)).withFixedNow 1325230000
    ZoneTable.rules? "Pacific/Apia" = some service.zone.rules ∧
      service.zone.localDate 1325230000 = ⟨2011, 12, 29⟩ ∧
      service.periodStart? 0 .today = some 1325152800 ∧
      service.periodEnd? 0 .today = some 1325203199 := by
  decide

/-- Clocks set back by an hour one minute after midnight: from then on until midnight comes again the
present time is past the end of today. -/
example :
    let service :=
      (Service.ofZone (.named "America/St_Johns" ZoneTable.stJohns)).withFixedNow 1162089070
    service.zone.localDate 1162089070 = ⟨2006, 10, 28⟩ ∧
      service.periodStart? 0 .today = some 1162002600 ∧
      service.periodEnd? 0 .today = some 1162088999 := by
  decide +kernel

/-- Clocks set back by half an hour at midnight, before they show it. -/
theorem half_hour_before_midnight_is_today :
    let service :=
      (Service.ofZone (.named "Asia/Pyongyang" ZoneTable.pyongyang)).withFixedNow 1439565000
    (Period.IsCurrent .today ∧ (∀ offset ∈ service.zone.rules.offsets, IsOffset offset) ∧
      Central (service.zone.localDate (service.now 0).toInt).year) ∧
    ∃ first last : Int64, (service.withFiscalStart 1 1).Spans 0 .today first last ∧
      first.toInt ≤ 1439565000 ∧ 1439565000 ≤ last.toInt := by
  intro service
  have hoffsets : ∀ offset ∈ service.zone.rules.offsets, IsOffset offset := by
    unfold IsOffset
    decide
  have hyear : Central (service.zone.localDate (service.now 0).toInt).year :=
    ⟨by decide, by decide⟩
  obtain ⟨first, last, hspans, hmem, -⟩ :=
    now_mem_currentPeriod_iff service 1 1 0 .today trivial hoffsets hyear
  refine ⟨⟨trivial, hoffsets, hyear⟩, first, last, hspans, hmem.2 ⟨?_, ?_⟩⟩
  · exact (ZoneRules.startOfDay_le_iff hoffsets (by decide) (by decide) _).1 (by decide)
  · exact mt (ZoneRules.startOfDay_le_iff hoffsets (by decide) (by decide) _).2 (by decide)

end Preferences.Calendar
