import Preferences.Proofs.Calendar.FixedOffset

/-!
# Periods at both ends of the calendar

A zone that never changes its offset is asked for a period at an arbitrary time. The period starts
and ends in order unless it reaches out of the calendar: on the last day, in the last month, quarter
and years, and before the first ones (`Period.HasRoom`). Where local time itself has left the
calendar there is no period at all.
-/

namespace Preferences.Calendar

/-! ### Days within the calendar -/

def InCalendar (day : Int) : Prop := firstDay ≤ day ∧ day ≤ lastDay

theorem isCoveredYear_iff {year : Int} :
    isCoveredYear year = true ↔ firstYear ≤ year ∧ year ≤ lastYear := by
  unfold isCoveredYear
  rw [Bool.and_eq_true, decide_eq_true_iff, decide_eq_true_iff]

theorem firstDay_eq : firstDay = daysBeforeYear firstYear - epochDay := by decide

theorem lastDay_eq : lastDay + 1 = daysBeforeYear (lastYear + 1) - epochDay := by decide

theorem Date.number_inCalendar {d : Date} (hd : d.Valid) (h : isCoveredYear d.year = true) :
    InCalendar d.number := by
  obtain ⟨hlow, hhigh⟩ := isCoveredYear_iff.1 h
  obtain ⟨hfrom, hto⟩ := Date.number_bounds hd
  have hstart := daysBeforeYear_mono hlow
  have hend := daysBeforeYear_mono (a := d.year + 1) (b := lastYear + 1) (by omega)
  have hfirst := firstDay_eq
  have hlast := lastDay_eq
  exact ⟨by omega, by omega⟩

theorem isCoveredYear_ofDay {day : Int} (h : InCalendar day) :
    isCoveredYear (Date.ofDay day).year = true := by
  obtain ⟨hlow, hhigh⟩ := h
  obtain ⟨hfrom, hto⟩ := Date.number_bounds (Date.valid_ofDay day)
  rw [Date.number_ofDay] at hfrom hto
  have hfirst := firstDay_eq
  have hlast := lastDay_eq
  rw [isCoveredYear_iff]
  constructor
  · by_contra hbefore
    have hmono := daysBeforeYear_mono (a := (Date.ofDay day).year + 1) (b := firstYear) (by omega)
    omega
  · by_contra hpast
    have hmono := daysBeforeYear_mono (a := lastYear + 1) (b := (Date.ofDay day).year) (by omega)
    omega

theorem inCalendar_dayOfSeconds {seconds : Int} (h : isCovered seconds = true) :
    InCalendar (dayOfSeconds seconds) := by
  obtain ⟨hlow, hhigh⟩ := isCovered_iff.1 h
  unfold firstInstant lastInstant secondsPerDay at *
  unfold InCalendar dayOfSeconds secondsPerDay
  omega

/-! ### Where days start -/

theorem earliest?_of_constant (offset reading : Int) :
    ZoneRules.earliest? ⟨offset, []⟩ reading =
      if isCovered (reading - offset) then some (reading - offset) else none := by
  unfold ZoneRules.earliest? ZoneRules.instantsReading ZoneRules.offsets ZoneRules.offsetAt
    ZoneRules.offsetAfter
  by_cases h : isCovered (reading - offset) = true <;> simp [h]

section

variable {zone : Zone} {offset : Int} (hzone : zone.rules = ⟨offset, []⟩) (hoffset : IsOffset offset)
include hzone hoffset

/-- Every day of the calendar starts within the calendar and on that day. On the first day, whose
local midnight may lie before the calendar, that is perhaps an hour later, or at midnight in
universal time. -/
theorem startOfDay_inCalendar {day : Int} (h : InCalendar day) :
    isCovered (zone.startOfDay day) = true ∧
      day * secondsPerDay ≤ zone.startOfDay day + offset ∧
      zone.startOfDay day + offset < (day + 1) * secondsPerDay := by
  obtain ⟨hfirst, hlast⟩ := h
  obtain ⟨hlow, hhigh⟩ := hoffset
  have hsize : firstInstant + 2 * secondsPerDay ≤ lastInstant := by decide
  unfold Zone.startOfDay ZoneRules.startOfDay
  dsimp only
  rw [hzone, earliest?_of_constant, earliest?_of_constant]
  simp only [isCovered_iff] at *
  unfold firstInstant lastInstant secondsPerDay at *
  split
  · simp only [Option.some_or, Option.getD_some]
    omega
  · split
    · simp only [Option.none_or, Option.getD_some]
      omega
    · simp only [Option.none_or, Option.getD_none]
      omega

theorem startOfDay_lt_iff {a b : Int} (ha : InCalendar a) (hb : InCalendar b) :
    zone.startOfDay a < zone.startOfDay b ↔ a < b := by
  obtain ⟨-, hafrom, hato⟩ := startOfDay_inCalendar hzone hoffset ha
  obtain ⟨-, hbfrom, hbto⟩ := startOfDay_inCalendar hzone hoffset hb
  unfold secondsPerDay at *
  rcases Int.lt_trichotomy a b with hlt | rfl | hgt
  · omega
  · simp
  · omega

end

/-! ### Where months and fiscal years start -/

theorem monthStart_cases (index : Int) :
    isCoveredYear (index / 12) = true ∧ monthStart index = (monthFirst index).number ∨
      isCoveredYear (index / 12) = false ∧ monthStart index = firstDay := by
  unfold monthStart
  cases h : isCoveredYear (index / 12) with
  | true => exact .inl ⟨rfl, if_pos rfl⟩
  | false => exact .inr ⟨rfl, if_neg Bool.false_ne_true⟩

theorem inCalendar_monthStart (index : Int) : InCalendar (monthStart index) := by
  rcases monthStart_cases index with ⟨hyear, hstart⟩ | ⟨-, hstart⟩
  · rw [hstart]
    exact Date.number_inCalendar (valid_monthFirst index) hyear
  · rw [hstart]
    exact ⟨Int.le_refl _, by decide⟩

theorem monthStart_lt_iff_of_covered {a b : Int} (ha : isCoveredYear (a / 12) = true)
    (hb : isCoveredYear (b / 12) = true) : monthStart a < monthStart b ↔ a < b := by
  unfold monthStart
  rw [if_pos ha, if_pos hb]
  refine (Date.number_lt_iff (valid_monthFirst a) (valid_monthFirst b)).trans ?_
  unfold Date.Before monthFirst
  dsimp only
  omega

theorem monthStart_first : monthStart (firstYear * 12) = firstDay := by decide

/-- Of two months the later starts later, unless it is the first of the calendar or lies outside:
what lies outside is taken to start on the first day. -/
theorem monthStart_lt_iff {a b : Int} (h : a < b) :
    monthStart a < monthStart b ↔ firstYear * 12 < b ∧ b < (lastYear + 1) * 12 := by
  have hfirst := monthStart_first
  have hyear : isCoveredYear (firstYear * 12 / 12) = true := by decide
  rcases monthStart_cases b with ⟨hb, -⟩ | ⟨hb, hstart⟩
  · have hbounds := isCoveredYear_iff.1 hb
    rcases monthStart_cases a with ⟨ha, -⟩ | ⟨ha, hastart⟩
    · have hbounds' := isCoveredYear_iff.1 ha
      rw [monthStart_lt_iff_of_covered ha hb]
      omega
    · rw [hastart, ← hfirst, monthStart_lt_iff_of_covered hyear hb]
      omega
  · have hle := (inCalendar_monthStart a).1
    have hbounds := (not_congr isCoveredYear_iff).1 (Bool.not_eq_true _ ▸ hb)
    rw [hstart]
    omega

theorem inYear_cases (fiscal : FiscalStart) (year : Int) :
    isCoveredYear year = true ∧ fiscal.inYear year = (fiscal.first year).number ∨
      isCoveredYear year = false ∧ fiscal.inYear year = firstDay := by
  unfold FiscalStart.inYear
  cases h : isCoveredYear year with
  | true => exact .inl ⟨rfl, if_pos rfl⟩
  | false =>
    have hmonth : isCoveredYear (year * 12 / 12) = false := by
      rw [Int.mul_ediv_cancel _ (by decide)]
      exact h
    refine .inr ⟨rfl, ?_⟩
    rw [if_neg Bool.false_ne_true]
    unfold monthStart
    rw [hmonth, if_neg Bool.false_ne_true]

theorem inCalendar_inYear (fiscal : FiscalStart) (year : Int) :
    InCalendar (fiscal.inYear year) := by
  rcases inYear_cases fiscal year with ⟨hyear, hstart⟩ | ⟨-, hstart⟩
  · rw [hstart]
    exact Date.number_inCalendar (fiscal.valid_first year) hyear
  · rw [hstart]
    exact ⟨Int.le_refl _, by decide⟩

/-! ### Room for a period -/

/-- Whether the calendar goes on after the period that is meant on a date; for a previous period,
whether it is not before the first one. -/
def Period.HasRoom (fiscal : FiscalStart) (today : Date) : Period → Prop
  | .today => today ≠ ⟨lastYear, 12, 31⟩
  | .thisMonth => ¬ (today.year = lastYear ∧ today.month = 12)
  | .previousMonth => ¬ (today.year = firstYear ∧ today.month = 1)
  | .thisQuarter => ¬ (today.year = lastYear ∧ today.quarter = 4)
  | .previousQuarter => ¬ (today.year = firstYear ∧ today.quarter = 1)
  | .thisYear => today.year ≠ lastYear
  | .previousYear => today.year ≠ firstYear
  | .fiscalYear => today.fiscalYear fiscal ≠ lastYear

theorem Period.days_inCalendar (fiscal : FiscalStart) {day : Int} (h : InCalendar day)
    (period : Period) :
    InCalendar (period.days fiscal day).1 ∧ InCalendar (period.days fiscal day).2 := by
  cases period with
  | today =>
    refine ⟨h, ?_⟩
    obtain ⟨hfirst, hlast⟩ := h
    unfold Period.days InCalendar
    dsimp only
    split <;> omega
  | fiscalYear =>
    unfold Period.days
    dsimp only
    refine ⟨?_, inCalendar_inYear fiscal _⟩
    split
    · exact inCalendar_inYear fiscal _
    · exact inCalendar_inYear fiscal _
  | _ => exact ⟨inCalendar_monthStart _, inCalendar_monthStart _⟩

theorem days_today_lt_iff (fiscal : FiscalStart) {day : Int} (h : InCalendar day) :
    (Period.days fiscal day .today).1 < (Period.days fiscal day .today).2 ↔
      Date.ofDay day ≠ ⟨lastYear, 12, 31⟩ := by
  have hdate : Date.ofDay day = ⟨lastYear, 12, 31⟩ ↔ day = lastDay := by
    constructor
    · intro hdate
      have hnumber := congrArg Date.number hdate
      rw [Date.number_ofDay] at hnumber
      exact hnumber
    · rintro rfl
      decide
  obtain ⟨-, hlast⟩ := h
  rw [ne_eq, hdate]
  unfold Period.days
  dsimp only
  split <;> omega

theorem lt_inYear_succ_iff (fiscal : FiscalStart) {day : Int} (h : InCalendar day) :
    day < fiscal.inYear ((Date.ofDay day).year + 1) ↔ (Date.ofDay day).year ≠ lastYear := by
  have hyear := isCoveredYear_iff.1 (isCoveredYear_ofDay h)
  rcases inYear_cases fiscal ((Date.ofDay day).year + 1) with ⟨hnext, hstart⟩ | ⟨hnext, hstart⟩
  · have hbounds := isCoveredYear_iff.1 hnext
    have hbefore : (Date.ofDay day).number < (fiscal.first ((Date.ofDay day).year + 1)).number :=
      Date.number_lt_of_before (Date.valid_ofDay day) (fiscal.valid_first _)
        (.inl (Int.lt_succ _))
    rw [Date.number_ofDay] at hbefore
    rw [hstart]
    omega
  · have hbounds := (not_congr isCoveredYear_iff).1 (Bool.not_eq_true _ ▸ hnext)
    have hfirst := h.1
    rw [hstart]
    omega

/-- The fiscal year that is counted for a day ends after it starts, unless it is the one that starts
in the last year. -/
theorem days_fiscalYear_lt_iff (fiscal : FiscalStart) {day : Int} (h : InCalendar day) :
    (Period.days fiscal day .fiscalYear).1 < (Period.days fiscal day .fiscalYear).2 ↔
      (Date.ofDay day).fiscalYear fiscal ≠ lastYear := by
  have hcovered := isCoveredYear_ofDay h
  have hyear := isCoveredYear_iff.1 hcovered
  have hspan : firstYear < lastYear := by decide
  have hle : fiscal.inYear (Date.ofDay day).year ≤ day ↔
      (Date.ofDay day).year ≤ (Date.ofDay day).fiscalYear fiscal := by
    unfold FiscalStart.inYear
    rw [if_pos hcovered]
    exact fiscal.first_le_iff _ day
  have hcases := (Date.ofDay day).fiscalYear_cases fiscal
  unfold Period.days
  dsimp only
  split
  · rename_i hbefore
    rw [lt_inYear_succ_iff fiscal (inCalendar_inYear fiscal _)]
    rcases inYear_cases fiscal ((Date.ofDay day).year - 1) with ⟨hprevious, hstart⟩ | ⟨-, hstart⟩
    · have hbounds := isCoveredYear_iff.1 hprevious
      rw [hstart, Date.ofDay_number (fiscal.valid_first _)]
      show (Date.ofDay day).year - 1 ≠ lastYear ↔ _
      omega
    · have hfirst : (Date.ofDay firstDay).year = firstYear := by decide
      rw [hstart, hfirst]
      omega
  · rw [lt_inYear_succ_iff fiscal (inCalendar_inYear fiscal _)]
    rcases inYear_cases fiscal (Date.ofDay day).year with ⟨-, hstart⟩ | ⟨hout, -⟩
    · rw [hstart, Date.ofDay_number (fiscal.valid_first _)]
      show (Date.ofDay day).year ≠ lastYear ↔ _
      omega
    · rw [hcovered] at hout
      cases hout

theorem Period.days_lt_iff (fiscal : FiscalStart) {day : Int} (h : InCalendar day)
    (period : Period) :
    (period.days fiscal day).1 < (period.days fiscal day).2 ↔
      period.HasRoom fiscal (Date.ofDay day) := by
  have hyear := isCoveredYear_iff.1 (isCoveredYear_ofDay h)
  have hmonth := (Date.valid_ofDay day).1
  cases period with
  | today => exact days_today_lt_iff fiscal h
  | fiscalYear => exact days_fiscalYear_lt_iff fiscal h
  | _ =>
    unfold Period.days Period.HasRoom Date.monthIndex Date.quarter
    dsimp only
    rw [monthStart_lt_iff (by omega)]
    omega

/-! ### Every time of 64 bits -/

theorem today?_of_constant_iff {service : Service} {offset : Int}
    (hzone : service.zone.rules = ⟨offset, []⟩) (tick : Int64) :
    service.today? tick = if isCovered (clampInstant (service.now tick).toInt + offset) then
      some (dayOfSeconds (clampInstant (service.now tick).toInt + offset)) else none := by
  unfold Service.today? Service.nowInstant Zone.dayAt?
  rw [offsetAt_of_constant hzone]

/-- In a zone of one offset a period has a start and an end, and does not end before it starts,
exactly when the local time, also of the nearest instant for a time outside the calendar, is one of
the calendar, and there is room for the period. -/
theorem period_isInOrder_iff (service : Service) (month day : Nat) (tick : Int64) (period : Period)
    {offset : Int} (hzone : service.zone.rules = ⟨offset, []⟩) (hoffset : IsOffset offset) :
    let reading := clampInstant (service.now tick).toInt + offset
    (∃ first last : Int64, (service.withFiscalStart month day).Spans tick period first last ∧
        first.toInt ≤ last.toInt) ↔
      isCovered reading = true ∧
        period.HasRoom (.clamp month day) (Date.ofDay (dayOfSeconds reading)) := by
  intro reading
  have htoday : (service.withFiscalStart month day).today? tick =
      if isCovered reading then some (dayOfSeconds reading) else none :=
    today?_of_constant_iff hzone tick
  cases hreading : isCovered reading with
  | false =>
    -- There is no today, and so no start.
    rw [hreading, if_neg Bool.false_ne_true] at htoday
    have hstart : (service.withFiscalStart month day).periodStart? tick period = none := by
      unfold Service.periodStart?
      rw [htoday]
      rfl
    refine ⟨?_, fun h => nomatch h.1⟩
    rintro ⟨first, last, hspans, -⟩
    cases hstart.symm.trans hspans.start
  | true =>
    rw [hreading, if_pos rfl] at htoday
    have hin := inCalendar_dayOfSeconds hreading
    obtain ⟨hdays, hpast⟩ := Period.days_inCalendar (.clamp month day) hin period
    have hcovered := (startOfDay_inCalendar hzone hoffset hdays).1
    have hpastCovered := (startOfDay_inCalendar hzone hoffset hpast).1
    obtain ⟨first, last, hspans, hfirst, hlast⟩ :=
      Service.exists_spans period htoday rfl rfl hcovered hpastCovered
    have horder := startOfDay_lt_iff hzone hoffset hdays hpast
    rw [Period.days_lt_iff _ hin] at horder
    rw [← horder]
    have hfirst : first.toInt = _ := hfirst
    have hlast : last.toInt = _ := hlast
    constructor
    · rintro ⟨first', last', hspans', hle⟩
      obtain ⟨rfl, rfl⟩ := hspans.unique hspans'
      rw [hfirst, hlast] at hle
      exact ⟨rfl, Int.lt_of_le_sub_one hle⟩
    · rintro ⟨-, hlt⟩
      refine ⟨first, last, hspans, ?_⟩
      rw [hfirst, hlast]
      exact Int.le_sub_one_of_lt hlt

/-- At the greatest time, which counts as the last second of the calendar, today ends before it
starts in universal time, and this month ends before the calendar starts. At the least time there is
no today where clocks are a second behind. -/
theorem greatest_time_is_not_in_order :
    let utc := (Service.ofZone .utc).withFixedNow 9223372036854775807
    let behind := (Service.ofZone (.fixed (-1))).withFixedNow (-9223372036854775808)
    (utc.periodStart? 0 .today = some 8210266790400 ∧
      utc.periodEnd? 0 .today = some 8210266790399 ∧
      utc.periodStart? 0 .thisMonth = some 8210264198400 ∧
      utc.periodEnd? 0 .thisMonth = some (-8334601228801)) ∧
    ∀ period, behind.periodStart? 0 period = none ∧ behind.periodEnd? 0 period = none := by
  intro utc behind
  exact ⟨⟨by decide, by decide, by decide, by decide⟩, fun period => ⟨rfl, rfl⟩⟩

/-- At 5:45 ahead of universal time the last year has begun, but not the fiscal year that starts in
it on 6 April. -/
theorem fiscalYear_before_last_is_inOrder :
    let service := (Service.ofZone (.fixed 20700)).withFixedNow 8210235340799
    (service.zone.rules = ⟨20700, []⟩ ∧ IsOffset 20700) ∧
      ∃ first last : Int64, (service.withFiscalStart 4 6).Spans 0 .fiscalYear first last ∧
        first.toInt ≤ last.toInt := by
  intro service
  have hoffset : IsOffset 20700 := ⟨by decide, by decide⟩
  have hroom : (Date.ofDay (dayOfSeconds (clampInstant (service.now 0).toInt + 20700))).fiscalYear
      (.clamp 4 6) ≠ lastYear := by decide
  exact ⟨⟨rfl, hoffset⟩,
    (period_isInOrder_iff service 4 6 0 .fiscalYear rfl hoffset).2 ⟨by decide, hroom⟩⟩

end Preferences.Calendar
