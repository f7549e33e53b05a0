import Preferences.Proofs.Calendar.PeriodDays

/-!
# Periods in a zone that never changes its offset

Where local time is always the same number of seconds ahead of universal time, an instant lies
between the start and the end of a period exactly when the period covers its local date.
-/

namespace Preferences.Calendar

/-- The date that clocks in a zone show at an instant. -/
def Zone.localDate (zone : Zone) (instant : Int) : Date :=
  Date.ofDay (dayOfSeconds (instant + zone.offsetAt instant))

/-- An offset of less than a day. -/
def IsOffset (offset : Int) : Prop := -86400 < offset ∧ offset < 86400

theorem isCovered_iff {seconds : Int} :
    isCovered seconds = true ↔ firstInstant ≤ seconds ∧ seconds ≤ lastInstant := by
  unfold isCovered
  rw [Bool.and_eq_true, decide_eq_true_iff, decide_eq_true_iff]

/-- The midnight of a date in reach is an instant of the calendar at any offset. -/
theorem isCovered_midnight {d : Date} (hd : d.Valid) (h : InReach d.year) {offset : Int}
    (hoffset : IsOffset offset) : isCovered (d.number * secondsPerDay - offset) = true := by
  obtain ⟨hfirst, hlast⟩ := Date.number_inReach hd h
  obtain ⟨hlow, hhigh⟩ := hoffset
  rw [isCovered_iff]
  unfold firstInstant lastInstant secondsPerDay
  omega

/-- A present time with a central local date is one that the service can use as it is. -/
theorem today?_of_central {service : Service} {tick : Int64}
    (hoffset : IsOffset (service.zone.offsetAt (service.now tick).toInt))
    (h : Central (service.zone.localDate (service.now tick).toInt).year) :
    service.today? tick = some (dayOfSeconds
      ((service.now tick).toInt + service.zone.offsetAt (service.now tick).toInt)) := by
  unfold Zone.localDate at h
  unfold Service.today? Service.nowInstant Zone.dayAt?
  generalize (service.now tick).toInt = now at *
  obtain ⟨hyfrom, hyto⟩ := h
  obtain ⟨hlow, hhigh⟩ := hoffset
  obtain ⟨hfirst, hlast⟩ := Date.number_inReach
    (Date.valid_ofDay (dayOfSeconds (now + service.zone.offsetAt now))) ⟨by omega, by omega⟩
  rw [Date.number_ofDay] at hfirst hlast
  unfold dayOfSeconds secondsPerDay at hfirst hlast
  have hclamp : clampInstant now = now := by
    unfold clampInstant firstInstant lastInstant secondsPerDay
    omega
  have hlocal : isCovered (now + service.zone.offsetAt now) = true := by
    rw [isCovered_iff]
    unfold firstInstant lastInstant secondsPerDay
    omega
  rw [hclamp]
  simp only [hlocal, if_true]

section

variable {zone : Zone} {offset : Int} (hzone : zone.rules = ⟨offset, []⟩)
include hzone

theorem offsetAt_of_constant (instant : Int) : zone.offsetAt instant = offset := by
  unfold Zone.offsetAt
  rw [hzone]
  rfl

/-- Local midnight is one instant, and the day starts there. -/
theorem startOfDay_of_constant {day : Int}
    (h : isCovered (day * secondsPerDay - offset) = true) :
    zone.startOfDay day = day * secondsPerDay - offset := by
  have hread : ZoneRules.instantsReading ⟨offset, []⟩ (day * secondsPerDay) =
      [day * secondsPerDay - offset] := by
    simp [ZoneRules.instantsReading, ZoneRules.offsets, ZoneRules.offsetAt,
      ZoneRules.offsetAfter, h]
  unfold Zone.startOfDay ZoneRules.startOfDay ZoneRules.earliest?
  dsimp only
  rw [hzone, hread]
  rfl

theorem today?_of_constant (hoffset : IsOffset offset) {service : Service}
    (hservice : service.zone = zone) {tick : Int64}
    (h : Central (Date.ofDay (dayOfSeconds ((service.now tick).toInt + offset))).year) :
    service.today? tick = some (dayOfSeconds ((service.now tick).toInt + offset)) := by
  have hat : service.zone.offsetAt (service.now tick).toInt = offset := by
    rw [hservice]
    exact offsetAt_of_constant hzone _
  rw [← hat] at hoffset h ⊢
  exact today?_of_central hoffset h

end

/-- Instants of the calendar fit into 64 bits, and so do the seconds before them. -/
theorem toInt_ofInt_of_isCovered {seconds : Int} (h : isCovered seconds = true) :
    (Int64.ofInt seconds).toInt = seconds ∧ (Int64.ofInt (seconds - 1)).toInt = seconds - 1 := by
  have hbounds := isCovered_iff.1 h
  have hfirst : firstInstant = -8334601228800 := by decide
  have hlast : lastInstant = 8210266876799 := by decide
  constructor <;> exact Int64.toInt_ofInt_of_le (by omega) (by omega)

/-! ### Bounds of a period -/

/-- At a tick a period lasts from `first` to `last`, and the service answers just that: neither does
it abort nor do the times exceed 64 bits. -/
structure Service.Spans (service : Service) (tick : Int64) (period : Period) (first last : Int64) :
    Prop where
  start : service.periodStart? tick period = some first.toInt
  stop : service.periodEnd? tick period = some last.toInt
  answered : service.toTimeService.periodStart tick period = some first ∧
    service.toTimeService.periodEnd tick period = some last

theorem Service.spans_iff {service : Service} {tick : Int64} {period : Period}
    {first last : Int64} :
    service.Spans tick period first last ↔
      service.periodStart? tick period = some first.toInt ∧
        service.periodEnd? tick period = some last.toInt := by
  refine ⟨fun h => ⟨h.start, h.stop⟩, fun ⟨hstart, hstop⟩ => ⟨hstart, hstop, ?_, ?_⟩⟩
  · show (service.periodStart? tick period).map Int64.ofInt = some first
    rw [hstart, Option.map_some, Int64.ofInt_toInt]
  · show (service.periodEnd? tick period).map Int64.ofInt = some last
    rw [hstop, Option.map_some, Int64.ofInt_toInt]

theorem Service.Spans.unique {service : Service} {tick : Int64} {period : Period}
    {first last first' last' : Int64} (h : service.Spans tick period first last)
    (h' : service.Spans tick period first' last') : first = first' ∧ last = last' :=
  ⟨Option.some.inj (h.answered.1.symm.trans h'.answered.1),
    Option.some.inj (h.answered.2.symm.trans h'.answered.2)⟩

/-- A period starts as its first day does, and ends a second before the day past its last. -/
theorem Service.exists_spans {service : Service} {tick : Int64} {today : Int} (period : Period)
    (htoday : service.today? tick = some today) {day past : Int}
    (hday : service.zone.startOfDay (period.days service.fiscal today).1 = day)
    (hpast : service.zone.startOfDay (period.days service.fiscal today).2 = past)
    (hdayCovered : isCovered day = true) (hpastCovered : isCovered past = true) :
    ∃ first last : Int64, service.Spans tick period first last ∧ first.toInt = day ∧
      last.toInt = past - 1 := by
  have hfirst := (toInt_ofInt_of_isCovered hdayCovered).1
  have hlast := (toInt_ofInt_of_isCovered hpastCovered).2
  refine ⟨.ofInt day, .ofInt (past - 1), spans_iff.2 ⟨?_, ?_⟩, hfirst, hlast⟩
  · unfold Service.periodStart?
    rw [htoday, Option.map_some, hday, hfirst]
  · unfold Service.periodEnd?
    rw [htoday, Option.map_some, hpast, hlast]

/-- In a zone of one offset a period starts and ends at defined times of 64 bits, and an instant
lies between them exactly when the period covers its local date. -/
theorem mem_period_iff (service : Service) (month day : Nat) (tick : Int64) (period : Period)
    {offset : Int} (hzone : service.zone.rules = ⟨offset, []⟩) (hoffset : IsOffset offset)
    (hyear : Central (service.zone.localDate (service.now tick).toInt).year) :
    ∃ first last : Int64, (service.withFiscalStart month day).Spans tick period first last ∧
      ∀ instant : Int, first.toInt ≤ instant ∧ instant ≤ last.toInt ↔
        period.Covers (.clamp month day) (service.zone.localDate (service.now tick).toInt)
          (service.zone.localDate instant) := by
  obtain ⟨asked, hasked⟩ : ∃ asked, asked = service.withFiscalStart month day := ⟨_, rfl⟩
  unfold Zone.localDate at *
  simp only [offsetAt_of_constant hzone] at hyear ⊢
  have htoday : asked.today? tick = some (dayOfSeconds ((service.now tick).toInt + offset)) :=
    hasked ▸ today?_of_constant hzone hoffset rfl hyear
  generalize dayOfSeconds ((service.now tick).toInt + offset) = today at *
  obtain ⟨d, past, hd, hdyear, hpast, hpastyear, hdays⟩ :=
    Period.days_eq_numbers (.clamp month day) period hyear
  have hcovered := isCovered_midnight hd hdyear hoffset
  have hpastCovered := isCovered_midnight hpast hpastyear hoffset
  have hfiscal : asked.fiscal = .clamp month day := hasked ▸ rfl
  have hzone : asked.zone.rules = ⟨offset, []⟩ := hasked ▸ hzone
  have hfrom : asked.zone.startOfDay (period.days asked.fiscal today).1 =
      d.number * secondsPerDay - offset := by
    rw [hfiscal, hdays]
    exact startOfDay_of_constant hzone hcovered
  have hto : asked.zone.startOfDay (period.days asked.fiscal today).2 =
      past.number * secondsPerDay - offset := by
    rw [hfiscal, hdays]
    exact startOfDay_of_constant hzone hpastCovered
  obtain ⟨first, last, hspans, hfirst, hlast⟩ :=
    Service.exists_spans period htoday hfrom hto hcovered hpastCovered
  refine ⟨first, last, hasked ▸ hspans, fun instant => ?_⟩
  rw [← Period.mem_days_iff (.clamp month day) period hyear, hdays, hfirst, hlast]
  unfold dayOfSeconds secondsPerDay
  dsimp only
  omega

/-- On 6 April 2024, soon after local midnight at an offset of 5:45, the fiscal year from 6 April is
the one that began that night; in universal time it is still the day before. -/
theorem mem_fiscalYear_after_midnight :
    let service := (Service.ofZone (.fixed 20700)).withFixedNow 1712345678
    (service.zone.rules = ⟨20700, []⟩ ∧ IsOffset 20700 ∧
      Central (service.zone.localDate (service.now 0).toInt).year) ∧
    ∃ first last : Int64, (service.withFiscalStart 4 6).Spans 0 .fiscalYear first last ∧
      ∀ instant : Int, first.toInt ≤ instant ∧ instant ≤ last.toInt ↔
        Period.Covers (.clamp 4 6) (service.zone.localDate (service.now 0).toInt)
          (service.zone.localDate instant) .fiscalYear := by
  intro service
  have hzone : service.zone.rules = ⟨20700, []⟩ := rfl
  have hoffset : IsOffset 20700 := ⟨by decide, by decide⟩
  have hyear : Central (service.zone.localDate (service.now 0).toInt).year :=
    ⟨by decide, by decide⟩
  exact ⟨⟨hzone, hoffset, hyear⟩, mem_period_iff service 4 6 0 .fiscalYear hzone hoffset hyear⟩

example : (((Service.ofZone (.fixed 20700)).withFixedNow 1712345678).withFiscalStart 4
    6).periodStart? 0 .fiscalYear = some 1712340900 := by decide

end Preferences.Calendar
