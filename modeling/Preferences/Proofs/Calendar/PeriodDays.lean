import Preferences.Proofs.Calendar.Gregorian

/-!
# The days of a period

`Period.Covers` says which dates a period means for a given today, by comparing years, quarters,
months and days. Away from the ends of the calendar the days that a service counts for the period
are those whose dates it covers (`Period.mem_days_iff`).
-/

namespace Preferences.Calendar

/-! ### Which dates a period means -/

/-- The quarter of the year, from one to four. -/
def Date.quarter (d : Date) : Nat := (d.month + 2) / 3

/-- A fiscal year has the number of the year that it starts in. -/
def Date.fiscalYear (start : FiscalStart) (d : Date) : Int :=
  if d.month < start.month ∨ d.month = start.month ∧ d.day < start.day then d.year - 1 else d.year

theorem Date.fiscalYear_cases (start : FiscalStart) (d : Date) :
    d.fiscalYear start = d.year - 1 ∨ d.fiscalYear start = d.year := by
  unfold fiscalYear
  split
  · exact Or.inl rfl
  · exact Or.inr rfl

/-- Whether a date lies in the period that is meant when it is `today`. -/
def Period.Covers (fiscal : FiscalStart) (today date : Date) : Period → Prop
  | .today => date = today
  | .thisMonth => date.year = today.year ∧ date.month = today.month
  | .previousMonth =>
    date.year = today.year ∧ date.month + 1 = today.month ∨
      date.year = today.year - 1 ∧ date.month = 12 ∧ today.month = 1
  | .thisQuarter => date.year = today.year ∧ date.quarter = today.quarter
  | .previousQuarter =>
    date.year = today.year ∧ date.quarter + 1 = today.quarter ∨
      date.year = today.year - 1 ∧ date.quarter = 4 ∧ today.quarter = 1
  | .thisYear => date.year = today.year
  | .previousYear => date.year = today.year - 1
  | .fiscalYear => date.fiscalYear fiscal = today.fiscalYear fiscal

/-! ### Where months and fiscal years start -/

/-- The years that every neighbour of a usable today lies in. -/
def InReach (year : Int) : Prop := -262142 ≤ year ∧ year ≤ 262141

theorem isCoveredYear_of_inReach {year : Int} (h : InReach year) : isCoveredYear year = true := by
  obtain ⟨hlow, hhigh⟩ := h
  unfold isCoveredYear firstYear lastYear
  rw [Bool.and_eq_true, decide_eq_true_iff, decide_eq_true_iff]
  omega

/-- Dates in reach leave a day to both ends of the calendar. -/
theorem Date.number_inReach {d : Date} (hd : d.Valid) (h : InReach d.year) :
    firstDay < d.number ∧ d.number < lastDay := by
  obtain ⟨hlow, hhigh⟩ := h
  obtain ⟨hfrom, hto⟩ := Date.number_bounds hd
  have hstart := daysBeforeYear_mono hlow
  have hend := daysBeforeYear_mono (a := d.year + 1) (b := 262142) (by omega)
  have hfirst : firstDay + 1 < daysBeforeYear (-262142) - epochDay := by decide
  have hlast : daysBeforeYear 262142 - epochDay < lastDay := by decide
  omega

def monthFirst (index : Int) : Date := ⟨index / 12, (index % 12).toNat + 1, 1⟩

theorem valid_monthFirst (index : Int) : (monthFirst index).Valid := by
  have hm : 1 ≤ (monthFirst index).month ∧ (monthFirst index).month ≤ 12 := by
    unfold monthFirst
    dsimp only
    omega
  have hlen := (daysBeforeMonth_succ (isLeap (monthFirst index).year) _ hm).1
  exact ⟨hm, Nat.le_refl 1, by simp only [monthFirst] at hlen ⊢; omega⟩

theorem monthStart_eq {index : Int} (h : InReach (index / 12)) :
    monthStart index = (monthFirst index).number := by
  unfold monthStart
  rw [if_pos (isCoveredYear_of_inReach h)]
  rfl

theorem monthStart_le_iff {index : Int} (h : InReach (index / 12)) (day : Int) :
    monthStart index ≤ day ↔ index ≤ (Date.ofDay day).monthIndex := by
  rw [monthStart_eq h, Date.number_le_iff (valid_monthFirst index)]
  obtain ⟨hm, hd, -⟩ := Date.valid_ofDay day
  unfold Date.Before monthFirst Date.monthIndex
  dsimp only
  omega

def FiscalStart.first (start : FiscalStart) (year : Int) : Date := ⟨year, start.month, start.day⟩

theorem FiscalStart.valid_first (start : FiscalStart) (year : Int) : (start.first year).Valid := by
  have hlen := (daysBeforeMonth_succ (isLeap year) start.month start.month_mem).1
  have hday := start.day_mem
  refine ⟨start.month_mem, hday.1, ?_⟩
  unfold FiscalStart.first
  dsimp only
  omega

theorem FiscalStart.inYear_eq (start : FiscalStart) {year : Int} (h : InReach year) :
    start.inYear year = (start.first year).number := by
  unfold FiscalStart.inYear
  rw [if_pos (isCoveredYear_of_inReach h)]
  rfl

theorem FiscalStart.first_le_iff (start : FiscalStart) (year day : Int) :
    (start.first year).number ≤ day ↔ year ≤ (Date.ofDay day).fiscalYear start := by
  rw [Date.number_le_iff (start.valid_first year)]
  unfold Date.Before FiscalStart.first Date.fiscalYear
  dsimp only
  split <;> omega

theorem FiscalStart.inYear_le_iff (start : FiscalStart) (year : Int) (h : InReach year)
    (day : Int) : start.inYear year ≤ day ↔ year ≤ (Date.ofDay day).fiscalYear start := by
  rw [start.inYear_eq h]
  exact start.first_le_iff year day

/-! ### Days between two starts -/

/-- Years that can be the year of today: both neighbours are in reach. -/
def Central (year : Int) : Prop := -262141 ≤ year ∧ year ≤ 262140

theorem mem_months_iff {a b : Int} (ha : InReach (a / 12)) (hb : InReach (b / 12)) (day : Int) :
    monthStart a ≤ day ∧ day < monthStart b ↔
      a ≤ (Date.ofDay day).monthIndex ∧ (Date.ofDay day).monthIndex < b := by
  have hfrom := monthStart_le_iff ha day
  have hto := monthStart_le_iff hb day
  omega

/-- The fiscal year that the service counts for a day is the one that the day belongs to. -/
theorem days_fiscalYear (fiscal : FiscalStart) {today : Int}
    (h : Central (Date.ofDay today).year) :
    Period.days fiscal today .fiscalYear =
      (fiscal.inYear ((Date.ofDay today).fiscalYear fiscal),
        fiscal.inYear ((Date.ofDay today).fiscalYear fiscal + 1)) := by
  obtain ⟨hlow, hhigh⟩ := h
  have hle := fiscal.inYear_le_iff (Date.ofDay today).year
    ⟨by omega, by omega⟩ today
  have hcases := (Date.ofDay today).fiscalYear_cases fiscal
  have hstart : (if today < fiscal.inYear (Date.ofDay today).year
        then fiscal.inYear ((Date.ofDay today).year - 1)
        else fiscal.inYear (Date.ofDay today).year) =
      fiscal.inYear ((Date.ofDay today).fiscalYear fiscal) := by
    rcases hcases with hy | hy <;> rw [hy] at hle ⊢
    · rw [if_pos (by omega)]
    · rw [if_neg (by omega)]
  have hyear : (Date.ofDay (fiscal.inYear ((Date.ofDay today).fiscalYear fiscal))).year =
      (Date.ofDay today).fiscalYear fiscal := by
    rw [fiscal.inYear_eq ⟨by omega, by omega⟩, Date.ofDay_number (fiscal.valid_first _)]
    rfl
  simp only [Period.days, hstart, hyear]

/-- Both bounds of a period's days are numbers of dates in reach. -/
theorem Period.days_eq_numbers (fiscal : FiscalStart) {today : Int} (period : Period)
    (h : Central (Date.ofDay today).year) :
    ∃ first past : Date, first.Valid ∧ InReach first.year ∧ past.Valid ∧ InReach past.year ∧
      period.days fiscal today = (first.number, past.number) := by
  have hm := (Date.valid_ofDay today).1
  have hidx : (Date.ofDay today).monthIndex =
      (Date.ofDay today).year * 12 + (((Date.ofDay today).month : Int) - 1) := rfl
  obtain ⟨hlow, hhigh⟩ := h
  -- Every period but two runs from the start of one month to the start of another.
  have months : ∀ a b : Int, InReach (a / 12) → InReach (b / 12) →
      ∃ first past : Date, first.Valid ∧ InReach first.year ∧ past.Valid ∧ InReach past.year ∧
        (monthStart a, monthStart b) = (first.number, past.number) := by
    intro a b ha hb
    refine ⟨monthFirst a, monthFirst b, valid_monthFirst a, ha, valid_monthFirst b, hb, ?_⟩
    rw [monthStart_eq ha, monthStart_eq hb]
  cases period with
  | today =>
    have hin : InReach (Date.ofDay today).year := ⟨by omega, by omega⟩
    have hlast := (Date.number_inReach (Date.valid_ofDay today) hin).2
    have hnext := Date.valid_next (Date.valid_ofDay today)
    refine ⟨Date.ofDay today, (Date.ofDay today).next, Date.valid_ofDay today, hin, hnext, ?_, ?_⟩
    · unfold Date.next InReach
      split
      · dsimp only
        omega
      · split <;> dsimp only <;> omega
    · rw [Date.number_next (Date.valid_ofDay today), Date.number_ofDay] at *
      simp only [Period.days, if_pos hlast]
  | thisMonth => exact months _ _ ⟨by omega, by omega⟩ ⟨by omega, by omega⟩
  | previousMonth => exact months _ _ ⟨by omega, by omega⟩ ⟨by omega, by omega⟩
  | thisQuarter => exact months _ _ ⟨by omega, by omega⟩ ⟨by omega, by omega⟩
  | previousQuarter => exact months _ _ ⟨by omega, by omega⟩ ⟨by omega, by omega⟩
  | thisYear => exact months _ _ ⟨by omega, by omega⟩ ⟨by omega, by omega⟩
  | previousYear => exact months _ _ ⟨by omega, by omega⟩ ⟨by omega, by omega⟩
  | fiscalYear =>
    have hcases := (Date.ofDay today).fiscalYear_cases fiscal
    have hfrom : InReach ((Date.ofDay today).fiscalYear fiscal) := ⟨by omega, by omega⟩
    have hto : InReach ((Date.ofDay today).fiscalYear fiscal + 1) := ⟨by omega, by omega⟩
    refine ⟨fiscal.first ((Date.ofDay today).fiscalYear fiscal),
      fiscal.first ((Date.ofDay today).fiscalYear fiscal + 1), fiscal.valid_first _, hfrom,
      fiscal.valid_first _, hto, ?_⟩
    rw [days_fiscalYear fiscal ⟨hlow, hhigh⟩, fiscal.inYear_eq hfrom, fiscal.inYear_eq hto]

/-- The days counted for a period are those whose dates the period covers. -/
theorem Period.mem_days_iff (fiscal : FiscalStart) {today : Int} (period : Period)
    (h : Central (Date.ofDay today).year) (day : Int) :
    (period.days fiscal today).1 ≤ day ∧ day < (period.days fiscal today).2 ↔
      period.Covers fiscal (Date.ofDay today) (Date.ofDay day) := by
  have hm := (Date.valid_ofDay today).1
  have hmd := (Date.valid_ofDay day).1
  have hidx : (Date.ofDay today).monthIndex =
      (Date.ofDay today).year * 12 + (((Date.ofDay today).month : Int) - 1) := rfl
  have hidxd : (Date.ofDay day).monthIndex =
      (Date.ofDay day).year * 12 + (((Date.ofDay day).month : Int) - 1) := rfl
  obtain ⟨hlow, hhigh⟩ := h
  cases period with
  | today =>
    have hlast := (Date.number_inReach (Date.valid_ofDay today) ⟨by omega, by omega⟩).2
    rw [Date.number_ofDay] at hlast
    simp only [Period.days, Period.Covers, if_pos hlast]
    constructor
    · intro hday
      rw [show day = today by omega]
    · intro hdate
      have hnumber := congrArg Date.number hdate
      rw [Date.number_ofDay, Date.number_ofDay] at hnumber
      omega
  | thisMonth =>
    simp only [Period.days, Period.Covers]
    rw [mem_months_iff ⟨by omega, by omega⟩ ⟨by omega, by omega⟩]
    omega
  | previousMonth =>
    simp only [Period.days, Period.Covers]
    rw [mem_months_iff ⟨by omega, by omega⟩ ⟨by omega, by omega⟩]
    omega
  | thisQuarter =>
    simp only [Period.days, Period.Covers, Date.quarter]
    rw [mem_months_iff ⟨by omega, by omega⟩ ⟨by omega, by omega⟩]
    omega
  | previousQuarter =>
    simp only [Period.days, Period.Covers, Date.quarter]
    rw [mem_months_iff ⟨by omega, by omega⟩ ⟨by omega, by omega⟩]
    omega
  | thisYear =>
    simp only [Period.days, Period.Covers]
    rw [mem_months_iff ⟨by omega, by omega⟩ ⟨by omega, by omega⟩]
    omega
  | previousYear =>
    simp only [Period.days, Period.Covers]
    rw [mem_months_iff ⟨by omega, by omega⟩ ⟨by omega, by omega⟩]
    omega
  | fiscalYear =>
    have hcases := (Date.ofDay today).fiscalYear_cases fiscal
    have hfrom := fiscal.inYear_le_iff ((Date.ofDay today).fiscalYear fiscal)
      ⟨by omega, by omega⟩ day
    have hto := fiscal.inYear_le_iff ((Date.ofDay today).fiscalYear fiscal + 1)
      ⟨by omega, by omega⟩ day
    rw [days_fiscalYear fiscal ⟨hlow, hhigh⟩]
    simp only [Period.Covers]
    omega

end Preferences.Calendar
