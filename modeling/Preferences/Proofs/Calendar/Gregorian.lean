import Mathlib.Tactic.IntervalCases
import Preferences.Calendar.Service

/-!
# The calendar, day by day

`Date.ofDay` and `dayNumber` are inverse to each other on the dates of the calendar, and one day
later is the next date (`Date.ofDay_succ`). A year, a month and a fiscal year are runs of days: each
begins on or before a day exactly when its number is not above that of the day's date.
-/

namespace Preferences.Calendar

/-! ### Years -/

/-- Days of a year past the 365 that every year has. -/
def leapDay (year : Int) : Int := if isLeap year then 1 else 0

theorem daysBeforeYear_succ (year : Int) :
    daysBeforeYear (year + 1) = daysBeforeYear year + 365 + leapDay year := by
  unfold daysBeforeYear leapDay isLeap
  by_cases h4 : year % 4 = 0 <;> by_cases h100 : year % 100 = 0 <;>
    by_cases h400 : year % 400 = 0 <;> simp [h4, h100, h400] <;> omega

theorem yearOf_bounds (day : Int) :
    daysBeforeYear (yearOf day) ≤ day ∧ day < daysBeforeYear (yearOf day + 1) := by
  have low : daysBeforeYear (day * 400 / 146097 - 1) ≤ day := by
    unfold daysBeforeYear
    omega
  have high : day < daysBeforeYear (day * 400 / 146097 + 1 + 1) := by
    unfold daysBeforeYear
    omega
  unfold yearOf
  dsimp only
  split
  · rename_i h
    rw [Int.sub_add_cancel]
    exact ⟨low, h⟩
  · split
    · rename_i h
      exact ⟨h, high⟩
    · rename_i h h'
      exact ⟨by omega, by omega⟩

theorem daysBeforeYear_mono {a b : Int} (h : a ≤ b) : daysBeforeYear a ≤ daysBeforeYear b := by
  unfold daysBeforeYear
  omega

/-! ### Months -/

/-- How far a search upwards from `start` comes. -/
theorem length_takeWhile_range' (p : Nat → Bool) (start count : Nat) :
    let found := ((List.range' start count).takeWhile p).length
    found ≤ count ∧ (∀ i, start ≤ i → i < start + found → p i = true) ∧
      (found < count → p (start + found) = false) := by
  induction count generalizing start with
  | zero => exact ⟨Nat.le_refl 0, by intro i hl hr; simp at hr; omega, by simp⟩
  | succ count ih =>
    obtain ⟨hle, hall, hstop⟩ := ih (start + 1)
    rw [List.range'_succ]
    by_cases hp : p start = true
    · simp only [List.takeWhile_cons, hp, if_true, List.length_cons]
      refine ⟨by omega, ?_, ?_⟩
      · intro i hl hr
        by_cases hi : i = start
        · rw [hi]
          exact hp
        · exact hall i (by omega) (by omega)
      · intro hlt
        have h := hstop (by omega)
        rwa [Nat.add_assoc, Nat.add_comm 1] at h
    · rw [List.takeWhile_cons, if_neg hp]
      refine ⟨Nat.zero_le _, ?_, ?_⟩
      · intro i hl hr
        simp only [List.length_nil] at hr
        omega
      · intro _
        simpa using hp

theorem daysBeforeMonth_succ (leap : Bool) (month : Nat) (h : 1 ≤ month ∧ month ≤ 12) :
    28 ≤ daysInMonth leap month ∧
      daysBeforeMonth leap (month + 1) = daysBeforeMonth leap month + daysInMonth leap month := by
  obtain ⟨hlow, hhigh⟩ := h
  cases leap <;> interval_cases month <;> decide

theorem daysBeforeMonth_thirteen (year : Int) :
    (daysBeforeMonth (isLeap year) 13 : Int) = 365 + leapDay year := by
  unfold leapDay
  cases isLeap year <;> decide

theorem daysBeforeMonth_mono (leap : Bool) {a b : Nat} (ha : 1 ≤ a) (h : a ≤ b) (hb : b ≤ 13) :
    daysBeforeMonth leap a ≤ daysBeforeMonth leap b := by
  induction b with
  | zero => omega
  | succ b ih =>
    by_cases hab : a = b + 1
    · rw [hab]
    · have hstep := (daysBeforeMonth_succ leap b ⟨by omega, by omega⟩).2
      have hprev := ih (by omega) (by omega)
      omega

theorem monthOf_bounds (leap : Bool) (day : Nat) (h : day < daysBeforeMonth leap 13) :
    (1 ≤ monthOf leap day ∧ monthOf leap day ≤ 12) ∧
      daysBeforeMonth leap (monthOf leap day) ≤ day ∧
      day < daysBeforeMonth leap (monthOf leap day + 1) := by
  obtain ⟨hle, hall, hstop⟩ :=
    length_takeWhile_range' (fun month => decide (daysBeforeMonth leap month ≤ day)) 2 11
  unfold monthOf
  generalize ((List.range' 2 11).takeWhile
    fun month => decide (daysBeforeMonth leap month ≤ day)).length = found at *
  simp only [decide_eq_true_eq, decide_eq_false_iff_not, Nat.not_le] at hall hstop
  refine ⟨⟨by omega, by omega⟩, ?_, ?_⟩
  · by_cases h0 : found = 0
    · subst h0
      exact Nat.zero_le _
    · exact hall (1 + found) (by omega) (by omega)
  · by_cases h11 : found = 11
    · subst h11
      exact h
    · have hnext := hstop (by omega)
      rwa [show 2 + found = 1 + found + 1 by omega] at hnext

/-! ### Dates -/

namespace Date

def Valid (d : Date) : Prop :=
  (1 ≤ d.month ∧ d.month ≤ 12) ∧ 1 ≤ d.day ∧ d.day ≤ daysInMonth (isLeap d.year) d.month

def number (d : Date) : Int := dayNumber d.year d.month d.day

/-- The order of dates by year, month and day. -/
def Before (a b : Date) : Prop :=
  a.year < b.year ∨ a.year = b.year ∧
    (a.month < b.month ∨ a.month = b.month ∧ a.day < b.day)

def next (d : Date) : Date :=
  if d.day < daysInMonth (isLeap d.year) d.month then ⟨d.year, d.month, d.day + 1⟩
  else if d.month < 12 then ⟨d.year, d.month + 1, 1⟩
  else ⟨d.year + 1, 1, 1⟩

theorem valid_next {d : Date} (h : d.Valid) : d.next.Valid := by
  obtain ⟨⟨hm1, hm12⟩, hd1, hd⟩ := h
  unfold next
  split
  · unfold Valid
    dsimp only
    omega
  · split
    · have hlen := (daysBeforeMonth_succ (isLeap d.year) (d.month + 1)
        ⟨by omega, by omega⟩).1
      unfold Valid
      dsimp only
      omega
    · have hlen := (daysBeforeMonth_succ (isLeap (d.year + 1)) 1
        ⟨by omega, by omega⟩).1
      unfold Valid
      dsimp only
      omega

theorem number_next {d : Date} (h : d.Valid) : d.next.number = d.number + 1 := by
  obtain ⟨⟨hm1, hm12⟩, hd1, hd⟩ := h
  have hmonth := (daysBeforeMonth_succ (isLeap d.year) d.month ⟨hm1, hm12⟩).2
  unfold next number dayNumber
  split
  · dsimp only
    omega
  · split
    · dsimp only
      omega
    · have hyear := daysBeforeYear_succ d.year
      have hend := daysBeforeMonth_thirteen d.year
      have hlast : d.month + 1 = 13 := by omega
      have hfirst : daysBeforeMonth (isLeap (d.year + 1)) 1 = 0 := rfl
      rw [hlast] at hmonth
      dsimp only
      omega

theorem number_bounds {d : Date} (h : d.Valid) :
    daysBeforeYear d.year ≤ d.number + epochDay ∧
      d.number + epochDay < daysBeforeYear (d.year + 1) := by
  obtain ⟨hm, hd1, hd⟩ := h
  have hmonth := (daysBeforeMonth_succ (isLeap d.year) d.month hm).2
  have hmono := daysBeforeMonth_mono (isLeap d.year) (a := d.month + 1) (b := 13)
    (by omega) (by omega) (Nat.le_refl 13)
  have hyear := daysBeforeYear_succ d.year
  have hend := daysBeforeMonth_thirteen d.year
  unfold number dayNumber
  omega

theorem number_lt_of_before {a b : Date} (ha : a.Valid) (hb : b.Valid) (h : a.Before b) :
    a.number < b.number := by
  rcases h with hyear | ⟨hyear, hmonth | ⟨hmonth, hday⟩⟩
  · have hmono := daysBeforeYear_mono (a := a.year + 1) (b := b.year) (by omega)
    have hea := (number_bounds ha).2
    have hsb := (number_bounds hb).1
    omega
  · have hstep := (daysBeforeMonth_succ (isLeap a.year) a.month ha.1).2
    have hmono := daysBeforeMonth_mono (isLeap a.year) (a := a.month + 1) (b := b.month)
      (by omega) (by omega) (by have := hb.1.2; omega)
    have hea := ha.2.2
    have hsb := hb.2.1
    unfold number dayNumber
    rw [hyear] at hstep hmono hea ⊢
    omega
  · unfold number dayNumber
    rw [hyear, hmonth]
    omega

/-- Days come in the order of their dates. -/
theorem number_lt_iff {a b : Date} (ha : a.Valid) (hb : b.Valid) :
    a.number < b.number ↔ a.Before b := by
  refine ⟨fun h => ?_, number_lt_of_before ha hb⟩
  by_contra hn
  have hcases : b.Before a ∨ a = b := by
    unfold Before at *
    by_cases hy : a.year = b.year
    · by_cases hm : a.month = b.month
      · by_cases hd : a.day = b.day
        · right
          cases a
          cases b
          simp_all
        · left
          omega
      · left
        omega
    · left
      omega
  rcases hcases with hba | hab
  · have := number_lt_of_before hb ha hba
    omega
  · rw [hab] at h
    omega

theorem eq_of_number_eq {a b : Date} (ha : a.Valid) (hb : b.Valid) (h : a.number = b.number) :
    a = b := by
  have hab := (number_lt_iff ha hb).not.1 (by omega)
  have hba := (number_lt_iff hb ha).not.1 (by omega)
  unfold Before at hab hba
  cases a
  cases b
  simp only at hab hba
  rw [mk.injEq]
  omega

/-- The day read as a date is a date of the calendar, and the one with the day's number. -/
theorem ofDay_spec (day : Int) : (ofDay day).Valid ∧ (ofDay day).number = day := by
  obtain ⟨hlow, hhigh⟩ := yearOf_bounds (day + epochDay)
  have hyear := daysBeforeYear_succ (yearOf (day + epochDay))
  have hend := daysBeforeMonth_thirteen (yearOf (day + epochDay))
  unfold ofDay Valid number dayNumber
  dsimp only
  generalize yearOf (day + epochDay) = year at *
  obtain ⟨hm, hfrom, hto⟩ := monthOf_bounds (isLeap year)
    (day + epochDay - daysBeforeYear year).toNat (by omega)
  generalize monthOf (isLeap year) (day + epochDay - daysBeforeYear year).toNat = month at *
  have hmonth := (daysBeforeMonth_succ (isLeap year) month hm).2
  exact ⟨⟨hm, by omega, by omega⟩, by omega⟩

theorem valid_ofDay (day : Int) : (ofDay day).Valid := (ofDay_spec day).1

theorem number_ofDay (day : Int) : (ofDay day).number = day := (ofDay_spec day).2

theorem ofDay_number {d : Date} (h : d.Valid) : ofDay d.number = d :=
  eq_of_number_eq (valid_ofDay _) h (number_ofDay _)

/-- The calendar goes from each day to the next by the rules for months and leap years. -/
theorem ofDay_succ (day : Int) : ofDay (day + 1) = (ofDay day).next := by
  have hnext := number_next (valid_ofDay day)
  rw [number_ofDay] at hnext
  rw [← hnext]
  exact ofDay_number (valid_next (valid_ofDay day))

example : ofDay 0 = ⟨1970, 1, 1⟩ := by decide

/-- A date begins on or before a day exactly when it does not come after the day's date. -/
theorem number_le_iff {d : Date} (h : d.Valid) (day : Int) :
    d.number ≤ day ↔ ¬ (ofDay day).Before d := by
  rw [← number_lt_iff (valid_ofDay day) h, number_ofDay]
  omega

end Date

end Preferences.Calendar
