import Mathlib.Data.Int.LeastGreatest
import Mathlib.Order.Bounds.Basic
import Preferences.Proofs.Calendar.ChangingOffset

/-!
# The first instant of a day

In every zone there is a first instant whose local date is a given one or a later one. Clocks show
midnight there, or are set forward there from before midnight to past it (`ZoneRules.Skips`). In the
first case this instant is where the day is taken to start. In the second it is if clocks go on from
one o'clock, and otherwise only if midnight in universal time happens to be the instant.
-/

namespace Preferences.Calendar

namespace ZoneRules

variable {rules : ZoneRules}

/-- The instants at which local dates have reached a day. -/
def reached (rules : ZoneRules) (day : Int) : Set Int := {instant | day ≤ rules.localDay instant}

/-- Clocks are set forward at an instant, from before a local time to past it. -/
def Skips (rules : ZoneRules) (instant reading : Int) : Prop :=
  instant - 1 + rules.offsetAt (instant - 1) < reading ∧
    reading < instant + rules.offsetAt instant

theorem mem_reached_iff {day instant : Int} :
    instant ∈ rules.reached day ↔ day * secondsPerDay ≤ instant + rules.offsetAt instant := by
  show day ≤ rules.localDay instant ↔ _
  unfold localDay dayOfSeconds secondsPerDay
  omega

theorem le_of_shows {day first instant seconds : Int} (hfirst : IsLeast (rules.reached day) first)
    (hseconds : 0 ≤ seconds) (hshows : rules.Shows instant (day * secondsPerDay + seconds)) :
    first ≤ instant := by
  unfold Shows at hshows
  exact hfirst.2 (mem_reached_iff.2 (by omega))

theorem shows_or_skips {day first : Int} (hfirst : IsLeast (rules.reached day) first) :
    rules.Shows first (day * secondsPerDay) ∨ rules.Skips first (day * secondsPerDay) := by
  have hreached := mem_reached_iff.1 hfirst.1
  have hbefore : ¬ day * secondsPerDay ≤ first - 1 + rules.offsetAt (first - 1) := by
    intro h
    have hle := hfirst.2 (mem_reached_iff.2 h)
    omega
  unfold Shows Skips
  omega

theorem exists_isLeast_reached (hoffsets : ∀ offset ∈ rules.offsets, IsOffset offset)
    (day : Int) : ∃ first, IsLeast (rules.reached day) first := by
  -- No offset is a day long, and so the day is reached within a day of midnight in universal time.
  have hlow : ∀ instant, instant ∈ rules.reached day → day * secondsPerDay - 86400 ≤ instant := by
    intro instant hmem
    have hreached := mem_reached_iff.1 hmem
    have hoffset := (isOffset_offsetAt hoffsets instant).2
    omega
  have hsome : day * secondsPerDay + 86400 ∈ rules.reached day := by
    have hoffset := (isOffset_offsetAt hoffsets (day * secondsPerDay + 86400)).1
    exact mem_reached_iff.2 (by omega)
  obtain ⟨first, hmem, hleast⟩ := Int.exists_least_of_bdd ⟨_, hlow⟩ ⟨_, hsome⟩
  exact ⟨first, hmem, hleast⟩

theorem not_skips_of_constant {offset : Int} (h : rules = ⟨offset, []⟩) (instant reading : Int) :
    ¬ rules.Skips instant reading := by
  subst h
  unfold Skips offsetAt offsetAfter
  omega

/-- What clocks show in the last second before each change. -/
def lastReadings (base : Int) : List (Int × Int) → List Int
  | [] => []
  | (start, offset) :: later => (start - 1 + base) :: lastReadings offset later

/-- Before a change clocks show nothing later than in the last second before this or some change
that is listed before it. -/
theorem exists_le_lastReading {early later : List (Int × Int)} {start offset instant : Int}
    (hchanges : rules.changes = early ++ (start, offset) :: later) (h : instant < start) :
    ∃ reading ∈ lastReadings rules.base (early ++ [(start, offset)]),
      instant + rules.offsetAt instant ≤ reading := by
  unfold offsetAt
  rw [hchanges]
  generalize rules.base = base
  clear hchanges
  induction early generalizing base with
  | nil =>
    refine ⟨start - 1 + base, List.mem_cons_self, ?_⟩
    show instant + (if start ≤ instant then offsetAfter offset later instant else base) ≤ _
    rw [if_neg (Int.not_le.2 h)]
    omega
  | cons change rest ih =>
    obtain ⟨reading, hmem, hle⟩ := ih change.2
    show ∃ reading ∈ (change.1 - 1 + base) :: lastReadings change.2 (rest ++ [(start, offset)]),
      instant + (if change.1 ≤ instant then offsetAfter change.2 _ instant else base) ≤ reading
    split
    · exact ⟨reading, List.mem_cons_of_mem _ hmem, hle⟩
    · exact ⟨_, List.mem_cons_self, by omega⟩

end ZoneRules

/-! ### Dates -/

theorem Zone.reached_number {zone : Zone} {date : Date} (hdate : date.Valid) :
    zone.rules.reached date.number = {instant | ¬ (zone.localDate instant).Before date} := by
  ext instant
  have hbefore := Date.number_lt_iff (Date.valid_ofDay (zone.rules.localDay instant)) hdate
  rw [Date.number_ofDay] at hbefore
  show date.number ≤ zone.rules.localDay instant ↔
    ¬ (Date.ofDay (zone.rules.localDay instant)).Before date
  rw [← hbefore, Int.not_lt]

/-- In every zone there is a first instant whose local date is a given one or a later one. If clocks
show midnight there, it is the earliest instant at which they do, and the day starts there. If clocks
are set forward over midnight there, the day starts there exactly when clocks never show midnight,
and show one o'clock at that instant, or never show one o'clock either and the instant is midnight in
universal time. Where clocks never change the day always starts at this instant. -/
theorem startOfDay_eq_first_iff (zone : Zone) (date : Date) (hdate : date.Valid)
    (hyear : InReach date.year) (hoffsets : ∀ offset ∈ zone.rules.offsets, IsOffset offset) :
    let rules := zone.rules
    let midnight := date.number * secondsPerDay
    ∃ first, IsLeast {instant | ¬ (zone.localDate instant).Before date} first ∧
      (rules.Shows first midnight ∧ (∀ i, rules.Shows i midnight → first ≤ i) ∧
          zone.startOfDay date.number = first ∨
        rules.Skips first midnight ∧
          (zone.startOfDay date.number = first ↔
            (∀ i, ¬ rules.Shows i midnight) ∧
              (rules.Shows first (midnight + 3600) ∨
                (∀ i, ¬ rules.Shows i (midnight + 3600)) ∧ first = midnight))) ∧
      ∀ offset, rules = ⟨offset, []⟩ → zone.startOfDay date.number = first := by
  intro rules midnight
  obtain ⟨hfirstDay, hlastDay⟩ := Date.number_inReach hdate hyear
  obtain ⟨first, hleast⟩ := ZoneRules.exists_isLeast_reached hoffsets date.number
  have hafter : ∀ i seconds, 0 ≤ seconds → rules.Shows i (midnight + seconds) → first ≤ i :=
    fun _ _ hseconds hshows => ZoneRules.le_of_shows hleast hseconds hshows
  have hstart := ZoneRules.startOfDay_eq_iff hoffsets hfirstDay hlastDay hafter
  refine ⟨first, Zone.reached_number hdate ▸ hleast, ?_, ?_⟩
  · -- The two cases exclude each other: what is shown is not skipped.
    rcases ZoneRules.shows_or_skips hleast with hshows | hskips
    · refine .inl ⟨hshows, fun i hi => hafter i 0 (by decide) ?_, hstart.2 (.inl hshows)⟩
      rwa [Int.add_zero]
    · refine .inr ⟨hskips, hstart.trans (or_iff_right ?_)⟩
      intro hshows
      exact absurd hshows (Int.ne_of_gt hskips.2)
  · intro offset hconstant
    have hshows := (ZoneRules.shows_or_skips hleast).resolve_right
      (ZoneRules.not_skips_of_constant hconstant first midnight)
    exact hstart.2 (.inl hshows)

/-! ### Skipped midnights -/

/-- A date that is reached with a change, and was not reached in the last second before that or any
earlier change, is reached there first. -/
theorem isLeast_of_change {zone : Zone} (early : List (Int × Int)) {later : List (Int × Int)}
    {start offset : Int} {date : Date} (hdate : date.Valid)
    (hchanges : zone.rules.changes = early ++ (start, offset) :: later)
    (hbefore : ∀ reading ∈ ZoneRules.lastReadings zone.rules.base (early ++ [(start, offset)]),
      reading < date.number * secondsPerDay)
    (hreached : date.number * secondsPerDay ≤ start + zone.rules.offsetAt start) :
    IsLeast {instant | ¬ (zone.localDate instant).Before date} start := by
  rw [← Zone.reached_number hdate]
  refine ⟨ZoneRules.mem_reached_iff.2 hreached, fun instant hinstant => ?_⟩
  by_contra hlt
  obtain ⟨reading, hmem, hle⟩ := ZoneRules.exists_le_lastReading hchanges (Int.not_le.1 hlt)
  have hlast := hbefore reading hmem
  have hdate := ZoneRules.mem_reached_iff.1 hinstant
  omega

/-- Where a whole day is skipped, the day is taken to start at midnight in universal time, ten hours
before its first instant, when it is the afternoon of the day before. -/
theorem skipped_day_starts_too_early :
    let zone : Zone := .named "Pacific/Apia" ZoneTable.apia
    let date : Date := ⟨2011, 12, 30⟩
    (ZoneTable.rules? "Pacific/Apia" = some zone.rules ∧ date.Valid ∧ InReach date.year) ∧
    IsLeast {instant | ¬ (zone.localDate instant).Before date} 1325239200 ∧
      zone.localDate 1325239200 = ⟨2011, 12, 31⟩ ∧
    zone.startOfDay date.number = 1325203200 ∧ zone.localDate 1325203200 = ⟨2011, 12, 29⟩ := by
  intro zone date
  have hdate : date.Valid := by
    unfold Date.Valid
    decide
  refine ⟨⟨by decide, hdate, by decide, by decide⟩, ?_, by decide, by decide, by decide⟩
  exact isLeast_of_change (ZoneTable.apia.changes.take 3) hdate rfl (by decide) (by decide)

/-- Where half an hour before midnight clocks are set forward by an hour, the day is taken to start
half an hour late. -/
example :
    let zone : Zone := .named "" ⟨0, [(84600, 3600)]⟩
    zone.localDate 84599 = ⟨1970, 1, 1⟩ ∧ zone.localDate 84600 = ⟨1970, 1, 2⟩ ∧
      zone.startOfDay 1 = 86400 := by
  decide

/-- Where an hour is skipped at midnight, the day starts when clocks go on, at one o'clock. -/
theorem day_without_midnight_starts_at_one :
    let zone : Zone := .named "America/Santiago" ZoneTable.santiago
    let date : Date := ⟨2024, 9, 8⟩
    (date.Valid ∧ InReach date.year ∧ ∀ offset ∈ zone.rules.offsets, IsOffset offset) ∧
    ∃ first, IsLeast {instant | ¬ (zone.localDate instant).Before date} first ∧
      zone.rules.Skips first (date.number * secondsPerDay) ∧
      zone.startOfDay date.number = first ∧ first = 1725768000 := by
  intro zone date
  have hdate : date.Valid := by
    unfold Date.Valid
    decide
  have hyear : InReach date.year := ⟨by decide, by decide⟩
  have hoffsets : ∀ offset ∈ zone.rules.offsets, IsOffset offset := by
    unfold IsOffset
    decide
  have hleast : IsLeast {instant | ¬ (zone.localDate instant).Before date} 1725768000 :=
    isLeast_of_change (ZoneTable.santiago.changes.take 37) hdate rfl (by decide) (by decide)
  have hskips : zone.rules.Skips 1725768000 (date.number * secondsPerDay) := by
    unfold ZoneRules.Skips
    decide
  have hnever : ∀ i, ¬ zone.rules.Shows i (date.number * secondsPerDay) := by
    intro i hshows
    have hmem := (ZoneRules.mem_instantsReading_iff hoffsets (by decide) (by decide)).2 hshows
    have hnil : zone.rules.instantsReading (date.number * secondsPerDay) = [] := by decide
    rw [hnil] at hmem
    cases hmem
  obtain ⟨first, hfirst, hcases, -⟩ := startOfDay_eq_first_iff zone date hdate hyear hoffsets
  cases hfirst.unique hleast
  refine ⟨⟨hdate, hyear, hoffsets⟩, 1725768000, hleast, hskips, ?_, rfl⟩
  rcases hcases with ⟨hshows, -⟩ | ⟨-, hiff⟩
  · exact absurd hshows (hnever _)
  · refine hiff.2 ⟨hnever, .inl ?_⟩
    unfold ZoneRules.Shows
    decide

end Preferences.Calendar
