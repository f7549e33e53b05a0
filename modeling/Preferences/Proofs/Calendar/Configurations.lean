import Preferences.Calendar.Config
import Preferences.Calendar.ZoneTable
import Preferences.Proofs.Listing
import Preferences.Proofs.Toml.FlatDocuments

/-!
# Configurations by all ways

A configuration is checked in the same way wherever it comes from: written as text and read again,
in a file, or at once for a service. A service that is made starts its fiscal year on the very day
that was configured, since only days are valid that need no clamping.
-/

namespace Preferences.Calendar

theorem FiscalStart.eq_of_month_day {a b : FiscalStart} (hmonth : a.month = b.month)
    (hday : a.day = b.day) : a = b := by
  cases a
  cases b
  cases hmonth
  cases hday
  rfl

namespace Config

variable {known : KnownZones} {c : Config}

/-! ### Validity -/

/-- The zone counts even where universal time is used. -/
structure Valid (known : KnownZones) (c : Config) : Prop where
  month : 1 ≤ c.fiscalMonth.toNat ∧ c.fiscalMonth.toNat ≤ 12
  day : 1 ≤ c.fiscalDay.toNat ∧ c.fiscalDay.toNat ≤ 28
  zone : ∀ name, c.timeZone = some name → ∃ rules, known name = some rules

/-- The zone that is named, if any is and it is known. -/
def namedZone? (known : KnownZones) (c : Config) : Option Zone :=
  c.timeZone.bind fun name => (known name).map (.named name)

theorem parsedZone_of_known
    (h : ∀ name, c.timeZone = some name → ∃ rules, known name = some rules) :
    c.parsedZone known = .ok (c.namedZone? known) := by
  unfold parsedZone namedZone?
  cases hname : c.timeZone with
  | none => rfl
  | some name =>
    obtain ⟨rules, hrules⟩ := h name hname
    simp only [hrules, Option.bind_some, Option.map_some]

theorem parsedZone_of_unknown {name : String} (hname : c.timeZone = some name)
    (h : known name = none) :
    c.parsedZone known =
      .error (.configuration "time_zone" s!"'{name}' is not a known time zone") := by
  unfold parsedZone
  simp only [hname, h]

theorem validate_eq (known : KnownZones) (c : Config) : c.validate known =
    if c.fiscalMonth < 1 ∨ 12 < c.fiscalMonth then
      .error (.configuration "fiscal_year_start_month" s!"{c.fiscalMonth.toNat} is not a month")
    else if c.fiscalDay < 1 ∨ 28 < c.fiscalDay then
      .error (.configuration "fiscal_year_start_day"
        s!"{c.fiscalDay.toNat} must be between 1 and 28")
    else (c.parsedZone known).map fun _ => () := by
  unfold validate
  split
  · rfl
  · split
    · rfl
    · cases c.parsedZone known <;> rfl

theorem not_outside_iff {n low high : UInt32} :
    ¬ (n < low ∨ high < n) ↔ low.toNat ≤ n.toNat ∧ n.toNat ≤ high.toNat := by
  rw [UInt32.lt_iff_toNat_lt, UInt32.lt_iff_toNat_lt]
  omega

theorem validate_eq_ok_iff : c.validate known = .ok () ↔ c.Valid known := by
  rw [validate_eq]
  constructor
  · intro h
    split at h
    · cases h
    · rename_i hmonth
      split at h
      · cases h
      · rename_i hday
        refine ⟨not_outside_iff.1 hmonth, not_outside_iff.1 hday, fun name hname => ?_⟩
        cases hzone : known name with
        | some rules => exact ⟨rules, rfl⟩
        | none =>
          rw [parsedZone_of_unknown hname hzone] at h
          cases h
  · intro h
    have hmonth : ¬ (c.fiscalMonth < 1 ∨ 12 < c.fiscalMonth) := not_outside_iff.2 h.month
    have hday : ¬ (c.fiscalDay < 1 ∨ 28 < c.fiscalDay) := not_outside_iff.2 h.day
    rw [if_neg hmonth, if_neg hday, parsedZone_of_known h.zone]
    rfl

theorem exists_of_validate_eq_error {e : Error} (h : c.validate known = .error e) :
    ∃ field message, e = .configuration field message := by
  rw [validate_eq] at h
  split at h
  · cases h
    exact ⟨_, _, rfl⟩
  · split at h
    · cases h
      exact ⟨_, _, rfl⟩
    · unfold parsedZone at h
      split at h
      · cases h
      · split at h
        · cases h
        · cases h
          exact ⟨_, _, rfl⟩

/-! ### Text -/

theorem toToml_flat (c : Config) : Toml.Flat c.toToml := by
  obtain ⟨month, day, useUtc, timeZone⟩ := c
  have hword : ∀ n, Toml.Simple (.integer n) := .integer
  have hflag : ∀ b, Toml.Simple (.bool b) := .bool
  have htext : ∀ s, Toml.Simple (.string s) := .string
  cases timeZone with
  | none =>
    have hkeys : ["fiscal_year_start_month", "fiscal_year_start_day", "use_utc"].Nodup := by decide
    refine ⟨hkeys, ?_⟩
    simp [toToml, hword, hflag]
  | some name =>
    have hkeys : ["fiscal_year_start_month", "fiscal_year_start_day", "use_utc",
        "time_zone"].Nodup := by decide
    refine ⟨hkeys, ?_⟩
    simp [toToml, hword, hflag, htext]

theorem word?_integer (n : UInt32) : word? (.integer (.ofNat n.toNat)) = some n := by
  have hsize : n.toNat < UInt32.size := n.toNat_lt
  have hn : (Int64.ofNat n.toNat).toInt = n.toNat := by
    refine Int64.toInt_ofNat_of_lt (Nat.lt_trans hsize ?_)
    decide
  unfold word?
  dsimp only
  rw [hn, if_pos ⟨Int.natCast_nonneg _, Int.ofNat_lt.2 hsize⟩, Int.toNat_natCast, UInt32.ofNat_toNat]

theorem ofToml?_toToml (c : Config) : ofToml? (Dict.ofList c.toToml) = some c := by
  obtain ⟨month, day, useUtc, timeZone⟩ := c
  unfold ofToml? field
  simp only [Dict.get?_ofList]
  cases timeZone with
  | none =>
    simp [toToml, Dict.lookup, word?_integer, flag?, default]
  | some name =>
    simp [toToml, Dict.lookup, word?_integer, flag?, text?]

theorem ofText_print (known : KnownZones) (c : Config) :
    ofText known c.print = (c.validate known).map fun _ => c := by
  unfold ofText parse print
  rw [c.toToml_flat.parse?_print, Option.bind_some, ofToml?_toToml]
  dsimp only
  cases c.validate known <;> rfl

/-- An error of reading, with another path to the text. -/
def relocated (path : String) : Error → Error
  | .unreadable _ fault => .unreadable path fault
  | e => e

theorem parse_eq (known : KnownZones) (path text : String) :
    parse known path text = (ofText known text).mapError (relocated path) := by
  unfold ofText parse
  cases (Toml.parse? text).bind ofToml? with
  | none => rfl
  | some c =>
    dsimp only
    cases hvalid : c.validate known with
    | ok _ => rfl
    | error e =>
      obtain ⟨field, message, rfl⟩ := exists_of_validate_eq_error hvalid
      rfl

theorem load_eq (known : KnownZones) (folder : Folder) (path : String) :
    load known folder path =
      (folder.read path).bind fun text => (ofText known text).mapError (relocated path) := by
  unfold load
  cases folder.read path with
  | error e => rfl
  | ok text => exact parse_eq known path text

/-! ### Services -/

/-- Clamping alters exactly the days that are not valid. -/
theorem clamp_eq_iff (month day : Nat) :
    (FiscalStart.clamp month day).month = month ∧ (FiscalStart.clamp month day).day = day ↔
      (1 ≤ month ∧ month ≤ 12) ∧ (1 ≤ day ∧ day ≤ 28) := by
  unfold FiscalStart.clamp
  dsimp only
  omega

/-- Universal time if it is to be used, else the zone that is named, else that of the machine. -/
def IsZone (known : KnownZones) (c : Config) (zone : Zone) : Prop :=
  if c.useUtc then zone = .utc
  else
    match c.timeZone with
    | none => zone = .system
    | some name => ∃ rules, known name = some rules ∧ zone = .named name rules

structure Describes (known : KnownZones) (c : Config) (service : Service) : Prop where
  month : service.fiscal.month = c.fiscalMonth.toNat
  day : service.fiscal.day = c.fiscalDay.toNat
  zone : c.IsZone known service.zone
  clock : service.clock = .running

def made (known : KnownZones) (c : Config) : Service :=
  ⟨if c.useUtc then .utc else (c.namedZone? known).getD .system,
    .clamp c.fiscalMonth.toNat c.fiscalDay.toNat, .running⟩

theorem service_of_valid (h : c.Valid known) : c.service known = .ok (c.made known) := by
  unfold service
  rw [validate_eq_ok_iff.2 h, parsedZone_of_known h.zone]
  rfl

theorem service_of_error {e : Error} (h : c.validate known = .error e) :
    c.service known = .error e := by
  unfold service
  rw [h]
  rfl

theorem service_eq_error_iff {e : Error} :
    c.service known = .error e ↔ c.validate known = .error e := by
  refine ⟨fun h => ?_, service_of_error⟩
  cases hvalid : c.validate known with
  | ok _ =>
    rw [service_of_valid (validate_eq_ok_iff.1 hvalid)] at h
    cases h
  | error other =>
    rw [service_of_error hvalid] at h
    cases h
    rfl

theorem isZone_iff (h : c.Valid known) {zone : Zone} :
    c.IsZone known zone ↔ zone = (c.made known).zone := by
  unfold IsZone made namedZone?
  dsimp only
  split
  · exact Iff.rfl
  · cases hname : c.timeZone with
    | none => exact Iff.rfl
    | some name =>
      obtain ⟨rules, hrules⟩ := h.zone name hname
      simp only [hrules, Option.some.injEq, exists_eq_left', Option.bind_some, Option.map_some,
        Option.getD_some]

theorem describes_iff (h : c.Valid known) {s : Service} :
    c.Describes known s ↔ s = c.made known := by
  obtain ⟨hmonth, hday⟩ := (clamp_eq_iff c.fiscalMonth.toNat c.fiscalDay.toNat).2 ⟨h.month, h.day⟩
  constructor
  · rintro ⟨hmonth', hday', hzone, hclock⟩
    obtain ⟨zone, fiscal, clock⟩ := s
    cases FiscalStart.eq_of_month_day (hmonth'.trans hmonth.symm) (hday'.trans hday.symm)
    cases hclock
    cases (isZone_iff h).1 hzone
    rfl
  · rintro rfl
    exact ⟨hmonth, hday, (isZone_iff h).2 rfl, rfl⟩

theorem service_eq_ok_iff {s : Service} :
    c.service known = .ok s ↔ c.Valid known ∧ c.Describes known s := by
  constructor
  · intro h
    cases hvalid : c.validate known with
    | error e =>
      rw [service_of_error hvalid] at h
      cases h
    | ok _ =>
      have hc : c.Valid known := validate_eq_ok_iff.1 hvalid
      rw [service_of_valid hc] at h
      cases h
      exact ⟨hc, (describes_iff hc).2 rfl⟩
  · rintro ⟨hc, hs⟩
    rw [service_of_valid hc, ← (describes_iff hc).1 hs]

/-- Whatever zones are known, a configuration means the same by all ways. Exactly the valid ones are
taken, and what is wrong with the others is reported as validation reports it: for the text of the
configuration, from which the configuration itself comes back, and for a service, which then has the
configured fiscal year, unaltered, and the configured zone. A file is read as its text is, but for
the path in errors. -/
theorem configurations_agree (known : KnownZones) (c : Config) :
    (c.validate known = .ok () ↔ c.Valid known) ∧
    (∀ e, c.validate known = .error e → ∃ field message, e = .configuration field message) ∧
    ofText known c.print = (c.validate known).map (fun _ => c) ∧
    (∀ folder path, load known folder path =
      (folder.read path).bind fun text => (ofText known text).mapError (relocated path)) ∧
    (∀ service, c.service known = .ok service ↔ c.Valid known ∧ c.Describes known service) ∧
    (∀ e, c.service known = .error e ↔ c.validate known = .error e) ∧
    ∀ month day,
      (FiscalStart.clamp month day).month = month ∧ (FiscalStart.clamp month day).day = day ↔
        (1 ≤ month ∧ month ≤ 12) ∧ (1 ≤ day ∧ day ≤ 28) :=
  ⟨validate_eq_ok_iff, fun _ => exists_of_validate_eq_error, c.ofText_print known, load_eq known,
    fun _ => service_eq_ok_iff, fun _ => service_eq_error_iff, clamp_eq_iff⟩

/-- A zone must be known even where it does not count. -/
example :
    (Config.mk 4 6 true (some "Nowhere/Special")).service ZoneTable.rules? =
      .error (.configuration "time_zone" "'Nowhere/Special' is not a known time zone") := by
  rfl

end Config

end Preferences.Calendar
