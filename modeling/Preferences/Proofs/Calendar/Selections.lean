import Preferences.Proofs.Encoding

/-!
# Selections are written in one way

A selection is written as a stored value, or as a mode with a number. Names of modes and periods and
ordinals of periods are each read as what they belong to and nothing else, and so are selections.
-/

namespace Preferences.Calendar

/-! ### Ordinals -/

namespace Period

theorem ordinal_get_all : ∀ place : Fin all.length, (all.get place).ordinal = place := by
  decide

theorem ofOrdinal?_eq_some_iff {ordinal : Int} {period : Period} :
    ofOrdinal? ordinal = some period ↔ ordinal = period.ordinal := by
  constructor
  · intro h
    unfold ofOrdinal? at h
    split at h
    · cases h
    · rename_i hnatural
      obtain ⟨hplace, rfl⟩ := List.getElem?_eq_some_iff.1 h
      have hordinal : all[ordinal.toNat].ordinal = ordinal.toNat :=
        ordinal_get_all ⟨ordinal.toNat, hplace⟩
      rw [hordinal, Int.toNat_of_nonneg (Int.not_lt.1 hnatural)]
  · rintro rfl
    exact ofOrdinal?_ordinal period

theorem toInt_ordinal (period : Period) : (Int64.ofNat period.ordinal).toInt = period.ordinal := by
  cases period <;> rfl

/-- An integer is read as the period that has it for its ordinal. -/
theorem ofOrdinal?_toInt_eq_some_iff {code : Int64} {period : Period} :
    ofOrdinal? code.toInt = some period ↔ code = .ofNat period.ordinal := by
  rw [ofOrdinal?_eq_some_iff, ← Int64.toInt_inj, toInt_ordinal]

end Period

/-! ### Selections -/

namespace Selection

theorem decode?_eq_some_iff {found : Stored} {selection : Selection} :
    decode? found = some selection ↔ found = selection.encode := by
  constructor
  · intro h
    unfold decode? at h
    split at h
    · obtain ⟨mode, hmode, hdetail⟩ := Option.bind_eq_some_iff.1 h
      cases Named.ofName?_eq_some_iff.1 hmode
      split at hdetail
      · cases hdetail
        rfl
      · obtain ⟨period, hperiod, rfl⟩ := Option.map_eq_some_iff.1 hdetail
        cases Named.ofName?_eq_some_iff.1 hperiod
        rfl
      · obtain ⟨period, hperiod, rfl⟩ := Option.map_eq_some_iff.1 hdetail
        cases Named.ofName?_eq_some_iff.1 hperiod
        rfl
      · cases hdetail
    · cases h
  · rintro rfl
    exact Stored.decode?_selection selection

theorem ofCode?_eq_some_iff {mode : Mode} {code : Int64} {selection : Selection} :
    ofCode? mode code = some selection ↔ (mode, code) = (selection.mode, selection.code) := by
  constructor
  · intro h
    cases mode with
    | absolute =>
      cases h
      rfl
    | starting =>
      obtain ⟨period, hperiod, rfl⟩ := Option.map_eq_some_iff.1 h
      rw [Period.ofOrdinal?_toInt_eq_some_iff.1 hperiod]
      rfl
    | ending =>
      obtain ⟨period, hperiod, rfl⟩ := Option.map_eq_some_iff.1 h
      rw [Period.ofOrdinal?_toInt_eq_some_iff.1 hperiod]
      rfl
  · rintro ⟨⟩
    exact ofCode?_code selection

theorem ofCode_eq_ok_iff {mode : Mode} {code : Int64} {selection : Selection} :
    ofCode mode code = .ok selection ↔ (mode, code) = (selection.mode, selection.code) := by
  rw [← ofCode?_eq_some_iff, ofCode]
  cases ofCode? mode code <;> simp

theorem ofCode_eq_error_iff {mode : Mode} {code : Int64} {e : Error} :
    ofCode mode code = .error e ↔
      (∀ selection : Selection, (mode, code) ≠ (selection.mode, selection.code)) ∧
      e = .invalidPeriod code.toInt := by
  have hnone : ofCode? mode code = none ↔
      ∀ selection : Selection, (mode, code) ≠ (selection.mode, selection.code) := by
    simp only [Option.eq_none_iff_forall_ne_some, ne_eq, ofCode?_eq_some_iff]
  rw [← hnone, ofCode]
  cases ofCode? mode code <;> simp [eq_comm]

/-- A stored value is read as the selection that is written so, and as no other. So is a pair of a
mode and a number; the number of any other pair is reported. Both ways of writing tell selections
apart. -/
theorem selections_are_written_in_one_way :
    (∀ (found : Stored) (selection : Selection),
      decode? found = some selection ↔ found = selection.encode) ∧
    (∀ (mode : Mode) (code : Int64) (selection : Selection),
      ofCode mode code = .ok selection ↔ (mode, code) = (selection.mode, selection.code)) ∧
    (∀ (mode : Mode) (code : Int64) (e : Error), ofCode mode code = .error e ↔
      (∀ selection : Selection, (mode, code) ≠ (selection.mode, selection.code)) ∧
      e = .invalidPeriod code.toInt) ∧
    ∀ first second : Selection,
      (first.encode = second.encode ↔ first = second) ∧
      ((first.mode, first.code) = (second.mode, second.code) ↔ first = second) := by
  refine ⟨fun found selection => decode?_eq_some_iff,
    fun mode code selection => ofCode_eq_ok_iff, fun mode code e => ofCode_eq_error_iff,
    fun first second => ⟨?_, ?_⟩⟩
  · rw [← decode?_eq_some_iff, Stored.decode?_selection, Option.some.injEq]
  · rw [← ofCode?_eq_some_iff, ofCode?_code, Option.some.injEq]

end Selection

end Preferences.Calendar
