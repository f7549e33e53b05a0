import Preferences.Proofs.Calendar.Selections
import Preferences.Proofs.Failure
import Preferences.Proofs.Number.Rounding
import Preferences.Proofs.Parts
import Preferences.Proofs.Persistence
import Preferences.Proofs.TypedAccess

/-!
# Restoring is decoding and then setting

`Body.Decodes` says what a stored value means to a body. `Body.decode?` finds that meaning, and
finds none exactly when there is none. A preference that is restored from a store comes out as if it
had been set to what the store means to it, except that no watcher is told. So a store can bring
nothing into a preference that the preference could not be set to.
-/

namespace Preferences

open Calendar

/-! ### What stored values mean -/

namespace Stored

def MeansText (found : Stored) (value : String) : Prop :=
  found = .text value ∨ found = .null ∧ value = ""

/-- Nothing for no reference, or a text of the identifier. -/
def MeansReference (found : Stored) : Option Guid → Prop
  | none => found = .null
  | some guid => ∃ text, found = .text text ∧ Guid.ofText? text = some guid

def MeansReferences (found : Stored) (guids : List Guid) : Prop :=
  ∃ items, found = .list items ∧
    List.Forall₂ (fun item guid => item.MeansReference (some guid)) items guids

/-- The number itself, or an integer that is rounded to it. -/
def MeansNumber (found : Stored) (value : Binary64) : Prop :=
  found = .float value ∨ ∃ n, found = .integer n ∧ value.IsNearest n.toInt

end Stored

namespace Body

/-- Whether a stored value means a value to a body. -/
def Decodes : Body → Stored → Value → Prop
  | text _, found, .text value | choice _, found, .text value => found.MeansText value
  | flag _, found, .flag value => found = .flag value
  | integer _, found, .int64 value => found = .integer value
  | intRange _, found, .int32 value => ∃ n, found = .integer n ∧ n.toInt = value.toInt
  | floatRange _, found, .float value => found.MeansNumber value
  | reference _, found, .reference value | checkedReference _, found, .reference value =>
    found.MeansReference value
  | references _, found, .references value => found.MeansReferences value
  | date _, found, .selection value => found = value.encode
  | _, _, _ => False

def natural : Body → ValueType
  | date _ => .selection
  | body => body.held

theorem Decodes.type_eq {body : Body} {found : Stored} {value : Value}
    (h : body.Decodes found value) : value.type = body.natural := by
  cases body <;> cases value <;> first | rfl | exact h.elim

end Body

/-! ### Decoding finds the meaning -/

namespace Stored

variable {found : Stored}

theorem decodeText?_eq_some_iff {value : String} :
    Body.decodeText? found = some value ↔ found.MeansText value := by
  unfold Body.decodeText? MeansText
  cases found <;> simp [eq_comm]

theorem flag?_eq_some_iff {value : Bool} : found.flag? = some value ↔ found = .flag value := by
  unfold Stored.flag?
  cases found <;> simp

theorem integer?_eq_some_iff {value : Int64} :
    found.integer? = some value ↔ found = .integer value := by
  unfold Stored.integer?
  cases found <;> simp

theorem decodeInt32?_eq_some_iff {value : Int32} :
    Body.decodeInt32? found = some value ↔ ∃ n, found = .integer n ∧ n.toInt = value.toInt := by
  cases found
  case integer n =>
    have hmin : Int32.minValue.toInt = -2147483648 := rfl
    have hmax : Int32.maxValue.toInt = 2147483647 := rfl
    have hlow := Int32.minValue_le_toInt value
    have hhigh := Int32.toInt_le value
    unfold Body.decodeInt32? Stored.integer?
    simp only [Option.bind_eq_bind, Option.bind_some, Stored.integer.injEq, exists_eq_left']
    split
    · rename_i hrange
      have hsame : n.toInt32.toInt = n.toInt := by
        rw [Int64.toInt_toInt32]
        exact Int.bmod_eq_of_le (by omega) (by omega)
      rw [Option.some.injEq, ← Int32.toInt_inj, hsame]
    · rename_i hrange
      refine ⟨fun h => (nomatch h), fun h => ?_⟩
      omega
  all_goals exact ⟨fun h => (nomatch h), fun h => (nomatch h)⟩

theorem float?_eq_some_iff {value : Binary64} :
    found.float? = some value ↔ found.MeansNumber value := by
  have hprecision : 2 ≤ binary64.precision := by decide
  unfold Stored.float? MeansNumber
  cases found <;> simp [Binary.isNearest_iff hprecision, eq_comm]

theorem decode?_reference_eq_some_iff {guid : Option Guid} :
    Guid.decode? found = some guid ↔ found.MeansReference guid := by
  unfold Guid.decode?
  cases found <;> cases guid <;> simp [MeansReference]

theorem decodeList?_eq_some_iff {guids : List Guid} :
    Guid.decodeList? found = some guids ↔ found.MeansReferences guids := by
  have hitem : ∀ (item : Stored) (guid : Guid),
      item.text?.bind Guid.ofText? = some guid ↔ item.MeansReference (some guid) := by
    intro item guid
    unfold Stored.text?
    cases item <;> simp [MeansReference]
  unfold Guid.decodeList? Stored.list? MeansReferences
  cases found <;> simp [mapM_eq_some_iff_forall₂, hitem]

end Stored

namespace Body

theorem decode?_eq_some_iff {body : Body} {found : Stored} {value : Value} :
    body.decode? found = some value ↔ body.Decodes found value := by
  cases body <;> cases value <;>
    simp [decode?, Decodes, Stored.decodeText?_eq_some_iff, Stored.flag?_eq_some_iff,
      Stored.integer?_eq_some_iff, Stored.decodeInt32?_eq_some_iff, Stored.float?_eq_some_iff,
      Stored.decode?_reference_eq_some_iff, Stored.decodeList?_eq_some_iff,
      Selection.decode?_eq_some_iff]

theorem decode?_eq_none_iff {body : Body} {found : Stored} :
    body.decode? found = none ↔ ∀ value, ¬ body.Decodes found value := by
  simp only [Option.eq_none_iff_forall_ne_some, ne_eq, decode?_eq_some_iff]

/-! ### Setting a body in the type that it is restored in -/

theorem notices_set (body : Body) (id : Identity) (value : Value) :
    (body.set id value).notices = [] := by
  rcases body.set_cases id value with hdecides | hmismatch
  · exact hdecides.notices_eq
  · rw [hmismatch]
    rfl

theorem natural_mem_types (body : Body) : body.natural ∈ body.types := by
  cases body with
  | date d => exact mem_types_date.2 (.inr rfl)
  | _ => exact List.mem_singleton_self _

/-- What is stored may mean a value that is refused, but not one that is refused for its type. -/
theorem Decodes.set_ne_mismatch {body : Body} {found : Stored} {value : Value}
    (h : body.Decodes found value) (id : Identity) (expected held : String) :
    (body.set id value).result ≠ .error (.typeMismatch expected held) := by
  have hmem : value.type ∈ body.types := by
    rw [h.type_eq]
    exact body.natural_mem_types
  exact set_of_mem hmem id expected held

end Body

/-! ### Restoring preferences -/

namespace Preference

/-- An outcome of setting, as it is when the value comes from a store: no watcher is told, and a
success is remarked on. -/
def takenOver (p : Preference) (o : Outcome Preference Unit) : Outcome Preference Unit :=
  ⟨o.state, o.result, o.log ++ if o.isOk then [.restored p.id] else [], []⟩

theorem restoreValue_of_decodes {p : Preference} {found : Stored} {value : Value}
    (h : p.body.Decodes found value) : p.restoreValue found = p.takenOver (p.set value) := by
  have hmismatch := h.set_ne_mismatch p.id
  have hnotices := p.body.notices_set p.id value
  unfold restoreValue set setQuietly
  rw [Body.restore_eq, Body.decode?_eq_some_iff.2 h]
  dsimp only
  generalize p.body.set p.id value = o at *
  obtain ⟨state, result, log, notices⟩ := o
  dsimp only at hmismatch hnotices
  subst hnotices
  cases result with
  | ok _ => rfl
  | error e =>
    -- Setting would log a mismatch of types, which restoring does not; but there is none.
    have hlog : p.mismatchLog e = [] := by
      unfold mismatchLog
      split
      · exact absurd rfl (hmismatch _ _)
      · rfl
    have hsame : log = log ++ p.mismatchLog e ++ [] := by
      rw [hlog, List.append_nil, List.append_nil]
    exact congrArg (Outcome.mk { p with body := state } (.error e) · []) hsame

theorem restoreValue_of_meaningless {p : Preference} {found : Stored}
    (h : ∀ value, ¬ p.body.Decodes found value) :
    p.restoreValue found = .failed p (.unusable p.id.page p.id.name
      s!"expected {p.body.expectation}, found {found.description}") [] := by
  unfold restoreValue
  rw [Body.restore_eq, Body.decode?_eq_none_iff.2 h]
  rfl

/-- A preference that nothing is stored for stays as it is. Of what is stored for it, that which
means a value has the state and the result of setting the preference to that value, and that which
means none is an error that names the preference. So a store changes a preference only to what it
can be set to. -/
theorem restoring_is_decoding_then_setting (p : Preference) (store : Store) :
    (store.get? p.id.page p.id.name = none →
      p.restoreFrom store = ⟨p, .ok (), [.nothingStored p.id], []⟩) ∧
    (∀ found, store.get? p.id.page p.id.name = some found →
      (∀ value, p.body.Decodes found value →
        value.type = p.body.natural ∧ p.restoreFrom store = p.takenOver (p.set value)) ∧
      ((∀ value, ¬ p.body.Decodes found value) →
        p.restoreFrom store = .failed p (.unusable p.id.page p.id.name
          s!"expected {p.body.expectation}, found {found.description}") [])) ∧
    ((p.restoreFrom store).state = p ∨ ∃ value, value.type = p.body.natural ∧
      (p.set value).result = .ok () ∧ (p.restoreFrom store).state = (p.set value).state) := by
  unfold restoreFrom restore
  cases hget : store.get? p.id.page p.id.name with
  | none => exact ⟨fun _ => rfl, fun _ h => (nomatch h), .inl rfl⟩
  | some found =>
    refine ⟨fun h => (nomatch h), ?_, ?_⟩
    · rintro _ ⟨⟩
      exact ⟨fun value hvalue => ⟨hvalue.type_eq, restoreValue_of_decodes hvalue⟩,
        restoreValue_of_meaningless⟩
    · dsimp only
      cases hdecoded : p.body.decode? found with
      | none =>
        rw [restoreValue_of_meaningless (Body.decode?_eq_none_iff.1 hdecoded)]
        exact .inl rfl
      | some value =>
        have hvalue := Body.decode?_eq_some_iff.1 hdecoded
        rw [restoreValue_of_decodes hvalue]
        cases hresult : (p.set value).result with
        | ok _ => exact .inr ⟨value, hvalue.type_eq, hresult, rfl⟩
        | error e => exact .inl (p.set_failsSafe value e hresult).1

/-! ### An integer for a number -/

def sampleWeight : Preference :=
  .ofBody ⟨"General", "Weight", "a", ""⟩ .numberRange
    (.floatRange ⟨.ofInt 0, .ofInt 0, .ofInt 0, .ofInt 10000000000000000, .ofInt 1⟩)

/-- The integer lies halfway between two numbers, and the one with the even significand is taken. A
text is refused. -/
theorem halfway_integer_is_restored :
    (sampleWeight.body.Decodes (.integer 9007199254740993) (.float (.ofInt 9007199254740992)) ∧
      ∀ value, ¬ sampleWeight.body.Decodes (.text "1") value) ∧
    sampleWeight.restoreFrom (Book.empty.insert "General" "Weight" (.integer 9007199254740993)) =
      sampleWeight.takenOver (sampleWeight.set (.float (.ofInt 9007199254740992))) ∧
    sampleWeight.restoreFrom (Book.empty.insert "General" "Weight" (.text "1")) =
      .failed sampleWeight (.unusable "General" "Weight" "expected a number, found a string") [] := by
  have hmeans : sampleWeight.body.Decodes (.integer 9007199254740993)
      (.float (.ofInt 9007199254740992)) :=
    Body.decode?_eq_some_iff.1 (by decide +kernel)
  have hmeaningless : ∀ value, ¬ sampleWeight.body.Decodes (.text "1") value :=
    Body.decode?_eq_none_iff.1 rfl
  obtain ⟨-, hinteger, -⟩ := restoring_is_decoding_then_setting sampleWeight
    (Book.empty.insert "General" "Weight" (.integer 9007199254740993))
  obtain ⟨-, htext, -⟩ := restoring_is_decoding_then_setting sampleWeight
    (Book.empty.insert "General" "Weight" (.text "1"))
  exact ⟨⟨hmeans, hmeaningless⟩, ((hinteger _ rfl).1 _ hmeans).2, (htext _ rfl).2 hmeaningless⟩

end Preference

end Preferences
