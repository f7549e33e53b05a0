import Preferences.Preference

/-!
# Decisions about values

A kind takes a value in silence, or refuses it with an error and one event, and then nothing has
changed. `Refusal` says which event goes with which error. A body decides as its kind does, or fails
because the value is of the wrong type, which is not for the body to log.
-/

namespace Preferences

/-- The error of a kind that refuses a value, and the event that is logged for it. -/
inductive Refusal (id : Identity) : Error → Event → Prop
  | rejected (message : String) : Refusal id (.validation message) (.rejected id)
  | outside (value min max : String) : Refusal id (.outOfRange value min max) (.outsideRange id)
  | notAChoice (key : String) : Refusal id (.invalidChoice key) (.notAChoice id key)

namespace Outcome

variable {σ τ : Type} {id : Identity} {before : σ} {o : Outcome σ Unit}

/-- What comes of a decision about a value: a state in which it is taken, or the state before. -/
inductive Decides (id : Identity) (before : σ) : Outcome σ Unit → Prop
  | taken (after : σ) : Decides id before (.done after ())
  | refused {e : Error} {event : Event} (h : Refusal id e event) :
      Decides id before (.failed before e [event])

theorem Decides.within (h : o.Decides id before) (f : σ → τ) :
    (o.within f).Decides id (f before) := by
  cases h with
  | taken after => exact .taken (f after)
  | refused hrefusal => exact .refused hrefusal

theorem Decides.notices_eq (h : o.Decides id before) : o.notices = [] := by
  cases h <;> rfl

theorem Decides.ne_mismatch (h : o.Decides id before) (expected held : String) :
    o.result ≠ .error (.typeMismatch expected held) := by
  cases h with
  | taken after => exact nofun
  | refused hrefusal => cases hrefusal <;> exact nofun

end Outcome

/-! ### Kinds -/

theorem Checked.set_decides {α : Type} (id : Identity) (c : Checked α) (value : α) :
    (c.set id value).Decides id c := by
  simp only [Checked.set]
  split
  · exact .taken _
  · exact .refused (.rejected _)

theorem Choice.set_decides (id : Identity) (c : Choice) (key : String) :
    (c.set id key).Decides id c := by
  simp only [Choice.set]
  split
  · exact .taken _
  · exact .refused (.notAChoice key)

theorem Range.set_decides {α : Type} [LE α] [DecidableLE α] [Shown α] (id : Identity)
    (r : Range α) (value : α) : (r.set id value).Decides id r := by
  simp only [Range.set]
  split
  · exact .taken _
  · exact .refused (.outside _ _ _)

/-! ### Bodies -/

theorem Body.set_cases (id : Identity) (body : Body) (value : Value) :
    (body.set id value).Decides id body ∨
      body.set id value = .failed body (mismatch value.type body) [] := by
  cases body with
  | choice c =>
    cases value with
    | text key => exact .inl ((c.set_decides id key).within choice)
    | _ => exact .inr rfl
  | intRange r =>
    cases value with
    | int32 n => exact .inl ((r.set_decides id n).within intRange)
    | _ => exact .inr rfl
  | floatRange r =>
    cases value with
    | float x => exact .inl ((r.set_decides id x).within floatRange)
    | _ => exact .inr rfl
  | checkedReference c =>
    cases value with
    | reference guid => exact .inl ((c.set_decides id guid).within checkedReference)
    | _ => exact .inr rfl
  | date d =>
    cases value with
    | int64 time => exact .inl (.taken _)
    | selection selection => exact .inl (.taken _)
    | _ => exact .inr rfl
  | text p | flag p | integer p | reference p | references p =>
    cases value <;> first | exact .inl (.taken _) | exact .inr rfl

end Preferences
