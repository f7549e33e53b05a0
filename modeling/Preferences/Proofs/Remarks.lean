import Preferences.Proofs.Decisions
import Preferences.Proofs.Restoration

/-!
# Remarks

What is logged of an attempt on a preference follows from how the attempt ends. A refusal is
remarked on once, by whoever refuses: the kind for a value, the preference for a type, the binding
for a control. Restoring remarks on its successes, and it alone fails in silence, when what is
stored cannot be used.
-/

namespace Preferences

/-! ### Attempts -/

/-- What is done to a preference and may be refused. -/
inductive Attempt where
  | set (value : Value)
  | restore (store : Store)
  | bind (item : Nat)
  | makeInternal

def Preference.attempt (p : Preference) : Attempt → Outcome Preference Unit
  | .set value => p.set value
  | .restore store => p.restoreFrom store
  | .bind item => p.bind item
  | .makeInternal => p.makeInternal

/-! ### Remarks -/

/-- What is to be seen of an event in a log; the event may have other fields too. -/
structure Remark where
  level : Level
  target : String
  fields : List (String × String)

structure Event.Bears (event : Event) (remark : Remark) : Prop where
  level : event.level = remark.level
  target : event.target = remark.target
  fields : ∀ field ∈ remark.fields, event.fields.lookup field.1 = some field.2

def Identity.fields (id : Identity) : List (String × String) :=
  [("section", id.page), ("name", id.name)]

/-- The remarks on an attempt that ends in this way; `none` if no attempt of its sort does. -/
def Attempt.remarks? (id : Identity) : Attempt → Except Error Unit → Option (List Remark)
  | .restore _, .ok () => some [⟨.trace, "options::store", id.fields⟩]
  | .set _, .ok () | .bind _, .ok () | .makeInternal, .ok () => some []
  | .set _, .error (.typeMismatch expected held) =>
    some [⟨.warn, "options", id.fields ++ [("expected", expected), ("held", held)]⟩]
  | .set _, .error (.validation _) | .restore _, .error (.validation _)
  | .set _, .error (.outOfRange ..) | .restore _, .error (.outOfRange ..)
  | .set _, .error (.invalidChoice _) | .restore _, .error (.invalidChoice _) =>
    some [⟨.debug, "options::value", id.fields⟩]
  | .bind _, .error .boundInternal | .makeInternal, .error .internalBound =>
    some [⟨.warn, "options::ui", []⟩]
  | .restore _, .error (.unusable ..) => some []
  | _, .error _ => none

/-- An attempt ended in a way that such attempts do, and its events bear the remarks on that, one
each and in order. -/
def Outcome.IsRemarkedOn {σ : Type} (o : Outcome σ Unit) (id : Identity) (attempt : Attempt) :
    Prop :=
  ∃ remarks, attempt.remarks? id o.result = some remarks ∧ List.Forall₂ Event.Bears o.log remarks

/-! ### Events -/

namespace Event

variable {event : Event}

theorem bears_of_subject {id : Identity} (h : event.subject? = some id) :
    event.Bears ⟨event.level, event.target, id.fields⟩ := by
  refine ⟨rfl, rfl, ?_⟩
  simp [Identity.fields, fields, h, List.lookup]

theorem bears_wrongType (id : Identity) (expected held : String) :
    (wrongType id expected held).Bears
      ⟨.warn, "options", id.fields ++ [("expected", expected), ("held", held)]⟩ := by
  refine ⟨rfl, rfl, ?_⟩
  simp [Identity.fields, fields, subject?, details, List.lookup]

end Event

namespace Refusal

variable {id : Identity} {e : Error} {event : Event}

theorem bears (h : Refusal id e event) : event.Bears ⟨.debug, "options::value", id.fields⟩ := by
  cases h <;> exact Event.bears_of_subject rfl

theorem remarks?_set (h : Refusal id e event) (value : Value) :
    (Attempt.set value).remarks? id (.error e) = some [⟨.debug, "options::value", id.fields⟩] := by
  cases h <;> rfl

theorem remarks?_restore (h : Refusal id e event) (store : Store) :
    (Attempt.restore store).remarks? id (.error e) =
      some [⟨.debug, "options::value", id.fields⟩] := by
  cases h <;> rfl

end Refusal

/-! ### Preferences -/

namespace Preference

theorem set_of_done {p : Preference} {value : Value} {body : Body}
    (h : p.body.set p.id value = .done body ()) :
    (p.set value).result = .ok () ∧ (p.set value).log = [] := by
  simp only [set, setQuietly, h]
  exact ⟨rfl, rfl⟩

theorem set_of_failed {p : Preference} {value : Value} {body : Body} {e : Error}
    {log : List Event} (h : p.body.set p.id value = .failed body e log) :
    (p.set value).result = .error e ∧ (p.set value).log = log ++ p.mismatchLog e := by
  simp only [set, setQuietly, h]
  exact ⟨rfl, rfl⟩

theorem set_cases (p : Preference) (value : Value) :
    ((p.set value).result = .ok () ∧ (p.set value).log = []) ∨
    (∃ e event, Refusal p.id e event ∧
      (p.set value).result = .error e ∧ (p.set value).log = [event]) ∨
    ∃ expected held, (p.set value).result = .error (.typeMismatch expected held) ∧
      (p.set value).log = [.wrongType p.id expected held] := by
  -- The body logs what it refuses, and leaves it to the preference to log that the type was wrong.
  rcases p.body.set_cases p.id value with hdecides | hmismatch
  · generalize ho : p.body.set p.id value = o at hdecides
    cases hdecides with
    | taken after => exact .inl (set_of_done ho)
    | @refused e event hrefusal =>
      have hquiet : p.mismatchLog e = [] := by cases hrefusal <;> rfl
      have hset := set_of_failed ho
      rw [hquiet] at hset
      exact .inr (.inl ⟨e, event, hrefusal, hset⟩)
  · exact .inr (.inr ⟨_, _, set_of_failed hmismatch⟩)

theorem set_isRemarkedOn (p : Preference) (value : Value) :
    (p.set value).IsRemarkedOn p.id (.set value) := by
  simp only [Outcome.IsRemarkedOn]
  rcases p.set_cases value with ⟨hresult, hlog⟩ | ⟨e, event, hrefusal, hresult, hlog⟩ |
    ⟨expected, held, hresult, hlog⟩
  · rw [hresult, hlog]
    exact ⟨[], rfl, .nil⟩
  · rw [hresult, hlog]
    exact ⟨_, hrefusal.remarks?_set value, .cons hrefusal.bears .nil⟩
  · rw [hresult, hlog]
    exact ⟨_, rfl, .cons (Event.bears_wrongType p.id expected held) .nil⟩

theorem takenOver_of_ok {p : Preference} {o : Outcome Preference Unit} (h : o.result = .ok ()) :
    (p.takenOver o).result = .ok () ∧ (p.takenOver o).log = o.log ++ [.restored p.id] := by
  simp [takenOver, Outcome.isOk, h]

theorem takenOver_of_error {p : Preference} {o : Outcome Preference Unit} {e : Error}
    (h : o.result = .error e) :
    (p.takenOver o).result = .error e ∧ (p.takenOver o).log = o.log := by
  simp [takenOver, Outcome.isOk, h]

theorem takenOver_isRemarkedOn {p : Preference} {found : Stored} {value : Value}
    (h : p.body.Decodes found value) (store : Store) :
    (p.takenOver (p.set value)).IsRemarkedOn p.id (.restore store) := by
  simp only [Outcome.IsRemarkedOn]
  rcases p.set_cases value with ⟨hset, hsetLog⟩ | ⟨e, event, hrefusal, hset, hsetLog⟩ |
    ⟨expected, held, hset, hsetLog⟩
  · obtain ⟨hresult, hlog⟩ := takenOver_of_ok hset
    rw [hresult, hlog, hsetLog]
    exact ⟨_, rfl, .cons (Event.bears_of_subject rfl) .nil⟩
  · obtain ⟨hresult, hlog⟩ := takenOver_of_error hset
    rw [hresult, hlog, hsetLog]
    exact ⟨_, hrefusal.remarks?_restore store, .cons hrefusal.bears .nil⟩
  · -- What is stored is decoded in the type of the body, so the type is never wrong.
    rw [result_set] at hset
    exact absurd hset (h.set_ne_mismatch p.id expected held)

theorem restoreFrom_isRemarkedOn (p : Preference) (store : Store) :
    (p.restoreFrom store).IsRemarkedOn p.id (.restore store) := by
  simp only [restoreFrom, restore]
  cases store.get? p.id.page p.id.name with
  | none => exact ⟨_, rfl, .cons (Event.bears_of_subject rfl) .nil⟩
  | some found =>
    cases hdecoded : p.body.decode? found with
    | none =>
      have hmeaningless := restoreValue_of_meaningless (Body.decode?_eq_none_iff.1 hdecoded)
      simp only [hmeaningless]
      exact ⟨[], rfl, .nil⟩
    | some value =>
      have hvalue := Body.decode?_eq_some_iff.1 hdecoded
      simp only [restoreValue_of_decodes hvalue]
      exact takenOver_isRemarkedOn hvalue store

theorem bind_isRemarkedOn (p : Preference) (item : Nat) :
    (p.bind item).IsRemarkedOn p.id (.bind item) := by
  simp only [Outcome.IsRemarkedOn, bind, Binding.bind]
  split
  · exact ⟨_, rfl, .cons ⟨rfl, rfl, nofun⟩ .nil⟩
  · exact ⟨[], rfl, .nil⟩

theorem makeInternal_isRemarkedOn (p : Preference) :
    p.makeInternal.IsRemarkedOn p.id .makeInternal := by
  simp only [Outcome.IsRemarkedOn, makeInternal, Binding.makeInternal]
  split
  · exact ⟨_, rfl, .cons ⟨rfl, rfl, nofun⟩ .nil⟩
  · exact ⟨[], rfl, .nil⟩

end Preference

/-- How an attempt on a preference ends settles what is logged of it, whatever the preference holds
and whatever is tried: it ends in one of the ways of `Attempt.remarks?`, and the events are those
that this calls for, and no others. -/
theorem results_settle_what_is_logged (p : Preference) (attempt : Attempt) :
    ∃ remarks, attempt.remarks? p.id (p.attempt attempt).result = some remarks ∧
      List.Forall₂ Event.Bears (p.attempt attempt).log remarks := by
  cases attempt with
  | set value => exact p.set_isRemarkedOn value
  | restore store => exact p.restoreFrom_isRemarkedOn store
  | bind item => exact p.bind_isRemarkedOn item
  | makeInternal => exact p.makeInternal_isRemarkedOn

/-- The range remarks on a stored number past its maximum, and the restoration does not again. -/
example :
    let size : Preference :=
      .ofBody ⟨"Reports", "Size", "d", ""⟩ .numberRange (.intRange ⟨5, 5, 0, 10, 1⟩)
    (size.restoreFrom (Book.empty.insert "Reports" "Size" (.integer 11))).log =
      [.outsideRange size.id] := rfl

end Preferences
