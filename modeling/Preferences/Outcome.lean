import Preferences.Error
import Preferences.Identity
import Preferences.Value

/-!
# Events, notices and outcomes

Everything an operation does is in its outcome: the result or the error, the state that is left
(also after an error), the events it logs and the notices it gives to watchers, both oldest first.
An event names what happened; its level, target and fields are worked out from that.
-/

namespace Preferences

/-! ### Events -/

inductive Level where
  | trace
  | debug
  | warn
deriving DecidableEq, Repr

def Level.name : Level → String
  | trace => "TRACE"
  | debug => "DEBUG"
  | warn => "WARN"

/-- What is remarked on. The targets of events are those of `logging::targets`. -/
inductive Event where
  | clockClamped (now : Int64)
  | wrongType (id : Identity) (expected held : String)
  | bindingRefused
  | internalRefused
  | rejected (id : Identity)
  | boundsSwapped (id : Identity) (min max : String)
  /-- The initial value lay outside the range and the minimum took its place. -/
  | initialReplaced (id : Identity) (min : String)
  | outsideRange (id : Identity)
  | notAChoice (id : Identity) (key : String)
  | saving (id : Identity)
  | nothingStored (id : Identity)
  | restored (id : Identity)
  | storeWritten
  | jsonLoaded
  | tomlLoaded
  | registered (id : Identity) (kind : Kind)
  | allSaved (count : Nat)
  | notRestored (id : Identity) (error : Error)
  | allLoaded (failures : Nat)
deriving DecidableEq, Repr

namespace Event

def level : Event → Level
  | clockClamped _ | wrongType .. | bindingRefused | internalRefused | notRestored .. => .warn
  | saving _ | nothingStored _ | restored _ => .trace
  | _ => .debug

/-- The part of the library that an event belongs to. -/
def target : Event → String
  | clockClamped _ | wrongType .. => "options"
  | bindingRefused | internalRefused => "options::ui"
  | rejected _ | boundsSwapped .. | initialReplaced .. | outsideRange _ | notAChoice .. =>
    "options::value"
  | saving _ | nothingStored _ | restored _ | storeWritten | jsonLoaded | tomlLoaded =>
    "options::store"
  | registered .. | allSaved _ | notRestored .. | allLoaded _ => "options::db"

def message : Event → String
  | clockClamped _ => "current time is outside the calendar range, clamped"
  | wrongType .. => "option set with the wrong value type"
  | bindingRefused => "refusing to bind UI item to INTERNAL option"
  | internalRefused => "refusing to make a bound option INTERNAL"
  | rejected _ => "validator rejected value"
  | boundsSwapped .. => "range bounds inverted, swapped"
  | initialReplaced .. => "initial range value out of bounds, clamped to minimum"
  | outsideRange _ => "range value rejected"
  | notAChoice .. => "not a valid choice"
  | saving _ => "saving option"
  | nothingStored _ => "nothing stored"
  | restored _ => "option restored"
  | storeWritten => "option store written"
  | jsonLoaded => "loaded JSON option store"
  | tomlLoaded => "loaded TOML option store"
  | registered .. => "option registered"
  | allSaved _ => "options saved"
  | notRestored .. => "option not restored"
  | allLoaded _ => "options loaded"

/-- The identity of the preference that an event is about. -/
def subject? : Event → Option Identity
  | wrongType id .. | rejected id | boundsSwapped id .. | initialReplaced id _ | outsideRange id
  | notAChoice id _ | saving id | nothingStored id | restored id | registered id _
  | notRestored id _ => some id
  | _ => none

/-- What an event says besides its subject and its message. -/
def details : Event → List (String × String)
  | clockClamped now => [("now", toString now.toInt)]
  | wrongType _ expected held => [("expected", expected), ("held", held)]
  | boundsSwapped _ min max => [("min", min), ("max", max)]
  | initialReplaced _ min => [("min", min)]
  | notAChoice _ key => [("key", key)]
  | registered _ kind => [("kind", kind.name)]
  | allSaved count => [("count", toString count)]
  | notRestored _ error => [("error", error.message)]
  | allLoaded failures => [("failures", toString failures)]
  | _ => []

def fields (event : Event) : List (String × String) :=
  match event.subject? with
  | some id =>
    [("section", id.page), ("name", id.name)] ++ event.details ++ [("message", event.message)]
  | none => event.details ++ [("message", event.message)]

end Event

/-! ### Notices -/

/-- A watcher is told that the preference with an identity was set or reset. -/
structure Notice where
  watcher : String
  id : Identity
deriving DecidableEq, Repr

/-! ### Outcomes -/

/-- Why no value is read. Reading fails with an error, or it aborts. -/
inductive Fault where
  | failed (error : Error)
  | aborted
deriving DecidableEq, Repr

structure Outcome (σ α : Type) (ε : Type := Error) where
  state : σ
  result : Except ε α
  log : List Event
  notices : List Notice

namespace Outcome

variable {σ τ α β ε : Type}

/-- Success, with nothing to tell. -/
def done (state : σ) (value : α) : Outcome σ α ε := ⟨state, .ok value, [], []⟩

/-- Failure, which leaves the state as it was. -/
def failed (state : σ) (error : ε) (log : List Event) : Outcome σ α ε :=
  ⟨state, .error error, log, []⟩

/-- The outcome for a whole of which the state is one part. -/
def within (f : σ → τ) (o : Outcome σ α ε) : Outcome τ α ε :=
  ⟨f o.state, o.result, o.log, o.notices⟩

/-- The outcome with its result replaced by an image of it. -/
def map (f : α → β) (o : Outcome σ α ε) : Outcome σ β ε :=
  ⟨o.state, o.result.map f, o.log, o.notices⟩

def isOk (o : Outcome σ α ε) : Bool :=
  match o.result with
  | .ok _ => true
  | .error _ => false

@[simp] theorem state_done (state : σ) (value : α) :
    (done state value : Outcome σ α ε).state = state := rfl

@[simp] theorem state_failed (state : σ) (error : ε) (log : List Event) :
    (failed state error log : Outcome σ α ε).state = state := rfl

@[simp] theorem state_within (f : σ → τ) (o : Outcome σ α ε) :
    (o.within f).state = f o.state := rfl

@[simp] theorem result_within (f : σ → τ) (o : Outcome σ α ε) :
    (o.within f).result = o.result := rfl

end Outcome

end Preferences
