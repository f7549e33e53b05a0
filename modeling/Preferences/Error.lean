/-!
# Errors

An error names its cause; `Error.message` words it. Three groups of causes are told apart: breaches
of the rules for interface controls, refused values, and preferences that cannot be built. They are
`is_policy_violation`, `is_validation_failure` and `is_construction_failure` of `Error`.
-/

namespace Preferences

inductive DocumentFault where
  | malformed
  | pageIsNoTable (page : String)
  | nestedTable
  | described (message : String)
deriving DecidableEq, Repr

namespace DocumentFault

/-- The wording, where this library has one of its own. -/
def message? : DocumentFault → Option String
  | malformed => none
  | pageIsNoTable page => some s!"section '{page}' is not a table"
  | nestedTable => some "nested tables are not option values"
  | described message => some message

end DocumentFault

inductive Error where
  /-- A control was to be bound to a preference without an interface. -/
  | boundInternal
  /-- A preference with a control was to lose its interface. -/
  | internalBound
  | validation (message : String)
  | outOfRange (value min max : String)
  | invalidChoice (key : String)
  | invalidPeriod (ordinal : Int)
  /-- The initial value of a validated preference is one it refuses. -/
  | invalidInitial (page name : String)
  | noChoices (page name : String)
  /-- A value was asked for in another type than the one held; both types are named. -/
  | typeMismatch (expected held : String)
  | duplicate (page name : String)
  | notFound (page name : String)
  /-- The value stored for a preference cannot be used, or not be stored. -/
  | unusable (page name message : String)
  | inaccessible (path reason : String)
  | unreadable (path : String) (fault : DocumentFault)
  | configuration (field message : String)
deriving DecidableEq, Repr

namespace Error

def message : Error → String
  | boundInternal => "INTERNAL option, setting the UI item forbidden"
  | internalBound => "Option has a UI element, can't be INTERNAL"
  | validation message => s!"Validation failed, value not set: {message}"
  | outOfRange value min max => s!"Value {value} is outside the range [{min}, {max}]"
  | invalidChoice key => s!"'{key}' is not a valid choice"
  | invalidPeriod ordinal => s!"{ordinal} does not name a relative date period"
  | invalidInitial page name =>
    s!"Attempt to create validated option '{page}/{name}' with bad value"
  | noChoices page name => s!"Multiple-choice option '{page}/{name}' needs at least one choice"
  | typeMismatch expected held =>
    s!"Option type mismatch: expected {expected}, option holds {held}"
  | duplicate page name => s!"Option '{page}/{name}' is already registered"
  | notFound page name => s!"Option '{page}/{name}' not found"
  | unusable page name message => s!"Stored value for '{page}/{name}' is unusable: {message}"
  | inaccessible path reason => s!"Failed to access option store '{path}': {reason}"
  | unreadable path fault =>
    s!"Failed to parse '{path}': " ++ fault.message?.getD "malformed document"
  | configuration field message => s!"Invalid configuration for '{field}': {message}"

def isPolicy : Error → Bool
  | boundInternal | internalBound => true
  | _ => false

def isValidation : Error → Bool
  | validation _ | outOfRange .. | invalidChoice _ | invalidPeriod _ => true
  | _ => false

def isConstruction : Error → Bool
  | invalidInitial .. | noChoices .. => true
  | _ => false

end Error

end Preferences
