import Preferences.Outcome

/-!
# Validated values

A validated value takes only values that its validator accepts, the initial one included. It may
carry a value of its type for the validator's own use. It is a `ValidatedValue`, of which `build`,
`accepts` and `set` are `new`, `validate` and `set_value`.
-/

namespace Preferences

structure Checked (α : Type) where
  value : α
  default : α
  accepts : α → Bool
  data : Option α

namespace Checked

variable {α : Type}

def build (id : Identity) (accepts : α → Bool) (data : Option α) (value : α) :
    Except Error (Checked α) :=
  if accepts value then .ok ⟨value, value, accepts, data⟩
  else .error (.invalidInitial id.page id.name)

def refusal (id : Identity) : Error :=
  .validation s!"'{id.page}/{id.name}' rejected the value"

def set (id : Identity) (c : Checked α) (value : α) : Outcome (Checked α) Unit :=
  if c.accepts value then .done { c with value := value } ()
  else .failed c (refusal id) [.rejected id]

def reset (c : Checked α) : Checked α := { c with value := c.default }

def isChanged [BEq α] (c : Checked α) : Bool := c.value != c.default

end Checked

end Preferences
