/-!
# Plain values

A plain value takes every value of its type (`OptionValue`).
-/

namespace Preferences

structure Plain (α : Type) where
  value : α
  default : α
deriving DecidableEq

namespace Plain

variable {α : Type}

def of (value : α) : Plain α := ⟨value, value⟩

def set (p : Plain α) (value : α) : Plain α := { p with value := value }

def reset (p : Plain α) : Plain α := { p with value := p.default }

/-- Whether the value differs from the default in the equality of its type. -/
def isChanged [BEq α] (p : Plain α) : Bool := p.value != p.default

end Plain

end Preferences
