import Preferences.Outcome

/-!
# Ranges

A range takes the numbers between two bounds. Bounds given in the wrong order are swapped, and an
initial value outside the bounds is replaced by the lower one. The step is for the interface only.
A range is a `RangeValue`, of which `build`, `accepts` and `set` are `new`, `validate` and
`set_value`.
-/

namespace Preferences

structure Range (α : Type) where
  value : α
  default : α
  min : α
  max : α
  step : α
deriving DecidableEq

namespace Range

variable {α : Type} [LE α] [LT α] [DecidableLE α] [DecidableLT α] [Shown α]

/-- The bounds in ascending order, and whether that was not the order given. -/
def order (min max : α) : α × α × Bool :=
  if max < min then (max, min, true) else (min, max, false)

def build (id : Identity) (value min max step : α) : Range α × List Event :=
  let (low, high, swapped) := order min max
  let inside := decide (low ≤ value ∧ value ≤ high)
  let initial := if inside then value else low
  (⟨initial, initial, low, high, step⟩,
    (if swapped then [.boundsSwapped id (Shown.text min) (Shown.text max)] else []) ++
    (if inside then [] else [.initialReplaced id (Shown.text low)]))

def accepts (r : Range α) (value : α) : Bool := decide (r.min ≤ value ∧ value ≤ r.max)

def refusal (r : Range α) (value : α) : Error :=
  .outOfRange (Shown.text value) (Shown.text r.min) (Shown.text r.max)

def set (id : Identity) (r : Range α) (value : α) : Outcome (Range α) Unit :=
  if r.accepts value then .done { r with value := value } ()
  else .failed r (r.refusal value) [.outsideRange id]

def reset (r : Range α) : Range α := { r with value := r.default }

def isChanged [BEq α] (r : Range α) : Bool := r.value != r.default

end Range

end Preferences
