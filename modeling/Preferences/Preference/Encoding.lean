import Preferences.Preference.Body
import Preferences.Stored

/-!
# The stored form of a preference

A text or a choice is stored as text, a flag as a flag, a number as a number, a reference as the
text of its identifier or as nothing, references as a list of texts, and a date as a list of its
mode and its time or the name of its period. Decoding reads a stored value in the type that a body
is set in. It takes nothing for the empty text, and an integer for the nearest floating-point
number. Restoring decodes first, and leaves a body as it was when that fails.
-/

namespace Preferences

open Calendar

/-! ### Selections -/

namespace Calendar.Selection

/-- Mode and time, or mode and period (`encode_date`). -/
def encode (selection : Selection) : Stored :=
  let detail := match selection with
    | .absolute time => Stored.integer time
    | .starting period | .ending period => .text period.name
  .list [.text selection.mode.name, detail]

/-- The selection that a pair spells (`decode_date`). -/
def decode? : Stored → Option Selection
  | .list [.text mode, detail] => do
    match (← Named.ofName? mode), detail with
    | Mode.absolute, .integer time => some (.absolute time)
    | .starting, .text period => (Named.ofName? period).map .starting
    | .ending, .text period => (Named.ofName? period).map .ending
    | _, _ => none
  | _ => none

end Calendar.Selection

/-! ### References -/

namespace Guid

/-- A reference that may be to nothing (`encode_instance`). -/
def encode? : Option Guid → Stored
  | some guid => .text guid.text
  | none => .null

/-- The reference that a text or nothing spells (`decode_instance`). -/
def decode? : Stored → Option (Option Guid)
  | .null => some none
  | .text text => (ofText? text).map some
  | _ => none

def encodeList (guids : List Guid) : Stored := .list (guids.map fun guid => .text guid.text)

def decodeList? (value : Stored) : Option (List Guid) := do
  (← value.list?).mapM fun item => item.text?.bind ofText?

end Guid

/-! ### Bodies -/

namespace Body

/-- What is stored of a body (`encode`): its value, and of a date what was selected. -/
def encode : Body → Stored
  | text p => .text p.value
  | flag p => .flag p.value
  | integer p => .integer p.value
  | reference p => Guid.encode? p.value
  | references p => Guid.encodeList p.value
  | choice c => .text c.value
  | intRange r => .integer r.value.toInt64
  | floatRange r => .float r.value
  | checkedReference c => Guid.encode? c.value
  | date d => d.selection.encode

/-- Text, or nothing for the empty text. -/
def decodeText? : Stored → Option String
  | .text value => some value
  | .null => some ""
  | _ => none

/-- An integer of at most 32 bits. -/
def decodeInt32? (value : Stored) : Option Int32 := do
  let n ← value.integer?
  if Int32.minValue.toInt ≤ n.toInt ∧ n.toInt ≤ Int32.maxValue.toInt then some n.toInt32 else none

def decode? : Body → Stored → Option Value
  | text _, value | choice _, value => (decodeText? value).map .text
  | flag _, value => value.flag?.map .flag
  | integer _, value => value.integer?.map .int64
  | reference _, value | checkedReference _, value => (Guid.decode? value).map .reference
  | references _, value => (Guid.decodeList? value).map .references
  | intRange _, value => (decodeInt32? value).map .int32
  | floatRange _, value => value.float?.map .float
  | date _, value => (Selection.decode? value).map .selection

def expectation : Body → String
  | text _ | choice _ => "a string"
  | flag _ => "a boolean"
  | integer _ => "an integer"
  | reference _ | checkedReference _ => "a GUID or null"
  | references _ => "an array of GUIDs"
  | intRange _ => "a 32-bit integer"
  | floatRange _ => "a number"
  | date _ => "a date selection"

def unusable (id : Identity) (body : Body) (found : Stored) : Error :=
  .unusable id.page id.name s!"expected {body.expectation}, found {found.description}"

/-- Sets what a stored value was decoded to, if it was. -/
def settle {α : Type} (body : Body) (id : Identity) (found : Stored) (decoded : Option α)
    (set : α → Outcome Body Unit) : Outcome Body Unit :=
  match decoded with
  | some value => set value
  | none => .failed body (unusable id body found) []

/-- Decodes a stored value in the type of the body, and sets it (`restore`). -/
def restore (body : Body) (id : Identity) (found : Stored) : Outcome Body Unit :=
  match body with
  | text p => body.settle id found (decodeText? found) fun value => .done (text (p.set value)) ()
  | choice c => body.settle id found (decodeText? found) fun key => (c.set id key).within choice
  | flag p => body.settle id found found.flag? fun value => .done (flag (p.set value)) ()
  | integer p => body.settle id found found.integer? fun value => .done (integer (p.set value)) ()
  | intRange r =>
    body.settle id found (decodeInt32? found) fun value => (r.set id value).within intRange
  | floatRange r =>
    body.settle id found found.float? fun value => (r.set id value).within floatRange
  | reference p =>
    body.settle id found (Guid.decode? found) fun value => .done (reference (p.set value)) ()
  | checkedReference c =>
    body.settle id found (Guid.decode? found) fun value => (c.set id value).within checkedReference
  | references p =>
    body.settle id found (Guid.decodeList? found) fun value => .done (references (p.set value)) ()
  | date d =>
    body.settle id found (Selection.decode? found) fun chosen => .done (date (d.select chosen)) ()

theorem settle_eq {α : Type} (body : Body) (id : Identity) (found : Stored) (decoded : Option α)
    (value : α → Value) {set : α → Outcome Body Unit}
    (hset : ∀ a, set a = body.set id (value a)) :
    body.settle id found decoded set = match decoded.map value with
      | some value => body.set id value
      | none => .failed body (unusable id body found) [] := by
  cases decoded with
  | none => rfl
  | some a => exact hset a

/-- Restoring is to decode and then to set. -/
theorem restore_eq (body : Body) (id : Identity) (found : Stored) :
    body.restore id found = match body.decode? found with
      | some value => body.set id value
      | none => .failed body (unusable id body found) [] := by
  cases body with
  | text _ => exact settle_eq _ id found _ .text fun _ => rfl
  | choice _ => exact settle_eq _ id found _ .text fun _ => rfl
  | flag _ => exact settle_eq _ id found _ .flag fun _ => rfl
  | integer _ => exact settle_eq _ id found _ .int64 fun _ => rfl
  | intRange _ => exact settle_eq _ id found _ .int32 fun _ => rfl
  | floatRange _ => exact settle_eq _ id found _ .float fun _ => rfl
  | reference _ => exact settle_eq _ id found _ .reference fun _ => rfl
  | checkedReference _ => exact settle_eq _ id found _ .reference fun _ => rfl
  | references _ => exact settle_eq _ id found _ .references fun _ => rfl
  | date _ => exact settle_eq _ id found _ .selection fun _ => rfl

end Body

end Preferences
