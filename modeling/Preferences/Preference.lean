import Preferences.Binding
import Preferences.Preference.Encoding

/-!
# Preferences

A preference has an identity, a binding to interface controls, a body, and perhaps a watcher. The
watcher is told of every successful typed set and of every reset, and of nothing else. Restoring
takes over a stored value and tells no watcher. A set in the wrong type is remarked on.

Binding leaves the body alone, and so does watching. `bind`, `clearBinding` and `makeInternal` are
`set_ui_item`, `clear_ui_item` and `make_internal` of `OptionHandle`; `watch` and `unwatch` are
`set_changed_callback` and `clear_changed_callback`.
-/

namespace Preferences

/-- A body with what goes with it (`OptionHandle`). -/
structure Preference where
  id : Identity
  binding : Binding
  body : Body
  watcher : Option String

namespace Preference

/-- A preference that is neither bound nor watched (`OptionHandle::new`). -/
def ofBody (id : Identity) (control : Control) (body : Body) : Preference :=
  ⟨id, .unbound control, body, none⟩

/-- What the watcher is told (`OptionHandle::notify_changed`). -/
def notices (p : Preference) : List Notice := p.watcher.toList.map fun watcher => ⟨watcher, p.id⟩

/-! ### Values -/

/-- Sets the body itself (`OptionHandle::variant_mut`), which tells no watcher. -/
def setQuietly (p : Preference) (value : Value) : Outcome Preference Unit :=
  (p.body.set p.id value).within fun body => { p with body := body }

/-- The remark on a set that failed: only that the type was wrong is remarked on here. -/
def mismatchLog (p : Preference) : Error → List Event
  | .typeMismatch expected held => [.wrongType p.id expected held]
  | _ => []

/-- Sets the value and tells the watcher (`OptionHandle::set_value`). -/
def set (p : Preference) (value : Value) : Outcome Preference Unit :=
  let o := p.setQuietly value
  match o.result with
  | .ok _ => { o with notices := o.notices ++ p.notices }
  | .error e => { o with log := o.log ++ p.mismatchLog e }

/-- Goes back to the default and tells the watcher (`OptionHandle::reset_default_value`). -/
def reset (p : Preference) (tick : Int64) : Outcome Preference Unit :=
  ⟨{ p with body := p.body.reset tick }, .ok (), [], p.notices⟩

/-- The value, and what is logged for it (`OptionHandle::value`). -/
def get (p : Preference) (tick : Int64) (type : ValueType) : Outcome Preference Value Fault :=
  ⟨p, p.body.get tick type, p.body.getLog tick type, []⟩

/-- The default (`OptionHandle::default_value`). -/
def getDefault (p : Preference) (tick : Int64) (type : ValueType) :
    Outcome Preference Value Fault :=
  ⟨p, p.body.getDefault tick type, [], []⟩

/-- Events of showing a preference, for which its value is read in its own type. -/
def viewLog (p : Preference) (tick : Int64) : List Event := p.body.getLog tick p.body.held

/-- Selects a date (`OptionHandle::as_date_mut`); other bodies are left alone, and the answer says
which it was. -/
def select (p : Preference) (selection : Calendar.Selection) : Preference × Bool :=
  match p.body with
  | .date d => ({ p with body := .date (d.select selection) }, true)
  | _ => (p, false)

/-! ### Binding and watching -/

def bind (p : Preference) (item : Nat) : Outcome Preference Unit :=
  (p.binding.bind item).within fun binding => { p with binding := binding }

def clearBinding (p : Preference) : Preference := { p with binding := p.binding.clear }

def makeInternal (p : Preference) : Outcome Preference Unit :=
  p.binding.makeInternal.within fun binding => { p with binding := binding }

def watch (p : Preference) (watcher : String) : Preference := { p with watcher := some watcher }

def unwatch (p : Preference) : Preference := { p with watcher := none }

/-! ### Restoring -/

def restoreValue (p : Preference) (found : Stored) : Outcome Preference Unit :=
  let o := (p.body.restore p.id found).within fun body => { p with body := body }
  if o.isOk then { o with log := o.log ++ [.restored p.id] } else o

/-- Takes over what is stored, if anything is (`OptionHandle::read_from_book`). -/
def restore (p : Preference) (found : Option Stored) : Outcome Preference Unit :=
  match found with
  | some value => p.restoreValue value
  | none => ⟨p, .ok (), [.nothingStored p.id], []⟩

end Preference

end Preferences
