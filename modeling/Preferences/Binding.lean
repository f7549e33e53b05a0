import Preferences.Outcome

/-!
# Bindings to interface controls

A binding says which sort of control shows a preference and which control currently does, if any.
The sort `internal` means that no control may. Controls are told apart by number.
-/

namespace Preferences

/-! ### Sorts of control -/

/-- Sorts of control (`UiType`). -/
inductive Control where
  | internal
  | boolean
  | string
  | text
  | currency
  | commodity
  | multichoice
  | date
  | accountList
  | accountSelector
  | list
  | numberRange
  | color
  | font
  | budget
  | pixmap
  | radioButton
  | dateFormat
  | owner
  | customer
  | vendor
  | employee
  | invoice
  | taxTable
  | query
deriving DecidableEq, Repr

namespace Control

def name : Control → String
  | internal => "Internal"
  | boolean => "Boolean"
  | string => "String"
  | text => "Text"
  | currency => "Currency"
  | commodity => "Commodity"
  | multichoice => "Multichoice"
  | date => "Date"
  | accountList => "AccountList"
  | accountSelector => "AccountSelector"
  | list => "List"
  | numberRange => "NumberRange"
  | color => "Color"
  | font => "Font"
  | budget => "Budget"
  | pixmap => "Pixmap"
  | radioButton => "RadioButton"
  | dateFormat => "DateFormat"
  | owner => "Owner"
  | customer => "Customer"
  | vendor => "Vendor"
  | employee => "Employee"
  | invoice => "Invoice"
  | taxTable => "TaxTable"
  | query => "Query"

instance : Named Control where
  all := [internal, boolean, string, text, currency, commodity, multichoice, date, accountList,
    accountSelector, list, numberRange, color, font, budget, pixmap, radioButton, dateFormat,
    owner, customer, vendor, employee, invoice, taxTable, query]
  name := name
  mem_all control := by cases control <;> decide
  names_differ := by decide

end Control

/-! ### Bindings -/

/-- How a preference is shown (`OptionUiItem`). -/
structure Binding where
  control : Control
  item : Option Nat
deriving DecidableEq, Repr

namespace Binding

def unbound (control : Control) : Binding := ⟨control, none⟩

instance : Inhabited Binding := ⟨unbound .internal⟩

def isInternal (b : Binding) : Bool := b.control == .internal

/-- Binds a control in place of any other (`OptionUiItem::set_ui_item`). -/
def bind (b : Binding) (item : Nat) : Outcome Binding Unit :=
  if b.isInternal then .failed b .boundInternal [.bindingRefused]
  else .done { b with item := some item } ()

/-- Lets go of the control (`OptionUiItem::clear_ui_item`). -/
def clear (b : Binding) : Binding := { b with item := none }

/-- Gives up the interface, which a bound control forbids (`OptionUiItem::make_internal`). -/
def makeInternal (b : Binding) : Outcome Binding Unit :=
  if b.item.isSome then .failed b .internalBound [.internalRefused]
  else .done { b with control := .internal } ()

end Binding

end Preferences
