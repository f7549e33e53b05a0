import Preferences.Book
import Preferences.Folder
import Preferences.Json.Printer
import Preferences.Json.Reader
import Preferences.Stored
import Preferences.Toml.Printer
import Preferences.Toml.Reserved

/-!
# Stores and their files

A store is a book of stored values. It is written to a file as a JSON object of objects or as a TOML
document of tables. JSON has no text for numbers that are not finite, which become nothing; TOML has
no text for nothing, which becomes the empty string, and every empty string is read as nothing. A
TOML date or time is read as its text. Nothing deeper than a page of values and lists is read.
-/

namespace Preferences

/-- Stored values by page and name (`SettingsStore`). -/
abbrev Store := Book Stored

namespace Stored

/-! ### Values as JSON -/

mutual

def toJson : Stored → Json.Value
  | .null => .null
  | .flag value => .bool value
  | .integer value => .integer value
  | .float value => if value.isFinite then .float value else .null
  | .text value => .string value
  | .list items => .array (toJsonItems items)

def toJsonItems : List Stored → List Json.Value
  | [] => []
  | item :: rest => toJson item :: toJsonItems rest

end

mutual

def ofJson? : Json.Value → Option Stored
  | .null => some .null
  | .bool value => some (.flag value)
  | .integer value => some (.integer value)
  | .float value => some (.float value)
  | .string value => some (.text value)
  | .array items => (ofJsonItems? items).map .list
  | .object _ => none

def ofJsonItems? : List Json.Value → Option (List Stored)
  | [] => some []
  | item :: rest => do
    let first ← ofJson? item
    let more ← ofJsonItems? rest
    some (first :: more)

end

/-! ### Values as TOML -/

mutual

/-- The value in a TOML document (`SettingsStore::stored_to_toml`). -/
def toToml : Stored → Toml.Value
  | .null => .string ""
  | .flag value => .bool value
  | .integer value => .integer value
  | .float value => .float value
  | .text value => .string value
  | .list items => .array (toTomlItems items)

def toTomlItems : List Stored → List Toml.Value
  | [] => []
  | item :: rest => toToml item :: toTomlItems rest

end

mutual

/-- What a value of a TOML document holds (`SettingsStore::toml_to_stored`). -/
def ofToml? : Toml.Value → Option Stored
  | .string value => some (if value = "" then .null else .text value)
  | .integer value => some (.integer value)
  | .float value => some (.float value)
  | .bool value => some (.flag value)
  | .datetime value => some (.text value.text)
  | .array items => (ofTomlItems? items).map .list
  | .table _ => none

def ofTomlItems? : List Toml.Value → Option (List Stored)
  | [] => some []
  | item :: rest => do
    let first ← ofToml? item
    let more ← ofTomlItems? rest
    some (first :: more)

end

end Stored

namespace Store

/-- Puts a value under a page and name (`OptionStore::write`), unless the store refuses to take one
there. -/
def write (store : Store) (refuses : String → String → Bool) (page name : String)
    (value : Stored) : Outcome Store Unit :=
  if refuses page name then .failed store (.unusable page name "write refused") []
  else .done (store.insert page name value) ()

/-! ### Stores as JSON -/

def toJson (store : Store) : Json.Value :=
  .object (store.pages.entries.map fun page =>
    (page.1, .object (page.2.entries.map fun entry => (entry.1, entry.2.toJson))))

def members? {α β : Type} (f : α → Option β) (entries : List (String × α)) :
    Option (List (String × β)) :=
  entries.mapM fun entry => (f entry.2).map fun value => (entry.1, value)

def pageOfJson? : Json.Value → Option (Dict Stored)
  | .object entries => (members? Stored.ofJson? entries).map Dict.ofList
  | _ => none

/-- Of pages or values with one name the last counts. -/
def ofJson? : Json.Value → Option Store
  | .object pages => (members? pageOfJson? pages).map fun pages => ⟨Dict.ofList pages⟩
  | _ => none

/-! ### Stores as TOML -/

def toToml (store : Store) : List (String × Toml.Value) :=
  store.pages.entries.map fun page =>
    (page.1, .table (page.2.entries.map fun entry => (entry.1, entry.2.toToml)))

def pageOfToml (name : String) : Toml.Value → Except DocumentFault (Dict Stored)
  | .table entries =>
    match members? Stored.ofToml? entries with
    | some entries => .ok (Dict.ofList entries)
    | none => .error .nestedTable
  | _ => .error (.pageIsNoTable name)

/-- Reads the pages in order; the first fault is the fault of the whole. -/
def pagesOfToml : List (String × Toml.Value) → Except DocumentFault (List (String × Dict Stored))
  | [] => .ok []
  | (name, value) :: rest => do
    let page ← pageOfToml name value
    let pages ← pagesOfToml rest
    .ok ((name, page) :: pages)

def ofToml (document : List (String × Toml.Value)) : Except DocumentFault Store := do
  let pages ← pagesOfToml document
  .ok ⟨Dict.ofList pages⟩

/-! ### Files -/

/-- Writes a store to a file (`SettingsStore::save_json`). -/
def saveJson (store : Store) (folder : Folder) (path : String) : Outcome Folder Unit :=
  folder.write path (Json.print store.toJson)

/-- Writes a store to a file (`SettingsStore::save_toml`). -/
def saveToml (store : Store) (folder : Folder) (path : String) : Outcome Folder Unit :=
  folder.write path (Toml.print store.toToml)

def parseJson (text : String) : Except DocumentFault Store :=
  match (Json.parse? text).bind ofJson? with
  | some store => .ok store
  | none => .error .malformed

def parseToml (text : String) : Except DocumentFault Store :=
  match Toml.read? text with
  | some document => ofToml document
  | none => .error .malformed

def load (parse : String → Except DocumentFault Store) (folder : Folder) (path : String) :
    Except Error Store := do
  let text ← folder.read path
  (parse text).mapError (Error.unreadable path)

/-- Replaces a store by the one that a file holds. -/
def reload (parse : String → Except DocumentFault Store) (loaded : Event) (store : Store)
    (folder : Folder) (path : String) : Outcome Store Unit :=
  match load parse folder path with
  | .ok found => ⟨found, .ok (), [loaded], []⟩
  | .error e => .failed store e []

/-- Takes over a file (`SettingsStore::load_json`). -/
def loadJson (store : Store) (folder : Folder) (path : String) : Outcome Store Unit :=
  reload parseJson .jsonLoaded store folder path

/-- Takes over a file (`SettingsStore::load_toml`). -/
def loadToml (store : Store) (folder : Folder) (path : String) : Outcome Store Unit :=
  reload parseToml .tomlLoaded store folder path

end Store

end Preferences
