import Preferences.Dict
import Preferences.Toml.Item
import Preferences.Toml.Lexeme

/-!
# Reading TOML

The reader takes TOML 1.0. A document is a dictionary of values, so its entries come in ascending
order of key. Arrays and tables within values may be nested 79 deep.
-/

namespace Preferences.Toml

/-! ### Values -/

/-- Items up to the closing bracket; a comma may follow the last. The first argument bounds their
number. -/
def arrayItems (item : Scan Value) : Nat → Scan (List Value)
  | 0, _ => none
  | bound + 1, cs => do
    match (← skipLines? false cs) with
    | ']' :: rest => some ([], rest)
    | cs =>
      let (first, rest) ← item cs
      match (← skipLines? false rest) with
      | ',' :: rest => (arrayItems item bound rest).map fun (more, rest) => (first :: more, rest)
      | ']' :: rest => some ([first], rest)
      | _ => none

/-- Entries up to the closing brace, added to those already read. -/
def tableEntries (item : Scan Value) : Nat → Entries → Scan Entries
  | 0, _, _ => none
  | bound + 1, entries, cs => do
    let (path, rest) ← key cs
    let rest ← Scan.skip? ['='] rest
    let (value, rest) ← item (skipBlank rest)
    let entries ← entries.assign value path true
    match skipBlank rest with
    | ',' :: rest => tableEntries item bound entries rest
    | '\x7d' :: rest => some (entries, rest)
    | _ => none

/-- A table within a value, after its opening brace. -/
def tableBody (item : Scan Value) : Scan Value := fun cs =>
  match skipBlank cs with
  | '\x7d' :: rest => some (.table [], rest)
  | _ =>
    (tableEntries item cs.length [] cs).map fun (entries, rest) =>
      (.table (Entries.toValues entries), rest)

/-- A value with at most `depth` brackets and braces inside one another. -/
def value (depth : Nat) : Scan Value := fun cs =>
  match cs with
  | [] => none
  | '[' :: rest =>
    match depth with
    | 0 => none
    | depth + 1 =>
      (arrayItems (value depth) (rest.length + 1) rest).map fun (vs, rest) => (.array vs, rest)
  | '\x7b' :: rest =>
    match depth with
    | 0 => none
    | depth + 1 => tableBody (value depth) rest
  | 't' :: rest => (Scan.skip? "rue".toList rest).map fun rest => (.bool true, rest)
  | 'f' :: rest => (Scan.skip? "alse".toList rest).map fun rest => (.bool false, rest)
  | c :: _ =>
    if c = '"' ∨ c = '\'' then
      (string cs).map fun (body, rest) => (.string (String.ofList body), rest)
    else number cs

/-! ### Lines -/

/-- A document as far as it has been read: its entries, and the header that applies. -/
structure Draft where
  entries : Entries
  path : List String

/-- A header with one bracket or two, after the first bracket. -/
def header (draft : Draft) : Scan Draft
  | '[' :: rest => do
    let (path, rest) ← key rest
    let rest ← Scan.skip? [']', ']'] rest
    let last ← path.getLast?
    let entries ← Entries.within (Entries.push last) path.dropLast draft.entries
    some (⟨entries, path⟩, rest)
  | rest => do
    let (path, rest) ← key rest
    let rest ← Scan.skip? [']'] rest
    let last ← path.getLast?
    let entries ← Entries.within (Entries.state last) path.dropLast draft.entries
    some (⟨entries, path⟩, rest)

def entry (draft : Draft) : Scan Draft := fun cs => do
  let (path, rest) ← key cs
  let rest ← Scan.skip? ['='] rest
  let (v, rest) ← value maxDepth (skipBlank rest)
  let entries ← Entries.within (Entries.assign v path true) draft.path draft.entries
  some (⟨entries, draft.path⟩, rest)

/-- The lines of a document. The first argument bounds their number. -/
def lines : Nat → Draft → List Char → Option Draft
  | 0, _, _ => none
  | bound + 1, draft, cs =>
    match skipBlank cs with
    | [] => some draft
    | c :: rest => do
      let (draft, rest) ←
        if c = '[' then header draft rest
        else if c = '#' ∨ c = '\n' ∨ c = '\r' then some (draft, c :: rest)
        else entry draft (c :: rest)
      lines bound draft (← lineEnd? rest)

/-- The document that a text is; a byte order mark in front does not count. -/
def parse? (s : String) : Option (Dict Value) := do
  let cs := match s.toList with
    | '\ufeff' :: rest => rest
    | cs => cs
  let draft ← lines (cs.length + 1) ⟨[], []⟩ cs
  some (Dict.ofList (Entries.toValues draft.entries))

end Preferences.Toml
