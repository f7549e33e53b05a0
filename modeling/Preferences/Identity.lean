/-!
# Identities

A preference is known by the page it stands on and by its name there. Its sort tag places it among
the preferences of its page, and the doc text explains it.

In messages and logs a preference is called an option, and its page a section.
-/

namespace Preferences

/-- What tells a preference apart (`OptionClassifier`). -/
structure Identity where
  page : String
  name : String
  sortTag : String
  doc : String
deriving DecidableEq, Repr

/-- How a preference takes values (`OptionKind`). -/
inductive Kind where
  | plain
  | validated
  | range
  | choice
  | date
deriving DecidableEq, Repr

def Kind.name : Kind → String
  | plain => "Plain"
  | validated => "Validated"
  | range => "Range"
  | choice => "Multichoice"
  | date => "Date"

end Preferences
