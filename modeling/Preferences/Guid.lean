import Preferences.Number.Decimal

/-!
# Globally unique identifiers

An identifier is a row of 32 hexadecimal digits. It is written in lower case with hyphens after
8, 12, 16 and 20 digits. It is read in either case, with the hyphens or without any; the hyphened
form may stand in braces or after `urn:uuid:`.
-/

namespace Preferences

structure Guid where
  digits : List (Fin 16)
  length_eq : digits.length = 32
deriving DecidableEq

namespace Guid

/-! ### Digits -/

def digitChar (d : Fin 16) : Char := Nat.digitChar d.val

def digit? (c : Char) : Option (Fin 16) :=
  (Decimal.digitValue? 16 c).bind fun n => if h : n < 16 then some ⟨n, h⟩ else none

theorem digit?_digitChar : ∀ d : Fin 16, digit? (digitChar d) = some d := by
  decide

/-! ### Writing -/

/-- Sizes of the groups that hyphens separate. -/
def groups : List Nat := [8, 4, 4, 4, 12]

/-- Cuts a row of digits into groups of the given sizes, with a hyphen between two groups. -/
def hyphenate : List Nat → List Char → List Char
  | [], _ => []
  | [n], cs => cs.take n
  | n :: more, cs => cs.take n ++ '-' :: hyphenate more (cs.drop n)

def text (g : Guid) : String :=
  String.ofList (hyphenate groups (g.digits.map digitChar))

/-! ### Reading -/

/-- The digits of a row without its hyphens, if these stand exactly between the groups. -/
def joinGroups : List Nat → List Char → Option (List Char)
  | [], cs => if cs.isEmpty then some [] else none
  | [n], cs => if cs.length = n then some cs else none
  | n :: more, cs =>
    match cs.drop n with
    | '-' :: rest => (joinGroups more rest).map (cs.take n ++ ·)
    | _ => none

def ofDigits? (cs : List Char) : Option Guid := do
  let digits ← cs.mapM digit?
  if h : digits.length = 32 then some ⟨digits, h⟩ else none

def ofHyphened? (cs : List Char) : Option Guid := (joinGroups groups cs).bind ofDigits?

def urnStart : List Char := "urn:uuid:".toList

def ofText? (s : String) : Option Guid :=
  let cs := s.toList
  if cs.length = 32 then ofDigits? cs
  else if cs.length = 36 then ofHyphened? cs
  else if cs.head? = some '\x7b' ∧ cs.getLast? = some '\x7d' then ofHyphened? cs.tail.dropLast
  else if (cs.take urnStart.length).map Char.toLower = urnStart then
    ofHyphened? (cs.drop urnStart.length)
  else none

end Guid

end Preferences
