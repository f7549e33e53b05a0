import Preferences.Number.Decimal

/-!
# Scanning text

A scanner looks at the characters that are left, and either fails or answers a value and the
characters after it. Scanners never look back, so what one leaves is what the next one sees.
-/

namespace Preferences

/-- What is read off the front, and what is left. -/
abbrev Scan (α : Type) := List Char → Option (α × List Char)

namespace Scan

variable {α : Type}

def skip? : List Char → List Char → Option (List Char)
  | [], cs => some cs
  | expected :: more, c :: cs => if c = expected then skip? more cs else none
  | _ :: _, [] => none

/-- The longest front of characters in a class, and the rest. -/
def run (p : Char → Bool) (cs : List Char) : List Char × List Char :=
  (cs.takeWhile p, cs.dropWhile p)

def exactly (count : Nat) (p : Char → Bool) : Scan (List Char) := fun cs =>
  let front := cs.take count
  if front.length = count ∧ front.all p then some (front, cs.drop count) else none

def digits (base : Nat) : Scan (List Char) := fun cs =>
  let (front, rest) := run (fun c => (Decimal.digitValue? base c).isSome) cs
  if front.isEmpty then none else some (front, rest)

/-- The character with a number written in hexadecimal digits; surrogates are no characters. -/
def scalar? (hexDigits : List Char) : Option Char :=
  let n := Decimal.ofDigitsIn 16 hexDigits
  if n.isValidChar then some (Char.ofNat n) else none

end Scan

end Preferences
