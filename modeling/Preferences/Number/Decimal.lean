/-!
# Decimal numbers and their digits

A decimal stands for `digits * 10 ^ exponent`. One number has many decimals; `Decimal.normal`
picks the one whose digits do not end in zero.
-/

namespace Preferences

/-- The number `digits * 10 ^ exponent`. -/
structure Decimal where
  digits : Nat
  exponent : Int
deriving DecidableEq, Repr

namespace Decimal

/-! ### Digits -/

/-- The digits of `n` in base ten, the leading one first; zero has one digit. -/
def digitChars (n : Nat) : List Char := Nat.toDigits 10 n

def digitCount (n : Nat) : Nat := (digitChars n).length

/-- The digit a character stands for in a base of at most sixteen; letters count in both cases. -/
def digitValue? (base : Nat) (c : Char) : Option Nat :=
  let value :=
    if '0' ≤ c ∧ c ≤ '9' then c.toNat - '0'.toNat
    else if 'a' ≤ c ∧ c ≤ 'f' then c.toNat - 'a'.toNat + 10
    else if 'A' ≤ c ∧ c ≤ 'F' then c.toNat - 'A'.toNat + 10
    else base
  if value < base then some value else none

/-- The number that digits of a base spell; a character that is no digit counts as zero. -/
def ofDigitsIn (base : Nat) (cs : List Char) : Nat :=
  cs.foldl (fun n c => base * n + (digitValue? base c).getD 0) 0

def isDigit (c : Char) : Bool := '0' ≤ c && c ≤ '9'

/-! ### Decimals -/

/-- The same number with the zeros at the end of the digits moved into the exponent. -/
def normal (d : Decimal) : Decimal :=
  if d.digits = 0 then ⟨0, 0⟩
  else
    let all := digitChars d.digits
    let kept := (all.reverse.dropWhile (· == '0')).reverse
    ⟨Nat.ofDigitChars 10 kept 0, d.exponent + (all.length - kept.length : Nat)⟩

/-- An exponent of ten that the number stays below. -/
def reach (d : Decimal) : Int := d.exponent + digitCount d.digits

/-- The decimal spelled by the digits before and after a point and by an exponent. -/
def ofParts (whole fraction : List Char) (exponent : Int) : Decimal :=
  ⟨Nat.ofDigitChars 10 (whole ++ fraction) 0, exponent - fraction.length⟩

end Decimal

end Preferences
