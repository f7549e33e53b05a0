import Preferences.Json.Value
import Preferences.Text.Scan

/-!
# JSON numbers

An integer that fits 64 bits stays one. Any other number, and `-0`, becomes a floating-point number
in two steps, each of which rounds: as many leading digits as fit 64 bits are read as an integer,
and that is multiplied or divided by a power of ten, itself the nearest floating-point number. So a
number with many digits or a large exponent may be read as a neighbour of the nearest number
(`rankOf`), while one with at most fifteen digits and a power of ten up to `10 ^ 22` is read as the
nearest. A number that comes out infinite is refused; one that comes out too small is zero.
-/

namespace Preferences.Json

/-! ### Leading digits -/

/-- Appends a digit to a number, if the result fits 64 bits. -/
def appendDigit? (n : Nat) (c : Char) : Option Nat :=
  let next := n * 10 + Nat.ofDigitChars 10 [c] 0
  if next < UInt64.size then some next else none

/-- Reads on with the digits before the point. The first that does not fit and all after it are
left out, and raise the exponent. -/
def takeWhole (n : Nat) : List Char → Decimal
  | [] => ⟨n, 0⟩
  | c :: cs =>
    match appendDigit? n c with
    | some next => takeWhole next cs
    | none => ⟨n, (c :: cs).length⟩

/-- Reads on with the digits after the point. The first that does not fit and all after it are left
out. -/
def takeFraction (d : Decimal) : List Char → Decimal
  | [] => d
  | c :: cs =>
    match appendDigit? d.digits c with
    | some next => takeFraction ⟨next, d.exponent - 1⟩ cs
    | none => d

/-- The decimal that the leading digits of a number spell. -/
def leading (whole fraction : List Char) (exponent : Int) : Decimal :=
  let d := takeFraction (takeWhole 0 whole) fraction
  ⟨d.digits, d.exponent + exponent⟩

/-! ### Powers of ten -/

/-- The exponent of the largest power of ten with a finite number. -/
def maxPower : Nat := 308

def powerRank (n : Nat) : Nat := binary64.rankOfRatio (Nat.pow 10 n) 1

/-- A number multiplied by a power of ten. Only zero may be multiplied by a power that has no
finite number. -/
def raised (rank n : Nat) : Nat :=
  if rank = 0 then 0
  else if n ≤ maxPower then binary64.product rank (powerRank n)
  else binary64.top

/-- A number divided by a power of ten; a power that has no finite number is divided by in steps,
with a rounding after each. -/
def lowered (rank n : Nat) : Nat :=
  if rank = 0 then 0
  else if n ≤ maxPower then binary64.quotient rank (powerRank n)
  else lowered (binary64.quotient rank (powerRank maxPower)) (n - maxPower)
termination_by n
decreasing_by
  have : maxPower = 308 := rfl
  omega

def rankOf (d : Decimal) : Nat :=
  let rank := binary64.rankOfRatio d.digits 1
  if 0 ≤ d.exponent then raised rank d.exponent.toNat else lowered rank (-d.exponent).toNat

/-! ### Numbers -/

def whole : Scan (List Char)
  | '0' :: rest => some (['0'], rest)
  | cs => Scan.digits 10 cs

/-- A point and digits, if there is a point. -/
def fraction : Scan (Option (List Char))
  | '.' :: rest => (Scan.digits 10 rest).map fun (ds, rest) => (some ds, rest)
  | cs => some (none, cs)

def exponentDigits (negative : Bool) (cs : List Char) : Option (Option Int × List Char) :=
  (Scan.digits 10 cs).map fun (ds, rest) =>
    let n : Int := Nat.ofDigitChars 10 ds 0
    (some (if negative then -n else n), rest)

/-- A letter `e`, a sign and digits, if there is the letter. -/
def exponent : Scan (Option Int)
  | [] => some (none, [])
  | c :: rest =>
    if c = 'e' ∨ c = 'E' then
      match rest with
      | '-' :: rest => exponentDigits true rest
      | '+' :: rest => exponentDigits false rest
      | _ => exponentDigits false rest
    else some (none, c :: rest)

/-- The value of a number from the parts of its text. -/
def number? (negative : Bool) (ds : List Char) (fraction? : Option (List Char))
    (exponent? : Option Int) : Option Value :=
  let magnitude : Int := Nat.ofDigitChars 10 ds 0
  let n := if negative then -magnitude else magnitude
  let isInteger := fraction?.isNone && exponent?.isNone && !(negative && magnitude == 0)
  if isInteger ∧ Int64.minValue.toInt ≤ n ∧ n ≤ Int64.maxValue.toInt then some (.integer (.ofInt n))
  else
    let rank := rankOf (leading ds (fraction?.getD []) (exponent?.getD 0))
    if h : rank < binary64.top then some (.float (.signed negative rank (Nat.le_of_lt h)))
    else none

def number : Scan Value := fun cs => do
  let (negative, cs) := match cs with
    | '-' :: rest => (true, rest)
    | _ => (false, cs)
  let (ds, cs) ← whole cs
  let (fraction?, cs) ← fraction cs
  let (exponent?, cs) ← exponent cs
  let value ← number? negative ds fraction? exponent?
  some (value, cs)

end Preferences.Json
