import Preferences.Number.Shortest

/-!
# Floating-point text

A layout holds the decisions that a written form leaves open: which numbers are written without an
exponent, what marks a whole number, and the names of what is not finite. `Layout.render` writes a
number in a layout, and `Binary.ofText?` reads a decimal number or one of the names back.
-/

namespace Preferences

structure Layout where
  tie : Tie
  /-- Whether a number whose first digit stands for `10 ^ e` is written without an exponent. -/
  plain : Int → Bool
  /-- What follows the digits of a whole number that is written without an exponent. -/
  wholeMark : String
  nan : String
  infinity : String

namespace Layout

def zeros (n : Nat) : List Char := List.replicate n '0'

/-- Digits `ds` with the point placed so that the last digit stands for `10 ^ exponent`. -/
def positional (layout : Layout) (ds : List Char) (exponent : Int) : List Char :=
  if 0 ≤ exponent then ds ++ zeros exponent.toNat ++ layout.wholeMark.toList
  else
    let places := (-exponent).toNat
    if places < ds.length then
      ds.take (ds.length - places) ++ '.' :: ds.drop (ds.length - places)
    else '0' :: '.' :: zeros (places - ds.length) ++ ds

/-- One digit, the others after a point, and a signed exponent. -/
def scientific (ds : List Char) (leading : Int) : List Char :=
  let mantissa := match ds with
    | first :: second :: rest => first :: '.' :: second :: rest
    | _ => ds
  let sign := if leading < 0 then '-' else '+'
  mantissa ++ 'e' :: sign :: Decimal.digitChars leading.natAbs

def renderDecimal (layout : Layout) (d : Decimal) : List Char :=
  let ds := Decimal.digitChars d.digits
  let leading := d.exponent + (ds.length - 1 : Nat)
  if layout.plain leading then layout.positional ds d.exponent else scientific ds leading

def render {f : Format} (layout : Layout) : Binary f → String
  | .nan => layout.nan
  | .signed negative rank _ =>
    let magnitude :=
      if rank = f.top then layout.infinity.toList
      else layout.renderDecimal (f.shortest layout.tie rank)
    String.ofList (if negative then '-' :: magnitude else magnitude)

/-- The form of numbers in messages: no exponent, and nothing after a whole number. -/
def message : Layout where
  tie := .up
  plain _ := true
  wholeMark := ""
  nan := "NaN"
  infinity := "inf"

end Layout

namespace Binary

variable {f : Format}

def text (x : Binary f) : String := Layout.message.render x

/-- Reads an exponent: an optional sign and at least one digit. -/
def exponent? (cs : List Char) : Option Int :=
  let (negative, digits) := match cs with
    | '-' :: r => (true, r)
    | '+' :: r => (false, r)
    | r => (false, r)
  if digits.isEmpty || !digits.all Decimal.isDigit then none
  else
    let n : Int := Nat.ofDigitChars 10 digits 0
    some (if negative then -n else n)

/-- Reads digits, perhaps a point with digits, perhaps an exponent. -/
def magnitude? (cs : List Char) : Option Decimal :=
  let whole := cs.takeWhile Decimal.isDigit
  let afterWhole := cs.dropWhile Decimal.isDigit
  let (fraction, afterFraction) := match afterWhole with
    | '.' :: r => (r.takeWhile Decimal.isDigit, r.dropWhile Decimal.isDigit)
    | r => ([], r)
  if whole.isEmpty && fraction.isEmpty then none
  else match afterFraction with
    | [] => some (.ofParts whole fraction 0)
    | e :: r =>
      if e = 'e' ∨ e = 'E' then (exponent? r).map (.ofParts whole fraction) else none

/-- The number nearest to a decimal text, or what one of the names stands for. -/
def ofText? (s : String) : Option (Binary f) :=
  let (negative, cs) := match s.toList with
    | '-' :: r => (true, r)
    | '+' :: r => (false, r)
    | r => (false, r)
  if cs = "NaN".toList then some nan
  else if cs = "inf".toList then some (infinity negative)
  else (magnitude? cs).map (ofDecimal negative)

end Binary

end Preferences
