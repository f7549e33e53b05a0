import Preferences.Number.Binary

/-!
# Shortest decimals

The text of a floating-point number shows the fewest digits from which the number can be read
back. For one digit, two digits and so on, the two decimals of that length next to the number are
read back; the first length at which one of them hits is the shortest. Of two hits the nearer one
is taken. At the number's full length its exact value is among the two, so the search ends.
-/

namespace Preferences

/-- Which of two equally near decimals is taken. -/
inductive Tie where
  | up
  | even
deriving DecidableEq, Repr

namespace Format

/-- The decimal of `length` digits nearest to the number with this rank, among those that read
back as that rank. -/
def candidate? (f : Format) (tie : Tie) (rank length : Nat) : Option Decimal :=
  let exact := f.exact rank
  let cut := Decimal.digitCount exact.digits - length
  let unit := Nat.pow 10 cut
  let low := exact.digits / unit
  let rest := exact.digits % unit
  let decimal (n : Nat) : Decimal := ⟨n, exact.exponent + cut⟩
  let hits (n : Nat) : Bool := f.rankOfDecimal (decimal n) == rank
  let lowIsNearer := decide (2 * rest < unit) ||
    (2 * rest == unit && tie == Tie.even && low % 2 == 0)
  if hits low && (lowIsNearer || !hits (low + 1)) then some (decimal low)
  else if hits (low + 1) then some (decimal (low + 1))
  else none

/-- The shortest decimal that reads back as the finite number with this rank. -/
def shortest (f : Format) (tie : Tie) (rank : Nat) : Decimal :=
  let exact := f.exact rank
  let lengths := List.range' 1 (Decimal.digitCount exact.digits)
  ((lengths.findSome? (f.candidate? tie rank)).getD exact).normal

end Format

end Preferences
