import Preferences.Number.Decimal

/-!
# Binary floating-point numbers

A format fixes the width of a significand, the unit `2 ^ -fraction` that every finite number is a
multiple of, and how many exponents there are. The non-negative numbers of a format are counted
from zero upwards: the number with rank `r` is the `r`-th, and the rank after the last finite
number is infinity. Ranks are ordered as the numbers are (`Binary.key?`), so comparing numbers is
comparing integers, and rounding a quotient yields a rank. Products and quotients of numbers are
exact quotients of integers that are rounded once.
-/

namespace Preferences

structure Format where
  /-- Bits of a significand, the leading one included. -/
  precision : Nat
  /-- The least positive number is `2 ^ -fraction`. -/
  fraction : Nat
  /-- Exponents of finite numbers, that of the subnormal numbers included. -/
  exponents : Nat
deriving DecidableEq, Repr

def binary64 : Format := ⟨53, 1074, 2047⟩

namespace Format

/-! ### Ranks -/

/-- How many numbers share an exponent. -/
def block (f : Format) : Nat := 1 <<< (f.precision - 1)

/-- The rank of infinity. -/
def top (f : Format) : Nat := f.exponents * f.block

/-- How often the unit is doubled for the numbers that share an exponent with a rank. -/
def doublings (f : Format) (rank : Nat) : Nat := rank / f.block - 1

def significand (f : Format) (rank : Nat) : Nat := rank - f.doublings rank * f.block

/-- The rank nearest to `num / den`; halfway between two ranks the even one is meant. -/
def rankOfRatio (f : Format) (num den : Nat) : Nat :=
  let scaled := num <<< f.fraction
  let shift := (scaled / den).log2 + 1 - f.precision
  let step := den <<< shift
  let low := scaled / step
  let rest := scaled % step
  let up := if step < 2 * rest ∨ (step = 2 * rest ∧ low % 2 = 1) then 1 else 0
  min (shift * f.block + low + up) f.top

/-- The rank nearest to a decimal. A decimal that is clearly beyond the format's reach, above or
below, is not computed. -/
def rankOfDecimal (f : Format) (d : Decimal) : Nat :=
  if d.digits = 0 ∨ d.reach < -(f.fraction : Int) then 0
  else if (f.exponents : Int) < d.reach then f.top
  else if 0 ≤ d.exponent then f.rankOfRatio (d.digits * Nat.pow 10 d.exponent.toNat) 1
  else f.rankOfRatio d.digits (Nat.pow 10 (-d.exponent).toNat)

/-- The exact value of a finite rank, that is its significand in units that are doubled as often as
the rank says. -/
def exact (f : Format) (rank : Nat) : Decimal :=
  let halvings := f.fraction - f.doublings rank
  ⟨(f.significand rank <<< (f.doublings rank - f.fraction)) * Nat.pow 5 halvings,
    -(halvings : Int)⟩

/-! ### Arithmetic -/

def units (f : Format) (rank : Nat) : Nat := f.significand rank <<< f.doublings rank

/-- The rank nearest to the product of two finite numbers. -/
def product (f : Format) (a b : Nat) : Nat :=
  f.rankOfRatio (f.units a * f.units b) (1 <<< (2 * f.fraction))

/-- The rank nearest to the quotient of two finite numbers, the second of which is not zero. -/
def quotient (f : Format) (a b : Nat) : Nat := f.rankOfRatio (f.units a) (f.units b)

theorem rankOfRatio_le_top (f : Format) (num den : Nat) : f.rankOfRatio num den ≤ f.top :=
  Nat.min_le_right _ _

theorem rankOfDecimal_le_top (f : Format) (d : Decimal) : f.rankOfDecimal d ≤ f.top := by
  unfold rankOfDecimal
  split
  · exact Nat.zero_le _
  · split
    · exact Nat.le_refl _
    · split <;> exact f.rankOfRatio_le_top _ _

end Format

/-- A number of the format, an infinity, or no number at all. Zero has both signs. -/
inductive Binary (f : Format) where
  | nan
  | signed (negative : Bool) (rank : Nat) (rank_le : rank ≤ f.top)
deriving DecidableEq

abbrev Binary64 := Binary binary64

namespace Binary

variable {f : Format}

instance : Inhabited (Binary f) := ⟨nan⟩

def infinity (negative : Bool) : Binary f := signed negative f.top (Nat.le_refl _)

def isFinite : Binary f → Bool
  | nan => false
  | signed _ rank _ => decide (rank < f.top)

def ofDecimal (negative : Bool) (d : Decimal) : Binary f :=
  signed negative (f.rankOfDecimal d) (f.rankOfDecimal_le_top d)

def ofInt (n : Int) : Binary f :=
  signed (decide (n < 0)) (f.rankOfRatio n.natAbs 1) (f.rankOfRatio_le_top _ _)

/-! ### Order -/

/-- The place of a number on the line; zeros of both signs share one. -/
def key? : Binary f → Option Int
  | nan => none
  | signed negative rank _ => some (if negative then -(rank : Int) else rank)

/-- What is no number is neither below nor above anything. -/
def le (a b : Binary f) : Prop :=
  match a.key?, b.key? with
  | some i, some j => i ≤ j
  | _, _ => False

def lt (a b : Binary f) : Prop :=
  match a.key?, b.key? with
  | some i, some j => i < j
  | _, _ => False

instance : LE (Binary f) := ⟨le⟩

instance : LT (Binary f) := ⟨lt⟩

instance (a b : Binary f) : Decidable (a ≤ b) := by
  change Decidable (le a b)
  unfold le
  split <;> infer_instance

instance (a b : Binary f) : Decidable (a < b) := by
  change Decidable (lt a b)
  unfold lt
  split <;> infer_instance

/-- Equality as numbers: zeros are equal whatever their sign, and `nan` equals nothing. -/
def same (a b : Binary f) : Bool :=
  match a.key?, b.key? with
  | some i, some j => i == j
  | _, _ => false

instance : BEq (Binary f) := ⟨same⟩

theorem le_iff {a b : Binary f} : a ≤ b ↔ ∃ i j, a.key? = some i ∧ b.key? = some j ∧ i ≤ j := by
  change le a b ↔ _
  unfold le
  cases a.key? <;> cases b.key? <;> simp

theorem lt_iff {a b : Binary f} : a < b ↔ ∃ i j, a.key? = some i ∧ b.key? = some j ∧ i < j := by
  change lt a b ↔ _
  unfold lt
  cases a.key? <;> cases b.key? <;> simp

theorem beq_iff {a b : Binary f} : (a == b) = true ↔ ∃ i, a.key? = some i ∧ b.key? = some i := by
  change same a b = true ↔ _
  unfold same
  cases a.key? with
  | none => simp
  | some i =>
    cases b.key? with
    | none => simp
    | some j => simp [eq_comm (a := i)]

end Binary

end Preferences
