import Mathlib.Order.Monotone.Basic
import Preferences.Number.Binary

/-!
# Rounding to the nearest number

Ranks come in the order of the numbers that they stand for. A quotient is rounded to the rank of the
nearest number, and halfway between two numbers to the even rank; infinity counts as the number that
would come after the last finite one. No two ranks are nearest to one quotient.
-/

namespace Preferences

namespace Format

variable {f : Format}

/-! ### Ranks in order -/

theorem block_pos (f : Format) : 0 < f.block := by
  unfold block
  rw [Nat.shiftLeft_eq, Nat.one_mul]
  exact Nat.two_pow_pos _

theorem two_mul_block (hf : 1 ≤ f.precision) : 2 * f.block = 1 <<< f.precision := by
  unfold block
  rw [Nat.shiftLeft_eq, Nat.shiftLeft_eq, Nat.one_mul, Nat.one_mul, ← Nat.pow_succ',
    Nat.succ_eq_add_one, Nat.sub_add_cancel hf]

/-- What a rank stands for, read off from an exponent and a significand. The significand may be one
too large, as it is after rounding up. -/
theorem units_of_significand {shift low : Nat} (hlow : low ≤ 2 * f.block)
    (hnormal : shift = 0 ∨ f.block ≤ low) : f.units (shift * f.block + low) = low <<< shift := by
  have hblock := f.block_pos
  have hdiv : (shift * f.block + low) / f.block = shift + low / f.block := by
    rw [Nat.add_comm, Nat.add_mul_div_right low shift hblock, Nat.add_comm]
  unfold units significand doublings
  rw [hdiv]
  rcases Nat.lt_or_ge low f.block with hsmall | hlarge
  · -- A subnormal number: the unit is not doubled.
    have hshift : shift = 0 := by omega
    subst hshift
    rw [Nat.div_eq_of_lt hsmall]
    simp
  · rcases Nat.lt_or_ge low (2 * f.block) with hfits | hover
    · have hone : low / f.block = 1 := Nat.div_eq_of_lt_le (by omega) (by omega)
      rw [hone, Nat.add_sub_cancel, Nat.add_sub_cancel_left]
    · -- The significand has run over: half of it, and the unit doubled once more.
      have heq : low = 2 * f.block := by omega
      have htwo : low / f.block = 2 := by
        rw [heq]
        exact Nat.mul_div_cancel 2 hblock
      have hsplit : shift * f.block + low = (shift + 1) * f.block + f.block := by
        rw [heq, Nat.add_mul]
        omega
      rw [htwo, show shift + 2 - 1 = shift + 1 by omega, hsplit, Nat.add_sub_cancel_left, heq,
        Nat.shiftLeft_eq, Nat.shiftLeft_eq, Nat.pow_succ]
      ac_rfl

theorem exists_significand (f : Format) (rank : Nat) :
    ∃ shift low, rank = shift * f.block + low ∧ low < 2 * f.block ∧
      (shift = 0 ∨ f.block ≤ low) := by
  have hblock := f.block_pos
  have hdecomp := Nat.div_add_mod rank f.block
  have hmod := Nat.mod_lt rank hblock
  rw [Nat.mul_comm] at hdecomp
  cases hshift : rank / f.block with
  | zero =>
    rw [hshift] at hdecomp
    exact ⟨0, rank, by omega, by omega, .inl rfl⟩
  | succ shift =>
    rw [hshift, Nat.succ_mul] at hdecomp
    exact ⟨shift, f.block + rank % f.block, by omega, by omega, .inr (by omega)⟩

theorem units_lt_units_succ (f : Format) (rank : Nat) : f.units rank < f.units (rank + 1) := by
  obtain ⟨shift, low, rfl, hlow, hnormal⟩ := f.exists_significand rank
  rw [Nat.add_assoc, units_of_significand (by omega) hnormal,
    units_of_significand (by omega) (by omega), Nat.shiftLeft_eq, Nat.shiftLeft_eq]
  exact Nat.mul_lt_mul_of_pos_right (by omega) (Nat.two_pow_pos shift)

theorem units_strictMono (f : Format) : StrictMono f.units :=
  strictMono_nat_of_lt_succ f.units_lt_units_succ

/-! ### Nearest ranks -/

/-- How far a rank is from a quotient, in units and multiplied by the denominator. -/
def distance (f : Format) (num den rank : Nat) : Nat :=
  ((f.units rank * den : Nat) - (num <<< f.fraction : Nat) : Int).natAbs

/-- No rank is nearer to a quotient, and if another one is as near, this one is even. -/
structure IsNearest (f : Format) (num den rank : Nat) : Prop where
  rank_le : rank ≤ f.top
  distance_le : ∀ other ≤ f.top, f.distance num den rank ≤ f.distance num den other
  even : ∀ other ≤ f.top, other ≠ rank → f.distance num den other = f.distance num den rank →
    rank % 2 = 0

/-- Between two neighbouring ranks the nearer one is nearest, and the even one halfway. The rank
above may be past infinity, which then takes its place. -/
theorem isNearest_of_between {num den low rank : Nat} (hden : 0 < den)
    (hlow : f.units low * den ≤ num <<< f.fraction)
    (hhigh : num <<< f.fraction < f.units (low + 1) * den)
    (hrank : rank = low ∨ rank = low + 1)
    (hnear : f.distance num den rank ≤ f.distance num den low ∧
      f.distance num den rank ≤ f.distance num den (low + 1))
    (heven : f.distance num den low = f.distance num den (low + 1) → rank % 2 = 0)
    (htop : f.top % 2 = 0) : f.IsNearest num den (min rank f.top) := by
  obtain ⟨hnearLow, hnearHigh⟩ := hnear
  -- Further from the two neighbours on either side means further from the quotient.
  have hbelow : ∀ other < low, f.distance num den low < f.distance num den other := by
    intro other hother
    have hlt := Nat.mul_lt_mul_of_pos_right (f.units_strictMono hother) hden
    unfold distance
    omega
  have habove : ∀ other, low + 1 < other →
      f.distance num den (low + 1) < f.distance num den other := by
    intro other hother
    have hlt := Nat.mul_lt_mul_of_pos_right (f.units_strictMono hother) hden
    unfold distance
    omega
  have hside : ∀ other, other = low ∨ other = low + 1 ∨
      f.distance num den rank < f.distance num den other := by
    intro other
    rcases Nat.lt_or_ge low other with hgt | hle
    · rcases Nat.eq_or_lt_of_le hgt with heq | hgt
      · exact .inr (.inl heq.symm)
      · exact .inr (.inr (Nat.lt_of_le_of_lt hnearHigh (habove other hgt)))
    · rcases Nat.eq_or_lt_of_le hle with heq | hlt
      · exact .inl heq
      · exact .inr (.inr (Nat.lt_of_le_of_lt hnearLow (hbelow other hlt)))
  rcases Nat.lt_or_ge f.top rank with hpast | hinside
  · have htopLow : f.top ≤ low := by omega
    rw [Nat.min_eq_right (Nat.le_of_lt hpast)]
    refine ⟨Nat.le_refl _, fun other hother => ?_, fun _ _ _ _ => htop⟩
    have hle := Nat.mul_le_mul_right den (f.units_strictMono.monotone hother)
    have hle' := Nat.mul_le_mul_right den (f.units_strictMono.monotone htopLow)
    unfold distance
    omega
  · rw [Nat.min_eq_left hinside]
    refine ⟨hinside, fun other _ => ?_, fun other _ hne hsame => ?_⟩
    · rcases hside other with rfl | rfl | hfar
      · exact hnearLow
      · exact hnearHigh
      · exact Nat.le_of_lt hfar
    · -- Another rank that is as near can only be the other neighbour.
      rcases hside other with rfl | rfl | hfar
      · have hrank := hrank.resolve_left hne.symm
        exact heven (by rw [hsame, hrank])
      · have hrank := hrank.resolve_right hne.symm
        exact heven (by rw [hsame, hrank])
      · exact absurd hsame.symm (Nat.ne_of_lt hfar)

theorem two_dvd_block (hf : 2 ≤ f.precision) : 2 ∣ f.block := by
  have hsplit : f.precision - 1 = f.precision - 2 + 1 := by omega
  unfold block
  rw [Nat.shiftLeft_eq, Nat.one_mul, hsplit, Nat.pow_succ]
  exact Nat.dvd_mul_left 2 _

/-- The exponent chosen for a number leaves a significand of full width, or is the least. -/
theorem significand_bounds (hf : 1 ≤ f.precision) (n : Nat) :
    n >>> (n.log2 + 1 - f.precision) < 2 * f.block ∧
      (n.log2 + 1 - f.precision = 0 ∨ f.block ≤ n >>> (n.log2 + 1 - f.precision)) := by
  have htwo := two_mul_block hf
  rw [Nat.shiftLeft_eq, Nat.one_mul] at htwo
  rw [Nat.shiftRight_eq_div_pow]
  have hlt : n < 2 ^ (n.log2 + 1) := Nat.lt_log2_self
  rcases Nat.le_total (n.log2 + 1) f.precision with hsmall | hlarge
  · have hpow := Nat.pow_le_pow_right (n := 2) (by omega) hsmall
    rw [Nat.sub_eq_zero_of_le hsmall, Nat.pow_zero, Nat.div_one]
    exact ⟨by omega, .inl rfl⟩
  · obtain ⟨shift, hshift⟩ := Nat.exists_eq_add_of_le hlarge
    rw [hshift, Nat.add_sub_cancel_left]
    have hpos := Nat.two_pow_pos shift
    rw [hshift, Nat.pow_add, ← htwo] at hlt
    refine ⟨(Nat.div_lt_iff_lt_mul hpos).2 hlt, ?_⟩
    rcases Nat.eq_zero_or_pos shift with hzero | hshiftPos
    · exact .inl hzero
    · have hne : n ≠ 0 := by
        intro h
        rw [h, Nat.log2_zero] at hshift
        omega
      have hself := Nat.log2_self_le hne
      have hsplit : 2 ^ n.log2 = f.block * 2 ^ shift := by
        have hdouble : 2 * 2 ^ n.log2 = 2 * (f.block * 2 ^ shift) := by
          rw [← Nat.pow_succ', Nat.succ_eq_add_one, hshift, Nat.pow_add, ← htwo, Nat.mul_assoc]
        omega
      exact .inr ((Nat.le_div_iff_mul_le hpos).2 (hsplit ▸ hself))

theorem rankOfRatio_isNearest (hf : 2 ≤ f.precision) (num : Nat) {den : Nat} (hden : 0 < den) :
    f.IsNearest num den (f.rankOfRatio num den) := by
  obtain ⟨hlow, hnormal⟩ := significand_bounds (f := f) (by omega) (num <<< f.fraction / den)
  obtain ⟨half, hhalf⟩ := two_dvd_block hf
  have htop : f.top % 2 = 0 := by
    unfold top
    rw [hhalf, Nat.mul_left_comm]
    omega
  unfold rankOfRatio
  dsimp only
  generalize hshift : (num <<< f.fraction / den).log2 + 1 - f.precision = shift at *
  rw [Nat.shiftRight_eq_div_pow, Nat.div_div_eq_div_mul, ← Nat.shiftLeft_eq] at hlow hnormal
  have hstep : 0 < den <<< shift := by
    rw [Nat.shiftLeft_eq]
    exact Nat.mul_pos hden (Nat.two_pow_pos shift)
  have hdecomp := Nat.div_add_mod (num <<< f.fraction) (den <<< shift)
  have hrest := Nat.mod_lt (num <<< f.fraction) hstep
  generalize num <<< f.fraction / den <<< shift = low at *
  generalize num <<< f.fraction % den <<< shift = rest at *
  have hunits : ∀ n, n ≤ 2 * f.block → (shift = 0 ∨ f.block ≤ n) →
      f.units (shift * f.block + n) * den = den <<< shift * n := by
    intro n hn hnormal
    rw [units_of_significand hn hnormal, Nat.shiftLeft_eq, Nat.shiftLeft_eq]
    ac_rfl
  have hbelow := hunits low (by omega) hnormal
  have habove := hunits (low + 1) (by omega) (by omega)
  rw [Nat.mul_add, Nat.mul_one, ← Nat.add_assoc] at habove
  have hparity : (shift * f.block + low) % 2 = low % 2 := by
    rw [hhalf, Nat.mul_left_comm]
    omega
  split
  · refine isNearest_of_between hden (by omega) (by omega) (.inr rfl) ⟨?_, Nat.le_refl _⟩ ?_ htop
    · unfold distance
      rw [hbelow, habove]
      omega
    · unfold distance
      rw [hbelow, habove]
      omega
  · rw [Nat.add_zero]
    refine isNearest_of_between hden (by omega) (by omega) (.inl rfl) ⟨Nat.le_refl _, ?_⟩ ?_ htop
    · unfold distance
      rw [hbelow, habove]
      omega
    · unfold distance
      rw [hbelow, habove]
      omega

/-- Of two ranks that are equally near, and so neighbours on both sides of the quotient, one is
odd. -/
theorem IsNearest.not_lt {num den a b : Nat} (hden : 0 < den) (ha : f.IsNearest num den a)
    (hb : f.IsNearest num den b) : ¬ a < b := by
  intro hab
  have hsame : f.distance num den a = f.distance num den b :=
    Nat.le_antisymm (ha.distance_le b hb.rank_le) (hb.distance_le a ha.rank_le)
  have hadjacent : ¬ a + 1 < b := by
    intro hgap
    have hmiddle := ha.distance_le (a + 1) (by have := hb.rank_le; omega)
    have hleft := Nat.mul_lt_mul_of_pos_right (f.units_lt_units_succ a) hden
    have hright := Nat.mul_lt_mul_of_pos_right (f.units_strictMono hgap) hden
    unfold distance at hsame hmiddle
    omega
  have heven := ha.even b hb.rank_le (by omega) hsame.symm
  have heven' := hb.even a ha.rank_le (by omega) hsame
  omega

theorem IsNearest.unique {num den a b : Nat} (hden : 0 < den) (ha : f.IsNearest num den a)
    (hb : f.IsNearest num den b) : a = b := by
  have hab := ha.not_lt hden hb
  have hba := hb.not_lt hden ha
  omega

end Format

namespace Binary

variable {f : Format}

/-- Whether an integer is rounded to this number. Zero keeps its positive sign. -/
def IsNearest (x : Binary f) (n : Int) : Prop :=
  ∃ rank rank_le, x = signed (decide (n < 0)) rank rank_le ∧ f.IsNearest n.natAbs 1 rank

theorem isNearest_iff (hf : 2 ≤ f.precision) {x : Binary f} {n : Int} :
    x.IsNearest n ↔ x = ofInt n := by
  have hofInt := Format.rankOfRatio_isNearest hf n.natAbs Nat.one_pos
  constructor
  · rintro ⟨rank, rank_le, rfl, hrank⟩
    have hsame := hrank.unique Nat.one_pos hofInt
    subst hsame
    rfl
  · rintro rfl
    exact ⟨_, _, rfl, hofInt⟩

end Binary

end Preferences
