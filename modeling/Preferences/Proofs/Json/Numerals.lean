import Preferences.Json.Printer
import Preferences.Json.Reader

/-!
# The text of a JSON number

A numeral has a sign, digits, perhaps a fraction and perhaps an exponent. Integers and floating-point
numbers are written as numerals, and a numeral is read as the number that its parts spell, whatever
follows it that could not be part of it.
-/

namespace Preferences

/-! ### Digits -/

namespace Decimal

theorem isSome_digitValue?_of_isDigit {c : Char} (h : c.isDigit = true) :
    (digitValue? 10 c).isSome = true := by
  have hrange : '0' ≤ c ∧ c ≤ '9' := by
    unfold Char.isDigit at h
    simpa [Char.le_def] using h
  have hvalue : c.toNat - '0'.toNat < 10 := by
    have hhigh : c.toNat ≤ '9'.toNat := hrange.2
    have hnine : '9'.toNat = 57 := rfl
    have hzero : '0'.toNat = 48 := rfl
    omega
  unfold digitValue?
  simp only [if_pos hrange, if_pos hvalue, Option.isSome_some]

theorem isDigit_of_mem_digitChars {n : Nat} {c : Char} (h : c ∈ digitChars n) :
    c.isDigit = true :=
  Nat.isDigit_of_mem_toDigits (by decide) (by decide) h

theorem digitChars_ne_nil (n : Nat) : digitChars n ≠ [] := Nat.toDigits_ne_nil

theorem digitChars_zero : digitChars 0 = ['0'] := rfl

theorem digitChars_of_pos {n : Nat} (hn : 0 < n) : ∃ c cs, digitChars n = c :: cs ∧ c ≠ '0' := by
  unfold digitChars
  induction n using Nat.base_induction 10 (by decide) with
  | single m hm =>
    have hdigits : ∀ m < 10, 0 < m → m.digitChar ≠ '0' := by decide
    rw [Nat.toDigits_of_lt_base hm]
    exact ⟨_, _, rfl, hdigits m hm hn⟩
  | digit m k hk hm ih =>
    obtain ⟨c, cs, hcs, hc⟩ := ih hm
    rw [← Nat.toDigits_append_toDigits (by decide) hm hk, hcs]
    exact ⟨c, _, rfl, hc⟩

/-- The digits of a number begin with zero only if that is the only one. -/
theorem digitChars_leading (n : Nat) :
    digitChars n = ['0'] ∨ ∃ c cs, digitChars n = c :: cs ∧ c ≠ '0' := by
  rcases Nat.eq_zero_or_pos n with rfl | hn
  · exact .inl digitChars_zero
  · exact .inr (digitChars_of_pos hn)

end Decimal

namespace Json

/-! ### Numerals -/

/-- The parts of the text of a number. Digits do not begin with zero, unless that is the only one. -/
structure Numeral where
  negative : Bool
  whole : List Char
  fraction? : Option (List Char)
  exponent? : Option Int
  whole_digits : ∀ c ∈ whole, c.isDigit = true
  whole_leading : whole = ['0'] ∨ ∃ c cs, whole = c :: cs ∧ c ≠ '0'
  fraction_digits : ∀ ds ∈ fraction?, ds ≠ [] ∧ ∀ c ∈ ds, c.isDigit = true

namespace Numeral

theorem whole_cons (t : Numeral) : ∃ c cs, t.whole = c :: cs ∧ c.isDigit = true := by
  rcases t.whole_leading with h | ⟨c, cs, h, -⟩
  · exact ⟨_, _, h, rfl⟩
  · exact ⟨c, cs, h, t.whole_digits c (h ▸ List.mem_cons_self)⟩

def fractionChars : Option (List Char) → List Char
  | none => []
  | some ds => '.' :: ds

def exponentChars : Option Int → List Char
  | none => []
  | some n => 'e' :: (if n < 0 then '-' else '+') :: Decimal.digitChars n.natAbs

def unsignedChars (t : Numeral) : List Char :=
  t.whole ++ fractionChars t.fraction? ++ exponentChars t.exponent?

def chars (t : Numeral) : List Char :=
  if t.negative then '-' :: t.unsignedChars else t.unsignedChars

def value? (t : Numeral) : Option Value := number? t.negative t.whole t.fraction? t.exponent?

/-- A fraction or an exponent tells a numeral from that of an integer. -/
def IsFloat (t : Numeral) : Prop := (t.fraction?.isNone && t.exponent?.isNone) = false

theorem IsFloat.value? {t : Numeral} (h : t.IsFloat) {value : Value} (hvalue : t.value? = some value) :
    ∃ x, value = .float x := by
  have hinteger : ¬ ((t.fraction?.isNone && t.exponent?.isNone) &&
      !(t.negative && (Nat.ofDigitChars 10 t.whole 0 : Int) == 0)) = true := by
    rw [h, Bool.false_and]
    exact Bool.false_ne_true
  unfold Numeral.value? number? at hvalue
  dsimp only at hvalue
  rw [if_neg fun hall => hinteger hall.1] at hvalue
  split at hvalue
  · cases hvalue
    exact ⟨_, rfl⟩
  · cases hvalue

end Numeral

/-! ### Reading numerals -/

/-- A character that could go on with a number. -/
def continues (c : Char) : Bool :=
  (Decimal.digitValue? 10 c).isSome || c == '.' || c == 'e' || c == 'E'

/-- What follows could not be part of a number. -/
def Ends (rest : List Char) : Prop := ∀ c ∈ rest.head?, continues c = false

theorem Ends.head {rest : List Char} (h : Ends rest) : ∀ c ∈ rest.head?,
    (Decimal.digitValue? 10 c).isSome = false ∧ c ≠ '.' ∧ ¬ (c = 'e' ∨ c = 'E') := by
  intro c hc
  have hend := h c hc
  unfold continues at hend
  simp only [Bool.or_eq_false_iff, beq_eq_false_iff_ne] at hend
  obtain ⟨⟨⟨hdigit, hpoint⟩, hsmall⟩, hlarge⟩ := hend
  exact ⟨hdigit, hpoint, fun hletter => hletter.elim hsmall hlarge⟩

theorem digits_append {ds rest : List Char} (hne : ds ≠ []) (hds : ∀ c ∈ ds, c.isDigit = true)
    (hrest : ∀ c ∈ rest.head?, (Decimal.digitValue? 10 c).isSome = false) :
    Scan.digits 10 (ds ++ rest) = some (ds, rest) := by
  have hall : ∀ c ∈ ds, (Decimal.digitValue? 10 c).isSome = true :=
    fun c hc => Decimal.isSome_digitValue?_of_isDigit (hds c hc)
  have hstop : rest.takeWhile (fun c => (Decimal.digitValue? 10 c).isSome) = [] ∧
      rest.dropWhile (fun c => (Decimal.digitValue? 10 c).isSome) = rest := by
    cases rest with
    | nil => exact ⟨rfl, rfl⟩
    | cons c cs =>
      have hc := hrest c rfl
      simp [hc]
  unfold Scan.digits Scan.run
  rw [List.takeWhile_append_of_pos hall, List.dropWhile_append_of_pos hall, hstop.1, hstop.2,
    List.append_nil]
  simp [hne]

theorem whole_append (t : Numeral) {rest : List Char}
    (hrest : ∀ c ∈ rest.head?, (Decimal.digitValue? 10 c).isSome = false) :
    whole (t.whole ++ rest) = some (t.whole, rest) := by
  rcases t.whole_leading with hzero | ⟨c, cs, hcons, hc⟩
  · rw [hzero]
    rfl
  · have hdigits := digits_append (List.ne_nil_of_mem (hcons ▸ List.mem_cons_self)) t.whole_digits
      hrest
    rw [hcons] at hdigits ⊢
    rw [List.cons_append] at hdigits ⊢
    unfold whole
    split
    · rename_i heq
      cases heq
      exact absurd rfl hc
    · exact hdigits

theorem fraction_append {fraction? : Option (List Char)} {rest : List Char}
    (hds : ∀ ds ∈ fraction?, ds ≠ [] ∧ ∀ c ∈ ds, c.isDigit = true)
    (hrest : ∀ c ∈ rest.head?, (Decimal.digitValue? 10 c).isSome = false ∧ c ≠ '.') :
    fraction (Numeral.fractionChars fraction? ++ rest) = some (fraction?, rest) := by
  cases fraction? with
  | none =>
    show fraction rest = some (none, rest)
    unfold fraction
    split
    · exact absurd rfl (hrest '.' rfl).2
    · rfl
  | some ds =>
    obtain ⟨hne, hall⟩ := hds ds rfl
    show (Scan.digits 10 (ds ++ rest)).map _ = _
    rw [digits_append hne hall fun c hc => (hrest c hc).1]
    rfl

theorem exponentDigits_append (negative : Bool) (n : Nat) {rest : List Char} (hrest : Ends rest) :
    exponentDigits negative (Decimal.digitChars n ++ rest) =
      some (some (if negative then -(n : Int) else n), rest) := by
  have hdigits := digits_append (Decimal.digitChars_ne_nil n)
    (fun c => Decimal.isDigit_of_mem_digitChars) fun c hc => (hrest.head c hc).1
  have hvalue : Nat.ofDigitChars 10 (Decimal.digitChars n) 0 = n := Nat.ofDigitChars_ten_toDigits
  unfold exponentDigits
  rw [hdigits]
  dsimp only [Option.map_some]
  rw [hvalue]

theorem exponent_append (exponent? : Option Int) {rest : List Char} (hrest : Ends rest) :
    exponent (Numeral.exponentChars exponent? ++ rest) = some (exponent?, rest) := by
  cases exponent? with
  | none =>
    show exponent rest = some (none, rest)
    cases rest with
    | nil => rfl
    | cons c cs => exact if_neg (hrest.head c rfl).2.2
  | some n =>
    show exponent ('e' :: (if n < 0 then '-' else '+') :: (Decimal.digitChars n.natAbs ++ rest)) = _
    by_cases hn : n < 0
    · have hsame : -(n.natAbs : Int) = n := by omega
      rw [if_pos hn]
      show exponentDigits true (Decimal.digitChars n.natAbs ++ rest) = _
      rw [exponentDigits_append true n.natAbs hrest, if_pos rfl, hsame]
    · have hsame : (n.natAbs : Int) = n := by omega
      rw [if_neg hn]
      show exponentDigits false (Decimal.digitChars n.natAbs ++ rest) = _
      rw [exponentDigits_append false n.natAbs hrest, if_neg Bool.false_ne_true, hsame]

/-- A numeral is read as what it spells, and what follows is left. -/
theorem number_append (t : Numeral) {rest : List Char} (hrest : Ends rest) :
    number (t.chars ++ rest) = t.value?.map fun value => (value, rest) := by
  have hexponent := exponent_append t.exponent? hrest
  have hpast : ∀ c ∈ (Numeral.exponentChars t.exponent? ++ rest).head?,
      (Decimal.digitValue? 10 c).isSome = false ∧ c ≠ '.' := by
    cases t.exponent? with
    | none => exact fun c hc => ⟨(hrest.head c hc).1, (hrest.head c hc).2.1⟩
    | some n =>
      rintro _ ⟨⟩
      exact ⟨rfl, by decide⟩
  have hfraction := fraction_append t.fraction_digits hpast
  have hpoint : ∀ c ∈ (Numeral.fractionChars t.fraction? ++
      (Numeral.exponentChars t.exponent? ++ rest)).head?,
      (Decimal.digitValue? 10 c).isSome = false := by
    cases t.fraction? with
    | none => exact fun c hc => (hpast c hc).1
    | some ds =>
      rintro _ ⟨⟩
      rfl
  have hwhole := whole_append t hpoint
  have hparts : ∀ negative, t.negative = negative →
      ((whole (t.unsignedChars ++ rest)).bind fun w => (fraction w.2).bind fun f =>
        (exponent f.2).bind fun e => (number? negative w.1 f.1 e.1).bind fun value =>
          some (value, e.2)) = t.value?.map fun value => (value, rest) := by
    rintro _ rfl
    unfold Numeral.unsignedChars Numeral.value?
    rw [List.append_assoc, List.append_assoc, hwhole]
    simp only [Option.bind_some, hfraction, hexponent]
    rw [Option.map_eq_bind]
    rfl
  unfold number Numeral.chars
  cases hsign : t.negative with
  | true => exact hparts true hsign
  | false =>
    rw [if_neg Bool.false_ne_true]
    obtain ⟨c, cs, hcons, hc⟩ := t.whole_cons
    have hstart : ∃ cs, t.unsignedChars ++ rest = c :: cs := by
      unfold Numeral.unsignedChars
      rw [hcons]
      exact ⟨_, rfl⟩
    obtain ⟨cs, hstart⟩ := hstart
    have hplain : c ≠ '-' := by
      rintro rfl
      cases hc
    have hread := hparts false hsign
    rw [hstart] at hread ⊢
    split
    · rename_i hcase
      split at hcase
      · rename_i hminus
        cases hminus
        exact absurd rfl hplain
      · cases hcase
        exact hread

/-! ### Writing numerals -/

namespace Numeral

def ofInt (n : Int) : Numeral where
  negative := decide (n < 0)
  whole := Decimal.digitChars n.natAbs
  fraction? := none
  exponent? := none
  whole_digits _ := Decimal.isDigit_of_mem_digitChars
  whole_leading := Decimal.digitChars_leading n.natAbs
  fraction_digits _ h := (nomatch h)

theorem chars_ofInt (n : Int) : (ofInt n).chars = (toString n).toList := by
  have hunsigned : (ofInt n).unsignedChars = Decimal.digitChars n.natAbs := by
    unfold ofInt unsignedChars fractionChars exponentChars
    rw [List.append_nil, List.append_nil]
  have hrepr : ∀ m : Nat, m.repr.toList = Decimal.digitChars m := fun m => Nat.toList_repr
  unfold chars
  rw [hunsigned, Int.toString_eq_repr, Int.repr_eq_if]
  by_cases hn : n < 0
  · have hsame : (-n).toNat = n.natAbs := by omega
    have hsign : (ofInt n).negative = true := decide_eq_true hn
    rw [hsign, if_pos rfl, if_neg (by omega), String.toList_append, hrepr, hsame]
    rfl
  · have hsame : n.toNat = n.natAbs := by omega
    have hsign : (ofInt n).negative = false := decide_eq_false hn
    rw [hsign, if_neg Bool.false_ne_true, if_pos (by omega), hrepr, hsame]

theorem value?_ofInt (n : Int64) : (ofInt n.toInt).value? = some (.integer n) := by
  have hlow := Int64.minValue_le_toInt n
  have hhigh := Int64.toInt_le n
  have hdigits : Nat.ofDigitChars 10 (Decimal.digitChars n.toInt.natAbs) 0 = n.toInt.natAbs :=
    Nat.ofDigitChars_ten_toDigits
  have hsame : (if decide (n.toInt < 0) = true then -(n.toInt.natAbs : Int)
      else n.toInt.natAbs) = n.toInt := by
    simp only [decide_eq_true_eq]
    split <;> omega
  have hsign : (!(decide (n.toInt < 0) && (n.toInt.natAbs : Int) == 0)) = true := by
    simp only [Bool.not_eq_true', Bool.and_eq_false_iff, decide_eq_false_iff_not,
      beq_eq_false_iff_ne]
    omega
  unfold value? ofInt number?
  dsimp only
  rw [hdigits, hsame, hsign, if_pos ⟨rfl, hlow, hhigh⟩, Int64.ofInt_toInt]

end Numeral

end Json

/-! ### Decimals -/

namespace Decimal

/-- A normal decimal of zero has no exponent. -/
theorem exponent_normal {d : Decimal} (h : d.normal.digits = 0) : d.normal.exponent = 0 := by
  unfold normal at h ⊢
  split
  · rfl
  · rename_i hd
    rw [if_neg hd] at h
    dsimp only at h
    -- What was cut off are zeros, so the digits spelled zero before.
    have hsplit := List.takeWhile_append_dropWhile (p := (· == '0'))
      (l := (digitChars d.digits).reverse)
    have hcut : ∀ c ∈ ((digitChars d.digits).reverse.takeWhile (· == '0')).reverse, c = '0' := by
      intro c hc
      have hmem := List.mem_reverse.1 hc
      have hall := List.all_eq_true.1 (List.all_takeWhile (p := (· == '0'))) c hmem
      simpa using hall
    have hspelled : Nat.ofDigitChars 10 (digitChars d.digits) 0 = d.digits :=
      Nat.ofDigitChars_ten_toDigits
    rw [← List.reverse_reverse (digitChars d.digits), ← hsplit, List.reverse_append,
      Nat.ofDigitChars_append, h, List.eq_replicate_of_mem hcut,
      Nat.ofDigitChars_replicate_zero] at hspelled
    exact absurd hspelled.symm hd

end Decimal

namespace Json

theorem isDigit_zeros {n : Nat} {c : Char} (h : c ∈ Layout.zeros n) : c.isDigit = true := by
  rw [(List.mem_replicate.1 h).2]
  rfl

section

variable (negative : Bool) {ds : List Char} (hdigits : ∀ c ∈ ds, c.isDigit = true)
include hdigits

/-- Without an exponent the point stands after the digits, between them, or before them. -/
theorem exists_numeral_positional (hleading : ds = ['0'] ∨ ∃ c cs, ds = c :: cs ∧ c ≠ '0')
    {exponent : Int} (hzero : ds = ['0'] → exponent = 0) :
    ∃ t : Numeral, t.negative = negative ∧ t.IsFloat ∧
      t.unsignedChars = numbers.positional ds exponent := by
  unfold Layout.positional
  dsimp only
  split
  · refine ⟨⟨negative, ds ++ Layout.zeros exponent.toNat, some ['0'], none, ?_, ?_, ?_⟩, rfl, rfl,
      ?_⟩
    · intro c hc
      exact (List.mem_append.1 hc).elim (hdigits c) isDigit_zeros
    · rcases hleading with hds | ⟨c, cs, hds, hc⟩
      · left
        rw [hzero hds, hds]
        rfl
      · exact .inr ⟨c, cs ++ Layout.zeros exponent.toNat, by rw [hds, List.cons_append], hc⟩
    · rintro _ ⟨⟩
      exact ⟨List.cons_ne_nil _ _, by simp⟩
    · exact List.append_nil _
  · split
    · rename_i hplaces
      generalize hcut : ds.length - (-exponent).toNat = cut
      refine ⟨⟨negative, ds.take cut, some (ds.drop cut), none, ?_, ?_, ?_⟩, rfl, rfl, ?_⟩
      · exact fun c hc => hdigits c (List.mem_of_mem_take hc)
      · rcases hleading with hds | ⟨c, cs, hds, hc⟩
        · have hexponent := hzero hds
          omega
        · obtain ⟨m, rfl⟩ : ∃ m, cut = m + 1 := ⟨cut - 1, by omega⟩
          exact .inr ⟨c, cs.take m, by rw [hds, List.take_succ_cons], hc⟩
      · rintro _ ⟨⟩
        refine ⟨?_, fun c hc => hdigits c (List.mem_of_mem_drop hc)⟩
        rw [ne_eq, List.drop_eq_nil_iff]
        omega
      · exact List.append_nil _
    · refine ⟨⟨negative, ['0'], some (Layout.zeros ((-exponent).toNat - ds.length) ++ ds), none,
        by simp, .inl rfl, ?_⟩, rfl, rfl, ?_⟩
      · rintro _ ⟨⟩
        constructor
        · rcases hleading with hds | ⟨c, cs, hds, -⟩ <;> simp [hds]
        · intro c hc
          exact (List.mem_append.1 hc).elim isDigit_zeros (hdigits c)
      · exact List.append_nil _

theorem exists_numeral_scientific (hne : ds ≠ []) (leading : Int) :
    ∃ t : Numeral, t.negative = negative ∧ t.IsFloat ∧
      t.unsignedChars = Layout.scientific ds leading := by
  -- One digit stands before the point, and the others, if there are any, after it.
  have hsingle : ∀ c : Char, [c] = ['0'] ∨ ∃ d cs, [c] = d :: cs ∧ d ≠ '0' := by
    intro c
    by_cases hc : c = '0'
    · exact .inl (by rw [hc])
    · exact .inr ⟨c, [], rfl, hc⟩
  cases ds with
  | nil => exact absurd rfl hne
  | cons first others =>
    have hfirst : ∀ c ∈ [first], c.isDigit = true := by
      intro c hc
      rw [List.mem_singleton.1 hc]
      exact hdigits first List.mem_cons_self
    cases others with
    | nil => exact ⟨⟨negative, [first], none, some leading, hfirst, hsingle first,
        fun _ h => (nomatch h)⟩, rfl, rfl, rfl⟩
    | cons second rest =>
      refine ⟨⟨negative, [first], some (second :: rest), some leading, hfirst, hsingle first, ?_⟩,
        rfl, rfl, rfl⟩
      rintro _ ⟨⟩
      exact ⟨List.cons_ne_nil _ _, fun c hc => hdigits c (List.mem_cons_of_mem first hc)⟩

end

theorem exists_numeral_of_decimal (negative : Bool) {d : Decimal}
    (hd : d.digits = 0 → d.exponent = 0) :
    ∃ t : Numeral, t.negative = negative ∧ t.IsFloat ∧
      t.unsignedChars = numbers.renderDecimal d := by
  have hdigits : ∀ c ∈ Decimal.digitChars d.digits, c.isDigit = true :=
    fun _ => Decimal.isDigit_of_mem_digitChars
  unfold Layout.renderDecimal
  dsimp only
  split
  · refine exists_numeral_positional negative hdigits (Decimal.digitChars_leading d.digits) ?_
    intro h
    have hspelled : Nat.ofDigitChars 10 (Decimal.digitChars d.digits) 0 = d.digits :=
      Nat.ofDigitChars_ten_toDigits
    rw [h] at hspelled
    exact hd hspelled.symm
  · exact exists_numeral_scientific negative hdigits (Decimal.digitChars_ne_nil d.digits) _

theorem exists_numeral {x : Binary64} (h : x.isFinite = true) :
    ∃ t : Numeral, t.IsFloat ∧ t.chars = (numbers.render x).toList := by
  cases x with
  | nan => cases h
  | signed negative rank rank_le =>
    have hrank : ¬ rank = binary64.top := Nat.ne_of_lt (of_decide_eq_true h)
    obtain ⟨t, hnegative, hfloat, hchars⟩ := exists_numeral_of_decimal negative
      (d := binary64.shortest numbers.tie rank) Decimal.exponent_normal
    refine ⟨t, hfloat, ?_⟩
    unfold Layout.render Numeral.chars
    dsimp only
    rw [if_neg hrank, String.toList_ofList, hnegative, hchars]

end Json

end Preferences
