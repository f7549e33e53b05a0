import Preferences.Proofs.Guarded
import Preferences.Proofs.TypedAccess

/-!
# Ranges of floating-point numbers

A range of floating-point numbers holds numbers that it takes, signed zeros and infinities included,
provided that both of its bounds are numbers. If a bound is no number the range takes nothing, not
even what it holds, and stays as it was built.
-/

namespace Preferences

variable {f : Format}

/-! ### Comparing with what is no number -/

namespace Binary

theorem not_le_nan (a : Binary f) : ¬ a ≤ .nan := by
  intro h
  obtain ⟨i, j, -, hj, -⟩ := le_iff.1 h
  cases hj

theorem not_nan_le (a : Binary f) : ¬ .nan ≤ a := by
  intro h
  obtain ⟨i, j, hi, -, -⟩ := le_iff.1 h
  cases hi

theorem not_lt_of_nan {a b : Binary f} (h : a = .nan ∨ b = .nan) : ¬ a < b := by
  intro hlt
  obtain ⟨i, j, hi, hj, -⟩ := lt_iff.1 hlt
  rcases h with rfl | rfl
  · cases hi
  · cases hj

end Binary

namespace Range

/-! ### Bounds -/

theorem order_of_nan {min max : Binary f} (h : min = .nan ∨ max = .nan) :
    order min max = (min, max, false) := if_neg (Binary.not_lt_of_nan h.symm)

theorem order_ne_nan {min max : Binary f} (hmin : min ≠ .nan) (hmax : max ≠ .nan) :
    (order min max).1 ≠ .nan ∧ (order min max).2.1 ≠ .nan := by
  unfold order
  split
  · exact ⟨hmax, hmin⟩
  · exact ⟨hmin, hmax⟩

theorem accepts_of_nan {r : Range (Binary f)} (h : r.min = .nan ∨ r.max = .nan)
    (value : Binary f) : r.accepts value = false := by
  refine decide_eq_false ?_
  rintro ⟨hmin, hmax⟩
  rcases h with h | h
  · exact Binary.not_nan_le value (h ▸ hmin)
  · exact Binary.not_le_nan value (h ▸ hmax)

/-! ### Runs -/

/-- What is always true of a range with given bounds and step. -/
structure Settled (min max step : Binary f) (r : Range (Binary f)) : Prop where
  min_eq : r.min = (order min max).1
  max_eq : r.max = (order min max).2.1
  step_eq : r.step = step
  guarded : min ≠ .nan → max ≠ .nan → r.Guarded
  stuck : min = .nan ∨ max = .nan → r = ⟨min, min, min, max, step⟩

variable {min max step : Binary f} {r : Range (Binary f)}

theorem set_of_not_accepts {value : Binary f} (h : r.accepts value = false) (id : Identity) :
    r.set id value = .failed r (r.refusal value) [.outsideRange id] := by
  unfold set
  rw [h]
  rfl

theorem Settled.accepts_of_nan (hr : r.Settled min max step) (h : min = .nan ∨ max = .nan)
    (value : Binary f) : r.accepts value = false := by
  rw [hr.stuck h]
  exact Range.accepts_of_nan h value

theorem build_of_nan (id : Identity) (value : Binary f) (h : min = .nan ∨ max = .nan) :
    (build id value min max step).1 = ⟨min, min, min, max, step⟩ := by
  have houtside : ¬ (min ≤ value ∧ value ≤ max) :=
    of_decide_eq_false (Range.accepts_of_nan (r := ⟨min, min, min, max, step⟩) h value)
  unfold build
  rw [order_of_nan h]
  simp [houtside]

theorem build_settled (id : Identity) (value min max step : Binary f) :
    (build id value min max step).1.Settled min max step where
  min_eq := rfl
  max_eq := rfl
  step_eq := rfl
  guarded := by
    intro hmin hmax
    obtain ⟨hmin', hmax'⟩ := order_ne_nan hmin hmax
    obtain ⟨hrefl, hle⟩ := order_binary hmin' hmax'
    exact build_guarded id value min max step hrefl hle
  stuck := build_of_nan id value

theorem set_settled (hr : r.Settled min max step) (id : Identity) (value : Binary f) :
    (r.set id value).state.Settled min max step := by
  -- With a bound that is no number every set is refused, so the range does not move.
  have hsame := set_sameMould (SameMould.refl r) id value
  refine ⟨hsame.min.trans hr.min_eq, hsame.max.trans hr.max_eq, hsame.step.trans hr.step_eq,
    fun hmin hmax => set_guarded (hr.guarded hmin hmax) id value, fun h => ?_⟩
  rw [set_of_not_accepts (hr.accepts_of_nan h value)]
  exact hr.stuck h

theorem reset_settled (hr : r.Settled min max step) : r.reset.Settled min max step where
  min_eq := hr.min_eq
  max_eq := hr.max_eq
  step_eq := hr.step_eq
  guarded := fun hmin hmax => reset_guarded (hr.guarded hmin hmax)
  stuck := by
    intro h
    rw [hr.stuck h]
    rfl

theorem run_settled (id : Identity) (value min max step : Binary f)
    (moves : List (Move (Binary f))) :
    ∀ r ∈ Move.run (fun r value => (set id r value).state) reset
      [(build id value min max step).1] moves, r.Settled min max step := by
  apply Move.forall_run (P := fun r : Range (Binary f) => r.Settled min max step)
  · exact fun r value hr => set_settled hr id value
  · exact fun r hr => reset_settled hr
  · exact build_settled id value min max step

/-! ### Holding what it takes -/

/-- The value and the default lie between the bounds, and can be set. -/
structure HoldsItsOwn (id : Identity) (r : Range (Binary f)) : Prop where
  guarded : r.Guarded
  accepts : ∀ own, own = r.value ∨ own = r.default → r.accepts own = true
  set_ok : ∀ own, own = r.value ∨ own = r.default → (r.set id own).result = .ok ()

theorem result_set_of_accepts {value : Binary f} (h : r.accepts value = true) (id : Identity) :
    (r.set id value).result = .ok () := by
  unfold set
  rw [if_pos h]
  rfl

theorem Guarded.holdsItsOwn (h : r.Guarded) (id : Identity) : r.HoldsItsOwn id := by
  have haccepts : ∀ own, own = r.value ∨ own = r.default → r.accepts own = true := by
    rintro own (rfl | rfl)
    · exact h.accepts_value
    · exact h.accepts_default
  exact ⟨h, haccepts, fun own hown => result_set_of_accepts (haccepts own hown) id⟩

theorem Settled.holdsItsOwn_iff (hr : r.Settled min max step) (id : Identity) :
    r.HoldsItsOwn id ↔ min ≠ .nan ∧ max ≠ .nan := by
  constructor
  · intro h
    have hnumbers : ¬ (min = .nan ∨ max = .nan) := by
      intro hnan
      have haccepts := h.accepts r.value (.inl rfl)
      rw [hr.accepts_of_nan hnan] at haccepts
      cases haccepts
    exact not_or.1 hnumbers
  · intro h
    exact (hr.guarded h.1 h.2).holdsItsOwn id

/-- What is known of a range with a bound that is no number. -/
structure Stuck (id : Identity) (min max step : Binary f) (r : Range (Binary f)) : Prop where
  eq : r = ⟨min, min, min, max, step⟩
  not_accepts : ∀ value, r.accepts value = false
  refused : ∀ value, r.set id value = .failed r (r.refusal value) [.outsideRange id]

theorem Settled.isStuck (hr : r.Settled min max step) (h : min = .nan ∨ max = .nan)
    (id : Identity) : r.Stuck id min max step :=
  ⟨hr.stuck h, hr.accepts_of_nan h, fun value => set_of_not_accepts (hr.accepts_of_nan h value) id⟩

end Range

/-! ### Preferences -/

theorem Body.set_floatRange (id : Identity) (r : Range Binary64) (value : Value) :
    ((floatRange r).set id value).state = floatRange r ∨
      ∃ x, ((floatRange r).set id value).state = floatRange (r.set id x).state := by
  cases value with
  | float x => exact .inr ⟨x, rfl⟩
  | _ => exact .inl rfl

theorem Body.Reaches.floatRange {id : Identity} {start body : Body} {min max step : Binary64}
    (h : Body.Reaches id start body)
    (hstart : ∃ r : Range Binary64, start = .floatRange r ∧ r.Settled min max step) :
    ∃ r : Range Binary64, body = .floatRange r ∧ r.Settled min max step := by
  apply h.keeps (P := fun b => ∃ r : Range Binary64, b = .floatRange r ∧ r.Settled min max step)
  · exact hstart
  · rintro b value ⟨r, rfl, hr⟩
    rcases Body.set_floatRange id r value with hsame | ⟨x, hset⟩
    · exact ⟨r, hsame, hr⟩
    · exact ⟨_, hset, Range.set_settled hr id x⟩
  · rintro b tick ⟨r, rfl, hr⟩
    exact ⟨_, rfl, Range.reset_settled hr⟩

/-- A range of floating-point numbers, after any sets and resets of any copies, holds a value and a
default that lie between its bounds and that it takes, exactly if both of its bounds are numbers.
Otherwise it takes nothing and is as it was built. The same is true of preferences that hold such
ranges, whatever is asked of them and restored to them. -/
theorem float_ranges_hold_their_own_iff (f : Format) (id : Identity)
    (value min max step : Binary f) (moves : List (Move (Binary f))) :
    (∀ r ∈ Move.run (fun r value => (Range.set id r value).state) Range.reset
      [(Range.build id value min max step).1] moves,
      (r.HoldsItsOwn id ↔ min ≠ .nan ∧ max ≠ .nan) ∧
      (min = .nan ∨ max = .nan → r.Stuck id min max step)) ∧
    ∀ (value min max step : Binary64) (tick : Int64) (start p : Preference) (log : List Event),
      Blueprint.build ⟨id, .floatRange value min max step⟩ tick = (.ok start, log) →
      start.Reaches p → ∃ r : Range Binary64, p.body = .floatRange r ∧
        (∀ own, (p.set (.float own)).result = (r.set id own).result) ∧
        (r.HoldsItsOwn id ↔ min ≠ .nan ∧ max ≠ .nan) ∧
        (min = .nan ∨ max = .nan → r.Stuck id min max step) := by
  constructor
  · intro r hr
    have hsettled := Range.run_settled id value min max step moves r hr
    exact ⟨hsettled.holdsItsOwn_iff id, fun h => hsettled.isStuck h id⟩
  · intro value min max step tick start p log hbuild hreaches
    cases hbuild
    obtain ⟨hid, hbody⟩ := hreaches.body
    obtain ⟨r, hr, hsettled⟩ :=
      hbody.floatRange ⟨_, rfl, Range.build_settled id value min max step⟩
    refine ⟨r, hr, fun own => ?_, hsettled.holdsItsOwn_iff id, fun h => hsettled.isStuck h id⟩
    rw [p.result_set, hr, hid]
    rfl

/-- A range that is given from infinity down to zero, copied and set, and a preference without a
lower bound to which a number is restored. -/
theorem infinite_range_holds_its_own :
    let id : Identity := ⟨"Display", "Width", "a", ""⟩
    let zero : Binary64 := .ofInt 0
    let top : Binary64 := .infinity false
    let built : Range Binary64 := ⟨zero, zero, zero, top, .ofInt 1⟩
    let moves : List (Move Binary64) := [.copy 0, .set 1 top, .set 0 .nan]
    let copies := Move.run (fun r value => (Range.set id r value).state) Range.reset
      [(Range.build id (.ofInt (-1)) top zero (.ofInt 1)).1] moves
    let blueprint : Blueprint := ⟨id, .floatRange (.ofInt 5) .nan (.ofInt 10) (.ofInt 1)⟩
    let stuck : Range Binary64 := (Range.build id (.ofInt 5) .nan (.ofInt 10) (.ofInt 1)).1
    let start : Preference := .ofBody id .numberRange (.floatRange stuck)
    let store : Store := Book.empty.insert "Display" "Width" (.float (.ofInt 5))
    (copies = [built, { built with value := top }] ∧ ∀ r ∈ copies, r.HoldsItsOwn id) ∧
    (∃ log, blueprint.build 0 = (.ok start, log)) ∧
    ∃ r : Range Binary64, (start.restoreFrom store).state.body = .floatRange r ∧
      r.value = .nan ∧ r.accepts (.ofInt 5) = false := by
  intro id zero top built moves copies blueprint stuck start store
  obtain ⟨hranges, hpreferences⟩ :=
    float_ranges_hold_their_own_iff binary64 id (.ofInt (-1)) top zero (.ofInt 1) moves
  have hcopies : copies = [built, { built with value := top }] := by decide +kernel
  obtain ⟨log, hbuild⟩ : ∃ log, blueprint.build 0 = (.ok start, log) := ⟨_, rfl⟩
  refine ⟨⟨hcopies, fun r hr => ?_⟩, ⟨log, hbuild⟩, ?_⟩
  · exact (hranges r hr).1.2 ⟨nofun, nofun⟩
  · obtain ⟨r, hr, -, -, hstuck⟩ :=
      hpreferences _ _ _ _ 0 start _ log hbuild (.restored .refl store)
    have hr' := hstuck (.inl rfl)
    exact ⟨r, hr, congrArg Range.value hr'.eq, hr'.not_accepts _⟩

/-- With no number as its upper bound, a range refuses the value that it was built with. -/
theorem range_up_to_nan_refuses_its_own :
    let id : Identity := ⟨"Display", "Width", "a", ""⟩
    let r : Range Binary64 := (Range.build id (.ofInt 5) (.ofInt 0) .nan (.ofInt 1)).1
    (r.value = .ofInt 0 ∧ r.default = .ofInt 0 ∧ r.min ≤ r.value ∧ ¬ r.value ≤ r.max) ∧
    r.accepts r.value = false ∧ r.accepts r.default = false ∧
    (r.set id r.value).result = .error (.outOfRange "0" "0" "NaN") ∧ ¬ r.HoldsItsOwn id := by
  intro id r
  have haccepts : r.accepts r.value = false := by decide +kernel
  have hrefusal : r.refusal r.value = .outOfRange "0" "0" "NaN" := by decide +kernel
  refine ⟨by decide +kernel, haccepts, by decide +kernel, ?_, fun h => ?_⟩
  · rw [Range.set_of_not_accepts haccepts, hrefusal]
    rfl
  · rw [h.accepts r.value (.inl rfl)] at haccepts
    cases haccepts

end Preferences
