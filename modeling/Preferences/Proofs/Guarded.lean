import Preferences.Proofs.GuardedKinds
import Preferences.Proofs.Reach

/-!
# Guarded preferences

The invariants of the kinds that refuse values hold of the bodies of preferences, whatever is asked
of these and whatever they take over from stores. The lower bound of a range of floating-point
numbers may be no number, and such a range need not hold a number that it takes.
-/

namespace Preferences

/-! ### Floating-point bounds -/

namespace Binary

variable {f : Format}

theorem key?_isSome {a : Binary f} (h : a ≠ .nan) : ∃ i, a.key? = some i := by
  cases a with
  | nan => exact absurd rfl h
  | signed negative rank rank_le => exact ⟨_, rfl⟩

theorem le_self {a : Binary f} (h : a ≠ .nan) : a ≤ a := by
  obtain ⟨i, hi⟩ := key?_isSome h
  exact le_iff.2 ⟨i, i, hi, hi, Int.le_refl i⟩

theorem le_of_not_lt {a b : Binary f} (ha : a ≠ .nan) (hb : b ≠ .nan) (h : ¬ b < a) : a ≤ b := by
  obtain ⟨i, hi⟩ := key?_isSome ha
  obtain ⟨j, hj⟩ := key?_isSome hb
  refine le_iff.2 ⟨i, j, hi, hj, ?_⟩
  have hji : ¬ j < i := fun hlt => h (lt_iff.2 ⟨j, i, hj, hi, hlt⟩)
  omega

theorem le_of_lt {a b : Binary f} (h : a < b) : a ≤ b := by
  obtain ⟨i, j, hi, hj, hij⟩ := lt_iff.1 h
  exact le_iff.2 ⟨i, j, hi, hj, by omega⟩

end Binary

namespace Range

variable {f : Format}

theorem order_binary {min max : Binary f} (hmin : (order min max).1 ≠ .nan)
    (hmax : (order min max).2.1 ≠ .nan) :
    (order min max).1 ≤ (order min max).1 ∧ (order min max).1 ≤ (order min max).2.1 := by
  refine ⟨Binary.le_self hmin, ?_⟩
  unfold order at hmin hmax ⊢
  split
  · rename_i hlt
    exact Binary.le_of_lt hlt
  · rename_i hnlt
    rw [if_neg hnlt] at hmin hmax
    exact Binary.le_of_not_lt hmin hmax hnlt

end Range

/-! ### Bodies -/

namespace Body

/-- What a body holds is what it would take. -/
def Guarded : Body → Prop
  | choice c => c.Guarded
  | intRange r => r.Guarded
  | floatRange r => r.min ≠ .nan → r.max ≠ .nan → r.Guarded
  | checkedReference c => c.Guarded
  | _ => True

/-- The parts that are fixed when a body is built are the same. -/
def SameMould : Body → Body → Prop
  | text p, text q => p.default = q.default
  | flag p, flag q => p.default = q.default
  | integer p, integer q => p.default = q.default
  | reference p, reference q => p.default = q.default
  | references p, references q => p.default = q.default
  | choice c, choice d => c.SameMould d
  | intRange r, intRange s => r.SameMould s
  | floatRange r, floatRange s => r.SameMould s
  | checkedReference c, checkedReference d => c.SameMould d
  | date d, date e => d.service = e.service
  | _, _ => False

theorem SameMould.refl (body : Body) : SameMould body body := by
  cases body with
  | choice c => exact Choice.SameMould.refl c
  | intRange r => exact Range.SameMould.refl r
  | floatRange r => exact Range.SameMould.refl r
  | checkedReference c => exact Checked.SameMould.refl c
  | _ => exact rfl

theorem set_guarded {body : Body} (h : body.Guarded) (id : Identity) (value : Value) :
    (body.set id value).state.Guarded := by
  cases body with
  | choice c =>
    cases value with
    | text key => exact Choice.set_guarded h id key
    | _ => exact h
  | intRange r =>
    cases value with
    | int32 n => exact Range.set_guarded h id n
    | _ => exact h
  | floatRange r =>
    cases value with
    | float x =>
      intro hmin hmax
      have hsame := Range.set_sameMould (Range.SameMould.refl r) id x
      exact Range.set_guarded (h (hsame.min ▸ hmin) (hsame.max ▸ hmax)) id x
    | _ => exact h
  | checkedReference c =>
    cases value with
    | reference guid => exact Checked.set_guarded h id guid
    | _ => exact h
  | text p | flag p | integer p | reference p | references p | date d =>
    cases value <;> exact trivial

theorem reset_guarded {body : Body} (h : body.Guarded) (tick : Int64) :
    (body.reset tick).Guarded := by
  cases body with
  | choice c => exact Choice.reset_guarded h
  | intRange r => exact Range.reset_guarded h
  | floatRange r => exact fun hmin hmax => Range.reset_guarded (h hmin hmax)
  | checkedReference c => exact Checked.reset_guarded h
  | _ => exact trivial

theorem set_sameMould {body start : Body} (h : body.SameMould start) (id : Identity)
    (value : Value) : (body.set id value).state.SameMould start := by
  cases body <;> cases start <;> try exact h.elim
  case choice.choice c d =>
    cases value with
    | text key => exact Choice.set_sameMould h id key
    | _ => exact h
  case intRange.intRange r s =>
    cases value with
    | int32 n => exact Range.set_sameMould h id n
    | _ => exact h
  case floatRange.floatRange r s =>
    cases value with
    | float x => exact Range.set_sameMould h id x
    | _ => exact h
  case checkedReference.checkedReference c d =>
    cases value with
    | reference guid => exact Checked.set_sameMould h id guid
    | _ => exact h
  case date.date d e =>
    cases value with
    | selection selection => cases selection <;> exact h
    | _ => exact h
  all_goals cases value <;> exact h

theorem reset_sameMould {body start : Body} (h : body.SameMould start) (tick : Int64) :
    (body.reset tick).SameMould start := by
  cases body <;> cases start <;> try exact h
  case choice.choice c d => exact Choice.reset_sameMould h
  case intRange.intRange r s => exact Range.reset_sameMould h
  case floatRange.floatRange r s => exact Range.reset_sameMould h
  case checkedReference.checkedReference c d => exact Checked.reset_sameMould h

theorem Reaches.guarded {id : Identity} {start body : Body} (h : Reaches id start body)
    (hstart : start.Guarded) : body.Guarded ∧ body.SameMould start :=
  h.keeps (P := fun b => b.Guarded ∧ b.SameMould start) ⟨hstart, SameMould.refl start⟩
    (fun _ value hb => ⟨set_guarded hb.1 id value, set_sameMould hb.2 id value⟩)
    (fun _ tick hb => ⟨reset_guarded hb.1 tick, reset_sameMould hb.2 tick⟩)

end Body

/-! ### Preferences -/

theorem Design.buildChoice_built {id : Identity} {entries : List Entry} {default : Option String}
    {c : Choice} (h : buildChoice id entries default = .ok c) : Choice.Built id entries c := by
  unfold buildChoice at h
  cases hbuild : Choice.build id entries with
  | error e =>
    rw [hbuild] at h
    cases h
  | ok first =>
    rw [hbuild] at h
    cases default with
    | none =>
      cases h
      exact .first hbuild
    | some key => exact .withDefault (.first hbuild) h

theorem ok_of_map {α β : Type} {f : α → β} {result : Except Error α} {b : β}
    (h : result.map f = .ok b) : ∃ a, result = .ok a ∧ b = f a := by
  cases result with
  | error e => cases h
  | ok a =>
    cases h
    exact ⟨a, rfl, rfl⟩

theorem Blueprint.build_guarded {blueprint : Blueprint} {tick : Int64} {p : Preference}
    {log : List Event} (h : blueprint.build tick = (.ok p, log)) : p.body.Guarded := by
  obtain ⟨id, design⟩ := blueprint
  have hresult : (design.build id tick).1 = .ok p := congrArg Prod.fst h
  cases design with
  | intRange value min max step =>
    cases hresult
    exact Range.build_guarded id value min max step (Std.le_refl _) (Range.order_le min max)
  | floatRange value min max step =>
    cases hresult
    intro hmin hmax
    obtain ⟨hrefl, hle⟩ := Range.order_binary hmin hmax
    exact Range.build_guarded id value min max step hrefl hle
  | choice entries default control =>
    obtain ⟨c, hc, rfl⟩ := ok_of_map hresult
    exact (Design.buildChoice_built hc).guarded.1
  | checked value accepts control =>
    obtain ⟨c, hc, rfl⟩ := ok_of_map hresult
    exact Checked.build_guarded hc
  | checkedWithData value accepts data =>
    obtain ⟨c, hc, rfl⟩ := ok_of_map hresult
    exact Checked.build_guarded hc
  | date service =>
    obtain ⟨s, hs, rfl⟩ := ok_of_map hresult
    exact trivial
  | text _ _ | flag _ _ | integer _ _ | reference _ _ | references _ _ =>
    cases hresult
    exact trivial

theorem Preference.Reachable.guarded {p : Preference} (h : p.Reachable) : p.body.Guarded := by
  obtain ⟨blueprint, tick, start, log, hbuild, hreaches⟩ := h
  exact (hreaches.body.2.guarded (blueprint.build_guarded hbuild)).1

/-- Guarded kinds never hold a value that they would refuse, and keep their moulds: as values of
their own, of which copies may be made and set and reset in any order, and as the bodies of
preferences, in any order of asks and restorations and in every run of a session. -/
theorem guarded_kinds_hold_what_they_take :
    (∀ (α : Type) (id : Identity) (accepts : α → Bool) (data : Option α) (value : α)
      (start : Checked α), Checked.build id accepts data value = .ok start →
      ∀ moves : List (Move α),
      ∀ c ∈ Move.run (fun c value => (Checked.set id c value).state) Checked.reset [start] moves,
        c.accepts c.value = true ∧ c.accepts c.default = true ∧
        c.accepts = accepts ∧ c.default = value ∧ c.data = data) ∧
    (∀ (id : Identity) (entries : List Entry) (start : Choice), Choice.Built id entries start →
      ∀ moves : List (Move String),
      ∀ c ∈ Move.run (fun c key => (Choice.set id c key).state) Choice.reset [start] moves,
        c.accepts c.value = true ∧ c.accepts c.defaultValue = true ∧
        Choice.place? c.entries c.value = some c.selected ∧
        Choice.place? c.entries c.defaultValue = some c.default ∧
        (c.isChanged = true ↔ c.value ≠ c.defaultValue) ∧
        c.entries = entries ∧ c.default.val = start.default.val) ∧
    (∀ (α : Type) [LE α] [LT α] [DecidableLE α] [DecidableLT α] [Shown α] [Std.IsLinearOrder α]
      [Std.LawfulOrderLT α] (id : Identity) (value min max step : α) (moves : List (Move α)),
      ∀ r ∈ Move.run (fun r value => (Range.set id r value).state) Range.reset
        [(Range.build id value min max step).1] moves,
        r.accepts r.value = true ∧ r.accepts r.default = true ∧
        (r.min ≤ r.value ∧ r.value ≤ r.max) ∧ (r.min ≤ r.default ∧ r.default ≤ r.max) ∧
        (r.min, r.max) = (if max < min then (max, min) else (min, max)) ∧ r.step = step ∧
        r.default = if r.min ≤ value ∧ value ≤ r.max then value else r.min) ∧
    (∀ (blueprint : Blueprint) (tick : Int64) (start p : Preference) (log : List Event),
      blueprint.build tick = (.ok start, log) → start.Reaches p →
      p.body.Guarded ∧ p.body.SameMould start.body) ∧
    ∀ (clock : Int64) (requests : List Request) (place : Place) (p : Preference),
      ((Session.start clock).run requests).1.preference? place = some p → p.body.Guarded := by
  refine ⟨?_, ?_, ?_, ?_, ?_⟩
  · intro α id accepts data value start hbuild moves c hc
    obtain ⟨hguarded, hmould⟩ := Checked.run_guarded hbuild moves c hc
    obtain ⟨-, rfl⟩ := Checked.build_eq hbuild
    exact ⟨hguarded.accepts_value, hguarded.accepts_default, hmould.accepts, hmould.default,
      hmould.data⟩
  · intro id entries start hbuilt moves c hc
    obtain ⟨hguarded, hmould⟩ := Choice.run_guarded hbuilt moves c hc
    have hentries : c.entries = entries := hmould.entries.trans hbuilt.guarded.2
    exact ⟨hguarded.accepts_value, hguarded.accepts_defaultValue, hguarded.place_value,
      hguarded.place_defaultValue, hguarded.isChanged_iff, hentries, hmould.default⟩
  · intro α _ _ _ _ _ _ _ id value min max step moves r hr
    obtain ⟨hguarded, hmould⟩ := Range.run_guarded id value min max step moves r hr
    have hbounds : (r.min, r.max) = if max < min then (max, min) else (min, max) := by
      rw [hmould.min, hmould.max, Range.build_min, Range.build_max]
      unfold Range.order
      split <;> rfl
    refine ⟨hguarded.accepts_value, hguarded.accepts_default,
      ⟨hguarded.min_le_value, hguarded.value_le_max⟩,
      ⟨hguarded.min_le_default, hguarded.default_le_max⟩, hbounds, hmould.step, ?_⟩
    rw [hmould.default, Range.build_default, hmould.min, hmould.max, Range.build_min,
      Range.build_max]
  · intro blueprint tick start p log hbuild hreaches
    exact hreaches.body.2.guarded (blueprint.build_guarded hbuild)
  · intro clock requests place p hp
    exact (((Session.start_sound clock).run requests).preference hp).guarded

/-- A validated number, a choice between entries that share a key, a range whose bounds were given
in the wrong order, a preference that refuses a stored key, and one in a session. -/
theorem shared_keys_and_swapped_bounds_hold_what_they_take :
    let id : Identity := ⟨"General", "Style", "a", ""⟩
    let small : Nat → Bool := fun n => decide (n < 10)
    let number : Checked Nat := ⟨3, 3, small, none⟩
    let entries : List Entry :=
      [⟨"plain", "Plain", ""⟩, ⟨"fancy", "Fancy", ""⟩, ⟨"fancy", "Odd", ""⟩]
    let choice : Choice := ⟨entries, ⟨1, by decide⟩, ⟨1, by decide⟩⟩
    let blueprint : Blueprint := ⟨id, .choice entries (some "fancy") .multichoice⟩
    let p : Preference := .ofBody id .multichoice (.choice choice)
    let store : Store := Book.empty.insert "General" "Style" (.text "gaudy")
    let numbers : List (Checked Nat) := Move.run (fun c value => (Checked.set id c value).state)
      Checked.reset [number] [.copy 0, .set 0 7, .set 1 12]
    let choices := Move.run (fun c key => (Choice.set id c key).state) Choice.reset [choice]
      [.copy 0, .set 0 "plain", .set 1 "gaudy", .reset 0]
    let ranges : List (Range Int32) := Move.run (fun r value => (Range.set id r value).state)
      Range.reset [(Range.build id 12 10 0 1).1] [.set 0 11, .copy 0, .set 1 4]
    let s := ((Session.start 0).run [.build "style" blueprint, .ask (.loose "style") .reset]).1
    (Checked.build id small none 3 = .ok number ∧ ∀ c ∈ numbers, c.accepts c.value = true) ∧
    (Choice.Built id entries choice ∧
      ∀ c ∈ choices, Choice.place? c.entries c.value = some c.selected) ∧
    (∀ r ∈ ranges, r.min ≤ r.value ∧ r.value ≤ r.max) ∧
    (blueprint.build 0 = (.ok p, []) ∧ (p.restoreFrom store).state.body.Guarded) ∧
    (s.preference? (.loose "style") = some p ∧ p.body.Guarded) := by
  intro id small number entries choice blueprint p store numbers choices ranges s
  obtain ⟨hchecked, hchoice, hrange, hpreference, hsession⟩ := guarded_kinds_hold_what_they_take
  have hnumber : Checked.build id small none 3 = .ok number := rfl
  have hbuilt : Choice.Built id entries choice := by
    have hfirst : Choice.build id entries = .ok ⟨entries, ⟨0, by decide⟩, ⟨0, by decide⟩⟩ := rfl
    have hsecond :
        Choice.withDefault ⟨entries, ⟨0, by decide⟩, ⟨0, by decide⟩⟩ "fancy" = .ok choice := rfl
    exact .withDefault (.first hfirst) hsecond
  have hp : blueprint.build 0 = (.ok p, []) := rfl
  have hs : s.preference? (.loose "style") = some p := by cbv
  refine ⟨⟨hnumber, ?_⟩, ⟨hbuilt, ?_⟩, ?_, ⟨hp, ?_⟩, hs, ?_⟩
  · intro c hc
    exact (hchecked Nat id small none 3 number hnumber _ c hc).1
  · intro c hc
    exact (hchoice id entries choice hbuilt _ c hc).2.2.1
  · intro r hr
    exact (hrange Int32 id 12 10 0 1 _ r hr).2.2.1
  · exact (hpreference blueprint 0 p _ [] hp (.restored .refl store)).1
  · exact hsession 0 _ (.loose "style") p hs

end Preferences
