import Preferences.Kind.Checked
import Preferences.Kind.Choice
import Preferences.Kind.Range

/-!
# Kinds that refuse values

Validated values, choices and ranges hold only what they accept. Each kind has an invariant, which
is established when a value of the kind is built and kept by every set, successful or not, and by
every reset. The parts that are fixed when a value is built are its mould.
-/

namespace Preferences

/-! ### Copies -/

/-- What can be done to one of several copies of a value. -/
inductive Move (ν : Type) where
  | set (place : Nat) (value : ν)
  | reset (place : Nat)
  | copy (place : Nat)

namespace Move

variable {κ ν : Type} (set : κ → ν → κ) (reset : κ → κ)

/-- The copies after a move. A new copy comes last; where there is no copy nothing happens. -/
def apply (copies : List κ) : Move ν → List κ
  | .set place value => copies.modify place fun c => set c value
  | .reset place => copies.modify place reset
  | .copy place => copies ++ copies[place]?.toList

def run (copies : List κ) (moves : List (Move ν)) : List κ := moves.foldl (apply set reset) copies

variable {set reset} {P : κ → Prop}

theorem forall_modify {f : κ → κ} (hf : ∀ c, P c → P (f c)) {copies : List κ}
    (h : ∀ c ∈ copies, P c) (place : Nat) : ∀ c ∈ copies.modify place f, P c := by
  intro c hc
  obtain ⟨i, hi⟩ := List.mem_iff_getElem?.1 hc
  rw [List.getElem?_modify] at hi
  obtain ⟨d, hd, hdc⟩ := Option.map_eq_some_iff.1 hi
  have hPd : P d := h d (List.mem_of_getElem? hd)
  rw [← hdc]
  split
  · exact hf d hPd
  · exact hPd

theorem forall_apply (hset : ∀ c value, P c → P (set c value)) (hreset : ∀ c, P c → P (reset c))
    {copies : List κ} (h : ∀ c ∈ copies, P c) (move : Move ν) :
    ∀ c ∈ apply set reset copies move, P c := by
  cases move with
  | set place value => exact forall_modify (fun c hc => hset c value hc) h place
  | reset place => exact forall_modify hreset h place
  | copy place =>
    intro c hc
    rcases List.mem_append.1 hc with hold | hnew
    · exact h c hold
    · exact h c (List.mem_of_getElem? (Option.mem_toList.1 hnew))

/-- What every set and every reset keeps of a value, holds of every copy after a run. -/
theorem forall_run (hset : ∀ c value, P c → P (set c value)) (hreset : ∀ c, P c → P (reset c))
    {start : κ} (hstart : P start) (moves : List (Move ν)) :
    ∀ c ∈ run set reset [start] moves, P c := by
  have hall : ∀ copies : List κ, (∀ c ∈ copies, P c) → ∀ c ∈ run set reset copies moves, P c := by
    induction moves with
    | nil =>
      intro copies h
      exact h
    | cons move rest ih =>
      intro copies h
      exact ih (apply set reset copies move) (forall_apply hset hreset h move)
  refine hall [start] ?_
  intro c hc
  rw [List.mem_singleton.1 hc]
  exact hstart

end Move

/-! ### Validated values -/

namespace Checked

variable {α : Type}

structure Guarded (c : Checked α) : Prop where
  accepts_value : c.accepts c.value = true
  accepts_default : c.accepts c.default = true

structure SameMould (c d : Checked α) : Prop where
  default : c.default = d.default
  accepts : c.accepts = d.accepts
  data : c.data = d.data

theorem SameMould.refl (c : Checked α) : SameMould c c := ⟨rfl, rfl, rfl⟩

theorem build_eq {id : Identity} {accepts : α → Bool} {data : Option α} {value : α}
    {c : Checked α} (h : build id accepts data value = .ok c) :
    accepts value = true ∧ c = ⟨value, value, accepts, data⟩ := by
  unfold build at h
  split at h
  · rename_i haccepts
    cases h
    exact ⟨haccepts, rfl⟩
  · cases h

theorem build_guarded {id : Identity} {accepts : α → Bool} {data : Option α} {value : α}
    {c : Checked α} (h : build id accepts data value = .ok c) : c.Guarded := by
  obtain ⟨haccepts, rfl⟩ := build_eq h
  exact ⟨haccepts, haccepts⟩

theorem set_guarded {c : Checked α} (h : c.Guarded) (id : Identity) (value : α) :
    (c.set id value).state.Guarded := by
  unfold set
  split
  · rename_i haccepts
    exact ⟨haccepts, h.accepts_default⟩
  · exact h

theorem reset_guarded {c : Checked α} (h : c.Guarded) : c.reset.Guarded :=
  ⟨h.accepts_default, h.accepts_default⟩

theorem set_sameMould {c d : Checked α} (h : c.SameMould d) (id : Identity) (value : α) :
    (c.set id value).state.SameMould d := by
  unfold set
  split
  · exact ⟨h.default, h.accepts, h.data⟩
  · exact h

theorem reset_sameMould {c d : Checked α} (h : c.SameMould d) : c.reset.SameMould d :=
  ⟨h.default, h.accepts, h.data⟩

theorem run_guarded {id : Identity} {accepts : α → Bool} {data : Option α} {value : α}
    {start : Checked α} (h : build id accepts data value = .ok start) (moves : List (Move α)) :
    ∀ c ∈ Move.run (fun c value => (set id c value).state) reset [start] moves,
      c.Guarded ∧ c.SameMould start :=
  Move.forall_run (fun _ value hc => ⟨set_guarded hc.1 id value, set_sameMould hc.2 id value⟩)
    (fun _ hc => ⟨reset_guarded hc.1, reset_sameMould hc.2⟩)
    ⟨build_guarded h, SameMould.refl start⟩ moves

end Checked

/-! ### Choices -/

namespace Choice

theorem place?_eq_some_iff {entries : List Entry} {key : String} {place : Fin entries.length} :
    place? entries key = some place ↔
      entries[place].key = key ∧ ∀ before < place, entries[before].key ≠ key := by
  unfold place?
  rw [List.findFinIdx?_eq_some_iff]
  simp only [beq_iff_eq, ne_eq]

theorem key_place {entries : List Entry} {key : String} {place : Fin entries.length}
    (h : place? entries key = some place) : entries[place].key = key :=
  (place?_eq_some_iff.1 h).1

/-- The places kept are the first ones of their keys. -/
structure Guarded (c : Choice) : Prop where
  place_value : place? c.entries c.value = some c.selected
  place_defaultValue : place? c.entries c.defaultValue = some c.default

structure SameMould (c d : Choice) : Prop where
  entries : c.entries = d.entries
  default : c.default.val = d.default.val

theorem SameMould.refl (c : Choice) : SameMould c c := ⟨rfl, rfl⟩

theorem SameMould.defaultValue {c d : Choice} (h : c.SameMould d) :
    c.defaultValue = d.defaultValue := by
  obtain ⟨entries, selected, default⟩ := c
  obtain ⟨entries', selected', default'⟩ := d
  obtain ⟨hentries, hdefault⟩ := h
  dsimp only at hentries hdefault
  subst hentries
  have hplace : default = default' := Fin.ext hdefault
  rw [hplace]
  rfl

theorem Guarded.accepts_value {c : Choice} (h : c.Guarded) : c.accepts c.value = true := by
  unfold accepts
  rw [h.place_value]
  rfl

theorem Guarded.accepts_defaultValue {c : Choice} (h : c.Guarded) :
    c.accepts c.defaultValue = true := by
  unfold accepts
  rw [h.place_defaultValue]
  rfl

/-- Places differ if and only if keys do, since equal keys have one first place. -/
theorem Guarded.isChanged_iff {c : Choice} (h : c.Guarded) :
    c.isChanged = true ↔ c.value ≠ c.defaultValue := by
  unfold isChanged
  rw [bne_iff_ne]
  constructor
  · intro hne heq
    have hplaces := h.place_value
    rw [heq, h.place_defaultValue] at hplaces
    exact hne (Option.some.inj hplaces).symm
  · intro hne heq
    exact hne (congrArg (fun place => c.entries[place].key) heq)

theorem place?_zero {entries : List Entry} (h : 0 < entries.length) :
    place? entries entries[(⟨0, h⟩ : Fin entries.length)].key = some ⟨0, h⟩ := by
  rw [place?_eq_some_iff]
  refine ⟨rfl, ?_⟩
  intro before hbefore
  have hval : before.val < 0 := hbefore
  omega

/-- A choice that was built from entries, perhaps with other defaults in place of the first. -/
inductive Built (id : Identity) (entries : List Entry) : Choice → Prop
  | first {c : Choice} (h : build id entries = .ok c) : Built id entries c
  | withDefault {c d : Choice} {key : String} (built : Built id entries c)
      (h : c.withDefault key = .ok d) : Built id entries d

theorem build_guarded {id : Identity} {entries : List Entry} {c : Choice}
    (h : build id entries = .ok c) : c.Guarded ∧ c.entries = entries := by
  unfold build at h
  split at h
  · rename_i hpos
    cases h
    exact ⟨⟨place?_zero hpos, place?_zero hpos⟩, rfl⟩
  · cases h

theorem withDefault_guarded {c d : Choice} {key : String} (h : c.withDefault key = .ok d) :
    d.Guarded ∧ d.entries = c.entries := by
  unfold withDefault at h
  split at h
  · rename_i place hplace
    cases h
    have hself : place? c.entries c.entries[place].key = some place := by
      rw [key_place hplace]
      exact hplace
    exact ⟨⟨hself, hself⟩, rfl⟩
  · cases h

theorem Built.guarded {id : Identity} {entries : List Entry} {c : Choice}
    (h : Built id entries c) : c.Guarded ∧ c.entries = entries := by
  induction h with
  | first h => exact build_guarded h
  | withDefault _ h ih =>
    obtain ⟨hguarded, hentries⟩ := withDefault_guarded h
    exact ⟨hguarded, hentries.trans ih.2⟩

theorem set_guarded {c : Choice} (h : c.Guarded) (id : Identity) (key : String) :
    (c.set id key).state.Guarded := by
  unfold set
  split
  · rename_i place hplace
    refine ⟨?_, h.place_defaultValue⟩
    have hkey : Choice.value ⟨c.entries, place, c.default⟩ = key := key_place hplace
    rw [Outcome.state_done, hkey]
    exact hplace
  · exact h

theorem reset_guarded {c : Choice} (h : c.Guarded) : c.reset.Guarded :=
  ⟨h.place_defaultValue, h.place_defaultValue⟩

theorem set_sameMould {c d : Choice} (h : c.SameMould d) (id : Identity) (key : String) :
    (c.set id key).state.SameMould d := by
  unfold set
  split
  · exact ⟨h.entries, h.default⟩
  · exact h

theorem reset_sameMould {c d : Choice} (h : c.SameMould d) : c.reset.SameMould d :=
  ⟨h.entries, h.default⟩

theorem run_guarded {id : Identity} {entries : List Entry} {start : Choice}
    (h : Built id entries start) (moves : List (Move String)) :
    ∀ c ∈ Move.run (fun c key => (set id c key).state) reset [start] moves,
      c.Guarded ∧ c.SameMould start :=
  Move.forall_run (fun _ key hc => ⟨set_guarded hc.1 id key, set_sameMould hc.2 id key⟩)
    (fun _ hc => ⟨reset_guarded hc.1, reset_sameMould hc.2⟩)
    ⟨h.guarded.1, SameMould.refl start⟩ moves

end Choice

/-! ### Ranges -/

namespace Range

section

variable {α : Type}

structure SameMould (r s : Range α) : Prop where
  default : r.default = s.default
  min : r.min = s.min
  max : r.max = s.max
  step : r.step = s.step

theorem SameMould.refl (r : Range α) : SameMould r r := ⟨rfl, rfl, rfl, rfl⟩

theorem reset_sameMould {r s : Range α} (h : r.SameMould s) : r.reset.SameMould s :=
  ⟨h.default, h.min, h.max, h.step⟩

variable [LE α]

structure Guarded (r : Range α) : Prop where
  min_le_value : r.min ≤ r.value
  value_le_max : r.value ≤ r.max
  min_le_default : r.min ≤ r.default
  default_le_max : r.default ≤ r.max

theorem reset_guarded {r : Range α} (h : r.Guarded) : r.reset.Guarded :=
  ⟨h.min_le_default, h.default_le_max, h.min_le_default, h.default_le_max⟩

variable [DecidableLE α]

theorem accepts_iff (r : Range α) (value : α) :
    r.accepts value = true ↔ r.min ≤ value ∧ value ≤ r.max := by
  unfold accepts
  rw [decide_eq_true_iff]

theorem Guarded.accepts_value {r : Range α} (h : r.Guarded) : r.accepts r.value = true :=
  (r.accepts_iff r.value).2 ⟨h.min_le_value, h.value_le_max⟩

theorem Guarded.accepts_default {r : Range α} (h : r.Guarded) : r.accepts r.default = true :=
  (r.accepts_iff r.default).2 ⟨h.min_le_default, h.default_le_max⟩

variable [Shown α]

theorem set_guarded {r : Range α} (h : r.Guarded) (id : Identity) (value : α) :
    (r.set id value).state.Guarded := by
  unfold set
  split
  · rename_i haccepts
    obtain ⟨hmin, hmax⟩ := (r.accepts_iff value).1 haccepts
    exact ⟨hmin, hmax, h.min_le_default, h.default_le_max⟩
  · exact h

theorem set_sameMould {r s : Range α} (h : r.SameMould s) (id : Identity) (value : α) :
    (r.set id value).state.SameMould s := by
  unfold set
  split
  · exact ⟨h.default, h.min, h.max, h.step⟩
  · exact h

variable [LT α] [DecidableLT α] (id : Identity) (value min max step : α)

theorem build_min : (build id value min max step).1.min = (order min max).1 := rfl

theorem build_max : (build id value min max step).1.max = (order min max).2.1 := rfl

theorem build_default : (build id value min max step).1.default =
    if (order min max).1 ≤ value ∧ value ≤ (order min max).2.1 then value
    else (order min max).1 := by
  unfold build
  simp only [decide_eq_true_eq]

/-- A range is guarded from the start if its lower bound is one of the numbers that it takes. -/
theorem build_guarded (hrefl : (order min max).1 ≤ (order min max).1)
    (hle : (order min max).1 ≤ (order min max).2.1) :
    (build id value min max step).1.Guarded := by
  have hdefault : (order min max).1 ≤ (build id value min max step).1.default ∧
      (build id value min max step).1.default ≤ (order min max).2.1 := by
    rw [build_default]
    split
    · rename_i hinside
      exact hinside
    · exact ⟨hrefl, hle⟩
  exact ⟨hdefault.1, hdefault.2, hdefault.1, hdefault.2⟩

end

section

variable {α : Type} [LE α] [LT α] [DecidableLT α] [Std.IsLinearOrder α] [Std.LawfulOrderLT α]

theorem order_le (min max : α) : (order min max).1 ≤ (order min max).2.1 := by
  unfold order
  split
  · rename_i hlt
    exact Std.le_of_lt hlt
  · rename_i hnlt
    exact Std.not_lt.1 hnlt

variable [DecidableLE α] [Shown α]

theorem run_guarded (id : Identity) (value min max step : α) (moves : List (Move α)) :
    ∀ r ∈ Move.run (fun r value => (set id r value).state) reset
        [(build id value min max step).1] moves,
      r.Guarded ∧ r.SameMould (build id value min max step).1 :=
  Move.forall_run (fun _ value hr => ⟨set_guarded hr.1 id value, set_sameMould hr.2 id value⟩)
    (fun _ hr => ⟨reset_guarded hr.1, reset_sameMould hr.2⟩)
    ⟨build_guarded id value min max step (Std.le_refl _) (order_le min max), SameMould.refl _⟩ moves

end

end Range

end Preferences
