import Preferences.Proofs.FloatRanges

/-!
# Resetting

A reset brings a plain value, a validated value, a range or a choice back to the state that it was
built in, whatever was set, reset, copied and restored before. Value and default are the same there,
and so it counts as unchanged, with one exception: what is no number differs from itself, and a
floating-point value that was built with it for its default counts as changed for ever.
-/

namespace Preferences

/-! ### Kinds that are reset -/

structure Resetting (κ α : Type) where
  value : κ → α
  default : κ → α
  isChanged : κ → Bool
  reset : κ → κ

/-- A state that resets return to. Its value is its default, which never changes, and it is unchanged
unless this default differs from itself. -/
structure Resetting.Returns {κ α : Type} [BEq α] (kind : Resetting κ α) (start c : κ) : Prop where
  reset_eq : kind.reset c = start
  default_eq : kind.default c = kind.default start
  reset_start : kind.reset start = start
  value_start : kind.value start = kind.default start
  isChanged_start : kind.isChanged start = !(kind.default start == kind.default start)

/-- What resets are for: a value is unchanged when it is built and after each reset, and reads as its
default then; a second reset changes nothing; and the default is the one that it was built with. -/
structure Resetting.Lawful {κ α : Type} (kind : Resetting κ α) (start c : κ) : Prop where
  start_unchanged : kind.isChanged start = false
  start_value : kind.value start = kind.default start
  unchanged : kind.isChanged (kind.reset c) = false
  value_eq : kind.value (kind.reset c) = kind.default (kind.reset c)
  reset_reset : kind.reset (kind.reset c) = kind.reset c
  default_eq : kind.default c = kind.default start

variable {α : Type}

/-- All of this holds but that the value counts as unchanged. -/
theorem Resetting.Returns.lawful_iff {κ : Type} [BEq α] {kind : Resetting κ α} {start c : κ}
    (h : kind.Returns start c) :
    kind.Lawful start c ↔ (kind.default start == kind.default start) = true := by
  constructor
  · intro hlawful
    have hunchanged := hlawful.start_unchanged
    rw [h.isChanged_start] at hunchanged
    simpa using hunchanged
  · intro hself
    have hunchanged : kind.isChanged start = false := by
      rw [h.isChanged_start, hself]
      rfl
    refine ⟨hunchanged, h.value_start, ?_, ?_, ?_, h.default_eq⟩ <;> rw [h.reset_eq]
    · exact hunchanged
    · exact h.value_start
    · exact h.reset_start

namespace Plain

def resetting [BEq α] : Resetting (Plain α) α := ⟨value, default, isChanged, reset⟩

theorem reset_congr {p q : Plain α} (h : p.default = q.default) : p.reset = q.reset := by
  unfold reset
  rw [h]

theorem run_returns [BEq α] (value : α) (moves : List (Move α)) :
    ∀ p ∈ Move.run set reset [of value] moves, resetting.Returns (of value) p := by
  have hdefault : ∀ p ∈ Move.run set reset [of value] moves, p.default = value := by
    apply Move.forall_run (P := fun p : Plain α => p.default = value)
    · exact fun _ _ hp => hp
    · exact fun _ hp => hp
    · rfl
  intro p hp
  exact ⟨reset_congr (q := of value) (hdefault p hp), hdefault p hp, rfl, rfl, rfl⟩

end Plain

namespace Checked

def resetting [BEq α] : Resetting (Checked α) α := ⟨value, default, isChanged, reset⟩

theorem SameMould.reset_eq {c d : Checked α} (h : c.SameMould d) : c.reset = d.reset := by
  unfold reset
  rw [h.default, h.accepts, h.data]

theorem run_returns [BEq α] {id : Identity} {accepts : α → Bool} {data : Option α} {value : α}
    {start : Checked α} (h : build id accepts data value = .ok start) (moves : List (Move α)) :
    ∀ c ∈ Move.run (fun c value => (set id c value).state) reset [start] moves,
      resetting.Returns start c := by
  intro c hc
  have hmould := (run_guarded h moves c hc).2
  obtain ⟨-, rfl⟩ := build_eq h
  exact ⟨hmould.reset_eq, hmould.default, rfl, rfl, rfl⟩

end Checked

namespace Choice

def resetting : Resetting Choice String := ⟨value, defaultValue, isChanged, reset⟩

theorem SameMould.reset_eq {c d : Choice} (h : c.SameMould d) : c.reset = d.reset := by
  obtain ⟨entries, selected, default⟩ := c
  obtain ⟨entries', selected', default'⟩ := d
  obtain ⟨hentries, hdefault⟩ := h
  dsimp only at hentries hdefault
  subst hentries
  cases Fin.ext hdefault
  rfl

theorem Built.selected_eq {id : Identity} {entries : List Entry} {c : Choice}
    (h : Built id entries c) : c.selected = c.default := by
  cases h with
  | first h =>
    unfold build at h
    split at h
    · cases h
      rfl
    · cases h
  | withDefault _ h =>
    unfold Choice.withDefault at h
    split at h
    · cases h
      rfl
    · cases h

theorem reset_of_selected_eq {c : Choice} (h : c.selected = c.default) : c.reset = c := by
  obtain ⟨entries, selected, default⟩ := c
  cases h
  rfl

theorem value_of_selected_eq {c : Choice} (h : c.selected = c.default) :
    c.value = c.defaultValue := congrArg (fun place => c.entries[place].key) h

theorem isChanged_of_selected_eq {c : Choice} (h : c.selected = c.default) :
    c.isChanged = false := bne_eq_false_iff_eq.2 h

theorem run_returns {id : Identity} {entries : List Entry} {start : Choice}
    (h : Built id entries start) (moves : List (Move String)) :
    ∀ c ∈ Move.run (fun c key => (set id c key).state) reset [start] moves,
      resetting.Returns start c := by
  intro c hc
  have hmould := (run_guarded h moves c hc).2
  have hstart : start.reset = start := reset_of_selected_eq h.selected_eq
  refine ⟨hmould.reset_eq.trans hstart, hmould.defaultValue, hstart,
    value_of_selected_eq h.selected_eq, ?_⟩
  show start.isChanged = !(start.defaultValue == start.defaultValue)
  rw [isChanged_of_selected_eq h.selected_eq, beq_self_eq_true]
  rfl

end Choice

namespace Range

def resetting [BEq α] : Resetting (Range α) α := ⟨value, default, isChanged, reset⟩

theorem SameMould.reset_eq {r s : Range α} (h : r.SameMould s) : r.reset = s.reset := by
  unfold reset
  rw [h.default, h.min, h.max, h.step]

variable [LE α] [LT α] [DecidableLE α] [DecidableLT α] [Shown α]

theorem run_returns [BEq α] (id : Identity) (value min max step : α) (moves : List (Move α)) :
    ∀ r ∈ Move.run (fun r value => (set id r value).state) reset
        [(build id value min max step).1] moves,
      resetting.Returns (build id value min max step).1 r := by
  have hmould : ∀ r ∈ Move.run (fun r value => (set id r value).state) reset
      [(build id value min max step).1] moves, r.SameMould (build id value min max step).1 := by
    apply Move.forall_run (P := fun r : Range α => r.SameMould (build id value min max step).1)
    · exact fun _ value hr => set_sameMould hr id value
    · exact fun _ hr => reset_sameMould hr
    · exact SameMould.refl _
  intro r hr
  exact ⟨(hmould r hr).reset_eq, (hmould r hr).default, rfl, rfl, rfl⟩

end Range

/-! ### Equality with oneself -/

theorem Binary.beq_self_iff {f : Format} {x : Binary f} : (x == x) = true ↔ x ≠ .nan := by
  rw [Binary.beq_iff]
  constructor
  · rintro ⟨i, hi, -⟩ rfl
    cases hi
  · intro h
    obtain ⟨i, hi⟩ := Binary.key?_isSome h
    exact ⟨i, hi, hi⟩

/-- The default of a range is no number only if its lower bound was given as none. -/
theorem Range.build_default_eq_nan_iff {f : Format} (id : Identity)
    (value min max step : Binary f) :
    (build id value min max step).1.default = .nan ↔ min = .nan := by
  by_cases hnan : min = .nan ∨ max = .nan
  · rw [build_of_nan id value hnan]
  · -- Between proper bounds the default is held to them, and what is no number is not.
    obtain ⟨hmin, hmax⟩ := not_or.1 hnan
    have hguarded := (build_settled id value min max step).guarded hmin hmax
    refine ⟨fun h => ?_, fun h => absurd h hmin⟩
    exact absurd (h ▸ hguarded.min_le_default) (Binary.not_le_nan _)

theorem Resetting.Returns.lawful [BEq α] [ReflBEq α] {κ : Type} {kind : Resetting κ α}
    {start c : κ} (h : kind.Returns start c) : kind.Lawful start c :=
  h.lawful_iff.2 (beq_self_eq_true _)

theorem Resetting.Returns.lawful_iff_ne_nan {κ : Type} {f : Format} {kind : Resetting κ (Binary f)}
    {start c : κ} (h : kind.Returns start c) :
    kind.Lawful start c ↔ kind.default start ≠ .nan :=
  h.lawful_iff.trans Binary.beq_self_iff

/-! ### Preferences -/

namespace Body

variable {body start : Body}

theorem SameMould.reset_eq (h : body.SameMould start) (hdate : start.date? = none)
    (tick : Int64) : body.reset tick = start.reset tick := by
  cases body <;> cases start <;> try exact h.elim
  case date.date d e => cases hdate
  case choice.choice c d => exact congrArg choice (Choice.SameMould.reset_eq h)
  case intRange.intRange r s => exact congrArg intRange (Range.SameMould.reset_eq h)
  case floatRange.floatRange r s => exact congrArg floatRange (Range.SameMould.reset_eq h)
  case checkedReference.checkedReference c d =>
    exact congrArg checkedReference (Checked.SameMould.reset_eq h)
  all_goals
    have hreset := Plain.reset_congr h
    dsimp only [reset]
    rw [hreset]

theorem getDefault_of_not_date (h : body.date? = none) (now later : Int64) (type : ValueType) :
    body.getDefault now type = body.getDefault later type := by
  cases body with
  | date d => cases h
  | _ => cases type <;> rfl

theorem get_reset (h : body.date? = none) (tick now : Int64) (type : ValueType) :
    (body.reset tick).get now type = (body.reset tick).getDefault now type := by
  cases body with
  | date d => cases h
  | _ => cases type <;> rfl

/-- Whether the default differs from itself, as only what is no number does. -/
def DefaultIsNan (body : Body) : Prop := ∃ r : Range Binary64, body = floatRange r ∧ r.default = .nan

theorem isChanged?_reset (h : body.date? = none) (tick : Int64) :
    (body.reset tick).isChanged? = some false ↔ ¬ body.DefaultIsNan := by
  cases body with
  | date d => cases h
  | floatRange r =>
    have hdefault : (floatRange r).DefaultIsNan ↔ r.default = .nan := by
      refine ⟨?_, fun hr => ⟨r, rfl, hr⟩⟩
      rintro ⟨s, hs, hnan⟩
      cases hs
      exact hnan
    rw [hdefault]
    show some (!(r.default == r.default)) = some false ↔ _
    rw [Option.some.injEq, Bool.not_eq_false', Binary.beq_self_iff]
  | _ =>
    refine iff_of_true ?_ (by rintro ⟨r, ⟨⟩, -⟩)
    exact congrArg some (bne_self_eq_false _)

end Body

namespace Blueprint

variable {blueprint : Blueprint} {tick : Int64} {start : Preference} {log : List Event}

theorem build_reset (h : blueprint.build tick = (.ok start, log))
    (hdate : start.body.date? = none) (now : Int64) : start.body.reset now = start.body := by
  obtain ⟨id, design⟩ := blueprint
  have hresult : (design.build id tick).1 = .ok start := congrArg Prod.fst h
  cases design with
  | choice entries default control =>
    obtain ⟨c, hc, rfl⟩ := ok_of_map hresult
    exact congrArg Body.choice (Choice.reset_of_selected_eq (Design.buildChoice_built hc).selected_eq)
  | checked value accepts control =>
    obtain ⟨c, hc, rfl⟩ := ok_of_map hresult
    obtain ⟨-, rfl⟩ := Checked.build_eq hc
    rfl
  | checkedWithData value accepts data =>
    obtain ⟨c, hc, rfl⟩ := ok_of_map hresult
    obtain ⟨-, rfl⟩ := Checked.build_eq hc
    rfl
  | date service =>
    obtain ⟨s, -, rfl⟩ := ok_of_map hresult
    cases hdate
  | text _ _ | flag _ _ | integer _ _ | reference _ _ | references _ _ | intRange _ _ _ _
  | floatRange _ _ _ _ =>
    cases hresult
    rfl

theorem build_defaultIsNan_iff {id : Identity} {value min max step : Binary64}
    (h : build ⟨id, .floatRange value min max step⟩ tick = (.ok start, log)) :
    start.body.DefaultIsNan ↔ min = .nan := by
  cases h
  rw [← Range.build_default_eq_nan_iff id value min max step]
  refine ⟨?_, fun h => ⟨_, rfl, h⟩⟩
  rintro ⟨r, hr, hnan⟩
  cases hr
  exact hnan

end Blueprint

/-- A reset brings back the state that was built, whatever happened in between, and what resets are
for is achieved by it, but for numbers that are none: exactly if a value was built with such a number,
or a range with such a lower bound, it counts as changed for ever. Of other types this is true of every
value, and of every choice. Preferences without a moving default return in the same way, whatever is
asked of them and restored to them. -/
theorem resets_return_to_the_start (f : Format) (id : Identity) (value min max step : Binary f)
    (moves : List (Move (Binary f))) :
    (∀ p ∈ Move.run Plain.set Plain.reset [Plain.of value] moves,
      Plain.resetting.Returns (.of value) p ∧
      (Plain.resetting.Lawful (.of value) p ↔ value ≠ .nan)) ∧
    (∀ accepts data start, Checked.build id accepts data value = .ok start →
      ∀ c ∈ Move.run (fun c value => (Checked.set id c value).state) Checked.reset [start] moves,
        Checked.resetting.Returns start c ∧ (Checked.resetting.Lawful start c ↔ value ≠ .nan)) ∧
    (∀ r ∈ Move.run (fun r value => (Range.set id r value).state) Range.reset
        [(Range.build id value min max step).1] moves,
      Range.resetting.Returns (Range.build id value min max step).1 r ∧
      (Range.resetting.Lawful (Range.build id value min max step).1 r ↔ min ≠ .nan)) ∧
    (∀ (α : Type) [BEq α] [ReflBEq α] (value : α) (moves : List (Move α)),
      ∀ p ∈ Move.run Plain.set Plain.reset [Plain.of value] moves,
        Plain.resetting.Lawful (.of value) p) ∧
    (∀ (α : Type) [BEq α] [ReflBEq α] (accepts : α → Bool) (data : Option α) (value : α)
      (start : Checked α), Checked.build id accepts data value = .ok start →
      ∀ moves : List (Move α),
      ∀ c ∈ Move.run (fun c value => (Checked.set id c value).state) Checked.reset [start] moves,
        Checked.resetting.Lawful start c) ∧
    (∀ (α : Type) [BEq α] [ReflBEq α] [LE α] [LT α] [DecidableLE α] [DecidableLT α] [Shown α]
      (value min max step : α) (moves : List (Move α)),
      ∀ r ∈ Move.run (fun r value => (Range.set id r value).state) Range.reset
        [(Range.build id value min max step).1] moves,
        Range.resetting.Lawful (Range.build id value min max step).1 r) ∧
    (∀ (entries : List Entry) (start : Choice), Choice.Built id entries start →
      ∀ moves : List (Move String),
      ∀ c ∈ Move.run (fun c key => (Choice.set id c key).state) Choice.reset [start] moves,
        Choice.resetting.Lawful start c) ∧
    (∀ (blueprint : Blueprint) (tick : Int64) (start p : Preference) (log : List Event),
      blueprint.build tick = (.ok start, log) → start.body.date? = none → start.Reaches p →
      (∀ now, (p.reset now).state.body = start.body ∧ (start.reset now).state.body = start.body) ∧
      (∀ now later type,
        (p.getDefault now type).result = (start.getDefault later type).result ∧
        (start.get now type).result = (start.getDefault now type).result) ∧
      (start.body.isChanged? = some false ↔ ¬ start.body.DefaultIsNan)) ∧
    (∀ (value min max step : Binary64) (tick : Int64) (start : Preference) (log : List Event),
      Blueprint.build ⟨id, .floatRange value min max step⟩ tick = (.ok start, log) →
      (start.body.DefaultIsNan ↔ min = .nan)) := by
  refine ⟨?_, ?_, ?_, ?_, ?_, ?_, ?_, ?_, ?_⟩
  · intro p hp
    have hreturns := Plain.run_returns value moves p hp
    exact ⟨hreturns, hreturns.lawful_iff_ne_nan⟩
  · intro accepts data start hbuild c hc
    have hreturns := Checked.run_returns hbuild moves c hc
    obtain ⟨-, rfl⟩ := Checked.build_eq hbuild
    exact ⟨hreturns, hreturns.lawful_iff_ne_nan⟩
  · intro r hr
    have hreturns := Range.run_returns id value min max step moves r hr
    exact ⟨hreturns, hreturns.lawful_iff_ne_nan.trans
      (not_congr (Range.build_default_eq_nan_iff id value min max step))⟩
  · exact fun α _ _ value moves p hp => (Plain.run_returns value moves p hp).lawful
  · exact fun α _ _ accepts data value start hbuild moves c hc =>
      (Checked.run_returns hbuild moves c hc).lawful
  · exact fun α _ _ _ _ _ _ _ value min max step moves r hr =>
      (Range.run_returns id value min max step moves r hr).lawful
  · exact fun entries start hbuilt moves c hc => (Choice.run_returns hbuilt moves c hc).lawful
  · intro blueprint tick start p log hbuild hdate hreaches
    have hmould : p.body.SameMould start.body :=
      (hreaches.body.2.guarded (blueprint.build_guarded hbuild)).2
    have hstart := Blueprint.build_reset hbuild hdate
    refine ⟨fun now => ⟨?_, hstart now⟩, fun now later type => ⟨?_, ?_⟩, ?_⟩
    · exact (hmould.reset_eq hdate now).trans (hstart now)
    · exact (hmould.getDefault_eq hdate now type).trans
        (Body.getDefault_of_not_date hdate now later type)
    · have hread := Body.get_reset hdate now now type
      rw [hstart now] at hread
      exact hread
    · have hchanged := Body.isChanged?_reset hdate 0
      rw [hstart 0] at hchanged
      exact hchanged
  · exact fun value min max step tick start log hbuild => Blueprint.build_defaultIsNan_iff hbuild

/-- A range of floating-point numbers that is set outside of its bounds and to which a number is
restored, a validated integer of which a copy was set, and a choice that starts at its second entry. -/
theorem copies_and_restored_ranges_return :
    let id : Identity := ⟨"Display", "Width", "a", ""⟩
    let range := Range.build id (.ofInt 5 : Binary64) (.ofInt 0) (.ofInt 10) (.ofInt 1)
    let ranges := Move.run (fun r value => (Range.set id r value).state) Range.reset [range.1]
      [.copy 0, .set 1 (.ofInt 12)]
    let blueprint : Blueprint := ⟨id, .floatRange (.ofInt 5) (.ofInt 0) (.ofInt 10) (.ofInt 1)⟩
    let width : Preference := .ofBody id .numberRange (.floatRange range.1)
    let store : Store := Book.empty.insert "Display" "Width" (.float (.ofInt 7))
    let restored := (width.restoreFrom store).state
    let accepts : Int64 → Bool := fun n => decide (0 ≤ n)
    let start : Checked Int64 := ⟨3, 3, accepts, none⟩
    let copies := Move.run (fun c value => (Checked.set id c value).state) Checked.reset [start]
      [.copy 0, .set 1 8, .set 0 (-4)]
    let entries : List Entry := [⟨"s", "Small", ""⟩, ⟨"l", "Large", ""⟩]
    let size : Choice := ⟨entries, ⟨1, by decide⟩, ⟨1, by decide⟩⟩
    (∀ r ∈ ranges, Range.resetting.Lawful range.1 r) ∧
    blueprint.build 0 = (.ok width, range.2) ∧ restored.body.isChanged? = some true ∧
    (restored.reset 0).state.body = width.body ∧ width.body.isChanged? = some false ∧
    Checked.build id accepts none 3 = .ok start ∧ copies = [start, { start with value := 8 }] ∧
    (∀ c ∈ copies, Checked.resetting.Lawful start c) ∧
    Choice.Built id entries size ∧ (Choice.set id size "s").state.isChanged = true ∧
    Choice.resetting.Lawful size (Choice.set id size "s").state := by
  intro id range ranges blueprint width store restored accepts start copies entries size
  obtain ⟨-, -, hranges, -, hchecked, -, hchoice, hpreferences, hnan⟩ :=
    resets_return_to_the_start binary64 id (.ofInt 5) (.ofInt 0) (.ofInt 10) (.ofInt 1)
      [.copy 0, .set 1 (.ofInt 12)]
  have hmin : (.ofInt 0 : Binary64) ≠ .nan := nofun
  have hbuild : ∀ value min max step : Binary64,
      Blueprint.build ⟨id, .floatRange value min max step⟩ 0 =
        (.ok (.ofBody id .numberRange (.floatRange (Range.build id value min max step).1)),
          (Range.build id value min max step).2) := fun _ _ _ _ => rfl
  have hwidth : blueprint.build 0 = (.ok width, range.2) := hbuild _ _ _ _
  obtain ⟨hreset, -, hchanged⟩ :=
    hpreferences blueprint 0 width restored range.2 hwidth rfl (.restored .refl store)
  have hnumber : ¬ width.body.DefaultIsNan := by
    rw [hnan _ _ _ _ 0 width range.2 hwidth]
    exact hmin
  have hstart : Checked.build id accepts none 3 = .ok start := rfl
  have hplace : Choice.place? entries "l" = some 1 := by decide
  have hsecond : Choice.withDefault ⟨entries, 0, 0⟩ "l" = .ok size := by
    unfold Choice.withDefault
    rw [hplace]
    rfl
  have hbuilt : Choice.Built id entries size := .withDefault (.first rfl) hsecond
  refine ⟨fun r hr => (hranges r hr).2.2 hmin, hwidth, ?_, (hreset 0).1, hchanged.2 hnumber,
    hstart, rfl, hchecked Int64 accepts none 3 start hstart _, hbuilt, ?_,
    hchoice entries size hbuilt [.set 0 "s"] _ (List.mem_singleton_self _)⟩
  · decide +kernel
  · decide

/-- What is no number is changed from the start, and after every reset, though it is its own
default: as a plain value, as a validated value, and in a range that has it for its lower bound. -/
theorem nan_is_changed_after_reset :
    let id : Identity := ⟨"S", "N", "a", ""⟩
    let plain : Plain Binary64 := .of .nan
    let checked : Checked Binary64 := ⟨.nan, .nan, fun _ => true, none⟩
    let range : Range Binary64 := (Range.build id (.ofInt 5) .nan (.ofInt 10) (.ofInt 1)).1
    (plain.value = plain.default ∧ plain.isChanged = true ∧ plain.reset.isChanged = true ∧
      (plain.set (.ofInt 1)).reset.isChanged = true) ∧
    (Checked.build id (fun _ => true) none .nan = .ok checked ∧ checked.isChanged = true ∧
      checked.reset.isChanged = true) ∧
    (range.value = range.default ∧ range.isChanged = true ∧ range.reset.isChanged = true) := by
  intro id plain checked range
  exact ⟨by decide, ⟨rfl, by decide, by decide⟩, by decide +kernel⟩

end Preferences
