import Preferences.Proofs.Guarded

/-!
# Bindings of preferences

No control shows an internal preference, and an internal preference stays internal. Controls are
bound, cleared and given up in the same way for all kinds, and without touching the rest of the
preference; whatever else happens to a preference leaves its binding alone. Copies are on their own.
-/

namespace Preferences

/-! ### Bindings -/

namespace Binding

def Sound (b : Binding) : Prop := b.control = .internal → b.item = none

theorem unbound_sound (control : Control) : (unbound control).Sound := fun _ => rfl

theorem Sound.eq_unbound {b : Binding} (h : b.Sound) (hcontrol : b.control = .internal) :
    b = unbound .internal := by
  obtain ⟨control, item⟩ := b
  cases hcontrol
  cases h rfl
  rfl

theorem isInternal_iff {b : Binding} : b.isInternal = true ↔ b.control = .internal := beq_iff_eq

theorem bind_of_internal {b : Binding} (h : b.control = .internal) (item : Nat) :
    b.bind item = .failed b .boundInternal [.bindingRefused] := if_pos (isInternal_iff.2 h)

theorem bind_of_not_internal {b : Binding} (h : b.control ≠ .internal) (item : Nat) :
    b.bind item = .done ⟨b.control, some item⟩ () := if_neg fun hi => h (isInternal_iff.1 hi)

theorem makeInternal_of_none {b : Binding} (h : b.item = none) :
    b.makeInternal = .done (unbound .internal) () := by
  obtain ⟨control, item⟩ := b
  cases h
  rfl

theorem makeInternal_of_some {b : Binding} {item : Nat} (h : b.item = some item) :
    b.makeInternal = .failed b .internalBound [.internalRefused] := by
  obtain ⟨control, bound⟩ := b
  cases h
  rfl

end Binding

/-! ### Deeds -/

/-- What can be done to a preference. -/
inductive Deed where
  | ask (tick : Int64) (what : Ask)
  | restore (store : Store)

def Deed.onBinding : Deed → Bool
  | ask _ (.bind _) | ask _ .clearBinding | ask _ .makeInternal => true
  | _ => false

namespace Binding

/-- What a deed makes of a binding. -/
def after (b : Binding) : Deed → Binding
  | .ask _ (.bind item) => if b.control = .internal then b else ⟨b.control, some item⟩
  | .ask _ .clearBinding => ⟨b.control, none⟩
  | .ask _ .makeInternal => if b.item = none then unbound .internal else b
  | _ => b

theorem after_bind (b : Binding) (tick : Int64) (item : Nat) :
    b.after (.ask tick (.bind item)) =
      if b.control = .internal then b else ⟨b.control, some item⟩ := rfl

theorem after_makeInternal (b : Binding) (tick : Int64) :
    b.after (.ask tick .makeInternal) = if b.item = none then unbound .internal else b := rfl

theorem after_of_not_onBinding {deed : Deed} (h : deed.onBinding = false) (b : Binding) :
    b.after deed = b := by
  cases deed with
  | restore store => rfl
  | ask tick what =>
    cases what with
    | bind item => cases h
    | clearBinding => cases h
    | makeInternal => cases h
    | _ => rfl

theorem Sound.after {b : Binding} (h : b.Sound) (deed : Deed) : (b.after deed).Sound := by
  cases deed with
  | restore store => exact h
  | ask tick what =>
    cases what with
    | bind item =>
      rw [after_bind]
      split
      · exact h
      · rename_i hcontrol
        exact fun hinternal => absurd hinternal hcontrol
    | clearBinding => exact fun _ => rfl
    | makeInternal =>
      rw [after_makeInternal]
      split
      · exact unbound_sound .internal
      · exact h
    | _ => exact h

theorem after_unbound_internal (deed : Deed) :
    (unbound .internal).after deed = unbound .internal := by
  cases deed with
  | restore store => rfl
  | ask tick what => cases what <;> rfl

theorem control_after {b : Binding} {deed : Deed} (h : (b.after deed).control ≠ b.control) :
    (∃ tick, deed = .ask tick .makeInternal) ∧ b.item = none ∧
      (b.after deed).control = .internal := by
  cases deed with
  | restore store => exact absurd rfl h
  | ask tick what =>
    cases what with
    | bind item =>
      rw [after_bind] at h
      split at h <;> exact absurd rfl h
    | makeInternal =>
      rw [after_makeInternal] at h ⊢
      split at h
      · rename_i hitem
        rw [if_pos hitem]
        exact ⟨⟨tick, rfl⟩, hitem, rfl⟩
      · exact absurd rfl h
    | _ => exact absurd rfl h

end Binding

/-! ### Preferences -/

namespace Preference

def undergo (p : Preference) : Deed → Outcome Preference Answer
  | .ask tick what => Session.onPreference tick p what
  | .restore store => (p.restoreFrom store).map fun _ => .nothing

theorem bind_eq (p : Preference) (tick : Int64) (item : Nat) :
    p.undergo (.ask tick (.bind item)) =
      if p.binding.control = .internal then .failed p .boundInternal [.bindingRefused]
      else .done { p with binding := ⟨p.binding.control, some item⟩ } .nothing := by
  show ((p.binding.bind item).within _).map _ = _
  split
  · rename_i h
    rw [Binding.bind_of_internal h]
    rfl
  · rename_i h
    rw [Binding.bind_of_not_internal h]
    rfl

theorem makeInternal_eq (p : Preference) (tick : Int64) :
    p.undergo (.ask tick .makeInternal) =
      if p.binding.item = none then .done { p with binding := .unbound .internal } .nothing
      else .failed p .internalBound [.internalRefused] := by
  show (p.binding.makeInternal.within _).map _ = _
  split
  · rename_i h
    rw [Binding.makeInternal_of_none h]
    rfl
  · rename_i h
    obtain ⟨item, hitem⟩ := Option.ne_none_iff_exists'.1 h
    rw [Binding.makeInternal_of_some hitem]
    rfl

theorem undergo_of_onBinding {deed : Deed} (h : deed.onBinding = true) (p : Preference) :
    (p.undergo deed).state = { p with binding := p.binding.after deed } := by
  cases deed with
  | restore store => cases h
  | ask tick what =>
    cases what with
    | bind item =>
      rw [bind_eq, Binding.after_bind]
      split <;> rfl
    | makeInternal =>
      rw [makeInternal_eq, Binding.after_makeInternal]
      split <;> rfl
    | clearBinding => rfl
    | _ => cases h

theorem binding_undergo_of_not_onBinding {deed : Deed} (h : deed.onBinding = false)
    (p : Preference) : (p.undergo deed).state.binding = p.binding := by
  cases deed with
  | restore store =>
    show (p.restoreFrom store).state.binding = p.binding
    rcases p.restoreFrom_cases store with hsame | ⟨found, hfound⟩
    · rw [hsame]
    · rw [hfound]
  | ask tick what =>
    cases what with
    | set value =>
      cases value with
      | ok value =>
        show (p.set value).state.binding = p.binding
        rw [set_state]
      | error e => rfl
    | select selection =>
      cases selection with
      | ok selection =>
        show (p.select selection).1.binding = p.binding
        rcases p.select_eq selection with hsame | hset
        · rw [hsame]
        · rw [hset]
      | error e =>
        unfold undergo Session.onPreference
        dsimp only
        split <;> rfl
    | bind item => cases h
    | makeInternal => cases h
    | clearBinding => cases h
    | _ => rfl

theorem binding_undergo (p : Preference) (deed : Deed) :
    (p.undergo deed).state.binding = p.binding.after deed := by
  cases h : deed.onBinding with
  | true => exact congrArg binding (p.undergo_of_onBinding h)
  | false => rw [p.binding_undergo_of_not_onBinding h, Binding.after_of_not_onBinding h]

theorem undergo_sound {p : Preference} (h : p.binding.Sound) (deed : Deed) :
    (p.undergo deed).state.binding.Sound := by
  rw [binding_undergo]
  exact h.after deed

end Preference

theorem Blueprint.build_sound {blueprint : Blueprint} {tick : Int64} {p : Preference}
    {log : List Event} (h : blueprint.build tick = (.ok p, log)) : p.binding.Sound := by
  obtain ⟨id, design⟩ := blueprint
  have hresult : (design.build id tick).1 = .ok p := congrArg Prod.fst h
  cases design with
  | choice entries default control =>
    obtain ⟨c, -, rfl⟩ := ok_of_map hresult
    exact Binding.unbound_sound control
  | checked value accepts control =>
    obtain ⟨c, -, rfl⟩ := ok_of_map hresult
    exact Binding.unbound_sound control
  | checkedWithData value accepts data =>
    obtain ⟨c, -, rfl⟩ := ok_of_map hresult
    exact Binding.unbound_sound .internal
  | date service =>
    obtain ⟨s, -, rfl⟩ := ok_of_map hresult
    exact Binding.unbound_sound .date
  | text _ _ | flag _ _ | integer _ _ | reference _ _ | references _ _ | intRange _ _ _ _
  | floatRange _ _ _ _ =>
    cases hresult
    exact Binding.unbound_sound _

theorem Preference.Reachable.binding_sound {p : Preference} (h : p.Reachable) :
    p.binding.Sound := by
  obtain ⟨blueprint, tick, start, log, hbuild, hreaches⟩ := h
  induction hreaches with
  | refl => exact blueprint.build_sound hbuild
  | asked _ tick what ih => exact undergo_sound ih (.ask tick what)
  | restored _ store ih => exact undergo_sound ih (.restore store)

/-! ### Copies -/

namespace Move

variable {κ ν : Type} {set : κ → ν → κ} {reset : κ → κ}

/-- What a move does to the copy in a place. -/
def effect (set : κ → ν → κ) (reset : κ → κ) (place : Nat) (c : κ) : Move ν → κ
  | .set other value => if other = place then set c value else c
  | .reset other => if other = place then reset c else c
  | .copy _ => c

theorem getElem?_apply {copies : List κ} {place : Nat} {c : κ} (h : copies[place]? = some c)
    (move : Move ν) :
    (apply set reset copies move)[place]? = some (effect set reset place c move) := by
  cases move with
  | set other value =>
    simp only [apply, effect, List.getElem?_modify, h]
    split <;> rfl
  | reset other =>
    simp only [apply, effect, List.getElem?_modify, h]
    split <;> rfl
  | copy other =>
    have hlt : place < copies.length := (List.getElem?_eq_some_iff.1 h).1
    exact (List.getElem?_append_left hlt).trans h

theorem getElem?_run {copies : List κ} {place : Nat} {c : κ} (h : copies[place]? = some c)
    (moves : List (Move ν)) :
    (run set reset copies moves)[place]? = some (moves.foldl (effect set reset place) c) := by
  induction moves generalizing copies c with
  | nil => exact h
  | cons move rest ih => exact ih (getElem?_apply h move)

/-- A part that sets and resets treat on its own is on its own in each copy. -/
theorem map_foldl_effect {κ' : Type} {f : κ → κ'} {set' : κ' → ν → κ'} {reset' : κ' → κ'}
    (hset : ∀ c value, f (set c value) = set' (f c) value)
    (hreset : ∀ c, f (reset c) = reset' (f c))
    (place : Nat) (c : κ) (moves : List (Move ν)) :
    f (moves.foldl (effect set reset place) c) = moves.foldl (effect set' reset' place) (f c) := by
  induction moves generalizing c with
  | nil => rfl
  | cons move rest ih =>
    have hstep : f (effect set reset place c move) = effect set' reset' place (f c) move := by
      cases move with
      | set other value => exact (apply_ite f _ _ _).trans (by rw [hset]; rfl)
      | reset other => exact (apply_ite f _ _ _).trans (by rw [hreset]; rfl)
      | copy other => rfl
    rw [List.foldl_cons, List.foldl_cons, ih, hstep]

end Move

namespace Preference

/-- Copies of preferences after moves. The moves that reset a copy do so at the time `now`. -/
def copies (now : Int64) (ps : List Preference) (moves : List (Move Deed)) : List Preference :=
  Move.run (fun p deed => (undergo p deed).state) (fun p => (p.reset now).state) ps moves

theorem copies_append (now : Int64) (ps : List Preference) (moves later : List (Move Deed)) :
    copies now ps (moves ++ later) = copies now (copies now ps moves) later :=
  List.foldl_append

theorem copies_sound {start : Preference} (h : start.binding.Sound) (now : Int64)
    (moves : List (Move Deed)) : ∀ p ∈ copies now [start] moves, p.binding.Sound := by
  apply Move.forall_run (P := fun p : Preference => p.binding.Sound)
  · exact fun p deed hp => undergo_sound hp deed
  · exact fun p hp => hp
  · exact h

theorem getElem?_copies_copy {ps : List Preference} {place : Nat} {p : Preference}
    (h : ps[place]? = some p) (now : Int64) :
    (copies now ps [.copy place])[ps.length]? = some p := by
  simp [copies, Move.run, Move.apply, h]

end Preference

namespace Binding

theorem foldl_effect_unbound_internal (place : Nat) (moves : List (Move Deed)) :
    moves.foldl (Move.effect after id place) (unbound .internal) = unbound .internal := by
  induction moves with
  | nil => rfl
  | cons move rest ih =>
    have hstep : Move.effect after id place (unbound .internal) move = unbound .internal := by
      cases move with
      | set other deed =>
        show (if other = place then after (unbound .internal) deed else unbound .internal) = _
        rw [after_unbound_internal, ite_self]
      | reset other => exact ite_self _
      | copy other => rfl
    rw [List.foldl_cons, hstep, ih]

/-- The binding of a copy is what the moves on that copy make of it. -/
theorem binding_copies {ps : List Preference} {place : Nat} {p : Preference}
    (h : ps[place]? = some p) (now : Int64) (moves : List (Move Deed)) :
    ∃ q, (Preference.copies now ps moves)[place]? = some q ∧
      q.binding = moves.foldl (Move.effect after id place) p.binding :=
  ⟨_, Move.getElem?_run h moves, Move.map_foldl_effect (f := Preference.binding)
    Preference.binding_undergo (fun _ => rfl) place p moves⟩

end Binding

/-- The rules of bindings, for any preference that is built, after any moves on copies of it. An
internal preference has no control, and stays as it is whatever happens later. A control is bound
unless the preference is internal, and the preference is made internal unless a control is bound;
nothing else changes the sort of control. Other deeds leave the binding alone, and deeds on the
binding leave the rest alone. The preferences of every session are sound too. -/
theorem bindings_follow_their_rules {blueprint : Blueprint} {tick : Int64} {start : Preference}
    {log : List Event} (hbuild : blueprint.build tick = (.ok start, log)) (now : Int64)
    (moves : List (Move Deed)) :
    let copies := Preference.copies now [start] moves
    (∀ p ∈ copies, p.binding.control = .internal → p.binding.item = none) ∧
    (∀ place p, copies[place]? = some p →
      (Preference.copies now copies [.copy place])[copies.length]? = some p ∧
      ∀ later, ∃ q, (Preference.copies now [start] (moves ++ later))[place]? = some q ∧
        q.binding = later.foldl (Move.effect Binding.after id place) p.binding ∧
        (p.binding.control = .internal → q.binding = .unbound .internal)) ∧
    (∀ (p : Preference) (tick : Int64) (item : Nat),
      let o := p.undergo (.ask tick (.bind item))
      (o.isOk = true ↔ p.binding.control ≠ .internal) ∧
        (o.isOk = true → o.state.binding = ⟨p.binding.control, some item⟩) ∧
        (o.isOk = false → o.state = p)) ∧
    (∀ (p : Preference) (tick : Int64),
      let o := p.undergo (.ask tick .makeInternal)
      (o.isOk = true ↔ p.binding.item = none) ∧
        (o.isOk = true → o.state.binding = .unbound .internal) ∧
        (o.isOk = false → o.state = p)) ∧
    (∀ (p : Preference) (deed : Deed),
      let o := p.undergo deed
      (o.state.binding.control ≠ p.binding.control →
        o.isOk = true ∧ ∃ tick, deed = .ask tick .makeInternal) ∧
        (deed.onBinding = false → o.state.binding = p.binding) ∧
        (deed.onBinding = true → o.state = { p with binding := p.binding.after deed })) ∧
    ∀ (clock : Int64) (requests : List Request) (place : Place) (p : Preference),
      ((Session.start clock).run requests).1.preference? place = some p →
      p.binding.control = .internal → p.binding.item = none := by
  intro copies
  have hsound := Preference.copies_sound (blueprint.build_sound hbuild) now moves
  refine ⟨hsound, ?_, ?_, ?_, ?_, ?_⟩
  · intro place p hp
    refine ⟨Preference.getElem?_copies_copy hp now, fun later => ?_⟩
    obtain ⟨q, hq, hbinding⟩ := Binding.binding_copies hp now later
    rw [Preference.copies_append]
    refine ⟨q, hq, hbinding, fun hinternal => ?_⟩
    -- Soundness leaves one internal binding, and no move changes that one.
    have hp' := (hsound p (List.mem_of_getElem? hp)).eq_unbound hinternal
    rw [hbinding, hp', Binding.foldl_effect_unbound_internal]
  · intro p tick item o
    by_cases hcontrol : p.binding.control = .internal
    · have ho : o = .failed p .boundInternal [.bindingRefused] :=
        (p.bind_eq tick item).trans (if_pos hcontrol)
      simp [ho, hcontrol, Outcome.isOk, Outcome.failed]
    · have ho : o = .done { p with binding := ⟨p.binding.control, some item⟩ } .nothing :=
        (p.bind_eq tick item).trans (if_neg hcontrol)
      simp [ho, hcontrol, Outcome.isOk, Outcome.done]
  · intro p tick o
    by_cases hitem : p.binding.item = none
    · have ho : o = .done { p with binding := .unbound .internal } .nothing :=
        (p.makeInternal_eq tick).trans (if_pos hitem)
      simp [ho, hitem, Outcome.isOk, Outcome.done]
    · have ho : o = .failed p .internalBound [.internalRefused] :=
        (p.makeInternal_eq tick).trans (if_neg hitem)
      simp [ho, hitem, Outcome.isOk, Outcome.failed]
  · intro p deed o
    refine ⟨fun hcontrol => ?_, fun h => p.binding_undergo_of_not_onBinding h,
      fun h => p.undergo_of_onBinding h⟩
    have hafter : o.state.binding = p.binding.after deed := p.binding_undergo deed
    rw [hafter] at hcontrol
    obtain ⟨⟨tick, rfl⟩, hitem, -⟩ := Binding.control_after hcontrol
    have ho : o = .done { p with binding := .unbound .internal } .nothing :=
      (p.makeInternal_eq tick).trans (if_pos hitem)
    exact ⟨by rw [ho]; rfl, tick, rfl⟩
  · intro clock requests place p hp
    exact (((Session.start_sound clock).run requests).preference hp).binding_sound

/-- One copy shows a control and will not be made internal; the other is internal and takes none. -/
theorem copies_are_bound_on_their_own :
    let id : Identity := ⟨"General", "Title", "a", ""⟩
    let blueprint : Blueprint := ⟨id, .text "" .string⟩
    let start : Preference := .ofBody id .string (.text (.of ""))
    let moves : List (Move Deed) :=
      [.copy 0, .set 0 (.ask 0 (.bind 7)), .set 1 (.ask 0 .makeInternal)]
    let later : List (Move Deed) :=
      [.set 1 (.ask 0 (.bind 8)), .set 0 (.ask 0 .makeInternal), .reset 1]
    let bound : Preference := { start with binding := ⟨.string, some 7⟩ }
    let hidden : Preference := { start with binding := .unbound .internal }
    let requests : List Request :=
      [.build "title" blueprint, .ask (.loose "title") .makeInternal]
    let s := ((Session.start 0).run requests).1
    blueprint.build 0 = (.ok start, []) ∧
    Preference.copies 0 [start] moves = [bound, hidden] ∧
    (∃ q, (Preference.copies 0 [start] (moves ++ later))[1]? = some q ∧
      q.binding = .unbound .internal) ∧
    (start.undergo (.ask 0 (.bind 7))).state.binding = bound.binding ∧
    (hidden.undergo (.ask 0 (.bind 8))).state = hidden ∧
    (start.undergo (.ask 0 .makeInternal)).state.binding = .unbound .internal ∧
    (bound.undergo (.ask 0 .makeInternal)).state = bound ∧
    (bound.undergo (.ask 0 .reset)).state.binding = bound.binding ∧
    (bound.undergo (.ask 0 .clearBinding)).state = start ∧
    s.preference? (.loose "title") = some hidden ∧ hidden.binding.item = none := by
  intro id blueprint start moves later bound hidden requests s
  have hbuild : blueprint.build 0 = (.ok start, []) := rfl
  have hcopies : Preference.copies 0 [start] moves = [bound, hidden] := rfl
  have hplace : (Preference.copies 0 [start] moves)[1]? = some hidden := by rw [hcopies]; rfl
  have hs : s.preference? (.loose "title") = some hidden := by cbv
  obtain ⟨-, hruns, hbind, hmake, hdeed, hsession⟩ :=
    bindings_follow_their_rules hbuild 0 moves
  obtain ⟨q, hq, -, hinternal⟩ := (hruns 1 hidden hplace).2 later
  have hchanged : (start.undergo (.ask 0 .makeInternal)).state.binding.control ≠
    start.binding.control := by decide
  refine ⟨hbuild, hcopies, ⟨q, hq, hinternal rfl⟩, (hbind start 0 7).2.1 rfl,
    (hbind hidden 0 8).2.2 rfl, ?_, (hmake bound 0).2.2 rfl, (hdeed bound (.ask 0 .reset)).2.1 rfl,
    (hdeed bound (.ask 0 .clearBinding)).2.2 rfl, hs, hsession 0 _ (.loose "title") hidden hs rfl⟩
  exact (hmake start 0).2.1 ((hdeed start (.ask 0 .makeInternal)).1 hchanged).1

end Preferences
