import Preferences.Proofs.Guarded
import Preferences.Proofs.TomlStore

/-!
# Stored forms are read back

What is stored for a body restores its value in every body that was built alike, also when empty
texts have been lost on the way. A guarded body holds nothing that a body built alike would refuse.
-/

namespace Preferences

open Calendar

/-! ### Identifiers -/

namespace Guid

/-- How many digits there are in groups of the given sizes. -/
def total : List Nat → Nat
  | [] => 0
  | n :: more => n + total more

theorem total_nil : total [] = 0 := rfl

theorem total_cons (n : Nat) (more : List Nat) : total (n :: more) = n + total more := rfl

theorem joinGroups_hyphenate {sizes : List Nat} (hsizes : sizes ≠ []) {cs : List Char}
    (hlength : cs.length = total sizes) : joinGroups sizes (hyphenate sizes cs) = some cs := by
  induction sizes generalizing cs with
  | nil => exact absurd rfl hsizes
  | cons n more ih =>
    rw [total_cons] at hlength
    cases more with
    | nil =>
      rw [total_nil, Nat.add_zero] at hlength
      unfold hyphenate joinGroups
      rw [List.take_of_length_le (by omega), if_pos hlength]
    | cons m more =>
      have htake : (cs.take n).length = n := by
        rw [List.length_take]
        omega
      have hdrop : (cs.drop n).length = total (m :: more) := by
        rw [List.length_drop]
        omega
      have ih := ih (List.cons_ne_nil m more) hdrop
      unfold hyphenate joinGroups
      rw [List.drop_left' htake]
      simp only [ih, Option.map_some, List.take_left' htake, List.take_append_drop]

theorem length_hyphenate {sizes : List Nat} (hsizes : sizes ≠ []) {cs : List Char}
    (hlength : cs.length = total sizes) :
    (hyphenate sizes cs).length + 1 = total sizes + sizes.length := by
  induction sizes generalizing cs with
  | nil => exact absurd rfl hsizes
  | cons n more ih =>
    rw [total_cons] at hlength ⊢
    cases more with
    | nil =>
      rw [total_nil, Nat.add_zero] at hlength ⊢
      unfold hyphenate
      rw [List.length_take, List.length_singleton]
      omega
    | cons m more =>
      have hdrop : (cs.drop n).length = total (m :: more) := by
        rw [List.length_drop]
        omega
      have ih := ih (List.cons_ne_nil m more) hdrop
      unfold hyphenate
      rw [List.length_append, List.length_take, List.length_cons, List.length_cons]
      omega

theorem mapM_digit? (digits : List (Fin 16)) :
    (digits.map digitChar).mapM digit? = some digits := by
  induction digits with
  | nil => rfl
  | cons d rest ih =>
    simp only [List.map_cons, List.mapM_cons, digit?_digitChar, ih, Option.bind_eq_bind,
      Option.bind_some, Option.pure_def]

theorem groups_ne_nil : groups ≠ [] := List.cons_ne_nil _ _

theorem length_digitChars (g : Guid) : (g.digits.map digitChar).length = total groups := by
  rw [List.length_map, g.length_eq]
  rfl

theorem length_text (g : Guid) : g.text.toList.length = 36 := by
  have hlength := length_hyphenate groups_ne_nil g.length_digitChars
  have hsum : total groups + groups.length = 37 := rfl
  have htext : g.text.toList = hyphenate groups (g.digits.map digitChar) := String.toList_ofList
  rw [htext]
  omega

theorem text_ne_empty (g : Guid) : g.text ≠ "" := by
  intro h
  have hlength := g.length_text
  rw [h] at hlength
  cases hlength

theorem ofText?_text (g : Guid) : ofText? g.text = some g := by
  have hlength := g.length_text
  have htext : g.text.toList = hyphenate groups (g.digits.map digitChar) := String.toList_ofList
  have hjoin := joinGroups_hyphenate groups_ne_nil g.length_digitChars
  unfold ofText?
  dsimp only
  rw [if_neg (by omega), if_pos hlength, htext]
  unfold ofHyphened? ofDigits?
  rw [hjoin]
  simp only [Option.bind_some, mapM_digit?, Option.bind_eq_bind, dif_pos g.length_eq]

end Guid

/-! ### What a store holds for a value -/

namespace Stored

/-- What a store holds for a value: the value itself, or what a TOML file leaves of it. -/
def IsFormOf (found value : Stored) : Prop := found = value ∨ found = value.blanked

theorem IsFormOf.eq {found value : Stored} (h : found.IsFormOf value)
    (hvalue : value.blanked = value) : found = value := by
  rcases h with rfl | rfl
  · rfl
  · exact hvalue

theorem isFormOf_text {found : Stored} {value : String} (h : found.IsFormOf (.text value)) :
    Body.decodeText? found = some value := by
  rcases h with rfl | rfl
  · rfl
  · unfold blanked
    split
    · rename_i hempty
      rw [hempty]
      rfl
    · rfl

theorem isFormOf_reference {found : Stored} {guid : Option Guid}
    (h : found.IsFormOf (Guid.encode? guid)) : Guid.decode? found = some guid := by
  cases guid with
  | none =>
    rw [h.eq rfl]
    rfl
  | some g =>
    rw [h.eq (blanked_text g.text_ne_empty)]
    show (Guid.ofText? g.text).map some = some (some g)
    rw [Guid.ofText?_text]
    rfl

theorem blanked_encodeList (guids : List Guid) :
    (Guid.encodeList guids).blanked = Guid.encodeList guids := by
  unfold Guid.encodeList
  rw [blanked_list, List.map_map]
  congr 1
  apply List.map_congr_left
  intro g _
  exact blanked_text g.text_ne_empty

theorem decodeList?_encodeList (guids : List Guid) :
    Guid.decodeList? (Guid.encodeList guids) = some guids := by
  show (guids.map fun g => Stored.text g.text).mapM (fun item => item.text?.bind Guid.ofText?) = _
  induction guids with
  | nil => rfl
  | cons g rest ih =>
    have hfirst : (Stored.text g.text).text?.bind Guid.ofText? = some g := Guid.ofText?_text g
    simp only [List.map_cons, List.mapM_cons, hfirst, ih, Option.bind_eq_bind, Option.bind_some,
      Option.pure_def]

theorem isFormOf_references {found : Stored} {guids : List Guid}
    (h : found.IsFormOf (Guid.encodeList guids)) : Guid.decodeList? found = some guids := by
  rw [h.eq (blanked_encodeList guids)]
  exact decodeList?_encodeList guids

theorem blanked_selection (selection : Selection) :
    selection.encode.blanked = selection.encode := by
  cases selection with
  | absolute time => rfl
  | starting period => cases period <;> rfl
  | ending period => cases period <;> rfl

theorem decode?_selection (selection : Selection) :
    Selection.decode? selection.encode = some selection := by
  cases selection with
  | absolute time => rfl
  | starting period =>
    show (Named.ofName? (Named.name period)).map Selection.starting = some (.starting period)
    rw [Named.ofName?_eq_some_iff.2 rfl]
    rfl
  | ending period =>
    show (Named.ofName? (Named.name period)).map Selection.ending = some (.ending period)
    rw [Named.ofName?_eq_some_iff.2 rfl]
    rfl

theorem isFormOf_selection {found : Stored} {selection : Selection}
    (h : found.IsFormOf selection.encode) : Selection.decode? found = some selection := by
  rw [h.eq (blanked_selection selection)]
  exact decode?_selection selection

theorem isFormOf_int32 {found : Stored} {n : Int32} (h : found.IsFormOf (.integer n.toInt64)) :
    Body.decodeInt32? found = some n := by
  rw [h.eq rfl]
  unfold Body.decodeInt32? Stored.integer?
  simp only [Option.bind_eq_bind, Option.bind_some]
  rw [Int32.toInt_toInt64, if_pos ⟨Int32.minValue_le_toInt n, Int32.toInt_le n⟩,
    Int32.toInt32_toInt64]

end Stored

/-! ### Bodies -/

namespace Body

/-- Built alike: of one sort, and with the same choices, bounds or validator. -/
def Alike : Body → Body → Prop
  | text _, text _ => True
  | flag _, flag _ => True
  | integer _, integer _ => True
  | reference _, reference _ => True
  | references _, references _ => True
  | choice c, choice d => c.entries = d.entries
  | intRange r, intRange s => r.min = s.min ∧ r.max = s.max
  | floatRange r, floatRange s => r.min = s.min ∧ r.max = s.max
  | checkedReference c, checkedReference d => c.accepts = d.accepts
  | date _, date _ => True
  | _, _ => False

/-- Of one sort and with one value. Dates that are selected alike mean one time for services that
are alike, whenever they are asked. -/
def SameValue : Body → Body → Prop
  | text p, text q => p.value = q.value
  | flag p, flag q => p.value = q.value
  | integer p, integer q => p.value = q.value
  | reference p, reference q => p.value = q.value
  | references p, references q => p.value = q.value
  | choice c, choice d => c.selected.val = d.selected.val ∧ c.value = d.value
  | intRange r, intRange s => r.value = s.value
  | floatRange r, floatRange s => r.value = s.value
  | checkedReference c, checkedReference d => c.value = d.value
  | date d, date e => d.selection = e.selection ∧
    (d.service = e.service → ∀ tick, d.value tick = e.value tick)
  | _, _ => False

/-- Bounds are numbers. -/
def Bounded : Body → Prop
  | floatRange r => r.min ≠ .nan ∧ r.max ≠ .nan
  | _ => True

end Body

theorem Choice.set_alike {c d : Choice} (halike : c.entries = d.entries) (hguarded : c.Guarded)
    (id : Identity) : (d.set id c.value).result = .ok () ∧
      c.selected.val = (d.set id c.value).state.selected.val ∧
      c.value = (d.set id c.value).state.value := by
  obtain ⟨entries, selected, default⟩ := c
  obtain ⟨entries', selected', default'⟩ := d
  dsimp only at halike
  subst halike
  have hplace : place? entries (Choice.value ⟨entries, selected, default⟩) = some selected :=
    hguarded.place_value
  unfold Choice.set
  rw [hplace]
  exact ⟨rfl, rfl, rfl⟩

theorem Checked.set_accepted {α : Type} {c : Checked α} {value : α}
    (h : c.accepts value = true) (id : Identity) :
    (c.set id value).result = .ok () ∧ value = (c.set id value).state.value := by
  unfold Checked.set
  rw [if_pos h]
  exact ⟨rfl, rfl⟩

theorem Range.set_accepted {α : Type} [LE α] [LT α] [DecidableLE α] [DecidableLT α] [Shown α]
    {r : Range α} {value : α} (h : r.accepts value = true) (id : Identity) :
    (r.set id value).result = .ok () ∧ value = (r.set id value).state.value := by
  unfold Range.set
  rw [if_pos h]
  exact ⟨rfl, rfl⟩

theorem Range.accepts_alike {α : Type} [LE α] [DecidableLE α] {r s : Range α}
    (hmin : r.min = s.min) (hmax : r.max = s.max) (hguarded : r.Guarded) :
    s.accepts r.value = true := by
  rw [s.accepts_iff, ← hmin, ← hmax]
  exact ⟨hguarded.min_le_value, hguarded.value_le_max⟩

theorem DateChoice.selection_select (d : DateChoice) (selection : Selection) :
    (d.select selection).selection = selection := by
  cases selection with
  | absolute time => rfl
  | starting period => rfl
  | ending period => rfl

theorem DateChoice.service_select (d : DateChoice) (selection : Selection) :
    (d.select selection).service = d.service := by
  cases selection with
  | absolute time => rfl
  | starting period => rfl
  | ending period => rfl

namespace Body

/-- The value held, in the type that a body is set in. -/
def own : Body → Value
  | text p => .text p.value
  | flag p => .flag p.value
  | integer p => .int64 p.value
  | reference p => .reference p.value
  | references p => .references p.value
  | choice c => .text c.value
  | intRange r => .int32 r.value
  | floatRange r => .float r.value
  | checkedReference c => .reference c.value
  | date d => .selection d.selection

/-- What a store holds for a body is decoded to the body's value. -/
theorem decode?_isFormOf {b c : Body} (halike : b.Alike c) {found : Stored}
    (h : found.IsFormOf b.encode) : c.decode? found = some b.own := by
  cases b <;> cases c <;> try exact halike.elim
  case text.text p q => exact congrArg (Option.map Value.text) (Stored.isFormOf_text h)
  case choice.choice c d => exact congrArg (Option.map Value.text) (Stored.isFormOf_text h)
  case flag.flag p q =>
    rw [h.eq rfl]
    rfl
  case integer.integer p q =>
    rw [h.eq rfl]
    rfl
  case reference.reference p q =>
    exact congrArg (Option.map Value.reference) (Stored.isFormOf_reference h)
  case checkedReference.checkedReference c d =>
    exact congrArg (Option.map Value.reference) (Stored.isFormOf_reference h)
  case references.references p q =>
    exact congrArg (Option.map Value.references) (Stored.isFormOf_references h)
  case intRange.intRange r s => exact congrArg (Option.map Value.int32) (Stored.isFormOf_int32 h)
  case floatRange.floatRange r s =>
    rw [h.eq rfl]
    rfl
  case date.date d e => exact congrArg (Option.map Value.selection) (Stored.isFormOf_selection h)

/-- A body that is built alike takes over the value of a guarded body. -/
theorem set_own {b c : Body} (halike : b.Alike c) (hguarded : b.Guarded) (hbounded : b.Bounded)
    (id : Identity) :
    (c.set id b.own).result = .ok () ∧ b.SameValue (c.set id b.own).state := by
  cases b <;> cases c <;> try exact halike.elim
  case choice.choice c d => exact Choice.set_alike halike hguarded id
  case intRange.intRange r s =>
    have haccepts := Range.accepts_alike halike.1 halike.2 hguarded
    exact Range.set_accepted haccepts id
  case floatRange.floatRange r s =>
    have haccepts := Range.accepts_alike halike.1 halike.2 (hguarded hbounded.1 hbounded.2)
    exact Range.set_accepted haccepts id
  case checkedReference.checkedReference c d =>
    have hsame : c.accepts = d.accepts := halike
    exact Checked.set_accepted (hsame ▸ hguarded.accepts_value) id
  case date.date d e =>
    have hselection : d.selection = (e.select d.selection).selection :=
      (e.selection_select d.selection).symm
    refine ⟨rfl, hselection, ?_⟩
    intro hservice tick
    have hsame : d.service = e.service := hservice.trans (e.service_select d.selection)
    unfold DateChoice.value
    rw [hsame, e.service_select, ← hselection]
  all_goals exact ⟨rfl, rfl⟩

/-- What a store holds for a guarded body restores its value in every body that is built alike. -/
theorem restore_isFormOf {b c : Body} (halike : b.Alike c) (hguarded : b.Guarded)
    (hbounded : b.Bounded) {found : Stored} (h : found.IsFormOf b.encode) (id : Identity) :
    (c.restore id found).result = .ok () ∧ b.SameValue (c.restore id found).state := by
  rw [restore_eq, decode?_isFormOf halike h]
  exact set_own halike hguarded hbounded id

end Body

end Preferences
