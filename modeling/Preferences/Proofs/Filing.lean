import Preferences.Proofs.Books
import Preferences.Proofs.Reach

/-!
# Filing

What can be done to a registry is done one change after another. A change registers or unregisters a
preference, or turns filed preferences into others of the same identity. Every change keeps a
registry orderly: preferences are filed under their own page and name, and no page is blank. In an
orderly registry pages, preferences and layouts are listed completely and in strictly ascending
order, and a place is taken exactly if a preference was registered there and not unregistered since.
-/

namespace Preferences

namespace Registry

/-! ### Changes -/

/-- What can be done to a registry, and to the preferences that are found in it. -/
inductive Change where
  | register (p : Preference)
  | unregister (page name : String)
  | set (page name : String) (value : Value)
  | ask (page name : String) (tick : Int64) (what : Ask)
  | restore (page name : String) (store : Store)
  | resetAll (tick : Int64)
  | clearBindings
  | loadAll (store : Store)

def apply (r : Registry) : Change → Registry
  | .register p => (r.register p).state
  | .unregister page name => (r.unregister page name).1
  | .set page name value => (r.set page name value).state
  | .ask page name tick what => (r.update page name fun p => Session.onPreference tick p what).state
  | .restore page name store => (r.update page name fun p => p.restoreFrom store).state
  | .resetAll tick => (r.resetAll tick).state
  | .clearBindings => r.clearBindings
  | .loadAll store => (r.loadAll store).state

/-- Makes changes in order. -/
def run (r : Registry) (changes : List Change) : Registry := changes.foldl apply r

theorem state_register (r : Registry) (p : Preference) :
    (r.register p).state =
      if r.contains p.id.page p.id.name then r else r.insert p.id.page p.id.name p := by
  unfold register
  simp only [Book.contains_openPage]
  split
  · rename_i htaken
    exact Book.openPage_of_contains htaken
  · exact Book.insert_openPage r p.id.page p.id.name p

theorem result_register (r : Registry) (p : Preference) :
    (r.register p).result =
      if r.contains p.id.page p.id.name then .error (.duplicate p.id.page p.id.name)
      else .ok () := by
  unfold register
  simp only [Book.contains_openPage]
  split <;> rfl

theorem get?_update {α : Type} (f : Preference → Outcome Preference α) (r : Registry)
    (page name page' name' : String) :
    (r.update page name f).state.get? page' name' =
      if page = page' ∧ name = name' then (r.get? page name).map fun p => (f p).state
      else r.get? page' name' := by
  unfold update
  cases hget : r.get? page name with
  | none =>
    by_cases h : page = page' ∧ name = name'
    · obtain ⟨rfl, rfl⟩ := h
      simp only [Outcome.state_failed, hget, and_self, if_true, Option.map_none]
    · simp only [Outcome.state_failed, h, if_false]
  | some p => exact Book.get?_insert r page name page' name' (f p).state

/-! ### Which places are taken -/

/-- A preference was registered in the place, and since then none was unregistered from it. -/
def IsRegistered (changes : List Change) (page name : String) : Prop :=
  ∃ before p after, changes = before ++ .register p :: after ∧
    (p.id.page = page ∧ p.id.name = name) ∧ .unregister page name ∉ after

theorem isRegistered_cons {change : Change} {rest : List Change} {page name : String} :
    IsRegistered (change :: rest) page name ↔
      (∃ p, change = .register p ∧ (p.id.page = page ∧ p.id.name = name) ∧
        .unregister page name ∉ rest) ∨ IsRegistered rest page name := by
  constructor
  · rintro ⟨before, p, after, hsplit, hplace, hnot⟩
    cases before with
    | nil =>
      obtain ⟨rfl, rfl⟩ := List.cons.inj hsplit
      exact .inl ⟨p, rfl, hplace, hnot⟩
    | cons first before =>
      obtain ⟨rfl, rfl⟩ := List.cons.inj hsplit
      exact .inr ⟨before, p, after, rfl, hplace, hnot⟩
  · rintro (⟨p, rfl, hplace, hnot⟩ | ⟨before, p, after, rfl, hplace, hnot⟩)
    · exact ⟨[], p, rest, rfl, hplace, hnot⟩
    · exact ⟨change :: before, p, after, rfl, hplace, hnot⟩

theorem contains_register {r : Registry} {p : Preference} {page name : String} :
    (r.register p).state.contains page name = true ↔
      (p.id.page = page ∧ p.id.name = name) ∨ r.contains page name = true := by
  rw [state_register]
  split
  · rename_i htaken
    refine ⟨.inr, ?_⟩
    rintro (⟨rfl, rfl⟩ | h)
    · exact htaken
    · exact h
  · exact Book.contains_insert

theorem contains_update {α : Type} (f : Preference → Outcome Preference α) (r : Registry)
    (page name page' name' : String) :
    (r.update page name f).state.contains page' name' = r.contains page' name' := by
  unfold Book.contains
  rw [get?_update]
  by_cases h : page = page' ∧ name = name'
  · obtain ⟨rfl, rfl⟩ := h
    simp only [and_self, if_true, Option.isSome_map]
  · simp only [h, if_false]

/-- Whether a change only rewrites preferences that are filed already. -/
def Change.rewrites : Change → Bool
  | register _ | unregister .. => false
  | _ => true

theorem contains_rewritten {change : Change} (h : change.rewrites = true) (r : Registry)
    (page name : String) : (r.apply change).contains page name = r.contains page name := by
  cases change with
  | register p => cases h
  | unregister page' name' => cases h
  | set page' name' value => exact contains_update _ r page' name' page name
  | ask page' name' tick what => exact contains_update _ r page' name' page name
  | restore page' name' store => exact contains_update _ r page' name' page name
  | resetAll tick =>
    show Book.contains (r.resetAll tick).state page name = _
    rw [state_resetAll, Book.contains_mapValues]
  | clearBindings => exact Book.contains_mapValues _ r page name
  | loadAll store =>
    show Book.contains (r.loadAll store).state page name = _
    rw [state_loadAll, Book.contains_mapValues]

/-- One change takes the place that it registers a preference in, and frees the place that it
unregisters. -/
theorem contains_apply {r : Registry} {change : Change} {page name : String} :
    (r.apply change).contains page name = true ↔
      (∃ p, change = .register p ∧ p.id.page = page ∧ p.id.name = name) ∨
        change ≠ .unregister page name ∧ r.contains page name = true := by
  cases change with
  | register p =>
    simp only [apply, contains_register, Change.register.injEq, exists_eq_left', ne_eq,
      reduceCtorEq, not_false_eq_true, true_and]
  | unregister page' name' =>
    simp only [apply, unregister_eq, Book.contains_erase, reduceCtorEq, false_and, exists_false,
      false_or, ne_eq, Change.unregister.injEq]
  | _ =>
    rw [contains_rewritten rfl]
    simp only [reduceCtorEq, false_and, exists_false, false_or, ne_eq, not_false_eq_true, true_and]

theorem contains_run {r : Registry} {changes : List Change} {page name : String} :
    (r.run changes).contains page name = true ↔ IsRegistered changes page name ∨
      .unregister page name ∉ changes ∧ r.contains page name = true := by
  induction changes generalizing r with
  | nil =>
    constructor
    · exact fun h => .inr ⟨List.not_mem_nil, h⟩
    · rintro (⟨before, p, after, hsplit, -⟩ | ⟨-, h⟩)
      · exact absurd hsplit.symm (List.append_ne_nil_of_right_ne_nil before (List.cons_ne_nil _ _))
      · exact h
  | cons change rest ih =>
    show ((r.apply change).run rest).contains page name = true ↔ _
    rw [ih, contains_apply, isRegistered_cons, List.mem_cons, not_or]
    constructor
    · rintro (h | ⟨hrest, ⟨p, hp, hplace⟩ | ⟨hchange, h⟩⟩)
      · exact .inl (.inr h)
      · exact .inl (.inl ⟨p, hp, hplace, hrest⟩)
      · exact .inr ⟨⟨Ne.symm hchange, hrest⟩, h⟩
    · rintro ((⟨p, hp, hplace, hrest⟩ | h) | ⟨⟨hchange, hrest⟩, h⟩)
      · exact .inr ⟨hrest, .inl ⟨p, hp, hplace⟩⟩
      · exact .inl h
      · exact .inr ⟨hrest, .inr ⟨Ne.symm hchange, h⟩⟩

/-! ### Order -/

/-- Preferences are filed under their own page and name, and no page is blank. -/
structure Orderly (r : Registry) : Prop where
  filed : ∀ page name p, r.get? page name = some p → p.id.page = page ∧ p.id.name = name
  not_isBlank : ∀ page, ¬ r.IsBlank page

theorem orderly_empty : Orderly .empty where
  filed := by
    intro page name p hp
    cases hp
  not_isBlank := Book.not_isBlank_empty

theorem Orderly.insert {r : Registry} (h : r.Orderly) {page name : String} {p : Preference}
    (hp : p.id.page = page ∧ p.id.name = name) : Orderly (r.insert page name p) where
  filed := by
    intro page' name' q hq
    rw [Book.get?_insert] at hq
    split at hq
    · rename_i hplace
      obtain ⟨rfl, rfl⟩ := hplace
      cases hq
      exact hp
    · exact h.filed page' name' q hq
  not_isBlank := fun other hblank => h.not_isBlank other (Book.isBlank_insert.1 hblank).2

theorem Orderly.erase {r : Registry} (h : r.Orderly) (page name : String) :
    Orderly (r.erase page name) where
  filed := by
    intro page' name' p hp
    rw [Book.get?_erase] at hp
    split at hp
    · cases hp
    · exact h.filed page' name' p hp
  not_isBlank := fun other hblank => h.not_isBlank other (Book.isBlank_erase.1 hblank).2

theorem Orderly.mapValues {r : Registry} (h : r.Orderly) {f : Preference → Preference}
    (hf : ∀ p, (f p).id = p.id) : Orderly (r.mapValues f) where
  filed := by
    intro page name q hq
    rw [Book.get?_mapValues] at hq
    obtain ⟨p, hp, rfl⟩ := Option.map_eq_some_iff.1 hq
    rw [hf]
    exact h.filed page name p hp
  not_isBlank := fun page hblank => h.not_isBlank page (Book.isBlank_mapValues.1 hblank)

theorem Orderly.register {r : Registry} (h : r.Orderly) (p : Preference) :
    Orderly (r.register p).state := by
  rw [state_register]
  split
  · exact h
  · exact h.insert ⟨rfl, rfl⟩

theorem Orderly.update {α : Type} {r : Registry} (h : r.Orderly)
    {f : Preference → Outcome Preference α} (hf : ∀ p, (f p).state.id = p.id)
    (page name : String) : Orderly (r.update page name f).state := by
  unfold Registry.update
  cases hget : r.get? page name with
  | none => exact h
  | some p =>
    refine h.insert ?_
    rw [hf]
    exact h.filed page name p hget

theorem id_set (p : Preference) (value : Value) : (p.set value).state.id = p.id := by
  rw [Preference.set_state]

theorem id_restoreFrom (p : Preference) (store : Store) :
    (p.restoreFrom store).state.id = p.id := by
  rcases p.restoreFrom_cases store with h | ⟨found, h⟩
  · rw [h]
  · rw [h]

theorem Orderly.apply {r : Registry} (h : r.Orderly) (change : Change) :
    (r.apply change).Orderly := by
  cases change with
  | register p => exact h.register p
  | unregister page name => exact h.erase page name
  | set page name value => exact h.update (fun p => id_set p value) page name
  | ask page name tick what =>
    exact h.update (fun p => (Preference.onPreference_cases tick p what).1) page name
  | restore page name store => exact h.update (fun p => id_restoreFrom p store) page name
  | resetAll tick =>
    show Orderly (r.resetAll tick).state
    rw [state_resetAll]
    exact h.mapValues fun _ => rfl
  | clearBindings => exact h.mapValues fun _ => rfl
  | loadAll store =>
    show Orderly (r.loadAll store).state
    rw [state_loadAll]
    exact h.mapValues fun p => id_restoreFrom p store

theorem Orderly.run {r : Registry} (h : r.Orderly) (changes : List Change) :
    (r.run changes).Orderly := by
  induction changes generalizing r with
  | nil => exact h
  | cons change rest ih => exact ih (h.apply change)

/-! ### Listings -/

theorem Orderly.mem_pageNames_iff {r : Registry} (h : r.Orderly) {page : String} :
    page ∈ r.pageNames ↔ ∃ name, r.contains page name = true := by
  rw [Book.mem_pageNames_iff]
  exact or_iff_left (h.not_isBlank page)

theorem Orderly.isEmpty_iff {r : Registry} (h : r.Orderly) : r.isEmpty = true ↔ r.size = 0 := by
  rw [Book.isEmpty_iff]
  exact and_iff_left h.not_isBlank

theorem Orderly.mem_values_iff {r : Registry} (h : r.Orderly) {p : Preference} :
    p ∈ r.values ↔ r.get? p.id.page p.id.name = some p := by
  rw [Book.mem_values_iff]
  constructor
  · rintro ⟨page, name, hget⟩
    obtain ⟨rfl, rfl⟩ := h.filed page name p hget
    exact hget
  · exact fun hget => ⟨p.id.page, p.id.name, hget⟩

theorem Orderly.values_pairwise {r : Registry} (h : r.Orderly) :
    r.values.Pairwise fun p q =>
      p.id.page < q.id.page ∨ p.id.page = q.id.page ∧ p.id.name < q.id.name := by
  rw [Book.values_eq_map_toList, List.pairwise_map]
  refine r.toList_pairwise.imp_of_mem ?_
  rintro ⟨page, name, p⟩ ⟨page', name', q⟩ hp hq hlt
  obtain ⟨rfl, rfl⟩ := h.filed page name p (Book.mem_toList_iff.1 hp)
  obtain ⟨rfl, rfl⟩ := h.filed page' name' q (Book.mem_toList_iff.1 hq)
  exact hlt

theorem layout_perm (r : Registry) (page : String) :
    (r.layout page).Perm ((r.pages.get? page).getD .empty).values :=
  List.mergeSort_perm _ _

theorem mem_layout_iff {r : Registry} {page : String} {p : Preference} :
    p ∈ r.layout page ↔ ∃ name, r.get? page name = some p := by
  rw [(layout_perm r page).mem_iff]
  unfold Book.get? Dict.values
  cases r.pages.get? page with
  | none => simp only [Option.getD_none, Option.bind_none, reduceCtorEq, exists_const, Dict.empty,
      List.map_nil, List.not_mem_nil]
  | some entries =>
    simp only [Option.getD_some, Option.bind_some, List.mem_map, Dict.get?_eq_some_iff]
    constructor
    · rintro ⟨⟨name, _⟩, hmem, rfl⟩
      exact ⟨name, hmem⟩
    · rintro ⟨name, hmem⟩
      exact ⟨(name, p), hmem, rfl⟩

theorem Orderly.mem_layout_iff {r : Registry} (h : r.Orderly) {page : String} {p : Preference} :
    p ∈ r.layout page ↔ r.get? page p.id.name = some p := by
  rw [Registry.mem_layout_iff]
  constructor
  · rintro ⟨name, hget⟩
    obtain ⟨-, rfl⟩ := h.filed page name p hget
    exact hget
  · exact fun hget => ⟨p.id.name, hget⟩

theorem precedes_iff {p q : Preference} : precedes p q = true ↔
    p.id.sortTag < q.id.sortTag ∨ p.id.sortTag = q.id.sortTag ∧ p.id.name ≤ q.id.name := by
  simp only [precedes, Bool.or_eq_true, Bool.and_eq_true, decide_eq_true_eq, beq_iff_eq]

theorem precedes_trans (p q s : Preference) (hpq : precedes p q = true)
    (hqs : precedes q s = true) : precedes p s = true := by
  rw [precedes_iff] at *
  rcases hpq with hpq | ⟨hpq, hname⟩
  · rcases hqs with hqs | ⟨hqs, -⟩
    · exact .inl (String.lt_trans hpq hqs)
    · exact .inl (hqs ▸ hpq)
  · rw [hpq]
    exact hqs.imp id fun h => ⟨h.1, String.le_trans hname h.2⟩

theorem precedes_total (p q : Preference) : (precedes p q || precedes q p) = true := by
  rw [Bool.or_eq_true, precedes_iff, precedes_iff]
  by_cases hpq : p.id.sortTag < q.id.sortTag
  · exact .inl (.inl hpq)
  · by_cases htag : q.id.sortTag = p.id.sortTag
    · rcases String.le_total p.id.name q.id.name with hname | hname
      · exact .inl (.inr ⟨htag.symm, hname⟩)
      · exact .inr (.inr ⟨htag, hname⟩)
    · exact .inr (.inl (Dict.lt_of_not_lt_of_ne hpq htag))

/-- No two preferences of a page have one name, so those of one tag are in strict order. -/
theorem Orderly.layout_pairwise {r : Registry} (h : r.Orderly) (page : String) :
    (r.layout page).Pairwise fun p q =>
      p.id.sortTag < q.id.sortTag ∨ p.id.sortTag = q.id.sortTag ∧ p.id.name < q.id.name := by
  have hsorted : (r.layout page).Pairwise fun p q => precedes p q = true :=
    List.pairwise_mergeSort precedes_trans precedes_total _
  have hnames : (r.layout page).Pairwise fun p q => p.id.name ≠ q.id.name := by
    rw [(layout_perm r page).pairwise_iff Ne.symm]
    cases hpage : r.pages.get? page with
    | none => exact .nil
    | some entries =>
      have hname : ∀ entry ∈ entries.entries, entry.2.id.name = entry.1 := by
        intro entry hmem
        refine (h.filed page entry.1 entry.2 ?_).2
        unfold Book.get?
        rw [hpage, Option.bind_some]
        exact Dict.get?_eq_some_iff.2 hmem
      rw [Option.getD_some, Dict.values, List.pairwise_map]
      refine entries.ascending.imp_of_mem fun {x y} hx hy hlt => ?_
      rw [hname x hx, hname y hy]
      exact String.ne_of_lt hlt
  refine (hsorted.and hnames).imp ?_
  rintro p q ⟨hprecedes, hne⟩
  exact (precedes_iff.1 hprecedes).imp id fun hle =>
    ⟨hle.1, Dict.lt_of_not_lt_of_ne (String.not_lt.2 hle.2) hne⟩

theorem size_eq_sum_layout (r : Registry) :
    r.size = (r.pageNames.map fun page => (r.layout page).length).sum := by
  have hsum : r.size = (r.pages.values.map Dict.size).sum := List.foldr_map.symm
  rw [hsum]
  unfold Book.pageNames Dict.keys Dict.values
  rw [List.map_map, List.map_map]
  refine congrArg List.sum (List.map_congr_left fun entry hmem => ?_)
  have hpage : r.pages.get? entry.1 = some entry.2 := Dict.get?_eq_some_iff.2 hmem
  simp only [Function.comp_apply, (layout_perm r entry.1).length_eq, hpage, Option.getD_some,
    Dict.values, Dict.size, List.length_map]

/-! ### Other places -/

theorem get?_register_of_ne {r : Registry} {p : Preference} {page name : String}
    (h : ¬ (p.id.page = page ∧ p.id.name = name)) :
    (r.register p).state.get? page name = r.get? page name := by
  rw [state_register]
  split
  · rfl
  · rw [Book.get?_insert, if_neg h]

/-- After any changes a registry is orderly, and tells what was registered and not unregistered
since. The preferences found in it determine it, whatever the order they were registered in. -/
theorem changes_keep_registries_in_order (changes : List Change) :
    let r := run .empty changes
    (∀ page name p, r.get? page name = some p → p.id.page = page ∧ p.id.name = name) ∧
    (r.pageNames.Pairwise (· < ·) ∧
      ∀ page, page ∈ r.pageNames ↔ ∃ name, r.contains page name = true) ∧
    (r.isEmpty = true ↔ r.size = 0) ∧
    (r.values.length = r.size ∧
      r.size = (r.pageNames.map fun page => (r.layout page).length).sum ∧
      (r.values.Pairwise fun p q =>
        p.id.page < q.id.page ∨ p.id.page = q.id.page ∧ p.id.name < q.id.name) ∧
      ∀ p, p ∈ r.values ↔ r.get? p.id.page p.id.name = some p) ∧
    (∀ page name, r.contains page name = true ↔ IsRegistered changes page name) ∧
    (∀ p, (r.register p).result = .ok () ↔ r.contains p.id.page p.id.name = false) ∧
    (∀ p page name, ¬ (p.id.page = page ∧ p.id.name = name) →
      (r.register p).state.get? page name = r.get? page name) ∧
    (∀ page name page' name', ¬ (page = page' ∧ name = name') →
      (r.unregister page name).1.get? page' name' = r.get? page' name' ∧
      ∀ value, (r.set page name value).state.get? page' name' = r.get? page' name') ∧
    (∀ page, ((r.layout page).Pairwise fun p q =>
        p.id.sortTag < q.id.sortTag ∨ p.id.sortTag = q.id.sortTag ∧ p.id.name < q.id.name) ∧
      ∀ p, p ∈ r.layout page ↔ r.get? page p.id.name = some p) ∧
    ∀ others, (∀ page name, (run .empty others).get? page name = r.get? page name) →
      run .empty others = r := by
  intro r
  have h : r.Orderly := orderly_empty.run changes
  refine ⟨h.filed, ⟨r.pages.keys_pairwise, fun page => h.mem_pageNames_iff⟩, h.isEmpty_iff,
    ⟨Book.length_values r, size_eq_sum_layout r, h.values_pairwise, fun p => h.mem_values_iff⟩,
    ?_, ?_, fun p page name => get?_register_of_ne, ?_,
    fun page => ⟨h.layout_pairwise page, fun p => h.mem_layout_iff⟩, ?_⟩
  · intro page name
    rw [contains_run]
    simp only [Book.contains, Book.get?_empty, Option.isSome_none, Bool.false_eq_true, and_false,
      or_false]
  · intro p
    rw [result_register]
    cases r.contains p.id.page p.id.name <;> simp
  · intro page name page' name' hne
    refine ⟨?_, fun value => ?_⟩
    · exact (Book.get?_erase r page name page' name').trans (if_neg hne)
    · exact (get?_update _ r page name page' name').trans (if_neg hne)
  · intro others hget
    exact Book.ext_get? (fun page => iff_of_false ((orderly_empty.run others).not_isBlank page)
      (h.not_isBlank page)) hget

/-! ### Two preferences of a page -/

def sampleFont : Preference := .ofBody ⟨"General", "Font", "b", ""⟩ .font (.text (.of "Mono"))

def sampleTitle : Preference := .ofBody ⟨"General", "Title", "a", ""⟩ .string (.text (.of ""))

/-- The title is registered a second time in vain, and the font again after it was unregistered. The
title comes first in the layout, though not among the preferences by name. -/
def sampleChanges : List Change :=
  [.register sampleTitle, .register sampleFont, .unregister "General" "Font",
    .register sampleTitle, .register sampleFont]

theorem font_and_title_are_in_order :
    let r := run .empty sampleChanges
    (r.get? "General" "Font" = some sampleFont ∧ IsRegistered sampleChanges "General" "Font") ∧
    ((r.unregister "General" "Font").1.get? "General" "Title" = r.get? "General" "Title" ∧
      (r.register { sampleFont with id := ⟨"Other", "Font", "b", ""⟩ }).state.get? "General" "Font" =
        some sampleFont) ∧
    (sampleTitle ∈ r.layout "General" ∧ r.layout "General" = [sampleTitle, sampleFont] ∧
      r.values = [sampleFont, sampleTitle]) ∧
    run .empty [.register sampleFont, .register sampleTitle] = r := by
  intro r
  obtain ⟨-, -, -, -, hregistered, -, hregister, hplaces, hlayout, hdetermined⟩ :=
    changes_keep_registries_in_order sampleChanges
  have hfont : r.get? "General" "Font" = some sampleFont := rfl
  have htitle : r.get? "General" "Title" = some sampleTitle := rfl
  have hpage : ((r.pages.get? "General").getD .empty).values = [sampleFont, sampleTitle] := rfl
  have hordered : r.layout "General" = [sampleTitle, sampleFont] := by
    unfold layout
    rw [hpage]
    have hprecedes : precedes sampleFont sampleTitle = false := rfl
    simp [List.mergeSort, List.MergeSort.Internal.splitInTwo, hprecedes]
  have hvalues : r.values = [sampleFont, sampleTitle] := rfl
  refine ⟨⟨hfont, (hregistered _ _).1 rfl⟩, ⟨?_, ?_⟩, ⟨?_, hordered, hvalues⟩, ?_⟩
  · exact (hplaces "General" "Font" "General" "Title" (by decide)).1
  · exact (hregister _ "General" "Font" (by decide)).trans hfont
  · exact ((hlayout "General").2 sampleTitle).2 htitle
  · exact hdetermined _ fun page name => rfl

end Registry

end Preferences
