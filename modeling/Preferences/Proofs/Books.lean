import Mathlib.Algebra.GroupWithZero.Nat
import Preferences.Book

/-!
# Books, page by page

A page of a book may be blank, that is without any value. Filing a value on a page and taking one
out of it leave no blank page of that name, and the other pages are as they were. A book lists the
names of its pages, blank ones included, so only a book without blank pages lists exactly those that
something is filed under, and only such a book is determined by its look-ups. Values are listed in
ascending order of page and name.
-/

namespace Preferences

/-! ### Dictionaries -/

namespace Dict

variable {α β : Type}

theorem insert_ne_empty (d : Dict α) (key : String) (value : α) : d.insert key value ≠ empty := by
  intro h
  have hget := d.get?_insert_self key value
  rw [h] at hget
  cases hget

theorem exists_get?_of_ne_empty {d : Dict α} (h : d ≠ empty) :
    ∃ key value, d.get? key = some value := by
  refine Classical.byContradiction fun hnone => h (ext_get? fun key => ?_)
  cases hget : d.get? key with
  | none => rfl
  | some value => exact absurd ⟨key, value, hget⟩ hnone

theorem mapValues_eq_empty_iff {f : String → α → β} {d : Dict α} :
    d.mapValues f = empty ↔ d = empty := by
  rw [← isEmpty_iff, ← isEmpty_iff]
  obtain ⟨entries, ascending⟩ := d
  cases entries <;> rfl

theorem mapValues_insert (f : String → α → β) (d : Dict α) (key : String) (value : α) :
    (d.insert key value).mapValues f = (d.mapValues f).insert key (f key value) := by
  refine ext_get? fun other => ?_
  rw [get?_mapValues, get?_insert, get?_insert, get?_mapValues]
  by_cases h : key = other
  · subst h
    simp only [if_true, Option.map_some]
  · simp only [h, if_false]

theorem mapValues_erase (f : String → α → β) (d : Dict α) (key : String) :
    (d.erase key).mapValues f = (d.mapValues f).erase key := by
  refine ext_get? fun other => ?_
  rw [get?_mapValues, get?_erase, get?_erase, get?_mapValues]
  by_cases h : key = other
  · simp only [h, if_true, Option.map_none]
  · simp only [h, if_false]

theorem mapValues_mapValues {γ : Type} (g : String → β → γ) (f : String → α → β) (d : Dict α) :
    (d.mapValues f).mapValues g = d.mapValues fun key value => g key (f key value) :=
  ext_get? fun key => by simp only [get?_mapValues, Option.map_map, Function.comp_def]

theorem values_mapValues (f : α → β) (d : Dict α) :
    (d.mapValues fun _ => f).values = d.values.map f := by
  simp only [values, mapValues, List.map_map, Function.comp_def]

theorem keys_mapValues (f : String → α → β) (d : Dict α) : (d.mapValues f).keys = d.keys := by
  simp only [keys, mapValues, List.map_map, Function.comp_def]

end Dict

namespace Book

variable {α β : Type}

/-! ### What is filed -/

theorem contains_insert {b : Book α} {page name page' name' : String} {value : α} :
    (b.insert page name value).contains page' name' = true ↔
      (page = page' ∧ name = name') ∨ b.contains page' name' = true := by
  unfold contains
  rw [get?_insert]
  by_cases h : page = page' ∧ name = name'
  · simp only [h, and_self, if_true, Option.isSome_some, true_or]
  · simp only [h, if_false, false_or]

theorem contains_erase {b : Book α} {page name page' name' : String} :
    (b.erase page name).contains page' name' = true ↔
      ¬ (page = page' ∧ name = name') ∧ b.contains page' name' = true := by
  unfold contains
  rw [get?_erase]
  by_cases h : page = page' ∧ name = name'
  · simp only [h, and_self, if_true, Option.isSome_none, Bool.false_eq_true, not_true_eq_false,
      false_and]
  · simp only [h, if_false, not_false_eq_true, true_and]

theorem contains_openPage (b : Book α) (opened page name : String) :
    (b.openPage opened).contains page name = b.contains page name := by
  unfold contains
  rw [get?_openPage]

theorem contains_mapValues (f : α → β) (b : Book α) (page name : String) :
    (b.mapValues f).contains page name = b.contains page name := by
  unfold contains
  rw [get?_mapValues, Option.isSome_map]

/-! ### Blank pages -/

/-- The book has a page of that name, and nothing is filed on it. -/
def IsBlank (b : Book α) (page : String) : Prop := b.pages.get? page = some .empty

theorem not_isBlank_empty (page : String) : ¬ (empty : Book α).IsBlank page := by
  intro h
  cases h

theorem not_isBlank_of_contains {b : Book α} {page name : String}
    (h : b.contains page name = true) : ¬ b.IsBlank page := by
  intro hblank
  unfold contains get? at h
  rw [hblank] at h
  cases h

theorem isBlank_insert {b : Book α} {page name other : String} {value : α} :
    (b.insert page name value).IsBlank other ↔ page ≠ other ∧ b.IsBlank other := by
  unfold IsBlank insert
  rw [Dict.get?_insert]
  by_cases h : page = other
  · simp only [h, if_true, Option.some.injEq, Dict.insert_ne_empty, ne_eq, not_true_eq_false,
      false_and]
  · simp only [h, if_false, ne_eq, not_false_eq_true, true_and]

/-- Of the page that a value is taken from, what is left stays if anything is. -/
theorem get?_pages_erase (b : Book α) (page name other : String) :
    (b.erase page name).pages.get? other =
      if page = other then ((b.pages.get? page).map (·.erase name)).filter (!·.isEmpty)
      else b.pages.get? other := by
  rw [erase_eq]
  cases hpage : b.pages.get? page with
  | none =>
    by_cases h : page = other
    · simp only [h ▸ hpage, h, if_true, Option.map_none, Option.filter_none]
    · simp only [h, if_false]
  | some entries =>
    by_cases hrest : (entries.erase name).isEmpty = true
    · by_cases h : page = other <;> simp [hrest, h, Dict.get?_erase, Option.filter_some]
    · by_cases h : page = other <;> simp [hrest, h, Dict.get?_insert, Option.filter_some]

theorem isBlank_erase {b : Book α} {page name other : String} :
    (b.erase page name).IsBlank other ↔ page ≠ other ∧ b.IsBlank other := by
  unfold IsBlank
  rw [get?_pages_erase]
  by_cases h : page = other
  · simp only [h, if_true, Option.filter_eq_some_iff, ne_eq, not_true_eq_false, false_and,
      iff_false]
    rintro ⟨-, hempty⟩
    cases hempty
  · simp only [h, if_false, ne_eq, not_false_eq_true, true_and]

theorem get?_pages_mapValues (f : α → β) (b : Book α) (page : String) :
    (b.mapValues f).pages.get? page =
      (b.pages.get? page).map fun entries => entries.mapValues fun _ => f :=
  Dict.get?_mapValues _ _ _

theorem isBlank_mapValues {f : α → β} {b : Book α} {page : String} :
    (b.mapValues f).IsBlank page ↔ b.IsBlank page := by
  unfold IsBlank
  rw [get?_pages_mapValues]
  cases b.pages.get? page with
  | none => simp only [Option.map_none, reduceCtorEq]
  | some entries => simp only [Option.map_some, Option.some.injEq, Dict.mapValues_eq_empty_iff]

/-! ### What is listed -/

theorem mem_pageNames_iff {b : Book α} {page : String} :
    page ∈ b.pageNames ↔ (∃ name, b.contains page name = true) ∨ b.IsBlank page := by
  unfold pageNames
  rw [Dict.mem_keys_iff]
  unfold contains get? IsBlank
  cases hpage : b.pages.get? page with
  | none =>
    simp only [Option.isSome_none, Option.bind_none, reduceCtorEq, Bool.false_eq_true,
      exists_const, or_self]
  | some entries =>
    simp only [Option.isSome_some, Option.bind_some, Option.some.injEq, true_iff]
    by_cases h : entries = .empty
    · exact .inr h
    · obtain ⟨name, value, hname⟩ := Dict.exists_get?_of_ne_empty h
      exact .inl ⟨name, Option.isSome_iff_exists.2 ⟨value, hname⟩⟩

theorem size_eq_zero_iff {b : Book α} :
    b.size = 0 ↔ ∀ page name, b.contains page name = false := by
  rw [← length_values, List.length_eq_zero_iff, List.eq_nil_iff_forall_not_mem]
  constructor
  · intro h page name
    cases hget : b.get? page name with
    | none => simp only [contains, hget, Option.isSome_none]
    | some value => exact absurd (mem_values_iff.2 ⟨page, name, hget⟩) (h value)
  · intro h value hvalue
    obtain ⟨page, name, hget⟩ := mem_values_iff.1 hvalue
    have hnone := h page name
    simp only [contains, hget, Option.isSome_some, Bool.true_eq_false] at hnone

theorem isEmpty_iff {b : Book α} :
    b.isEmpty = true ↔ b.size = 0 ∧ ∀ page, ¬ b.IsBlank page := by
  unfold isEmpty
  rw [Dict.isEmpty_iff, size_eq_zero_iff]
  constructor
  · intro h
    simp only [contains, get?, IsBlank, h, Dict.get?_empty, Option.bind_none, Option.isSome_none,
      reduceCtorEq, not_false_eq_true, implies_true, and_self]
  · rintro ⟨hnone, hblank⟩
    refine Dict.ext_get? fun page => ?_
    cases hpage : b.pages.get? page with
    | none => rfl
    | some entries =>
      have hne : entries ≠ .empty := fun h => hblank page (hpage.trans (congrArg some h))
      obtain ⟨name, value, hname⟩ := Dict.exists_get?_of_ne_empty hne
      have hfalse := hnone page name
      simp only [contains, get?, hpage, Option.bind_some, hname, Option.isSome_some,
        Bool.true_eq_false] at hfalse

theorem isBlank_iff {b : Book α} {page : String} :
    b.IsBlank page ↔ page ∈ b.pageNames ∧ ∀ name, b.contains page name = false := by
  rw [mem_pageNames_iff]
  constructor
  · intro h
    refine ⟨.inr h, fun name => ?_⟩
    cases hname : b.contains page name with
    | false => rfl
    | true => exact absurd h (not_isBlank_of_contains hname)
  · rintro ⟨⟨name, hname⟩ | h, hnone⟩
    · rw [hnone] at hname
      cases hname
    · exact h

/-- A book is determined by its blank pages and its look-ups. -/
theorem ext_get? {b c : Book α} (hblank : ∀ page, b.IsBlank page ↔ c.IsBlank page)
    (h : ∀ page name, b.get? page name = c.get? page name) : b = c := by
  obtain ⟨bpages⟩ := b
  obtain ⟨cpages⟩ := c
  refine congrArg Book.mk (Dict.ext_get? fun page => ?_)
  have hentries := h page
  have hpage : bpages.get? page = some .empty ↔ cpages.get? page = some .empty := hblank page
  unfold get? at hentries
  cases hbpage : bpages.get? page with
  | none =>
    cases hcpage : cpages.get? page with
    | none => rfl
    | some entries =>
      have hempty : entries = .empty := Dict.ext_get? fun name => by
        simpa only [hbpage, hcpage, Option.bind_none, Option.bind_some, Dict.get?_empty]
          using (hentries name).symm
      rw [hbpage, hcpage, hempty] at hpage
      exact (hpage.2 rfl).trans (congrArg some hempty.symm)
  | some entries =>
    cases hcpage : cpages.get? page with
    | none =>
      have hempty : entries = .empty := Dict.ext_get? fun name => by
        simpa only [hbpage, hcpage, Option.bind_none, Option.bind_some, Dict.get?_empty]
          using hentries name
      rw [hbpage, hcpage, hempty] at hpage
      exact absurd (hpage.1 rfl) nofun
    | some others =>
      refine congrArg some (Dict.ext_get? fun name => ?_)
      simpa only [hbpage, hcpage, Option.bind_some] using hentries name

/-! ### Order -/

theorem toList_pairwise (b : Book α) :
    b.toList.Pairwise fun x y => x.1 < y.1 ∨ x.1 = y.1 ∧ x.2.1 < y.2.1 := by
  unfold toList
  rw [List.pairwise_flatMap]
  constructor
  · intro page _
    rw [List.pairwise_map]
    exact page.2.ascending.imp fun h => .inr ⟨rfl, h⟩
  · refine b.pages.ascending.imp ?_
    intro page later hlt x hx y hy
    obtain ⟨entry, -, rfl⟩ := List.mem_map.1 hx
    obtain ⟨entry', -, rfl⟩ := List.mem_map.1 hy
    exact .inl hlt

theorem mem_toList_iff {b : Book α} {page name : String} {value : α} :
    (page, name, value) ∈ b.toList ↔ b.get? page name = some value := by
  unfold toList get?
  simp only [List.mem_flatMap, List.mem_map, Option.bind_eq_some_iff, Dict.get?_eq_some_iff]
  constructor
  · rintro ⟨⟨_, entries⟩, hpage, ⟨_, _⟩, hname, h⟩
    cases h
    exact ⟨entries, hpage, hname⟩
  · rintro ⟨entries, hpage, hname⟩
    exact ⟨(page, entries), hpage, (name, value), hname, rfl⟩

theorem values_eq_map_toList (b : Book α) : b.values = b.toList.map fun x => x.2.2 := by
  simp only [values, toList, Dict.values, List.map_flatMap, List.flatMap_map, List.map_map,
    Function.comp_def]

/-! ### Rewriting every value -/

theorem mapValues_insert (f : α → β) (b : Book α) (page name : String) (value : α) :
    (b.insert page name value).mapValues f = (b.mapValues f).insert page name (f value) := by
  unfold insert mapValues
  rw [Dict.mapValues_insert, Dict.mapValues_insert, Dict.get?_mapValues]
  cases b.pages.get? page <;> rfl

theorem mapValues_erase (f : α → β) (b : Book α) (page name : String) :
    (b.erase page name).mapValues f = (b.mapValues f).erase page name := by
  have hpages : ∀ other, ((b.erase page name).mapValues f).pages.get? other =
      ((b.mapValues f).erase page name).pages.get? other := by
    intro other
    rw [get?_pages_mapValues, get?_pages_erase, get?_pages_erase, get?_pages_mapValues,
      get?_pages_mapValues]
    by_cases h : page = other
    · simp only [h, if_true]
      cases b.pages.get? other with
      | none => rfl
      | some entries =>
        have hempty : ((entries.mapValues fun _ => f).erase name).isEmpty =
            (entries.erase name).isEmpty := by
          rw [← Dict.mapValues_erase, Bool.eq_iff_iff, Dict.isEmpty_iff, Dict.isEmpty_iff,
            Dict.mapValues_eq_empty_iff]
        simp only [Option.map_some, Option.filter_some, hempty]
        split
        · exact congrArg some (Dict.mapValues_erase _ _ _)
        · rfl
    · simp only [h, if_false]
  exact congrArg Book.mk (Dict.ext_get? hpages)

theorem mapValues_mapValues {γ : Type} (g : β → γ) (f : α → β) (b : Book α) :
    (b.mapValues f).mapValues g = b.mapValues fun value => g (f value) := by
  unfold mapValues
  simp only [Dict.mapValues_mapValues]

theorem values_mapValues (f : α → β) (b : Book α) : (b.mapValues f).values = b.values.map f := by
  unfold values mapValues
  rw [Dict.values_mapValues fun entries : Dict α => entries.mapValues fun _ => f]
  simp only [List.flatMap_map, Dict.values_mapValues, List.map_flatMap]

theorem pageNames_mapValues (f : α → β) (b : Book α) : (b.mapValues f).pageNames = b.pageNames :=
  Dict.keys_mapValues _ b.pages

theorem mapValues_eq_self_iff {f : α → α} {b : Book α} :
    b.mapValues f = b ↔ ∀ page name value, b.get? page name = some value → f value = value := by
  constructor
  · intro h page name value hget
    have hmap := get?_mapValues f b page name
    rw [h, hget] at hmap
    exact (Option.some.inj hmap).symm
  · intro h
    refine ext_get? (fun page => isBlank_mapValues) fun page name => ?_
    rw [get?_mapValues]
    cases hget : b.get? page name with
    | none => rfl
    | some value => exact congrArg some (h page name value hget)

/-! ### Books that match -/

/-- The same pages, the same names on them, and values that stand in a relation. -/
structure Matches (R : α → β → Prop) (b : Book α) (c : Book β) : Prop where
  pageNames : c.pageNames = b.pageNames
  contains : ∀ page name, c.contains page name = b.contains page name
  values : ∀ page name value, b.get? page name = some value →
    ∃ later, c.get? page name = some later ∧ R value later

theorem matches_mapValues {R : α → β → Prop} {f : α → β} {b : Book α}
    (h : ∀ value ∈ b.values, R value (f value)) : b.Matches R (b.mapValues f) where
  pageNames := pageNames_mapValues f b
  contains := contains_mapValues f b
  values := by
    intro page name value hvalue
    refine ⟨f value, ?_, h value (mem_values_iff.2 ⟨page, name, hvalue⟩)⟩
    rw [get?_mapValues, hvalue]
    rfl

theorem Matches.imp {R S : α → β → Prop} {b : Book α} {c : Book β} (h : b.Matches R c)
    (hRS : ∀ value ∈ b.values, ∀ later, R value later → S value later) : b.Matches S c where
  pageNames := h.pageNames
  contains := h.contains
  values := by
    intro page name value hvalue
    obtain ⟨later, hlater, hR⟩ := h.values page name value hvalue
    exact ⟨later, hlater, hRS value (mem_values_iff.2 ⟨page, name, hvalue⟩) later hR⟩

/-- A book that matches another through a function is its image. -/
theorem Matches.eq_mapValues {f : α → β} {b : Book α} {c : Book β}
    (h : b.Matches (fun value later => later = f value) c) : c = b.mapValues f := by
  refine ext_get? (fun page => ?_) fun page name => ?_
  · rw [isBlank_mapValues, isBlank_iff, isBlank_iff, h.pageNames]
    simp only [h.contains]
  · rw [get?_mapValues]
    cases hvalue : b.get? page name with
    | none =>
      have hnone := h.contains page name
      unfold Book.contains at hnone
      rw [hvalue] at hnone
      exact Option.not_isSome_iff_eq_none.1 (by rw [hnone]; exact Bool.false_ne_true)
    | some value =>
      obtain ⟨later, hlater, rfl⟩ := h.values page name value hvalue
      exact hlater

end Book

end Preferences
