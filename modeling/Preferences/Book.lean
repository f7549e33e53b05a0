import Preferences.Dict

/-!
# Books

A book files values under a page and a name. A page comes into being when a value is filed on it,
and is torn out when an erasure leaves it empty; a book that was put together from pages may also
hold an empty one. Everything is listed in ascending order of page and then of name.

Registries and stores are books. The pages are what `OptionDb` and `SettingsStore` call sections:
`pageNames` is `sections`, `size` is `len`, and `isEmpty` is `is_empty` of both. `get?` is
`OptionDb::find` and `OptionStore::read`, and `values` is what `OptionDb::iter` goes through.
-/

namespace Preferences

structure Book (α : Type) where
  pages : Dict (Dict α)

namespace Book

variable {α β : Type}

def empty : Book α := ⟨.empty⟩

instance : Inhabited (Book α) := ⟨empty⟩

/-! ### Operations -/

def get? (b : Book α) (page name : String) : Option α := (b.pages.get? page).bind (·.get? name)

def contains (b : Book α) (page name : String) : Bool := (b.get? page name).isSome

/-- Brings a page into being, unless it is there. -/
def openPage (b : Book α) (page : String) : Book α :=
  ⟨b.pages.insert page ((b.pages.get? page).getD .empty)⟩

def insert (b : Book α) (page name : String) (value : α) : Book α :=
  ⟨b.pages.insert page (((b.pages.get? page).getD .empty).insert name value)⟩

/-- Takes out one value, and answers it (`SettingsStore::remove`, `OptionDb::unregister`). The page
goes too if nothing is left on it. -/
def remove (b : Book α) (page name : String) : Book α × Option α :=
  match b.pages.get? page with
  | none => (b, none)
  | some entries =>
    let (rest, removed) := entries.remove name
    (if rest.isEmpty then ⟨b.pages.erase page⟩ else ⟨b.pages.insert page rest⟩, removed)

/-- The book without one value. -/
def erase (b : Book α) (page name : String) : Book α := (b.remove page name).1

/-- The names of the pages, empty ones included. -/
def pageNames (b : Book α) : List String := b.pages.keys

/-- Whether there is no page. -/
def isEmpty (b : Book α) : Bool := b.pages.isEmpty

def toList (b : Book α) : List (String × String × α) :=
  b.pages.entries.flatMap fun page => page.2.entries.map fun entry => (page.1, entry.1, entry.2)

def values (b : Book α) : List α := b.pages.values.flatMap Dict.values

/-- The sum of the sizes of the pages. -/
def size (b : Book α) : Nat := b.pages.values.foldr (fun entries rest => entries.size + rest) 0

def mapValues (f : α → β) (b : Book α) : Book β :=
  ⟨b.pages.mapValues fun _ entries => entries.mapValues fun _ => f⟩

/-- Rewrites every value in order; each is told what the ones before it left behind. -/
def sweep {σ : Type} (f : σ → α → σ × β) (s : σ) (b : Book α) : σ × Book β :=
  let swept := b.pages.sweep (fun s entries => entries.sweep f s) s
  (swept.1, ⟨swept.2⟩)

/-! ### Look-ups after each operation -/

@[simp] theorem get?_empty (page name : String) : (empty : Book α).get? page name = none := rfl

theorem get?_insert (b : Book α) (page name page' name' : String) (value : α) :
    (b.insert page name value).get? page' name' =
      if page = page' ∧ name = name' then some value else b.get? page' name' := by
  unfold get? insert
  rw [Dict.get?_insert]
  by_cases hp : page = page'
  · subst hp
    cases h : b.pages.get? page <;> by_cases hn : name = name' <;> simp [Dict.get?_insert, hn]
  · simp [hp]

/-- What is taken out is what was filed there. -/
theorem remove_snd (b : Book α) (page name : String) :
    (b.remove page name).2 = b.get? page name := by
  unfold remove get?
  cases b.pages.get? page with
  | none => rfl
  | some entries => exact entries.remove_snd name

theorem erase_eq (b : Book α) (page name : String) :
    b.erase page name =
      match b.pages.get? page with
      | none => b
      | some entries =>
        if (entries.erase name).isEmpty then ⟨b.pages.erase page⟩
        else ⟨b.pages.insert page (entries.erase name)⟩ := by
  unfold erase remove
  cases b.pages.get? page <;> rfl

theorem get?_erase (b : Book α) (page name page' name' : String) :
    (b.erase page name).get? page' name' =
      if page = page' ∧ name = name' then none else b.get? page' name' := by
  rw [erase_eq]
  cases h : b.pages.get? page with
  | none =>
    by_cases hp : page = page'
    · subst hp
      simp [get?, h]
    · simp [hp]
  | some entries =>
    have key : ((entries.erase name).get? name' =
        if name = name' then none else entries.get? name') := Dict.get?_erase _ _ _
    by_cases hp : page = page'
    · subst hp
      by_cases he : (entries.erase name).isEmpty = true
      · rw [Dict.isEmpty_iff.1 he] at key
        simp only [he, if_true, get?, Dict.get?_erase_self, h, Option.bind_some, Option.bind_none,
          true_and]
        rw [← key]
        rfl
      · simp [he, get?, h, key]
    · by_cases he : (entries.erase name).isEmpty = true <;>
        simp [he, get?, Dict.get?_erase, Dict.get?_insert, hp]

@[simp] theorem get?_openPage (b : Book α) (opened page name : String) :
    (b.openPage opened).get? page name = b.get? page name := by
  unfold get? openPage
  rw [Dict.get?_insert]
  split
  · rename_i h
    subst h
    cases b.pages.get? opened <;> rfl
  · rfl

theorem get?_mapValues (f : α → β) (b : Book α) (page name : String) :
    (b.mapValues f).get? page name = (b.get? page name).map f := by
  unfold get? mapValues
  rw [Dict.get?_mapValues]
  cases b.pages.get? page with
  | none => rfl
  | some entries => exact Dict.get?_mapValues _ entries name

theorem length_values (b : Book α) : b.values.length = b.size := by
  unfold size values
  induction b.pages.values with
  | nil => rfl
  | cons entries rest ih =>
    have hfirst : entries.values.length = entries.size := List.length_map _
    rw [List.flatMap_cons, List.length_append, List.foldr_cons, hfirst, ih]

/-- The values listed are those that are filed somewhere. -/
theorem mem_values_iff {b : Book α} {value : α} :
    value ∈ b.values ↔ ∃ page name, b.get? page name = some value := by
  unfold values Dict.values get?
  simp only [List.mem_flatMap, List.mem_map, Option.bind_eq_some_iff, Dict.get?_eq_some_iff]
  constructor
  · rintro ⟨entries, ⟨⟨page, _⟩, hpage, rfl⟩, ⟨name, _⟩, hname, rfl⟩
    exact ⟨page, name, _, hpage, hname⟩
  · rintro ⟨page, name, entries, hpage, hname⟩
    exact ⟨entries, ⟨(page, entries), hpage, rfl⟩, (name, value), hname, rfl⟩

/-! ### Changes that change nothing -/

theorem insert_of_get? {b : Book α} {page name : String} {value : α}
    (h : b.get? page name = some value) : b.insert page name value = b := by
  obtain ⟨entries, hpage, hname⟩ := Option.bind_eq_some_iff.1 h
  unfold insert
  rw [hpage, Option.getD_some, Dict.insert_of_get? hname, Dict.insert_of_get? hpage]

theorem openPage_of_contains {b : Book α} {page name : String}
    (h : b.contains page name = true) : b.openPage page = b := by
  obtain ⟨value, hvalue⟩ := Option.isSome_iff_exists.1 h
  obtain ⟨entries, hpage, -⟩ := Option.bind_eq_some_iff.1 hvalue
  unfold openPage
  rw [hpage, Option.getD_some, Dict.insert_of_get? hpage]

theorem insert_openPage (b : Book α) (page name : String) (value : α) :
    (b.openPage page).insert page name value = b.insert page name value := by
  unfold insert openPage
  simp only [Dict.get?_insert_self, Option.getD_some, Dict.insert_insert_self]

/-! ### Sweeps -/

section

variable {σ : Type} (f : σ → α → σ × β)

theorem sweep_fst (s : σ) (b : Book α) :
    (b.sweep f s).1 = b.values.foldl (fun s a => (f s a).1) s := by
  unfold sweep values
  simp only [Dict.sweep_fst, List.foldl_flatMap]

theorem sweep_snd {g : α → β} (h : ∀ s a, (f s a).2 = g a) (s : σ) (b : Book α) :
    (b.sweep f s).2 = b.mapValues g := by
  unfold sweep mapValues
  simp only [Dict.sweep_snd (fun s (entries : Dict α) => entries.sweep f s)
    (fun s entries => Dict.sweep_snd f h s entries) s b.pages]

end

end Book

end Preferences
