import Preferences.Proofs.Books
import Preferences.Proofs.Loading
import Preferences.Proofs.Parts
import Preferences.Proofs.TomlStore

/-!
# There and back through TOML

A store that is saved as a TOML document and loaded again has the same pages and names. In its
values every empty text, however deep in lists, has become nothing, and all else is as it was. What
was loaded from a TOML document has no empty texts, and comes back as it is.
-/

namespace Preferences

namespace Stored

/-! ### Parts of a value -/

theorem part?_blanked (value : Stored) (path : List Nat) :
    value.blanked.part? path = (value.part? path).map blanked := by
  induction path generalizing value with
  | nil => rfl
  | cons place rest ih =>
    -- Only lists have parts, before and after.
    cases value with
    | list items =>
      rw [blanked_list, part?_list, part?_list, List.getElem?_map]
      cases items[place]? with
      | none => rfl
      | some item => exact ih item
    | text value =>
      unfold blanked
      split <;> rfl
    | _ => rfl

/-- The second value is the first with nothing in place of every empty text. -/
structure BlanksTo (value later : Stored) : Prop where
  empty : ∀ path, value.part? path = some (.text "") → later.part? path = some .null
  same : ∀ path found, value.part? path = some found → found ≠ .text "" →
    (∀ items, found ≠ .list items) → later.part? path = some found
  list : ∀ path items, value.part? path = some (.list items) →
    ∃ others, later.part? path = some (.list others) ∧ others.length = items.length
  absent : ∀ path, value.part? path = none → later.part? path = none

theorem blanked_eq_of_scalar {value : Stored} (hempty : value ≠ .text "")
    (hlist : ∀ items, value ≠ .list items) : value.blanked = value := by
  cases value with
  | text value => exact blanked_text fun h => hempty (congrArg Stored.text h)
  | list items => exact absurd rfl (hlist items)
  | _ => rfl

theorem blanksTo_blanked (value : Stored) : value.BlanksTo value.blanked where
  empty := by
    intro path h
    rw [part?_blanked, h]
    rfl
  same := by
    intro path found h hempty hlist
    rw [part?_blanked, h, Option.map_some, blanked_eq_of_scalar hempty hlist]
  list := by
    intro path items h
    rw [part?_blanked, h, Option.map_some, blanked_list]
    exact ⟨_, rfl, List.length_map _⟩
  absent := by
    intro path h
    rw [part?_blanked, h]
    rfl

/-! ### Values without empty texts -/

/-- No part of the value is an empty text. -/
def Filled (value : Stored) : Prop := ∀ path, value.part? path ≠ some (.text "")

theorem Filled.of_mem {items : List Stored} (h : (list items).Filled) {item : Stored}
    (hitem : item ∈ items) : item.Filled := by
  intro path hpath
  obtain ⟨place, hplace⟩ := List.mem_iff_getElem?.1 hitem
  refine h (place :: path) ?_
  rw [part?_list, hplace]
  exact hpath

mutual

theorem blanked_of_filled (value : Stored) (h : value.Filled) : value.blanked = value := by
  cases value with
  | list items =>
    unfold blanked
    rw [blankedItems_of_filled items fun item hitem => h.of_mem hitem]
  | text value => exact blanked_text fun hempty => h [] (congrArg (some ∘ Stored.text) hempty)
  | _ => rfl

theorem blankedItems_of_filled (items : List Stored) (h : ∀ item ∈ items, item.Filled) :
    blankedItems items = items := by
  cases items with
  | nil => rfl
  | cons item rest =>
    unfold blankedItems
    rw [blanked_of_filled item (h item List.mem_cons_self),
      blankedItems_of_filled rest fun other hother => h other (List.mem_cons_of_mem item hother)]

end

theorem blanked_eq_self_iff {value : Stored} : value.blanked = value ↔ value.Filled := by
  constructor
  · intro h path hpath
    have hmap := value.part?_blanked path
    rw [h, hpath] at hmap
    cases hmap
  · exact blanked_of_filled value

/-! ### What is read from TOML -/

theorem datetime_text_ne_empty (value : Toml.Datetime) : value.text ≠ "" := by
  intro h
  have hchars := congrArg String.toList h
  cases value with
  | date d => simp [Toml.Datetime.text, Toml.LocalDate.chars] at hchars
  | time t => simp [Toml.Datetime.text, Toml.LocalTime.chars] at hchars
  | both d t offset => simp [Toml.Datetime.text] at hchars

mutual

theorem blanked_of_ofToml? (source : Toml.Value) {value : Stored}
    (h : ofToml? source = some value) : value.blanked = value := by
  cases source with
  | string text =>
    cases h
    by_cases hempty : text = ""
    · rw [if_pos hempty]
      rfl
    · rw [if_neg hempty]
      exact blanked_text hempty
  | datetime value =>
    cases h
    exact blanked_text (datetime_text_ne_empty value)
  | array items =>
    unfold ofToml? at h
    obtain ⟨found, hfound, rfl⟩ := Option.map_eq_some_iff.1 h
    unfold blanked
    rw [blankedItems_of_ofTomlItems? items hfound]
  | table entries => cases h
  | _ =>
    cases h
    rfl

theorem blankedItems_of_ofTomlItems? (sources : List Toml.Value) {items : List Stored}
    (h : ofTomlItems? sources = some items) : blankedItems items = items := by
  cases sources with
  | nil =>
    cases h
    rfl
  | cons source rest =>
    unfold ofTomlItems? at h
    obtain ⟨first, hfirst, hrest⟩ := Option.bind_eq_some_iff.1 h
    obtain ⟨more, hmore, hitems⟩ := Option.bind_eq_some_iff.1 hrest
    cases hitems
    unfold blankedItems
    rw [blanked_of_ofToml? source hfirst, blankedItems_of_ofTomlItems? rest hmore]

end

end Stored

/-! ### Stores -/

/-- Whether a file can be written does not depend on what is written. -/
theorem Folder.result_write (folder : Folder) (path text text' : String) :
    (folder.write path text).result = (folder.write path text').result := by
  unfold write put
  cases folder.place? path with
  | none => rfl
  | some place =>
    by_cases h : folder.nodes.get? place = some .directory
    · simp only [if_pos h]
    · simp only [if_neg h]

namespace Store

theorem filled_of_loadToml {store : Store} {folder : Folder} {path : String}
    (h : (store.loadToml folder path).result = .ok ()) (page name : String) (value : Stored)
    (hget : (store.loadToml folder path).state.get? page name = some value) : value.Filled := by
  obtain ⟨text, -, hparse⟩ := reload_ok h
  obtain ⟨document, -, hstore⟩ := get?_parseToml hparse
  -- Where the document got its value from does not matter, only that it was read.
  have hread : (store.loadToml folder path).state.get? page name = _ := hstore page name
  rw [hget] at hread
  obtain ⟨source, -, hsource⟩ := Option.bind_eq_some_iff.1 hread.symm
  exact Stored.blanked_eq_self_iff.1 (Stored.blanked_of_ofToml? source hsource)

/-- Saving a store as a TOML document fails only where no file can be written. If the text of its
document is read as that document, the store that is loaded from the file has the same pages, blank
ones too, and the same names, and its values are those of the store with nothing in place of every
empty text. It is the same store exactly if no value has an empty text in it, and so if the store
was loaded from any TOML file itself. -/
theorem toml_round_trip_only_blanks (store other : Store) (folder : Folder) (path : String) :
    (∀ text, (store.saveToml folder path).result = (folder.write path text).result) ∧
    ((store.saveToml folder path).result = .ok () → Toml.ReadsBack store.toToml →
      ∃ loaded,
        other.loadToml (store.saveToml folder path).state path =
          ⟨loaded, .ok (), [.tomlLoaded], []⟩ ∧
        (loaded.pageNames = store.pageNames ∧
          (∀ page, loaded.IsBlank page ↔ store.IsBlank page) ∧
          ∀ page name, loaded.contains page name = store.contains page name) ∧
        (∀ page name value, store.get? page name = some value →
          ∃ later, loaded.get? page name = some later ∧ value.BlanksTo later) ∧
        (loaded = store ↔
          ∀ page name value, store.get? page name = some value → value.Filled) ∧
        ∀ (first : Store) (source : Folder) (origin : String),
          (first.loadToml source origin).result = .ok () →
          store = (first.loadToml source origin).state → loaded = store) := by
  refine ⟨fun text => folder.result_write path _ text, fun hsaved hreads => ?_⟩
  have hsame : store.mapValues Stored.blanked = store ↔
      ∀ page name value, store.get? page name = some value → value.Filled := by
    rw [Book.mapValues_eq_self_iff]
    simp only [Stored.blanked_eq_self_iff]
  refine ⟨store.mapValues Stored.blanked, loadToml_saveToml hsaved hreads other,
    ⟨Book.pageNames_mapValues _ store, fun page => Book.isBlank_mapValues,
      Book.contains_mapValues _ store⟩, ?_, hsame, ?_⟩
  · intro page name value hget
    refine ⟨value.blanked, ?_, value.blanksTo_blanked⟩
    rw [Book.get?_mapValues, hget]
    rfl
  · intro first source origin hloaded heq
    refine hsame.2 fun page name value hget => ?_
    rw [heq] at hget
    exact filled_of_loadToml hloaded page name value hget

/-- A file with a blank page, a date, and an empty text in a list. -/
def blankingFolder : Folder :=
  ⟨.ofList [("kept.toml", .file "[S]\n[T]\nday = 2024-02-29\nx = [[\"\", 1, true]]\n")]⟩

def blankingStore : Store := (loadToml .empty blankingFolder "kept.toml").state

/-- A store whose TOML document is the same. -/
def unblankedStore : Store :=
  ((Book.empty.openPage "S").insert "T" "day" (.text "2024-02-29")).insert "T" "x"
    (.list [.list [.text "", .integer 1, .flag true]])

def blankingDocument : List (String × Toml.Value) :=
  [("S", .table []), ("T", .table [("day", .string "2024-02-29"),
    ("x", .array [.array [.string "", .integer 1, .bool true]])])]

/-- An empty text in a list becomes nothing, once. -/
theorem blanking_happens_once :
    (∃ loaded later, loadToml .empty (unblankedStore.saveToml blankingFolder "new.toml").state
        "new.toml" = ⟨loaded, .ok (), [.tomlLoaded], []⟩ ∧
      loaded.IsBlank "S" ∧ loaded.get? "T" "x" = some later ∧
      later.part? [0, 0] = some .null ∧ later.part? [0, 1] = some (.integer 1) ∧
      loaded ≠ unblankedStore) ∧
    (loadToml .empty blankingFolder "kept.toml").result = .ok () ∧
    loadToml .empty (blankingStore.saveToml blankingFolder "new.toml").state "new.toml" =
      ⟨blankingStore, .ok (), [.tomlLoaded], []⟩ := by
  have hreads : Toml.ReadsBack blankingDocument := by
    unfold Toml.ReadsBack
    cbv
  have hunblanked : unblankedStore.toToml = blankingDocument := by cbv
  have hblanked : blankingStore.toToml = blankingDocument := by cbv
  have hkept : (loadToml .empty blankingFolder "kept.toml").result = .ok () := by cbv
  have hplace : (blankingFolder.write "new.toml" "").result = .ok () := by cbv
  obtain ⟨hwritten, hround⟩ :=
    toml_round_trip_only_blanks unblankedStore .empty blankingFolder "new.toml"
  obtain ⟨hwrittenAgain, hroundAgain⟩ :=
    toml_round_trip_only_blanks blankingStore .empty blankingFolder "new.toml"
  have hx : unblankedStore.get? "T" "x" =
    some (.list [.list [.text "", .integer 1, .flag true]]) := by cbv
  have hblank : unblankedStore.IsBlank "S" := by
    unfold Book.IsBlank
    cbv
  refine ⟨?_, hkept, ?_⟩
  · obtain ⟨loaded, hload, ⟨-, hpages, -⟩, hvalues, hsame, -⟩ :=
      hround ((hwritten "").trans hplace) (hunblanked ▸ hreads)
    obtain ⟨later, hlater, hblanks⟩ := hvalues "T" "x" _ hx
    refine ⟨loaded, later, hload, (hpages "S").2 hblank, hlater, hblanks.empty [0, 0] rfl,
      hblanks.same [0, 1] _ rfl (by simp) (by simp), fun h => ?_⟩
    exact hsame.1 h "T" "x" _ hx [0, 0] rfl
  · obtain ⟨loaded, hload, -, -, -, hsame⟩ :=
      hroundAgain ((hwrittenAgain "").trans hplace) (hblanked ▸ hreads)
    rw [hload, hsame .empty blankingFolder "kept.toml" hkept rfl]

end Store

end Preferences
