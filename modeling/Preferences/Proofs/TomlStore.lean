import Preferences.Store

/-!
# Stores through TOML files

A file that was written holds what was written to it. A store that is saved as a TOML document and
loaded again is the store with nothing in place of every empty text, provided that the text of its
document is read as that document.
-/

namespace Preferences

/-! ### Files -/

namespace Folder

/-- What is reached through directories is reached wherever these are directories too. -/
theorem walk?_mono {folder later : Folder}
    (h : ∀ key, folder.nodes.get? key = some .directory → later.nodes.get? key = some .directory)
    {names parts reached : List String} (hwalk : folder.walk? names parts = some reached) :
    later.walk? names parts = some reached := by
  induction parts generalizing names with
  | nil => exact hwalk
  | cons part rest ih =>
    unfold walk? at hwalk ⊢
    split at hwalk
    · rename_i hhere
      rw [if_pos hhere]
      exact ih hwalk
    · rename_i hhere
      rw [if_neg hhere]
      split at hwalk
      · rename_i hup
        rw [if_pos hup]
        split at hwalk
        · cases hwalk
        · rename_i hinside
          rw [if_neg hinside]
          exact ih hwalk
      · rename_i hup
        rw [if_neg hup]
        split at hwalk
        · rename_i hdown
          rw [if_pos (h _ hdown)]
          exact ih hwalk
        · cases hwalk

theorem place?_mono {folder later : Folder}
    (h : ∀ key, folder.nodes.get? key = some .directory → later.nodes.get? key = some .directory)
    {path key : String} (hplace : folder.place? path = some key) :
    later.place? path = some key := by
  unfold place? at hplace ⊢
  obtain ⟨name, hname, hrest⟩ := Option.bind_eq_some_iff.1 hplace
  obtain ⟨names, hwalk, hkey⟩ := Option.bind_eq_some_iff.1 hrest
  simp only [hname, walk?_mono h hwalk, Option.bind_eq_bind, Option.bind_some]
  exact hkey

theorem read_write {folder : Folder} {path text : String}
    (h : (folder.write path text).result = .ok ()) :
    (folder.write path text).state.read path = .ok text := by
  unfold write at h ⊢
  cases hput : folder.put path (.file text) with
  | error e =>
    rw [hput] at h
    cases h
  | ok later =>
    show later.read path = .ok text
    unfold put at hput
    split at hput
    · cases hput
    · rename_i key hplace
      split at hput
      · cases hput
      · rename_i hfree
        cases hput
        have hkept : ∀ other, folder.nodes.get? other = some .directory →
            (folder.nodes.insert key (.file text)).get? other = some .directory := by
          intro other hother
          rw [Dict.get?_insert, if_neg]
          · exact hother
          · intro heq
            rw [heq] at hfree
            exact hfree hother
        have hlater : Folder.place? ⟨folder.nodes.insert key (.file text)⟩ path = some key :=
          place?_mono hkept hplace
        unfold read node?
        rw [hlater]
        simp only [Option.bind_some, Dict.get?_insert_self]

end Folder

/-! ### Values -/

namespace Stored

mutual

/-- The value with nothing in place of every empty text. -/
def blanked : Stored → Stored
  | .text value => if value = "" then .null else .text value
  | .list items => .list (blankedItems items)
  | value => value

def blankedItems : List Stored → List Stored
  | [] => []
  | item :: rest => blanked item :: blankedItems rest

end

theorem blankedItems_eq_map (items : List Stored) : blankedItems items = items.map blanked := by
  induction items with
  | nil => rfl
  | cons item rest ih =>
    unfold blankedItems
    rw [ih, List.map_cons]

theorem blanked_text {value : String} (h : value ≠ "") : blanked (.text value) = .text value := by
  unfold blanked
  rw [if_neg h]

theorem blanked_list (items : List Stored) :
    blanked (.list items) = .list (items.map blanked) := by
  unfold blanked
  rw [blankedItems_eq_map]

mutual

theorem ofToml?_toToml (value : Stored) : ofToml? (toToml value) = some value.blanked := by
  cases value with
  | list items =>
    unfold toToml ofToml? blanked
    rw [ofTomlItems?_toTomlItems items]
    rfl
  | _ => rfl

theorem ofTomlItems?_toTomlItems (items : List Stored) :
    ofTomlItems? (toTomlItems items) = some (blankedItems items) := by
  cases items with
  | nil => rfl
  | cons item rest =>
    unfold toTomlItems ofTomlItems? blankedItems
    rw [ofToml?_toToml item, ofTomlItems?_toTomlItems rest]
    rfl

end

end Stored

/-! ### Stores -/

namespace Store

theorem members?_map {α β γ : Type} {read : α → Option β} {write : γ → α} {f : γ → β}
    (h : ∀ c, read (write c) = some (f c)) (entries : List (String × γ)) :
    members? read (entries.map fun e => (e.1, write e.2)) =
      some (entries.map fun e => (e.1, f e.2)) := by
  induction entries with
  | nil => rfl
  | cons entry rest ih =>
    unfold members? at ih ⊢
    simp only [List.map_cons, List.mapM_cons, h, ih, Option.map_some, Option.bind_eq_bind,
      Option.bind_some, Option.pure_def]

theorem pageOfToml_toToml (name : String) (page : Dict Stored) :
    pageOfToml name (.table (page.entries.map fun entry => (entry.1, entry.2.toToml))) =
      .ok (page.mapValues fun _ => Stored.blanked) := by
  unfold pageOfToml
  simp only [members?_map Stored.ofToml?_toToml]
  exact congrArg Except.ok (Dict.ofList_entries (page.mapValues fun _ => Stored.blanked))

theorem pagesOfToml_toToml (pages : List (String × Dict Stored)) :
    pagesOfToml (pages.map fun page =>
        (page.1, .table (page.2.entries.map fun entry => (entry.1, entry.2.toToml)))) =
      .ok (pages.map fun page => (page.1, page.2.mapValues fun _ => Stored.blanked)) := by
  induction pages with
  | nil => rfl
  | cons page rest ih =>
    rw [List.map_cons]
    unfold pagesOfToml
    rw [pageOfToml_toToml, ih]
    rfl

theorem ofToml_toToml (store : Store) : ofToml store.toToml = .ok (store.mapValues Stored.blanked) := by
  unfold ofToml toToml
  rw [pagesOfToml_toToml]
  have hpages := Dict.ofList_entries
    (store.pages.mapValues fun _ entries => entries.mapValues fun _ => Stored.blanked)
  exact congrArg (fun pages => Except.ok (Book.mk pages)) hpages

end Store

namespace Toml

/-- The text of a document is read as that document. -/
def ReadsBack (document : List (String × Value)) : Prop := read? (print document) = some document

end Toml

/-- What is loaded from the file that a store was saved to. -/
theorem Store.loadToml_saveToml {store : Store} {folder : Folder} {path : String}
    (hsaved : (store.saveToml folder path).result = .ok ())
    (hreads : Toml.ReadsBack store.toToml) (other : Store) :
    other.loadToml (store.saveToml folder path).state path =
      ⟨store.mapValues Stored.blanked, .ok (), [.tomlLoaded], []⟩ := by
  have hread : (store.saveToml folder path).state.read path = .ok (Toml.print store.toToml) :=
    Folder.read_write hsaved
  have hparse : parseToml (Toml.print store.toToml) = .ok (store.mapValues Stored.blanked) := by
    have hdocument : Toml.read? (Toml.print store.toToml) = some store.toToml := hreads
    unfold parseToml
    rw [hdocument]
    exact ofToml_toToml store
  have hload : load parseToml (store.saveToml folder path).state path =
      .ok (store.mapValues Stored.blanked) := by
    unfold load
    rw [hread]
    show (parseToml (Toml.print store.toToml)).mapError (Error.unreadable path) = _
    rw [hparse]
    rfl
  unfold loadToml reload
  rw [hload]

end Preferences
