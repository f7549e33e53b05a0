import Preferences.Proofs.Listing

/-!
# What loaded stores hold

A store that was loaded holds, under a page and a name, what the document says there: of members
with one name the last counts, and each value is read on its own.
-/

namespace Preferences

/-- The last member of a name, if the value is an object that has one. -/
def Json.Value.member? (name : String) : Json.Value → Option Json.Value
  | .object members => Dict.lookup name members.reverse
  | _ => none

/-- The last entry of a name, if the value is a table that has one. -/
def Toml.Value.member? (name : String) : Toml.Value → Option Toml.Value
  | .table entries => Dict.lookup name entries.reverse
  | _ => none

namespace Store

/-! ### Pages -/

section

variable {α β : Type} {f : α → Option β} {entries : List (String × α)} {found : List (String × β)}

theorem get?_of_members? (h : members? f entries = some found) (name : String) :
    (Dict.ofList found).get? name = (Dict.lookup name entries.reverse).bind f := by
  rw [Dict.get?_ofList, lookup_of_members? h]

theorem exists_of_members? (h : members? f entries = some found) {name : String} {a : α}
    (ha : Dict.lookup name entries.reverse = some a) : ∃ b, f a = some b := by
  have hmap := map_lookup_of_members? h name
  rw [ha] at hmap
  cases hb : f a with
  | none => simp [hb] at hmap
  | some b => exact ⟨b, rfl⟩

end

theorem get?_of_pageOfJson? {value : Json.Value} {page : Dict Stored}
    (h : pageOfJson? value = some page) (name : String) :
    page.get? name = (value.member? name).bind Stored.ofJson? := by
  cases value with
  | object members =>
    obtain ⟨found, hfound, rfl⟩ := Option.map_eq_some_iff.1 h
    exact get?_of_members? hfound name
  | _ => cases h

theorem get?_of_pageOfToml? {value : Toml.Value} {page : Dict Stored}
    (h : pageOfToml? value = some page) (name : String) :
    page.get? name = (value.member? name).bind Stored.ofToml? := by
  cases value with
  | table entries =>
    obtain ⟨found, hfound, rfl⟩ := Option.map_eq_some_iff.1 h
    exact get?_of_members? hfound name
  | _ => cases h

/-! ### Stores -/

/-- Pages are read one by one; `look` finds a value in the written form of a page. -/
theorem get?_of_pages {γ : Type} {read : γ → Option (Dict Stored)} {look : String → γ → Option γ}
    {value? : γ → Option Stored}
    (hlook : ∀ {c page}, read c = some page → ∀ name, page.get? name = (look name c).bind value?)
    {pages : List (String × γ)} {found : List (String × Dict Stored)}
    (h : members? read pages = some found) (page name : String) :
    Book.get? (⟨Dict.ofList found⟩ : Store) page name =
      ((Dict.lookup page pages.reverse).bind (look name)).bind value? := by
  have hget : (Dict.ofList found).get? page = (Dict.lookup page pages.reverse).bind read :=
    get?_of_members? h page
  unfold Book.get?
  rw [hget]
  cases hpage : Dict.lookup page pages.reverse with
  | none => rfl
  | some c =>
    obtain ⟨entries, hread⟩ := exists_of_members? h hpage
    simp only [Option.bind_some, hread]
    exact hlook hread name

theorem get?_parseJson {text : String} {store : Store} (h : parseJson text = .ok store) :
    ∃ document, Json.parse? text = some document ∧ ∀ page name,
      store.get? page name =
        ((document.member? page).bind (Json.Value.member? name)).bind Stored.ofJson? := by
  unfold parseJson at h
  split at h
  · rename_i found hfound
    cases h
    obtain ⟨document, hdocument, hstore⟩ := Option.bind_eq_some_iff.1 hfound
    cases document with
    | object pages =>
      obtain ⟨read, hread, rfl⟩ := Option.map_eq_some_iff.1 hstore
      exact ⟨_, hdocument, get?_of_pages get?_of_pageOfJson? hread⟩
    | _ => cases hstore
  · cases h

theorem get?_ofToml {document : List (String × Toml.Value)} {store : Store}
    (h : ofToml document = .ok store) (page name : String) :
    store.get? page name =
      (((Toml.Value.table document).member? page).bind (Toml.Value.member? name)).bind
        Stored.ofToml? := by
  obtain ⟨pages, hread, rfl⟩ := ofToml_eq_ok_iff.1 h
  exact get?_of_pages get?_of_pageOfToml? hread page name

theorem get?_parseToml {text : String} {store : Store} (h : parseToml text = .ok store) :
    ∃ document, Toml.read? text = some document ∧ ∀ page name,
      store.get? page name =
        (((Toml.Value.table document).member? page).bind (Toml.Value.member? name)).bind
          Stored.ofToml? := by
  unfold parseToml at h
  split at h
  · rename_i document hdocument
    exact ⟨document, hdocument, get?_ofToml h⟩
  · cases h

end Store

end Preferences
