import Preferences.Proofs.Books
import Preferences.Proofs.Json.Stores

/-!
# What a store lists

A store lists the pages that it has, whether something is filed on them or not. No write, removal or
clearing leaves a page blank; but a file may have blank pages, and a store that was loaded from it
keeps each of them until a change is made there. What is listed is right but for these.
-/

namespace Preferences

/-! ### Dictionaries -/

namespace Dict

variable {α : Type}

theorem lookup_append (key : String) (l m : List (String × α)) :
    lookup key (l ++ m) = (lookup key l).or (lookup key m) := by
  induction l with
  | nil => rfl
  | cons entry rest ih =>
    simp only [List.cons_append, lookup, ih]
    split <;> rfl

theorem get?_ofList (l : List (String × α)) (key : String) :
    (ofList l).get? key = lookup key l.reverse := by
  have hfold : ∀ d : Dict α, (l.foldl (fun d e => d.insert e.1 e.2) d).get? key =
      (lookup key l.reverse).or (d.get? key) := by
    induction l with
    | nil => exact fun d => rfl
    | cons entry rest ih =>
      intro d
      rw [List.foldl_cons, ih, List.reverse_cons, lookup_append, Option.or_assoc, get?_insert]
      by_cases h : entry.1 = key <;> simp [lookup, h]
  unfold ofList
  rw [hfold, get?_empty, Option.or_none]

theorem ofList_eq_empty_iff {l : List (String × α)} : ofList l = empty ↔ l = [] := by
  constructor
  · intro h
    cases l with
    | nil => rfl
    | cons entry rest =>
      have hget := get?_ofList (entry :: rest) entry.1
      rw [h, get?_empty, List.reverse_cons, lookup_append] at hget
      simp [lookup] at hget
  · rintro rfl
    rfl

theorem erase_of_get?_none {d : Dict α} {key : String} (h : d.get? key = none) :
    d.erase key = d := by
  refine ext_get? fun other => ?_
  rw [get?_erase]
  split
  · rename_i hkey
    rw [← hkey, h]
  · rfl

end Dict

/-! ### Taking out what is not there -/

namespace Book

variable {α : Type}

/-- The order in which values are listed. -/
def ListedBefore (x y : String × String × α) : Prop := x.1 < y.1 ∨ x.1 = y.1 ∧ x.2.1 < y.2.1

instance : Std.Irrefl (@ListedBefore α) where
  irrefl x h := by rcases h with hlt | ⟨-, hlt⟩ <;> exact String.lt_irrefl _ hlt

instance : Std.Antisymm (@ListedBefore α) where
  antisymm x y hxy hyx := by
    rcases hxy with hlt | ⟨heq, hlt⟩ <;> rcases hyx with hlt' | ⟨heq', hlt'⟩
    · exact absurd (String.lt_trans hlt hlt') (String.lt_irrefl _)
    · exact absurd (heq' ▸ hlt) (String.lt_irrefl _)
    · exact absurd (heq ▸ hlt') (String.lt_irrefl _)
    · exact absurd (String.lt_trans hlt hlt') (String.lt_irrefl _)

variable {b c : Book α}

theorem toList_congr (h : ∀ page name, b.get? page name = c.get? page name) :
    b.toList = c.toList := by
  have hb : b.toList.Pairwise ListedBefore := b.toList_pairwise
  refine hb.eq_of_mem_iff c.toList_pairwise ?_
  rintro ⟨page, name, value⟩
  rw [mem_toList_iff, mem_toList_iff, h]

theorem get?_erase_of_none {page name : String} (h : b.get? page name = none)
    (page' name' : String) : (b.erase page name).get? page' name' = b.get? page' name' := by
  rw [get?_erase]
  split
  · rename_i hplace
    rw [← hplace.1, ← hplace.2, h]
  · rfl

/-- Nothing happens unless the page is blank. -/
theorem erase_of_none {page name : String} (h : b.get? page name = none)
    (hblank : ¬ b.IsBlank page) : b.erase page name = b := by
  have hpages : ∀ other, (b.erase page name).pages.get? other = b.pages.get? other := by
    intro other
    rw [get?_pages_erase]
    split
    · rename_i hpage
      subst hpage
      cases hentries : b.pages.get? page with
      | none => rfl
      | some entries =>
        have hname : entries.get? name = none := by
          unfold get? at h
          rwa [hentries] at h
        have hkept : entries.isEmpty = false := by
          rw [Bool.eq_false_iff, ne_eq, Dict.isEmpty_iff]
          rintro rfl
          exact hblank hentries
        rw [Option.map_some, Dict.erase_of_get?_none hname, Option.filter_some, hkept]
        rfl
    · rfl
  exact congrArg Book.mk (Dict.ext_get? hpages)

/-- A blank page is torn out. -/
theorem mem_pageNames_erase_of_isBlank {page : String} (h : b.IsBlank page) (name other : String) :
    other ∈ (b.erase page name).pageNames ↔ page ≠ other ∧ other ∈ b.pageNames := by
  unfold pageNames
  rw [Dict.mem_keys_iff, Dict.mem_keys_iff, get?_pages_erase, h]
  by_cases hother : page = other
  · have hrest : (Dict.empty.erase name : Dict α).isEmpty = true := rfl
    simp [hother, hrest, Option.filter_some]
  · simp [hother]

end Book

namespace Store

/-! ### Pages of documents -/

section

variable {α β : Type} {f : α → Option β} {entries : List (String × α)}

theorem map_of_members? {found : List (String × β)} (h : members? f entries = some found) :
    entries.map (fun e => (e.1, f e.2)) = found.map fun e => (e.1, some e.2) := by
  induction entries generalizing found with
  | nil =>
    cases h
    rfl
  | cons entry rest ih =>
    rw [members?_cons] at h
    obtain ⟨b, hb, hrest⟩ := Option.bind_eq_some_iff.1 h
    obtain ⟨more, hmore, rfl⟩ := Option.map_eq_some_iff.1 hrest
    rw [List.map_cons, List.map_cons, hb, ih hmore]

theorem map_lookup_of_members? {found : List (String × β)} (h : members? f entries = some found)
    (key : String) :
    (Dict.lookup key entries.reverse).map f = (Dict.lookup key found.reverse).map some := by
  have hlookup := congrArg (fun l => Dict.lookup key l.reverse) (map_of_members? h)
  simpa only [← List.map_reverse, Dict.lookup_map (fun _ => f),
    Dict.lookup_map (fun _ => some)] using hlookup

theorem lookup_of_members? {found : List (String × β)} (h : members? f entries = some found)
    (key : String) :
    Dict.lookup key found.reverse = (Dict.lookup key entries.reverse).bind f := by
  have hlookup := map_lookup_of_members? h key
  cases hentries : Dict.lookup key entries.reverse with
  | none =>
    rw [hentries] at hlookup
    exact Option.map_eq_none_iff.1 hlookup.symm
  | some a =>
    rw [hentries] at hlookup
    obtain ⟨b, hb, hfound⟩ := Option.map_eq_some_iff.1 hlookup.symm
    rw [hb, Option.bind_some, hfound]

theorem members?_ofList_eq_empty_iff :
    (members? f entries).map Dict.ofList = some .empty ↔ entries = [] := by
  constructor
  · intro h
    obtain ⟨found, hfound, hempty⟩ := Option.map_eq_some_iff.1 h
    have hmap := map_of_members? hfound
    rw [Dict.ofList_eq_empty_iff.1 hempty] at hmap
    exact List.map_eq_nil_iff.1 hmap
  · rintro rfl
    rfl

end

/-- Of pages that are read from a document, the last of a name counts. -/
theorem isBlank_ofList {γ : Type} {read : γ → Option (Dict Stored)} {pages : List (String × γ)}
    {found : List (String × Dict Stored)} (h : members? read pages = some found) {page : String} :
    Book.IsBlank (⟨Dict.ofList found⟩ : Store) page ↔
      ∃ value, Dict.lookup page pages.reverse = some value ∧ read value = some .empty := by
  unfold Book.IsBlank
  rw [Dict.get?_ofList, lookup_of_members? h, Option.bind_eq_some_iff]

theorem pageOfJson?_eq_empty_iff {value : Json.Value} :
    pageOfJson? value = some .empty ↔ value = .object [] := by
  cases value with
  | object members =>
    show (members? Stored.ofJson? members).map Dict.ofList = some .empty ↔ _
    rw [members?_ofList_eq_empty_iff, Json.Value.object.injEq]
  | _ => exact ⟨nofun, nofun⟩

/-- The page that a TOML value is read as. -/
def pageOfToml? : Toml.Value → Option (Dict Stored)
  | .table entries => (members? Stored.ofToml? entries).map Dict.ofList
  | _ => none

theorem toOption_pageOfToml (name : String) (value : Toml.Value) :
    (pageOfToml name value).toOption = pageOfToml? value := by
  cases value with
  | table entries =>
    simp only [pageOfToml, pageOfToml?]
    cases members? Stored.ofToml? entries <;> rfl
  | _ => rfl

theorem toOption_pagesOfToml (document : List (String × Toml.Value)) :
    (pagesOfToml document).toOption = members? pageOfToml? document := by
  induction document with
  | nil => rfl
  | cons entry rest ih =>
    rw [members?_cons, ← toOption_pageOfToml entry.1, ← ih, pagesOfToml]
    cases pageOfToml entry.1 entry.2 with
    | error e => rfl
    | ok page => cases pagesOfToml rest <;> rfl

theorem ofToml_eq_ok_iff {document : List (String × Toml.Value)} {store : Store} :
    ofToml document = .ok store ↔
      ∃ pages, members? pageOfToml? document = some pages ∧ store = ⟨Dict.ofList pages⟩ := by
  rw [← toOption_pagesOfToml, ofToml]
  cases pagesOfToml document with
  | error fault => exact ⟨nofun, nofun⟩
  | ok pages =>
    constructor
    · rintro ⟨⟩
      exact ⟨pages, rfl, rfl⟩
    · rintro ⟨_, ⟨⟩, rfl⟩
      rfl

theorem pageOfToml?_eq_empty_iff {value : Toml.Value} :
    pageOfToml? value = some .empty ↔ value = .table [] := by
  cases value with
  | table entries =>
    show (members? Stored.ofToml? entries).map Dict.ofList = some .empty ↔ _
    rw [members?_ofList_eq_empty_iff, Toml.Value.table.injEq]
  | _ => exact ⟨nofun, nofun⟩

/-! ### Blank pages of files -/

theorem reload_ok {parse : String → Except DocumentFault Store} {loaded : Event} {store : Store}
    {folder : Folder} {path : String} (h : (reload parse loaded store folder path).result = .ok ()) :
    ∃ text, folder.read path = .ok text ∧
      parse text = .ok (reload parse loaded store folder path).state := by
  unfold reload at h ⊢
  cases hload : load parse folder path with
  | error e =>
    rw [hload] at h
    cases h
  | ok found =>
    unfold load at hload
    cases hread : folder.read path with
    | error e =>
      rw [hread] at hload
      cases hload
    | ok text =>
      rw [hread] at hload
      refine ⟨text, rfl, ?_⟩
      have hparse : (parse text).mapError (Error.unreadable path) = .ok found := hload
      cases htext : parse text with
      | error fault =>
        rw [htext] at hparse
        cases hparse
      | ok store =>
        rw [htext] at hparse
        cases hparse
        rfl

/-- A page of a loaded store is blank if the last page of its name in the file is. -/
theorem isBlank_parseJson {text : String} {store : Store} (h : parseJson text = .ok store) :
    ∃ pages, Json.parse? text = some (.object pages) ∧
      ∀ page, store.IsBlank page ↔ Dict.lookup page pages.reverse = some (.object []) := by
  unfold parseJson at h
  split at h
  · rename_i found hfound
    cases h
    obtain ⟨value, hvalue, hstore⟩ := Option.bind_eq_some_iff.1 hfound
    cases value with
    | object pages =>
      obtain ⟨read, hread, rfl⟩ := Option.map_eq_some_iff.1 hstore
      refine ⟨pages, hvalue, fun page => ?_⟩
      rw [isBlank_ofList hread]
      simp only [pageOfJson?_eq_empty_iff, exists_eq_right]
    | _ => cases hstore
  · cases h

theorem isBlank_parseToml {text : String} {store : Store} (h : parseToml text = .ok store) :
    ∃ document, Toml.read? text = some document ∧
      ∀ page, store.IsBlank page ↔ Dict.lookup page document.reverse = some (.table []) := by
  unfold parseToml at h
  split at h
  · rename_i document hdocument
    obtain ⟨pages, hread, rfl⟩ := ofToml_eq_ok_iff.1 h
    refine ⟨document, hdocument, fun page => ?_⟩
    rw [isBlank_ofList hread]
    simp only [pageOfToml?_eq_empty_iff, exists_eq_right]
  · cases h

/-! ### Changes -/

/-- What is done to a store in hand. -/
inductive Change where
  | write (page name : String) (value : Stored)
  | remove (page name : String)
  | clear

/-- Whether a change is made on a page, be there such a page or not. -/
def Change.touches (change : Change) (page : String) : Prop :=
  match change with
  | write page' _ _ | remove page' _ => page' = page
  | clear => True

/-- A store in hand refuses no write. -/
def apply (store : Store) : Change → Store
  | .write page name value => (store.write (fun _ _ => false) page name value).state
  | .remove page name => store.erase page name
  | .clear => .empty

def run (store : Store) (changes : List Change) : Store := changes.foldl apply store

theorem isBlank_apply {store : Store} {change : Change} {page : String} :
    (store.apply change).IsBlank page ↔ store.IsBlank page ∧ ¬ change.touches page := by
  cases change with
  | write page' name value =>
    show Book.IsBlank (store.insert page' name value) page ↔ _
    rw [Book.isBlank_insert]
    exact and_comm
  | remove page' name =>
    show Book.IsBlank (store.erase page' name) page ↔ _
    rw [Book.isBlank_erase]
    exact and_comm
  | clear => exact ⟨fun h => absurd h (Book.not_isBlank_empty page), fun h => absurd trivial h.2⟩

theorem isBlank_run {store : Store} {changes : List Change} {page : String} :
    (store.run changes).IsBlank page ↔
      store.IsBlank page ∧ ∀ change ∈ changes, ¬ change.touches page := by
  induction changes generalizing store with
  | nil => exact ⟨fun h => ⟨h, nofun⟩, fun h => h.1⟩
  | cons change rest ih =>
    show ((store.apply change).run rest).IsBlank page ↔ _
    rw [ih, isBlank_apply, List.forall_mem_cons, and_assoc]

/-! ### Listings -/

/-- The pages listed are those that something is filed on and certain blank ones; without the blank
ones, only a store without values counts as empty, and removing what is not there does nothing. -/
structure ListedBut (store : Store) (blank : String → Prop) : Prop where
  ascending : store.pageNames.Pairwise (· < ·)
  mem_pageNames : ∀ page,
    page ∈ store.pageNames ↔ (∃ name, store.contains page name = true) ∨ blank page
  not_contains : ∀ page name, blank page → store.contains page name = false
  isEmpty : store.isEmpty = true ↔ store.size = 0 ∧ ∀ page, ¬ blank page
  erase_eq : ∀ page name, store.get? page name = none → ¬ blank page →
    store.erase page name = store
  mem_pageNames_erase : ∀ page name other, blank page →
    (other ∈ (store.erase page name).pageNames ↔ page ≠ other ∧ other ∈ store.pageNames)
  toList_erase : ∀ page name, store.get? page name = none →
    (store.erase page name).toList = store.toList

/-- No blank page is listed. -/
def ListedRight (store : Store) : Prop := store.ListedBut fun _ => False

theorem ListedBut.listedRight_iff {store : Store} {blank : String → Prop}
    (h : store.ListedBut blank) : store.ListedRight ↔ ∀ page, ¬ blank page := by
  constructor
  · intro hright page hblank
    rcases (hright.mem_pageNames page).1 ((h.mem_pageNames page).2 (.inr hblank)) with
      ⟨name, hname⟩ | hfalse
    · rw [h.not_contains page name hblank] at hname
      cases hname
    · exact hfalse
  · intro hnone
    have hblank : blank = fun _ => False := funext fun page => eq_false (hnone page)
    rwa [hblank] at h

theorem listedBut_isBlank (store : Store) : store.ListedBut store.IsBlank where
  ascending := store.pages.keys_pairwise
  mem_pageNames _ := Book.mem_pageNames_iff
  not_contains _ _ hblank :=
    Bool.eq_false_iff.2 fun hname => Book.not_isBlank_of_contains hname hblank
  isEmpty := Book.isEmpty_iff
  erase_eq _ _ hget hblank := Book.erase_of_none hget hblank
  mem_pageNames_erase _ name other hblank :=
    Book.mem_pageNames_erase_of_isBlank hblank name other
  toList_erase _ _ hget := Book.toList_congr (Book.get?_erase_of_none hget)

/-- What is blank after changes is what was blank before and untouched. -/
theorem listedBut_run {store : Store} {blank : String → Prop}
    (h : ∀ page, store.IsBlank page ↔ blank page) (changes : List Change) :
    ((store.run changes).ListedBut fun page =>
      blank page ∧ ∀ change ∈ changes, ¬ change.touches page) ∧
    ((store.run changes).ListedRight ↔
      ∀ page, blank page → ∃ change ∈ changes, change.touches page) := by
  have hblank : (store.run changes).IsBlank = fun page =>
      blank page ∧ ∀ change ∈ changes, ¬ change.touches page := by
    funext page
    rw [isBlank_run, h]
  have hlisted := listedBut_isBlank (store.run changes)
  rw [hblank] at hlisted
  refine ⟨hlisted, ?_⟩
  rw [hlisted.listedRight_iff]
  simp only [not_and, not_forall, not_not, exists_prop]

/-- The listings of a store are right but for blank pages that no change has been made on: a new
store has none, and a loaded one those that the file ends up with. So they are right exactly if each
of these was touched. -/
theorem listings_are_right_but_for_blank_pages (store : Store) (folder : Folder) (path : String)
    (changes : List Change) :
    (run .empty changes).ListedRight ∧
    ((store.loadJson folder path).result = .ok () →
      ∃ text pages, folder.read path = .ok text ∧ Json.parse? text = some (.object pages) ∧
        (((store.loadJson folder path).state.run changes).ListedBut fun page =>
          Dict.lookup page pages.reverse = some (.object []) ∧
            ∀ change ∈ changes, ¬ change.touches page) ∧
        (((store.loadJson folder path).state.run changes).ListedRight ↔
          ∀ page, Dict.lookup page pages.reverse = some (.object []) →
            ∃ change ∈ changes, change.touches page)) ∧
    ((store.loadToml folder path).result = .ok () →
      ∃ text document, folder.read path = .ok text ∧ Toml.read? text = some document ∧
        (((store.loadToml folder path).state.run changes).ListedBut fun page =>
          Dict.lookup page document.reverse = some (.table []) ∧
            ∀ change ∈ changes, ¬ change.touches page) ∧
        (((store.loadToml folder path).state.run changes).ListedRight ↔
          ∀ page, Dict.lookup page document.reverse = some (.table []) →
            ∃ change ∈ changes, change.touches page)) := by
  refine ⟨?_, ?_, ?_⟩
  · have hnone : ∀ page, (Book.empty : Store).IsBlank page ↔ False := fun page =>
      iff_of_false (Book.not_isBlank_empty page) not_false
    exact (listedBut_run hnone changes).2.2 fun page hfalse => hfalse.elim
  · intro hloaded
    obtain ⟨text, hread, hparse⟩ := reload_ok hloaded
    obtain ⟨pages, hpages, hblank⟩ := isBlank_parseJson hparse
    exact ⟨text, pages, hread, hpages, listedBut_run hblank changes⟩
  · intro hloaded
    obtain ⟨text, hread, hparse⟩ := reload_ok hloaded
    obtain ⟨document, hdocument, hblank⟩ := isBlank_parseToml hparse
    exact ⟨text, document, hread, hdocument, listedBut_run hblank changes⟩

/-! ### A document with blank pages -/

/-- Two files with the same blank pages. -/
def sampleFolder : Folder :=
  ⟨.ofList [("kept.json", .file "\x7b\"S\":\x7b\x7d,\"T\":\x7b\x7d\x7d"),
    ("kept.toml", .file "[S]\n[T]\n")]⟩

def sampleJson : Store := (loadJson .empty sampleFolder "kept.json").state

def sampleToml : Store := (loadToml .empty sampleFolder "kept.toml").state

/-- A change on one page leaves the other blank; after changes on both the listings are right. -/
theorem blank_page_stays_until_it_is_touched :
    ((loadJson .empty sampleFolder "kept.json").result = .ok () ∧
      "S" ∈ (sampleJson.run [.remove "T" "x"]).pageNames ∧
      (sampleJson.run [.remove "T" "x"]).erase "T" "x" = sampleJson.run [.remove "T" "x"] ∧
      "S" ∉ ((sampleJson.run [.remove "T" "x"]).erase "S" "x").pageNames) ∧
    (loadToml .empty sampleFolder "kept.toml").result = .ok () ∧
      (sampleToml.run [.write "S" "x" .null, .remove "T" "x"]).ListedRight := by
  have hjson : sampleFolder.read "kept.json" =
    .ok "\x7b\"S\":\x7b\x7d,\"T\":\x7b\x7d\x7d" := by cbv
  have hpages : Json.parse? "\x7b\"S\":\x7b\x7d,\"T\":\x7b\x7d\x7d" =
    some (.object [("S", .object []), ("T", .object [])]) := rfl
  have htoml : sampleFolder.read "kept.toml" = .ok "[S]\n[T]\n" := by cbv
  have hdocument : Toml.read? "[S]\n[T]\n" = some [("S", .table []), ("T", .table [])] := rfl
  have hjsonLoaded : (loadJson .empty sampleFolder "kept.json").result = .ok () := by cbv
  have htomlLoaded : (loadToml .empty sampleFolder "kept.toml").result = .ok () := by cbv
  obtain ⟨-, hfromJson, -⟩ :=
    listings_are_right_but_for_blank_pages .empty sampleFolder "kept.json" [.remove "T" "x"]
  obtain ⟨-, -, hfromToml⟩ := listings_are_right_but_for_blank_pages .empty sampleFolder "kept.toml"
    [.write "S" "x" .null, .remove "T" "x"]
  refine ⟨⟨hjsonLoaded, ?_⟩, htomlLoaded, ?_⟩
  · obtain ⟨text, pages, hread, hparse, hlisted, -⟩ := hfromJson hjsonLoaded
    cases hread.symm.trans hjson
    cases hparse.symm.trans hpages
    have hblank : Dict.lookup "S" [("T", Json.Value.object []), ("S", .object [])] =
          some (.object []) ∧
        ∀ change ∈ [Change.remove "T" "x"], ¬ change.touches "S" := by
      refine ⟨rfl, fun change hchange => ?_⟩
      cases List.mem_singleton.1 hchange
      exact (by decide : "T" ≠ "S")
    refine ⟨(hlisted.mem_pageNames "S").2 (.inr hblank), ?_, ?_⟩
    · refine hlisted.erase_eq "T" "x" (by cbv) fun h => ?_
      exact h.2 _ List.mem_cons_self rfl
    · exact fun h => ((hlisted.mem_pageNames_erase "S" "x" "S" hblank).1 h).1 rfl
  · obtain ⟨text, document, hread, hparse, -, hright⟩ := hfromToml htomlLoaded
    cases hread.symm.trans htoml
    cases hparse.symm.trans hdocument
    refine hright.2 fun page hpage => ?_
    have hmem : page = "T" ∨ page = "S" := by
      by_contra hne
      simp [Dict.lookup, not_or.1 hne, eq_comm] at hpage
    rcases hmem with rfl | rfl
    · exact ⟨.remove "T" "x", by simp, rfl⟩
    · exact ⟨.write "S" "x" .null, by simp, rfl⟩

/-- A page without values is listed, a store without values does not count as empty, and removing
what is not there tears the page out. -/
theorem blank_page_is_listed :
    (loadJson .empty sampleFolder "kept.json").result = .ok () ∧
    (sampleJson.pageNames = ["S", "T"] ∧ ∀ page name, sampleJson.contains page name = false) ∧
    (sampleJson.isEmpty = false ∧ sampleJson.size = 0) ∧
    (sampleJson.get? "S" "x" = none ∧ (sampleJson.erase "S" "x").pageNames = ["T"]) ∧
    ¬ sampleJson.ListedRight := by
  have hloaded : (loadJson .empty sampleFolder "kept.json").result = .ok () := by cbv
  have hpages : sampleJson.pageNames = ["S", "T"] := by cbv
  have hsize : sampleJson.size = 0 := by cbv
  have hcontains := Book.size_eq_zero_iff.1 hsize
  have herased : (sampleJson.erase "S" "x").pageNames = ["T"] := by cbv
  have hget : sampleJson.get? "S" "x" = none := by cbv
  refine ⟨hloaded, ⟨hpages, hcontains⟩, ⟨by cbv, hsize⟩, ⟨hget, herased⟩, fun hright => ?_⟩
  have hsame := hright.erase_eq "S" "x" hget not_false
  rw [hsame, hpages] at herased
  exact absurd herased (by decide)

end Store

end Preferences
