import Preferences.Proofs.Loading
import Preferences.Proofs.Parts
import Preferences.Proofs.Toml.DistinctKeys

/-!
# Which TOML documents are stores

A document is a store if every entry is a page: a table of values none of which is a table, or
holds one at any depth. The store then has the pages and entries of the document, each value read on
its own. Otherwise nothing is loaded, and the error is about the first entry that is no page.
-/

namespace Preferences

/-- Of two steps, the first fails or the second. -/
theorem bind_eq_error_iff {ε α β : Type} {step : Except ε α} {next : α → Except ε β} {e : ε} :
    step >>= next = .error e ↔ step = .error e ∨ ∃ a, step = .ok a ∧ next a = .error e := by
  cases step with
  | error other =>
    constructor
    · rintro ⟨⟩
      exact .inl rfl
    · rintro (hother | ⟨a, hok, -⟩)
      · cases hother
        rfl
      · cases hok
  | ok a =>
    constructor
    · exact fun h => .inr ⟨a, rfl, h⟩
    · rintro (herror | ⟨_, ⟨⟩, h⟩)
      · cases herror
      · exact h

namespace Toml

/-- A table, or an array with an item that holds one. -/
inductive Value.HoldsTable : Value → Prop where
  | table (entries : List (String × Value)) : HoldsTable (.table entries)
  | array {items : List Value} {item : Value} (hitem : item ∈ items) (h : HoldsTable item) :
      HoldsTable (.array items)

/-- A table of values that hold no tables. -/
def Value.IsPage (value : Value) : Prop :=
  ∃ entries, value = .table entries ∧ ∀ entry ∈ entries, ¬ entry.2.HoldsTable

theorem Value.isPage_table_iff {entries : List (String × Value)} :
    (Value.table entries).IsPage ↔ ∀ entry ∈ entries, ¬ entry.2.HoldsTable := by
  constructor
  · rintro ⟨_, ⟨⟩, h⟩
    exact h
  · exact fun h => ⟨entries, rfl, h⟩

/-- What a value on a page stands for. -/
inductive Value.Means : Value → Stored → Prop where
  | empty : Means (.string "") .null
  | string {value : String} (h : value ≠ "") : Means (.string value) (.text value)
  | integer (value : Int64) : Means (.integer value) (.integer value)
  | float (value : Binary64) : Means (.float value) (.float value)
  | bool (value : Bool) : Means (.bool value) (.flag value)
  | datetime (value : Datetime) : Means (.datetime value) (.text value.text)
  | array {items : List Value} {found : List Stored} (h : List.Forall₂ Means items found) :
      Means (.array items) (.list found)

theorem Value.means_array_iff {items : List Value} {found : Stored} :
    (Value.array items).Means found ↔
      ∃ parts, List.Forall₂ Means items parts ∧ found = .list parts := by
  constructor
  · rintro (_ | _ | _ | _ | _ | _ | h)
    exact ⟨_, h, rfl⟩
  · rintro ⟨parts, h, rfl⟩
    exact .array h

theorem Value.holdsTable_array_iff {items : List Value} :
    (Value.array items).HoldsTable ↔ ∃ item ∈ items, item.HoldsTable := by
  constructor
  · rintro (_ | ⟨hitem, h⟩)
    exact ⟨_, hitem, h⟩
  · rintro ⟨item, hitem, h⟩
    exact .array hitem h

mutual

theorem Value.ofToml?_eq_some_iff (value : Value) {found : Stored} :
    Stored.ofToml? value = some found ↔ value.Means found := by
  cases value with
  | array items =>
    rw [means_array_iff, Stored.ofToml?, Option.map_eq_some_iff]
    refine exists_congr fun parts => ?_
    rw [Value.ofTomlItems?_eq_some_iff items, eq_comm]
  | table entries => exact ⟨nofun, nofun⟩
  | string value =>
    unfold Stored.ofToml?
    split
    · rename_i hempty
      subst hempty
      constructor
      · rintro ⟨⟩
        exact .empty
      · rintro (_ | ⟨hfull⟩)
        · rfl
        · exact absurd rfl hfull
    · rename_i hfull
      constructor
      · rintro ⟨⟩
        exact .string hfull
      · rintro (_ | _)
        · exact absurd rfl hfull
        · rfl
  | _ =>
    constructor
    · rintro ⟨⟩
      constructor
    · rintro ⟨⟩
      rfl

theorem Value.ofTomlItems?_eq_some_iff (items : List Value) {found : List Stored} :
    Stored.ofTomlItems? items = some found ↔ List.Forall₂ Value.Means items found := by
  cases items with
  | nil => exact ⟨fun h => by cases h; exact .nil, fun h => by cases h; rfl⟩
  | cons item rest =>
    simp only [Stored.ofTomlItems?, Option.bind_eq_bind, Option.bind_eq_some_iff,
      Value.ofToml?_eq_some_iff item, Value.ofTomlItems?_eq_some_iff rest]
    constructor
    · rintro ⟨first, hfirst, more, hmore, ⟨⟩⟩
      exact .cons hfirst hmore
    · rintro (_ | ⟨hfirst, hmore⟩)
      exact ⟨_, hfirst, _, hmore, rfl⟩

end

mutual

theorem Value.exists_means_iff (value : Value) :
    (∃ found, value.Means found) ↔ ¬ value.HoldsTable := by
  cases value with
  | array items =>
    have hitems : (∃ parts, List.Forall₂ Value.Means items parts) ↔
        ∀ item ∈ items, ¬ item.HoldsTable := by
      rw [exists_forall₂_iff]
      exact forall₂_congr (Value.exists_means_of_mem items)
    simp only [means_array_iff, holdsTable_array_iff, not_exists, not_and]
    rw [← hitems]
    constructor
    · rintro ⟨_, parts, hparts, rfl⟩
      exact ⟨parts, hparts⟩
    · rintro ⟨parts, hparts⟩
      exact ⟨_, parts, hparts, rfl⟩
  | table entries => exact ⟨nofun, fun h => absurd (.table entries) h⟩
  | string value =>
    refine ⟨fun _ => nofun, fun _ => ?_⟩
    by_cases h : value = ""
    · exact ⟨.null, h ▸ .empty⟩
    · exact ⟨.text value, .string h⟩
  | _ => exact ⟨fun _ => nofun, fun _ => ⟨_, by constructor⟩⟩

theorem Value.exists_means_of_mem (items : List Value) :
    ∀ item ∈ items, ((∃ found, item.Means found) ↔ ¬ item.HoldsTable) := by
  cases items with
  | nil => exact nofun
  | cons item rest =>
    exact List.forall_mem_cons.2 ⟨item.exists_means_iff, Value.exists_means_of_mem rest⟩

end

/-- What is wrong with an entry that is no page. -/
def Value.fault (page : String) : Value → DocumentFault
  | .table _ => .nestedTable
  | _ => .pageIsNoTable page

/-- An entry looked up in a table with distinct keys is the one that stands there. -/
theorem Value.member?_eq_some_iff {value : Value} (h : value.KeysDistinct) {key : String}
    {found : Value} :
    value.member? key = some found ↔ ∃ entries, value = .table entries ∧ (key, found) ∈ entries := by
  cases h with
  | @table entries hkeys hvalues =>
    have hlookup : Dict.lookup key entries.reverse = some found ↔ (key, found) ∈ entries := by
      rw [← Dict.get?_ofList, Dict.get?_ofList_eq_some_iff hkeys]
    simp [Value.member?, hlookup]
  | _ => exact ⟨nofun, nofun⟩

end Toml

namespace Store

/-! ### Pages -/

theorem exists_members?_iff {α β : Type} {f : α → Option β} {entries : List (String × α)} :
    (∃ found, members? f entries = some found) ↔ ∀ entry ∈ entries, ∃ b, f entry.2 = some b := by
  simp only [members?, mapM_eq_some_iff_forall₂, exists_forall₂_iff, Option.map_eq_some_iff]
  refine forall₂_congr fun entry _ => ?_
  constructor
  · rintro ⟨_, b, hb, -⟩
    exact ⟨b, hb⟩
  · rintro ⟨b, hb⟩
    exact ⟨_, b, hb, rfl⟩

theorem exists_pageOfToml?_iff {value : Toml.Value} :
    (∃ page, pageOfToml? value = some page) ↔ value.IsPage := by
  cases value with
  | table entries =>
    have hmembers : (∃ found, members? Stored.ofToml? entries = some found) ↔
        ∀ entry ∈ entries, ¬ entry.2.HoldsTable := by
      rw [exists_members?_iff]
      refine forall₂_congr fun entry _ => ?_
      rw [← entry.2.exists_means_iff]
      exact exists_congr fun found => entry.2.ofToml?_eq_some_iff
    rw [Toml.Value.isPage_table_iff, ← hmembers]
    show (∃ page, (members? Stored.ofToml? entries).map Dict.ofList = some page) ↔ _
    cases members? Stored.ofToml? entries <;> simp
  | _ => exact ⟨nofun, nofun⟩

theorem exists_pageOfToml_iff {value : Toml.Value} (page : String) :
    (∃ entries, pageOfToml page value = .ok entries) ↔ value.IsPage := by
  rw [← exists_pageOfToml?_iff, ← toOption_pageOfToml page]
  cases pageOfToml page value <;> simp [Except.toOption]

theorem pageOfToml_of_not_isPage {value : Toml.Value} (h : ¬ value.IsPage) (page : String) :
    pageOfToml page value = .error (value.fault page) := by
  cases value with
  | table entries =>
    cases hentries : members? Stored.ofToml? entries with
    | none =>
      simp only [pageOfToml, hentries]
      rfl
    | some found =>
      have hpage : pageOfToml? (.table entries) = some (Dict.ofList found) :=
        congrArg (Option.map Dict.ofList) hentries
      exact absurd (exists_pageOfToml?_iff.1 ⟨_, hpage⟩) h
  | _ => rfl

/-! ### Documents -/

theorem exists_ofToml_iff {document : List (String × Toml.Value)} :
    (∃ store, ofToml document = .ok store) ↔ ∀ entry ∈ document, entry.2.IsPage := by
  have hpages : (∃ pages, members? pageOfToml? document = some pages) ↔
      ∀ entry ∈ document, entry.2.IsPage := by
    simp only [exists_members?_iff, exists_pageOfToml?_iff]
  simp only [← hpages, ofToml_eq_ok_iff]
  constructor
  · rintro ⟨_, pages, hpages, rfl⟩
    exact ⟨pages, hpages⟩
  · rintro ⟨pages, hpages⟩
    exact ⟨_, pages, hpages, rfl⟩

/-- The fault of a document is that of the first entry that is no page. -/
theorem first_fault_of_pagesOfToml {document : List (String × Toml.Value)} {fault : DocumentFault}
    (h : pagesOfToml document = .error fault) :
    ∃ before page value after, document = before ++ (page, value) :: after ∧
      (∀ entry ∈ before, entry.2.IsPage) ∧ ¬ value.IsPage ∧ fault = value.fault page := by
  induction document with
  | nil => cases h
  | cons entry rest ih =>
    obtain ⟨page, value⟩ := entry
    rcases bind_eq_error_iff.1 h with hvalue | ⟨entries, hentries, hrest⟩
    · have hpage : ¬ value.IsPage := by
        rw [← exists_pageOfToml_iff page, hvalue]
        exact nofun
      rw [pageOfToml_of_not_isPage hpage] at hvalue
      cases hvalue
      exact ⟨[], page, value, rest, rfl, List.forall_mem_nil _, hpage, rfl⟩
    · have hpage : value.IsPage := (exists_pageOfToml_iff page).1 ⟨entries, hentries⟩
      rcases bind_eq_error_iff.1 hrest with hrest | ⟨pages, -, ⟨⟩⟩
      obtain ⟨before, other, found, after, rfl, hbefore, hfound, hfault⟩ := ih hrest
      exact ⟨(page, value) :: before, other, found, after, rfl,
        List.forall_mem_cons.2 ⟨hpage, hbefore⟩, hfound, hfault⟩

/-- The store has the pages of the document, and on each the values that its entries stand for. -/
structure Holds (store : Store) (document : List (String × Toml.Value)) : Prop where
  pageNames : store.pageNames = document.map Prod.fst
  get? : ∀ page name found, store.get? page name = some found ↔ ∃ entries value,
    (page, .table entries) ∈ document ∧ (name, value) ∈ entries ∧ value.Means found

theorem pageNames_of_ofToml {document : List (String × Toml.Value)} {store : Store}
    (hascending : (document.map Prod.fst).Pairwise (· < ·)) (h : ofToml document = .ok store) :
    store.pageNames = document.map Prod.fst := by
  obtain ⟨pages, hpages, rfl⟩ := ofToml_eq_ok_iff.1 h
  have hnames : document.map Prod.fst = pages.map Prod.fst := by
    simpa only [List.map_map, Function.comp_def] using
      congrArg (List.map Prod.fst) (map_of_members? hpages)
  rw [hnames] at hascending ⊢
  exact congrArg Dict.keys (Dict.ofList_entries ⟨pages, List.pairwise_map.1 hascending⟩)

theorem get?_of_ofToml {document : List (String × Toml.Value)} {store : Store}
    (hdistinct : (Toml.Value.table document).KeysDistinct) (h : ofToml document = .ok store)
    (page name : String) (found : Stored) :
    store.get? page name = some found ↔ ∃ entries value,
      (page, .table entries) ∈ document ∧ (name, value) ∈ entries ∧ value.Means found := by
  have hpages := (Toml.Value.keysDistinct_table_iff.1 hdistinct).2
  simp only [get?_ofToml h, Option.bind_eq_some_iff, Toml.Value.ofToml?_eq_some_iff,
    Toml.Value.member?_eq_some_iff hdistinct]
  constructor
  · rintro ⟨value, ⟨found, ⟨_, ⟨⟩, hpage⟩, hvalue⟩, hmeans⟩
    obtain ⟨entries, rfl, hentry⟩ := (Toml.Value.member?_eq_some_iff (hpages _ hpage)).1 hvalue
    exact ⟨entries, value, hpage, hentry, hmeans⟩
  · rintro ⟨entries, value, hpage, hvalue, hmeans⟩
    exact ⟨value, ⟨.table entries, ⟨document, rfl, hpage⟩,
      (Toml.Value.member?_eq_some_iff (hpages _ hpage)).2 ⟨entries, rfl, hvalue⟩⟩, hmeans⟩

theorem loadToml_of_read? (store : Store) {folder : Folder} {path text : String}
    {document : List (String × Toml.Value)} (hfile : folder.read path = .ok text)
    (hdocument : Toml.read? text = some document) :
    store.loadToml folder path = match ofToml document with
      | .ok loaded => ⟨loaded, .ok (), [.tomlLoaded], []⟩
      | .error fault => .failed store (.unreadable path fault) [] := by
  have hload : load parseToml folder path =
      (ofToml document).mapError (Error.unreadable path) := by
    unfold load
    rw [hfile]
    show (parseToml text).mapError (Error.unreadable path) = _
    unfold parseToml
    rw [hdocument]
  unfold loadToml reload
  rw [hload]
  cases ofToml document <;> rfl

/-- A document whose entries are all pages is loaded as it stands. Of any other nothing is loaded,
and the error is about the first entry, in order of key, that is no page. -/
theorem toml_documents_of_pages_load (store : Store) {folder : Folder} {path text : String}
    {document : List (String × Toml.Value)} (hfile : folder.read path = .ok text)
    (hdocument : Toml.read? text = some document) :
    (document.map Prod.fst).Pairwise (· < ·) ∧
    ((store.loadToml folder path).result = .ok () ↔ ∀ entry ∈ document, entry.2.IsPage) ∧
    ((store.loadToml folder path).result = .ok () → ∃ loaded,
      store.loadToml folder path = ⟨loaded, .ok (), [.tomlLoaded], []⟩ ∧ loaded.Holds document) ∧
    ((store.loadToml folder path).result ≠ .ok () → ∃ before page value after fault,
      document = before ++ (page, value) :: after ∧
      (∀ entry ∈ before, entry.2.IsPage) ∧ ¬ value.IsPage ∧
      store.loadToml folder path = .failed store (.unreadable path fault) [] ∧
      ((∀ entries, value ≠ .table entries) →
        fault.message? = some s!"section '{page}' is not a table") ∧
      (∀ entries, value = .table entries →
        fault.message? = some "nested tables are not option values")) := by
  obtain ⟨hascending, hdistinct⟩ := Toml.keysDistinct_read? hdocument
  have hload := store.loadToml_of_read? hfile hdocument
  refine ⟨hascending, ?_⟩
  rw [← exists_ofToml_iff]
  cases hfound : ofToml document with
  | ok loaded =>
    rw [hfound] at hload
    rw [hload]
    refine ⟨⟨fun _ => ⟨loaded, rfl⟩, fun _ => rfl⟩, fun _ => ⟨loaded, rfl, ?_⟩, ?_⟩
    · exact ⟨pageNames_of_ofToml hascending hfound, get?_of_ofToml hdistinct hfound⟩
    · exact fun h => absurd rfl h
  | error fault =>
    rw [hfound] at hload
    rw [hload]
    refine ⟨⟨nofun, nofun⟩, nofun, fun _ => ?_⟩
    rcases bind_eq_error_iff.1 hfound with hpages | ⟨pages, -, ⟨⟩⟩
    obtain ⟨before, page, value, after, hsplit, hbefore, hvalue, rfl⟩ :=
      first_fault_of_pagesOfToml hpages
    refine ⟨before, page, value, after, _, hsplit, hbefore, hvalue, rfl, ?_, ?_⟩
    · intro hscalar
      cases value with
      | table entries => exact absurd rfl (hscalar entries)
      | _ => rfl
    · rintro entries rfl
      rfl

/-- A blank page, a date and an empty text in a list. -/
def flatText : String := "[S]\n[T]\nday = 2024-02-29\nx = [[\"\", 1]]\n"

def flatDocument : List (String × Toml.Value) :=
  [("S", .table []), ("T", .table [("day", .datetime (.date ⟨2024, 2, 29⟩)),
    ("x", .array [.array [.string "", .integer 1]])])]

/-- A page that is right, and one with a table in lists. -/
def deepText : String := "[S]\nx = 1\n[T]\ny = [[\x7b\x7d]]\n"

def deepDocument : List (String × Toml.Value) :=
  [("S", .table [("x", .integer 1)]), ("T", .table [("y", .array [.array [.table []]])])]

def pagedFolder : Folder := ⟨.ofList [("flat.toml", .file flatText), ("deep.toml", .file deepText)]⟩

/-- A table in lists keeps a document from being loaded, also after a page that is right. -/
theorem flat_document_loads_and_deep_one_does_not :
    (∃ loaded, loadToml .empty pagedFolder "flat.toml" = ⟨loaded, .ok (), [.tomlLoaded], []⟩ ∧
      loaded.pageNames = ["S", "T"] ∧ loaded.get? "T" "day" = some (.text "2024-02-29") ∧
      loaded.get? "T" "x" = some (.list [.list [.null, .integer 1]])) ∧
    ∃ fault, loadToml .empty pagedFolder "deep.toml" =
        .failed .empty (.unreadable "deep.toml" fault) [] ∧
      fault.message? = some "nested tables are not option values" := by
  constructor
  · have hfile : pagedFolder.read "flat.toml" = .ok flatText := by cbv
    have hdocument : Toml.read? flatText = some flatDocument := by cbv
    obtain ⟨-, -, hloads, -⟩ := toml_documents_of_pages_load .empty hfile hdocument
    obtain ⟨loaded, hload, hholds⟩ := hloads (by cbv)
    refine ⟨loaded, hload, hholds.pageNames, ?_, ?_⟩
    · refine (hholds.get? "T" "day" _).2
        ⟨_, _, List.mem_cons_of_mem _ List.mem_cons_self, List.mem_cons_self, ?_⟩
      have htext : (Toml.Datetime.date ⟨2024, 2, 29⟩).text = "2024-02-29" := by cbv
      exact htext ▸ .datetime (.date ⟨2024, 2, 29⟩)
    · refine (hholds.get? "T" "x" _).2 ⟨_, _, List.mem_cons_of_mem _ List.mem_cons_self,
        List.mem_cons_of_mem _ List.mem_cons_self, ?_⟩
      exact .array (.cons (.array (.cons .empty (.cons (.integer 1) .nil))) .nil)
  · have hfile : pagedFolder.read "deep.toml" = .ok deepText := by cbv
    have hdocument : Toml.read? deepText = some deepDocument := by cbv
    have hresult : (loadToml .empty pagedFolder "deep.toml").result =
      .error (.unreadable "deep.toml" .nestedTable) := by cbv
    obtain ⟨-, -, -, hfails⟩ := toml_documents_of_pages_load .empty hfile hdocument
    obtain ⟨before, page, value, after, fault, hsplit, -, -, hload, -, hmessage⟩ :=
      hfails (by rw [hresult]; simp)
    have htables : ∀ entry ∈ deepDocument, ∃ entries, entry.2 = .table entries := by
      simp [deepDocument]
    have hmem : (page, value) ∈ deepDocument := by
      rw [hsplit]
      exact List.mem_append_right before List.mem_cons_self
    obtain ⟨entries, hvalue⟩ := htables (page, value) hmem
    exact ⟨fault, hload, hmessage entries hvalue⟩

end Store

end Preferences
