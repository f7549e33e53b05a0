import Preferences.Proofs.Json.Documents
import Preferences.Proofs.Persistence

/-!
# Stores through JSON files

A store that is saved as a JSON document and loaded again holds, in each place, what the text of the
value there is read as. If the text of one value is read as nothing at all, the file cannot be
loaded. What preferences are stored as is kept, but for floating-point numbers that are not read back
as themselves: so a preference survives a JSON file exactly if its value does (`Body.ReadsBack`).
-/

namespace Preferences

/-! ### Stores -/

namespace Stored

/-- What is read from the text of a value in the document of a store. Two of the levels that may be
nested are the store and the page. -/
def reread? (found : Stored) : Option Stored :=
  (Json.reread? (Json.maxDepth - 2) found.toJson).bind ofJson?

def reread (found : Stored) : Stored := found.reread?.getD .null

def IsReadable (found : Stored) : Prop := found.reread?.isSome = true

theorem IsReadable.reread?_eq {found : Stored} (h : found.IsReadable) :
    found.reread? = some found.reread := by
  obtain ⟨value, hvalue⟩ := Option.isSome_iff_exists.1 h
  unfold reread
  rw [hvalue]
  rfl

end Stored

namespace Store

variable {α β γ : Type}

theorem members?_cons (f : α → Option β) (entry : String × α) (rest : List (String × α)) :
    members? f (entry :: rest) =
      (f entry.2).bind fun b => (members? f rest).map ((entry.1, b) :: ·) := by
  unfold members?
  rw [List.mapM_cons]
  cases f entry.2 with
  | none => rfl
  | some b =>
    simp only [Option.map_some, Option.bind_eq_bind, Option.bind_some, Option.pure_def]
    rw [Option.map_eq_bind]
    rfl

theorem members?_map_left (f : β → Option γ) (write : α → β) (entries : List (String × α)) :
    members? f (entries.map fun e => (e.1, write e.2)) =
      members? (fun a => f (write a)) entries := by
  unfold members?
  rw [List.mapM_map]
  rfl

theorem members?_bind (f : α → Option β) (g : β → Option γ) (entries : List (String × α)) :
    (members? f entries).bind (members? g) = members? (fun a => (f a).bind g) entries := by
  induction entries with
  | nil => rfl
  | cons entry rest ih =>
    rw [members?_cons, members?_cons, ← ih]
    cases f entry.2 with
    | none => rfl
    | some b =>
      -- The order of the two readings does not matter: both are tried, and either may fail.
      simp only [Option.bind_some]
      cases members? f rest with
      | none => cases g b <;> rfl
      | some bs =>
        rw [Option.map_some, Option.bind_some, members?_cons]
        rfl

theorem members?_of_forall {f : α → Option β} {g : α → β} {d : Dict α}
    (h : ∀ a ∈ d.values, f a = some (g a)) :
    (members? f d.entries).map Dict.ofList = some (d.mapValues fun _ => g) := by
  have hread : ∀ entries : List (String × α), (∀ e ∈ entries, f e.2 = some (g e.2)) →
      members? f entries = some (entries.map fun e => (e.1, g e.2)) := by
    intro entries
    induction entries with
    | nil => exact fun _ => rfl
    | cons entry rest ih =>
      intro hentries
      rw [members?_cons, hentries entry List.mem_cons_self,
        ih fun e he => hentries e (List.mem_cons_of_mem entry he)]
      rfl
  rw [hread d.entries fun e he => h e.2 (List.mem_map_of_mem he), Option.map_some]
  exact congrArg some (Dict.ofList_entries (d.mapValues fun _ => g))

theorem isSome_of_members? {f : α → Option β} {entries : List (String × α)}
    (h : (members? f entries).isSome = true) {e : String × α} (he : e ∈ entries) :
    (f e.2).isSome = true := by
  induction entries with
  | nil => cases he
  | cons entry rest ih =>
    rw [members?_cons] at h
    cases hentry : f entry.2 with
    | none =>
      rw [hentry] at h
      cases h
    | some b =>
      rw [hentry, Option.bind_some, Option.isSome_map] at h
      rcases List.mem_cons.1 he with rfl | hrest
      · rw [hentry]
        rfl
      · exact ih h hrest

theorem reread?_object (depth : Nat) (members : List (String × Json.Value)) :
    Json.reread? (depth + 1) (.object members) =
      (members? (Json.reread? depth) members).map .object := by
  rw [Json.reread?, Json.rereadMembers?_eq_mapM]
  rfl

theorem bind_pageOfJson? (ms : Option (List (String × Json.Value))) :
    (ms.map Json.Value.object).bind pageOfJson? =
      (ms.bind (members? Stored.ofJson?)).map Dict.ofList := by
  cases ms <;> rfl

theorem bind_ofJson? (ms : Option (List (String × Json.Value))) :
    (ms.map Json.Value.object).bind ofJson? =
      (ms.bind (members? pageOfJson?)).map fun pages => ⟨Dict.ofList pages⟩ := by
  cases ms <;> rfl

def rereadPage? (page : Dict Stored) : Option (Dict Stored) :=
  (members? Stored.reread? page.entries).map Dict.ofList

theorem parse?_print_toJson (store : Store) :
    (Json.parse? (Json.print store.toJson)).bind ofJson? =
      (members? rereadPage? store.pages.entries).map fun pages => ⟨Dict.ofList pages⟩ := by
  have hpage : ∀ page : Dict Stored, (Json.reread? (Json.maxDepth - 1)
      (.object (page.entries.map fun entry => (entry.1, entry.2.toJson)))).bind pageOfJson? =
      rereadPage? page := by
    intro page
    show (Json.reread? ((Json.maxDepth - 2) + 1) _).bind pageOfJson? = _
    rw [reread?_object, bind_pageOfJson?, members?_map_left, members?_bind]
    rfl
  rw [Json.parse?_print]
  show (Json.reread? ((Json.maxDepth - 1) + 1) (toJson store)).bind ofJson? = _
  unfold toJson
  rw [reread?_object, bind_ofJson?,
    members?_map_left (Json.reread? (Json.maxDepth - 1)) (fun page : Dict Stored =>
      .object (page.entries.map fun entry => (entry.1, entry.2.toJson))) store.pages.entries,
    members?_bind]
  simp only [hpage]

theorem parseJson_print {store : Store} (h : ∀ found ∈ store.values, found.IsReadable) :
    parseJson (Json.print store.toJson) = .ok (store.mapValues Stored.reread) := by
  have hpages : (members? rereadPage? store.pages.entries).map Dict.ofList =
      some (store.pages.mapValues fun _ page => page.mapValues fun _ => Stored.reread) := by
    refine members?_of_forall fun page hpage => members?_of_forall fun found hfound => ?_
    exact (h found (List.mem_flatMap.2 ⟨page, hpage, hfound⟩)).reread?_eq
  have hstore : (Json.parse? (Json.print store.toJson)).bind ofJson? =
      some (store.mapValues Stored.reread) := by
    rw [parse?_print_toJson]
    show (members? rereadPage? store.pages.entries).map (Book.mk ∘ Dict.ofList) = _
    rw [← Option.map_map, hpages]
    rfl
  unfold parseJson
  rw [hstore]

theorem isReadable_of_parseJson {store loaded : Store}
    (h : parseJson (Json.print store.toJson) = .ok loaded) :
    ∀ found ∈ store.values, found.IsReadable := by
  have hpages : (members? rereadPage? store.pages.entries).isSome = true := by
    unfold parseJson at h
    rw [parse?_print_toJson] at h
    cases hread : members? rereadPage? store.pages.entries with
    | none =>
      rw [hread] at h
      cases h
    | some pages => rfl
  intro found hfound
  obtain ⟨page, hpage, hentry⟩ := List.mem_flatMap.1 hfound
  obtain ⟨filed, hfiled, rfl⟩ := List.mem_map.1 hpage
  obtain ⟨entry, hmem, rfl⟩ := List.mem_map.1 hentry
  have hread := isSome_of_members? hpages hfiled
  unfold rereadPage? at hread
  rw [Option.isSome_map] at hread
  exact isSome_of_members? hread hmem

theorem loadJson_saveJson {store : Store} {folder : Folder} {path : String}
    (hsaved : (store.saveJson folder path).result = .ok ()) (other : Store) :
    other.loadJson (store.saveJson folder path).state path =
      match parseJson (Json.print store.toJson) with
      | .ok loaded => ⟨loaded, .ok (), [.jsonLoaded], []⟩
      | .error fault => .failed other (.unreadable path fault) [] := by
  have hread : (store.saveJson folder path).state.read path = .ok (Json.print store.toJson) :=
    Folder.read_write hsaved
  have hload : load parseJson (store.saveJson folder path).state path =
      (parseJson (Json.print store.toJson)).mapError (Error.unreadable path) := by
    unfold load
    rw [hread]
    rfl
  unfold loadJson reload
  rw [hload]
  cases parseJson (Json.print store.toJson) <;> rfl

end Store

/-! ### What preferences are stored as -/

namespace Json

/-- The text of a value is read as that value. -/
def ReadsBack (value : Value) : Prop := parse? (print value) = some value

theorem readsBack_float_iff {x : Binary64} :
    ReadsBack (.float x) ↔ rereadFloat? x = some (.float x) := by
  unfold ReadsBack
  rw [parse?_print, reread?]

def Value.float? : Value → Option Binary64
  | .float x => some x
  | _ => none

theorem rereadFloat?_eq_iff {x y : Binary64} :
    rereadFloat? x = some (.float y) ↔ (rereadFloat? x).bind Value.float? = some y := by
  cases rereadFloat? x with
  | none => simp
  | some v => cases v <;> simp [Value.float?]

instance (x : Binary64) : Decidable (ReadsBack (.float x)) :=
  decidable_of_iff _ (readsBack_float_iff.trans rereadFloat?_eq_iff).symm

/-- A number that is written as `1.0000274129139661` and read as its neighbour. -/
example : ¬ ReadsBack (.float (.signed false 4607182542256806531 (by decide))) := by
  decide +kernel

end Json

namespace Stored

theorem reread?_float (x : Binary64) :
    (float x).reread? = (Json.rereadFloat? x).bind ofJson? := by
  unfold reread? toJson Json.rereadFloat?
  split
  · rename_i h
    rw [Json.reread?, Json.rereadFloat?, if_pos h]
  · rfl

/-- Integers and texts are what lists are made of that preferences are stored as. -/
def IsWord : Stored → Prop
  | integer _ | text _ => True
  | _ => False

theorem IsWord.kept {value : Stored} (h : value.IsWord) (depth : Nat) :
    Json.reread? depth value.toJson = some value.toJson ∧ ofJson? value.toJson = some value := by
  cases value <;> first | exact h.elim | exact ⟨rfl, rfl⟩

theorem items_kept {items : List Stored} (h : ∀ item ∈ items, item.IsWord) (depth : Nat) :
    Json.rereadItems? depth (toJsonItems items) = some (toJsonItems items) ∧
      ofJsonItems? (toJsonItems items) = some items := by
  induction items with
  | nil => exact ⟨rfl, rfl⟩
  | cons item rest ih =>
    obtain ⟨hread, hstored⟩ := (h item List.mem_cons_self).kept depth
    obtain ⟨hreadRest, hstoredRest⟩ := ih fun item hitem => h item (List.mem_cons_of_mem _ hitem)
    rw [toJsonItems, Json.rereadItems?, ofJsonItems?, hread, hreadRest, hstored, hstoredRest]
    exact ⟨rfl, rfl⟩

theorem reread?_list {items : List Stored} (h : ∀ item ∈ items, item.IsWord) :
    (list items).reread? = some (list items) := by
  obtain ⟨hread, hstored⟩ := items_kept h (Json.maxDepth - 3)
  unfold reread? toJson
  show ((Json.rereadItems? (Json.maxDepth - 3) _).map Json.Value.array).bind ofJson? = _
  rw [hread, Option.map_some, Option.bind_some, ofJson?, hstored]
  rfl

theorem reread?_encode_selection (selection : Calendar.Selection) :
    selection.encode.reread? = some selection.encode := by
  cases selection <;> exact reread?_list (by simp [IsWord])

theorem reread?_encodeList (guids : List Guid) :
    (Guid.encodeList guids).reread? = some (Guid.encodeList guids) := by
  refine reread?_list fun item hitem => ?_
  obtain ⟨g, -, rfl⟩ := List.mem_map.1 hitem
  trivial

end Stored

namespace Body

/-- Whether JSON keeps the value: a floating-point number needs a text that is read as that
number. -/
def ReadsBack : Body → Prop
  | floatRange r => Json.ReadsBack (.float r.value)
  | _ => True

theorem reread?_encode {body : Body} (h : body.ReadsBack) :
    body.encode.reread? = some body.encode := by
  have href : ∀ guid : Option Guid, (Guid.encode? guid).reread? = some (Guid.encode? guid) := by
    intro guid
    cases guid <;> rfl
  cases body with
  | floatRange r =>
    show (Stored.float r.value).reread? = some (.float r.value)
    rw [Stored.reread?_float, Json.readsBack_float_iff.1 h]
    rfl
  | reference p => exact href p.value
  | checkedReference c => exact href c.value
  | references p => exact Stored.reread?_encodeList p.value
  | date d => exact Stored.reread?_encode_selection d.selection
  | _ => rfl

/-- If a value is taken over from what its text is read as, the text is read as the value. -/
theorem readsBack_of_restore {b c : Body} (halike : b.Alike c) (id : Identity)
    (hreadable : b.encode.IsReadable)
    (hok : (c.restore id b.encode.reread).result = .ok ())
    (hsame : b.SameValue (c.restore id b.encode.reread).state) : b.ReadsBack := by
  cases b <;> try trivial
  case floatRange r =>
    cases c <;> try exact halike.elim
    case floatRange s =>
      have hread : (Json.rereadFloat? r.value).bind Stored.ofJson? =
          some (encode (floatRange r)).reread :=
        (Stored.reread?_float r.value).symm.trans hreadable.reread?_eq
      generalize (encode (floatRange r)).reread = found at *
      obtain ⟨v, hv, hfound⟩ := Option.bind_eq_some_iff.1 hread
      rcases Json.rereadFloat?_cases hv with ⟨y, rfl⟩ | rfl
      · cases hfound
        have htaken : (s.set id y).result = .ok () := hok
        have hvalue : r.value = (s.set id y).state.value := hsame
        have hset : (s.set id y).state.value = y := by
          unfold Range.set at htaken ⊢
          split
          · rfl
          · rename_i hrefused
            rw [if_neg hrefused] at htaken
            cases htaken
        rw [hvalue.trans hset] at hv
        exact Json.readsBack_float_iff.2 (hvalue.trans hset ▸ hv)
      · cases hfound
        cases hok

end Body

namespace Store

theorem loadJson_saveJson_iff {store : Store} {folder : Folder} {path : String}
    (hsaved : (store.saveJson folder path).result = .ok ()) (other loaded : Store) :
    other.loadJson (store.saveJson folder path).state path =
        ⟨loaded, .ok (), [.jsonLoaded], []⟩ ↔
      (∀ found ∈ store.values, found.IsReadable) ∧ loaded = store.mapValues Stored.reread := by
  rw [loadJson_saveJson hsaved]
  constructor
  · intro h
    cases hparse : parseJson (Json.print (toJson store)) with
    | error fault =>
      rw [hparse] at h
      cases h
    | ok found =>
      have hreadable := isReadable_of_parseJson hparse
      rw [parseJson_print hreadable] at hparse h
      cases h
      exact ⟨hreadable, rfl⟩
  · rintro ⟨hreadable, rfl⟩
    rw [parseJson_print hreadable]

end Store

namespace Preference

theorem save_eq {p : Preference} {refuses : String → String → Bool}
    (hfree : refuses p.id.page p.id.name = false) (store : Store) :
    (p.save refuses store).result = .ok () ∧
      (p.save refuses store).state = store.insert p.id.page p.id.name p.body.encode := by
  unfold save Store.write
  rw [hfree]
  exact ⟨rfl, rfl⟩

theorem restoreFrom_reread {q : Preference} {saved : Store} {found : Stored}
    (h : saved.get? q.id.page q.id.name = some found) :
    (q.restoreFrom (saved.mapValues Stored.reread)).result =
        (q.body.restore q.id found.reread).result ∧
      (q.restoreFrom (saved.mapValues Stored.reread)).state.body =
        (q.body.restore q.id found.reread).state := by
  have hread : (saved.mapValues Stored.reread).get? q.id.page q.id.name = some found.reread := by
    rw [Book.get?_mapValues, h]
    rfl
  obtain ⟨hresult, hstate⟩ := restoreFrom_of_get? hread
  exact ⟨hresult, congrArg Preference.body hstate⟩

/-- A preference that was built alike gets the value that was saved from the JSON file of a store,
exactly if that value is read back from its text and nothing else in the store is unreadable. -/
theorem json_file_restores_iff {p q : Preference} (hp : p.Reachable)
    (hplace : q.id.page = p.id.page ∧ q.id.name = p.id.name) (halike : p.body.Alike q.body)
    (hbounded : p.body.Bounded) (refuses : String → String → Bool)
    (hfree : refuses p.id.page p.id.name = false) (store : Store) (folder : Folder) (path : String)
    (hsaved : ((p.save refuses store).state.saveJson folder path).result = .ok ())
    (other : Store) :
    (p.save refuses store).result = .ok () ∧
    ((∃ loaded,
        other.loadJson ((p.save refuses store).state.saveJson folder path).state path =
          ⟨loaded, .ok (), [.jsonLoaded], []⟩ ∧
        (q.restoreFrom loaded).result = .ok () ∧
        p.body.SameValue (q.restoreFrom loaded).state.body) ↔
      p.body.ReadsBack ∧ ∀ page name found, store.get? page name = some found →
        ¬ (page = p.id.page ∧ name = p.id.name) → found.IsReadable) := by
  obtain ⟨hresult, hstate⟩ := save_eq hfree store
  refine ⟨hresult, ?_⟩
  have hget : ∀ page name, (p.save refuses store).state.get? page name =
      if p.id.page = page ∧ p.id.name = name then some p.body.encode
      else store.get? page name := by
    intro page name
    rw [hstate, Book.get?_insert]
  generalize (p.save refuses store).state = saved at *
  have hown : saved.get? q.id.page q.id.name = some p.body.encode := by
    rw [hget, if_pos ⟨hplace.1.symm, hplace.2.symm⟩]
  obtain ⟨hrestored, hbody⟩ := restoreFrom_reread hown
  constructor
  · -- The file was loaded, so all its values are readable, this one and the others.
    rintro ⟨loaded, hload, hok, hsame⟩
    obtain ⟨hreadable, rfl⟩ := (Store.loadJson_saveJson_iff hsaved other loaded).1 hload
    rw [hrestored] at hok
    rw [hbody] at hsame
    have hreadableOwn := hreadable _ (Book.mem_values_iff.2 ⟨_, _, hown⟩)
    refine ⟨Body.readsBack_of_restore halike q.id hreadableOwn hok hsame, ?_⟩
    intro page name found hfound hother
    refine hreadable found (Book.mem_values_iff.2 ⟨page, name, ?_⟩)
    rw [hget, if_neg fun h => hother ⟨h.1.symm, h.2.symm⟩]
    exact hfound
  · rintro ⟨hreads, hothers⟩
    have hkept := Body.reread?_encode hreads
    have hreadable : ∀ found ∈ saved.values, found.IsReadable := by
      intro found hfound
      obtain ⟨page, name, hplaced⟩ := Book.mem_values_iff.1 hfound
      rw [hget] at hplaced
      split at hplaced
      · cases hplaced
        exact congrArg Option.isSome hkept
      · rename_i hother
        exact hothers page name found hplaced fun h => hother ⟨h.1.symm, h.2.symm⟩
    refine ⟨_, (Store.loadJson_saveJson_iff hsaved other _).2 ⟨hreadable, rfl⟩, ?_⟩
    have hreread : p.body.encode.reread = p.body.encode := by
      unfold Stored.reread
      rw [hkept]
      rfl
    rw [hrestored, hbody, hreread]
    exact Body.restore_isFormOf halike hp.guarded hbounded (.inl rfl) q.id

/-! ### Numbers that are kept, and a number that is not -/

def sampleRange (value : Binary64) : Preference :=
  .ofBody ⟨"General", "Limit", "a", ""⟩ .numberRange
    (.floatRange ⟨value, value, .ofInt 0, .infinity false, .ofInt 1⟩)

theorem saveJson_kept (store : Store) :
    (store.saveJson .empty "kept.json").result = .ok () := by
  have hplace : Folder.place? .empty "kept.json" = some "kept.json" := by cbv
  unfold Store.saveJson Folder.write Folder.put
  rw [hplace]
  rfl

theorem build_sampleRange {value : Binary64} (h : .ofInt 0 ≤ value ∧ value ≤ .infinity false) :
    Blueprint.build ⟨⟨"General", "Limit", "a", ""⟩,
      .floatRange value (.ofInt 0) (.infinity false) (.ofInt 1)⟩ 0 =
      (.ok (sampleRange value), []) := by
  have horder : ¬ (.infinity false : Binary64) < .ofInt 0 := by decide +kernel
  unfold Blueprint.build Design.build Range.build Range.order
  simp only [if_neg horder, decide_eq_true h, if_true]
  rfl

theorem loadJson_of_one {p : Preference} (hreadable : p.body.encode.IsReadable) :
    ∃ loaded,
      Store.loadJson .empty
        (Store.saveJson (p.save (fun _ _ => false) .empty).state .empty "kept.json").state
        "kept.json" = ⟨loaded, .ok (), [.jsonLoaded], []⟩ ∧
      (p.restoreFrom loaded).result = (p.body.restore p.id p.body.encode.reread).result ∧
      (p.restoreFrom loaded).state.body = (p.body.restore p.id p.body.encode.reread).state := by
  have hget : ∀ page name, (p.save (fun _ _ => false) .empty).state.get? page name =
      if p.id.page = page ∧ p.id.name = name then some p.body.encode else none := by
    intro page name
    rw [(save_eq rfl .empty).2, Book.get?_insert]
    rfl
  have hall : ∀ found ∈ (p.save (fun _ _ => false) .empty).state.values, found.IsReadable := by
    intro found hfound
    obtain ⟨page, name, hplaced⟩ := Book.mem_values_iff.1 hfound
    rw [hget] at hplaced
    split at hplaced
    · cases hplaced
      exact hreadable
    · cases hplaced
  refine ⟨_, (Store.loadJson_saveJson_iff (saveJson_kept _) .empty _).2 ⟨hall, rfl⟩, ?_⟩
  exact restoreFrom_reread ((hget _ _).trans (if_pos ⟨rfl, rfl⟩))

/-- An infinite number, which its range takes, is written as nothing, and nothing is no number to
restore. -/
theorem infinite_number_is_lost :
    Blueprint.build ⟨⟨"General", "Limit", "a", ""⟩,
      .floatRange (.infinity false) (.ofInt 0) (.infinity false) (.ofInt 1)⟩ 0 =
      (.ok (sampleRange (.infinity false)), []) ∧
    ∃ loaded,
      Store.loadJson .empty (Store.saveJson ((sampleRange (.infinity false)).save
        (fun _ _ => false) .empty).state .empty "kept.json").state "kept.json" =
        ⟨loaded, .ok (), [.jsonLoaded], []⟩ ∧
      ((sampleRange (.infinity false)).restoreFrom loaded).result =
        .error (.unusable "General" "Limit" "expected a number, found null") := by
  refine ⟨build_sampleRange (by decide +kernel), ?_⟩
  have hread : (Stored.float (.infinity false)).reread? = some .null := rfl
  obtain ⟨loaded, hload, hresult, -⟩ := loadJson_of_one (p := sampleRange (.infinity false))
    (congrArg Option.isSome hread)
  refine ⟨loaded, hload, hresult.trans ?_⟩
  have hnull : (sampleRange (.infinity false)).body.encode.reread = .null :=
    congrArg (Option.getD · Stored.null) hread
  rw [hnull]
  rfl

/-- One is read back as one, whatever limits there are. -/
theorem one_is_restored :
    ∃ loaded,
      Store.loadJson .empty (Store.saveJson
        ((sampleRange (.ofInt 1)).save (fun _ _ => false) .empty).state .empty "kept.json").state
        "kept.json" = ⟨loaded, .ok (), [.jsonLoaded], []⟩ ∧
      ((sampleRange (.ofInt 1)).restoreFrom loaded).result = .ok () ∧
      (sampleRange (.ofInt 1)).body.SameValue
        ((sampleRange (.ofInt 1)).restoreFrom loaded).state.body := by
  have hreachable : (sampleRange (.ofInt 1)).Reachable :=
    reachable_of_build (build_sampleRange (by decide +kernel))
  have hreads : (sampleRange (.ofInt 1)).body.ReadsBack := by
    show Json.ReadsBack (.float (.ofInt 1))
    decide +kernel
  have hbounded : (sampleRange (.ofInt 1)).body.Bounded :=
    ⟨by decide, by decide⟩
  refine ((json_file_restores_iff hreachable ⟨rfl, rfl⟩ ⟨rfl, rfl⟩ hbounded
    (fun _ _ => false) rfl .empty .empty "kept.json" (saveJson_kept _) .empty).2).2 ⟨hreads, ?_⟩
  intro page name found hfound
  cases hfound

end Preference

end Preferences
