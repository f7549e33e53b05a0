import Mathlib
import Preferences.Proofs.Encoding

/-!
# Registries survive stores and files

A registry that is saved to a store puts one entry under the page and name of each of its
preferences, and leaves the other entries as they were. Loading these entries, also after they went
through a TOML file, gives every preference that was built alike the value that was saved.
-/

namespace Preferences

/-! ### Saving -/

namespace Registry

/-- The entries that preferences make in a store, one after another. -/
def fileEach (ps : List Preference) (store : Store) : Store :=
  ps.foldl (fun store p => store.insert p.id.page p.id.name p.body.encode) store

theorem saveEach_eq {refuses : String → String → Bool} {ps : List Preference}
    (h : ∀ p ∈ ps, refuses p.id.page p.id.name = false) (store : Store) :
    (saveEach refuses ps store).result = .ok () ∧
      (saveEach refuses ps store).state = fileEach ps store := by
  induction ps generalizing store with
  | nil => exact ⟨rfl, rfl⟩
  | cons p rest ih =>
    have hp : refuses p.id.page p.id.name = false := h p List.mem_cons_self
    have ih := ih (fun q hq => h q (List.mem_cons_of_mem p hq))
      (store.insert p.id.page p.id.name p.body.encode)
    have hwrite : store.write refuses p.id.page p.id.name p.body.encode =
        .done (store.insert p.id.page p.id.name p.body.encode) () := by
      unfold Store.write
      rw [hp]
      rfl
    unfold saveEach Preference.save
    simp only [hwrite, Outcome.done]
    exact ih

theorem get?_fileEach_of_forall_ne {ps : List Preference} {page name : String}
    (h : ∀ p ∈ ps, ¬ (p.id.page = page ∧ p.id.name = name)) (store : Store) :
    (fileEach ps store).get? page name = store.get? page name := by
  induction ps generalizing store with
  | nil => rfl
  | cons p rest ih =>
    have hrest : ∀ q ∈ rest, ¬ (q.id.page = page ∧ q.id.name = name) :=
      fun q hq => h q (List.mem_cons_of_mem p hq)
    show (fileEach rest (store.insert p.id.page p.id.name p.body.encode)).get? page name = _
    rw [ih hrest, Book.get?_insert, if_neg (h p List.mem_cons_self)]

theorem get?_fileEach_of_mem {ps : List Preference} {p : Preference} (hp : p ∈ ps)
    (hone : ∀ q ∈ ps, q.id.page = p.id.page ∧ q.id.name = p.id.name → q = p) (store : Store) :
    (fileEach ps store).get? p.id.page p.id.name = some p.body.encode := by
  induction ps generalizing store with
  | nil => cases hp
  | cons q rest ih =>
    have hrest : ∀ q ∈ rest, q.id.page = p.id.page ∧ q.id.name = p.id.name → q = p :=
      fun q' hq' => hone q' (List.mem_cons_of_mem q hq')
    show (fileEach rest (store.insert q.id.page q.id.name q.body.encode)).get? _ _ = _
    by_cases hlater : p ∈ rest
    · exact ih hlater hrest _
    · have hhead : p = q := by
        rcases List.mem_cons.1 hp with heq | hmem
        · exact heq
        · exact absurd hmem hlater
      have hothers : ∀ q' ∈ rest, ¬ (q'.id.page = p.id.page ∧ q'.id.name = p.id.name) := by
        intro q' hq' hsame
        have heq : q' = p := hrest q' hq' hsame
        rw [heq] at hq'
        exact hlater hq'
      rw [get?_fileEach_of_forall_ne hothers, Book.get?_insert, ← hhead, if_pos ⟨rfl, rfl⟩]

theorem Filed.get?_of_mem {r : Registry} (h : r.Filed) {p : Preference} (hp : p ∈ r.values) :
    r.get? p.id.page p.id.name = some p := by
  obtain ⟨page, name, hget⟩ := Book.mem_values_iff.1 hp
  obtain ⟨hpage, hname, -⟩ := h page name p hget
  rw [hpage, hname]
  exact hget

/-- Two preferences of a registry never make an entry in one place. -/
theorem Filed.eq_of_mem {r : Registry} (h : r.Filed) {p q : Preference} (hp : p ∈ r.values)
    (hq : q ∈ r.values) (hsame : q.id.page = p.id.page ∧ q.id.name = p.id.name) : q = p := by
  have hgetp := h.get?_of_mem hp
  have hgetq := h.get?_of_mem hq
  rw [hsame.1, hsame.2, hgetp] at hgetq
  exact (Option.some.inj hgetq).symm

theorem get?_fileEach {r : Registry} (h : r.Filed) (store : Store) (page name : String) :
    (fileEach r.values store).get? page name =
      ((r.get? page name).map fun p => p.body.encode).or (store.get? page name) := by
  cases hget : r.get? page name with
  | none =>
    refine get?_fileEach_of_forall_ne ?_ store
    intro p hp hplace
    have hgetp := h.get?_of_mem hp
    rw [hplace.1, hplace.2, hget] at hgetp
    cases hgetp
  | some p =>
    have hp : p ∈ r.values := Book.mem_values_iff.2 ⟨page, name, hget⟩
    obtain ⟨hpage, hname, -⟩ := h page name p hget
    have hentry := get?_fileEach_of_mem hp (fun q hq => h.eq_of_mem hp hq) store
    rw [hpage, hname] at hentry
    exact hentry

/-- What saving a registry does to a store that takes all of its entries. -/
theorem saveAll_eq {r : Registry} (h : r.Filed) {refuses : String → String → Bool}
    (hfree : ∀ page name, r.contains page name = true → refuses page name = false)
    (store : Store) :
    (r.saveAll refuses store).result = .ok () ∧
      (r.saveAll refuses store).state = fileEach r.values store := by
  have htaken : ∀ p ∈ r.values, refuses p.id.page p.id.name = false := by
    intro p hp
    refine hfree p.id.page p.id.name ?_
    unfold Book.contains
    rw [h.get?_of_mem hp]
    rfl
  obtain ⟨hresult, hstate⟩ := saveEach_eq htaken store
  unfold saveAll
  dsimp only
  split
  · exact ⟨hresult, hstate⟩
  · exact ⟨hresult, hstate⟩

/-! ### Loading -/

/-- Loading a store into a registry gives each of its preferences the value of its counterpart in
the source. -/
structure Restores (source target : Registry) (store : Store) : Prop where
  result : (target.loadAll store).result = .ok 0
  sameValue : ∀ page name q, target.get? page name = some q →
    ∃ p q', source.get? page name = some p ∧
      (target.loadAll store).state.get? page name = some q' ∧
      q'.id = q.id ∧ p.body.SameValue q'.body

end Registry

namespace Preference

theorem restoreFrom_of_get? {p : Preference} {store : Store} {found : Stored}
    (h : store.get? p.id.page p.id.name = some found) :
    (p.restoreFrom store).result = (p.body.restore p.id found).result ∧
      (p.restoreFrom store).state = { p with body := (p.body.restore p.id found).state } := by
  unfold restoreFrom restore
  rw [h]
  refine ⟨?_, restoreValue_state p found⟩
  unfold restoreValue
  dsimp only
  split <;> rfl

end Preference

namespace Registry

/-- A store restores a registry if it holds a form of what each of the preferences is saved as. -/
theorem restores_of_forms {source target : Registry} (hsource : source.Filed)
    (htarget : target.Filed)
    (halike : ∀ page name q, target.get? page name = some q →
      ∃ p, source.get? page name = some p ∧ p.body.Alike q.body)
    (hbounded : ∀ page name p, source.get? page name = some p → p.body.Bounded) {store : Store}
    (hforms : ∀ page name p, source.get? page name = some p →
      ∃ found, store.get? page name = some found ∧ found.IsFormOf p.body.encode) :
    Restores source target store := by
  have hone : ∀ page name q, target.get? page name = some q →
      ∃ p, source.get? page name = some p ∧ (q.restoreFrom store).result = .ok () ∧
        (q.restoreFrom store).state.id = q.id ∧
        p.body.SameValue (q.restoreFrom store).state.body := by
    intro page name q hq
    obtain ⟨p, hp, hbodies⟩ := halike page name q hq
    obtain ⟨found, hfound, hform⟩ := hforms page name p hp
    obtain ⟨hpage, hname, -⟩ := htarget page name q hq
    have hguarded : p.body.Guarded := (hsource page name p hp).2.2.guarded
    have hget : store.get? q.id.page q.id.name = some found := by
      rw [hpage, hname]
      exact hfound
    obtain ⟨hresult, hstate⟩ := Preference.restoreFrom_of_get? hget
    obtain ⟨hok, hsame⟩ :=
      Body.restore_isFormOf hbodies hguarded (hbounded page name p hp) hform q.id
    refine ⟨p, hp, hresult.trans hok, ?_, ?_⟩
    · rw [hstate]
    · rw [hstate]
      exact hsame
  refine ⟨?_, ?_⟩
  · apply result_loadAll_of_forall
    intro q hq
    obtain ⟨p, -, hok, -, -⟩ := hone q.id.page q.id.name q (htarget.get?_of_mem hq)
    unfold Outcome.isOk
    rw [hok]
  · intro page name q hq
    obtain ⟨p, hp, -, hid, hsame⟩ := hone page name q hq
    refine ⟨p, (q.restoreFrom store).state, hp, ?_, hid, hsame⟩
    rw [state_loadAll, Book.get?_mapValues, hq]
    rfl

/-- Saving a registry keeps the entries that are not its own, and what it saves restores the saved
values in every registry of preferences that are built alike, whatever values these have: when the
store is loaded as it is, and when it is loaded from the TOML file that it was saved to. -/
theorem saved_values_are_restored {source target : Registry} (hsource : source.Reachable)
    (htarget : target.Reachable)
    (halike : ∀ page name q, target.get? page name = some q →
      ∃ p, source.get? page name = some p ∧ p.body.Alike q.body)
    (hbounded : ∀ page name p, source.get? page name = some p → p.body.Bounded)
    (refuses : String → String → Bool)
    (hfree : ∀ page name, source.contains page name = true → refuses page name = false)
    (store : Store) :
    (source.saveAll refuses store).result = .ok () ∧
    (∀ page name, source.get? page name = none →
      (source.saveAll refuses store).state.get? page name = store.get? page name) ∧
    Restores source target (source.saveAll refuses store).state ∧
    ∀ (folder : Folder) (path : String) (other : Store),
      (Store.saveToml (source.saveAll refuses store).state folder path).result = .ok () →
      Toml.ReadsBack (Store.toToml (source.saveAll refuses store).state) →
      ∃ loaded,
        other.loadToml (Store.saveToml (source.saveAll refuses store).state folder path).state
          path = ⟨loaded, .ok (), [.tomlLoaded], []⟩ ∧
        Restores source target loaded := by
  obtain ⟨hresult, hstate⟩ := saveAll_eq hsource.filed hfree store
  have hget := get?_fileEach hsource.filed store
  rw [hstate]
  refine ⟨hresult, ?_, ?_, ?_⟩
  · intro page name hnone
    rw [hget, hnone]
    rfl
  · refine restores_of_forms hsource.filed htarget.filed halike hbounded ?_
    intro page name p hp
    refine ⟨p.body.encode, ?_, .inl rfl⟩
    rw [hget, hp]
    rfl
  · intro folder path other hsaved hreads
    refine ⟨_, Store.loadToml_saveToml hsaved hreads other, ?_⟩
    refine restores_of_forms hsource.filed htarget.filed halike hbounded ?_
    intro page name p hp
    refine ⟨p.body.encode.blanked, ?_, .inr rfl⟩
    rw [Book.get?_mapValues, hget, hp]
    rfl

/-! ### A text and a choice -/

def sampleAuthor : Preference :=
  .ofBody ⟨"General", "Author", "a", ""⟩ .string (.text ⟨"nobody", "nobody"⟩)

def sampleStyle : Preference :=
  .ofBody ⟨"Report", "Style", "b", ""⟩ .multichoice
    (.choice ⟨[⟨"plain", "Plain", ""⟩, ⟨"fancy", "Fancy", ""⟩], ⟨0, by decide⟩, ⟨0, by decide⟩⟩)

def sampleTarget : Registry :=
  (Book.empty.insert "General" "Author" sampleAuthor).insert "Report" "Style" sampleStyle

/-- The text is empty, and the choice is not the default. -/
def sampleSource : Registry :=
  (Book.empty.insert "General" "Author" (sampleAuthor.set (.text "")).state).insert "Report"
    "Style" (sampleStyle.set (.text "fancy")).state

def sampleStore : Store := Book.empty.insert "Other" "Key" (.flag true)

def sampleSaved : Store := (sampleSource.saveAll (fun _ _ => false) sampleStore).state

theorem sample_reachable : sampleSource.Reachable ∧ sampleTarget.Reachable := by
  have hauthor : sampleAuthor.Reachable := by
    have hbuild : Blueprint.build ⟨⟨"General", "Author", "a", ""⟩, .text "nobody" .string⟩ 0 =
        (.ok sampleAuthor, []) := rfl
    exact Preference.reachable_of_build hbuild
  have hstyle : sampleStyle.Reachable := by
    have hbuild : Blueprint.build ⟨⟨"Report", "Style", "b", ""⟩, .choice
        [⟨"plain", "Plain", ""⟩, ⟨"fancy", "Fancy", ""⟩] none .multichoice⟩ 0 =
        (.ok sampleStyle, []) := rfl
    exact Preference.reachable_of_build hbuild
  have hset : Preference.Reachable (sampleAuthor.set (.text "")).state :=
    hauthor.trans (.asked .refl 0 (.set (.ok (.text ""))))
  have hchosen : Preference.Reachable (sampleStyle.set (.text "fancy")).state :=
    hstyle.trans (.asked .refl 0 (.set (.ok (.text "fancy"))))
  exact ⟨(Reachable.empty.registered hset).registered hchosen,
    (Reachable.empty.registered hauthor).registered hstyle⟩

theorem sample_cases {r : Registry} {p q : Preference}
    (hr : r = (Book.empty.insert "General" "Author" p).insert "Report" "Style" q)
    {page name : String} {found : Preference} (h : r.get? page name = some found) :
    (page = "General" ∧ name = "Author" ∧ found = p) ∨
      (page = "Report" ∧ name = "Style" ∧ found = q) := by
  rw [hr, Book.get?_insert] at h
  split at h
  · rename_i hplace
    cases h
    exact .inr ⟨hplace.1.symm, hplace.2.symm, rfl⟩
  · rw [Book.get?_insert] at h
    split at h
    · rename_i hplace
      cases h
      exact .inl ⟨hplace.1.symm, hplace.2.symm, rfl⟩
    · cases h

/-- The empty text, which a TOML file does not tell from nothing, and the choice are restored. -/
theorem sample_is_restored :
    sampleSaved.get? "Other" "Key" = sampleStore.get? "Other" "Key" ∧
    Restores sampleSource sampleTarget sampleSaved ∧
    ∃ loaded,
      Store.loadToml .empty (Store.saveToml sampleSaved .empty "kept.toml").state "kept.toml" =
        ⟨loaded, .ok (), [.tomlLoaded], []⟩ ∧
      Restores sampleSource sampleTarget loaded := by
  have halike : ∀ page name q, sampleTarget.get? page name = some q →
      ∃ p, sampleSource.get? page name = some p ∧ p.body.Alike q.body := by
    intro page name q hq
    rcases sample_cases rfl hq with ⟨rfl, rfl, rfl⟩ | ⟨rfl, rfl, rfl⟩
    · exact ⟨_, rfl, trivial⟩
    · exact ⟨_, rfl, rfl⟩
  have hbounded : ∀ page name p, sampleSource.get? page name = some p → p.body.Bounded := by
    intro page name p hp
    rcases sample_cases rfl hp with ⟨-, -, rfl⟩ | ⟨-, -, rfl⟩
    · exact trivial
    · exact trivial
  have hdocument : Store.toToml sampleSaved =
      [("General", .table [("Author", .string "")]), ("Other", .table [("Key", .bool true)]),
        ("Report", .table [("Style", .string "fancy")])] := rfl
  have hreads : Toml.ReadsBack (Store.toToml sampleSaved) := by
    rw [hdocument]
    unfold Toml.ReadsBack
    cbv
  obtain ⟨-, hothers, hdirect, hfile⟩ := saved_values_are_restored sample_reachable.1
    sample_reachable.2 halike hbounded (fun _ _ => false) (fun _ _ _ => rfl) sampleStore
  have hplace : Folder.place? .empty "kept.toml" = some "kept.toml" := by cbv
  have hsaved : (Store.saveToml sampleSaved .empty "kept.toml").result = .ok () := by
    unfold Store.saveToml Folder.write Folder.put
    rw [hplace]
    rfl
  exact ⟨hothers "Other" "Key" rfl, hdirect, hfile .empty "kept.toml" .empty hsaved hreads⟩

end Registry

end Preferences
