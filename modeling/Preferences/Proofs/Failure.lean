import Preferences.Proofs.Decisions
import Preferences.Session

/-!
# Failures

An operation that fails has changed nothing and has told no watcher. This is shown for kinds,
bindings, stores and files first, then for bodies, preferences and registries, and last for the
requests of a session.
-/

namespace Preferences

/-! ### Outcomes -/

namespace Outcome

variable {σ τ α β ε : Type}

/-- If the outcome is a failure, its state is the one before, and no watcher was told. -/
def FailsSafe (o : Outcome σ α ε) (before : σ) : Prop :=
  ∀ e, o.result = .error e → o.state = before ∧ o.notices = []

theorem failsSafe_of_ok {o : Outcome σ α ε} {before : σ} {value : α} (h : o.result = .ok value) :
    o.FailsSafe before := by
  intro e he
  rw [h] at he
  cases he

theorem failsSafe_done (before state : σ) (value : α) :
    (done state value : Outcome σ α ε).FailsSafe before :=
  failsSafe_of_ok rfl

theorem failsSafe_failed (before : σ) (error : ε) (log : List Event) :
    (failed before error log : Outcome σ α ε).FailsSafe before := by
  intro e _
  exact ⟨rfl, rfl⟩

theorem FailsSafe.within {o : Outcome σ α ε} {before : σ} (h : o.FailsSafe before) (f : σ → τ) :
    (o.within f).FailsSafe (f before) := by
  intro e he
  obtain ⟨hstate, hnotices⟩ := h e he
  exact ⟨congrArg f hstate, hnotices⟩

theorem FailsSafe.map {o : Outcome σ α ε} {before : σ} (h : o.FailsSafe before) (f : α → β) :
    (o.map f).FailsSafe before := by
  intro e he
  cases hr : o.result with
  | ok value =>
    simp only [Outcome.map, hr, Except.map] at he
    cases he
  | error e' => exact h e' hr

theorem FailsSafe.withLog {o : Outcome σ α ε} {before : σ} (h : o.FailsSafe before)
    (log : List Event) : ({ o with log := log } : Outcome σ α ε).FailsSafe before := by
  intro e he
  exact h e he

theorem Decides.failsSafe {id : Identity} {before : σ} {o : Outcome σ Unit}
    (h : o.Decides id before) : o.FailsSafe before := by
  cases h with
  | taken after => exact failsSafe_done _ _ _
  | refused _ => exact failsSafe_failed _ _ _

end Outcome

open Outcome

/-! ### Kinds -/

theorem Checked.set_failsSafe {α : Type} (id : Identity) (c : Checked α) (value : α) :
    (c.set id value).FailsSafe c := (c.set_decides id value).failsSafe

theorem Choice.set_failsSafe (id : Identity) (c : Choice) (key : String) :
    (c.set id key).FailsSafe c := (c.set_decides id key).failsSafe

theorem Range.set_failsSafe {α : Type} [LE α] [LT α] [DecidableLE α] [DecidableLT α] [Shown α]
    (id : Identity) (r : Range α) (value : α) : (r.set id value).FailsSafe r :=
  (r.set_decides id value).failsSafe

/-! ### Bindings, stores and files -/

theorem Binding.bind_failsSafe (b : Binding) (item : Nat) : (b.bind item).FailsSafe b := by
  unfold Binding.bind
  split
  · exact failsSafe_failed _ _ _
  · exact failsSafe_done _ _ _

theorem Binding.makeInternal_failsSafe (b : Binding) : b.makeInternal.FailsSafe b := by
  unfold Binding.makeInternal
  split
  · exact failsSafe_failed _ _ _
  · exact failsSafe_done _ _ _

theorem Store.write_failsSafe (store : Store) (refuses : String → String → Bool)
    (page name : String) (value : Stored) :
    (store.write refuses page name value).FailsSafe store := by
  unfold Store.write
  split
  · exact failsSafe_failed _ _ _
  · exact failsSafe_done _ _ _

theorem Store.reload_failsSafe (parse : String → Except DocumentFault Store) (loaded : Event)
    (store : Store) (folder : Folder) (path : String) :
    (Store.reload parse loaded store folder path).FailsSafe store := by
  unfold Store.reload
  split
  · exact failsSafe_of_ok rfl
  · exact failsSafe_failed _ _ _

theorem Folder.write_failsSafe (folder : Folder) (path text : String) :
    (folder.write path text).FailsSafe folder := by
  unfold Folder.write
  split
  · exact failsSafe_of_ok rfl
  · exact failsSafe_failed _ _ _

/-! ### Bodies -/

namespace Body

theorem set_failsSafe (id : Identity) (body : Body) (value : Value) :
    (body.set id value).FailsSafe body := by
  rcases body.set_cases id value with hdecides | hmismatch
  · exact hdecides.failsSafe
  · rw [hmismatch]
    exact failsSafe_failed _ _ _

theorem restore_failsSafe (body : Body) (id : Identity) (found : Stored) :
    (body.restore id found).FailsSafe body := by
  rw [restore_eq]
  cases body.decode? found with
  | none => exact failsSafe_failed _ _ _
  | some value => exact set_failsSafe id body value

end Body

/-! ### Preferences -/

namespace Preference

theorem setQuietly_failsSafe (p : Preference) (value : Value) :
    (p.setQuietly value).FailsSafe p :=
  (Body.set_failsSafe p.id p.body value).within fun body => ({ p with body := body } : Preference)

theorem set_failsSafe (p : Preference) (value : Value) : (p.set value).FailsSafe p := by
  have hq := setQuietly_failsSafe p value
  unfold Preference.set
  dsimp only
  split
  · rename_i hr
    exact failsSafe_of_ok hr
  · exact hq.withLog _

theorem restoreValue_failsSafe (p : Preference) (found : Stored) :
    (p.restoreValue found).FailsSafe p := by
  have hb := (Body.restore_failsSafe p.body p.id found).within fun body => { p with body := body }
  unfold restoreValue
  dsimp only
  split
  · exact hb.withLog _
  · exact hb

theorem restoreFrom_failsSafe (p : Preference) (store : Store) :
    (p.restoreFrom store).FailsSafe p := by
  unfold restoreFrom Preference.restore
  split
  · exact restoreValue_failsSafe _ _
  · exact failsSafe_of_ok rfl

theorem bind_failsSafe (p : Preference) (item : Nat) : (p.bind item).FailsSafe p := by
  have hb := Binding.bind_failsSafe p.binding item
  exact hb.within fun binding => { p with binding := binding }

theorem makeInternal_failsSafe (p : Preference) : p.makeInternal.FailsSafe p := by
  have hb := Binding.makeInternal_failsSafe p.binding
  exact hb.within fun binding => { p with binding := binding }

theorem get_failsSafe (p : Preference) (tick : Int64) (type : ValueType) :
    (p.get tick type).FailsSafe p := by
  intro e _
  exact ⟨rfl, rfl⟩

theorem save_failsSafe (p : Preference) (refuses : String → String → Bool) (store : Store) :
    (p.save refuses store).FailsSafe store := by
  have hw := Store.write_failsSafe store refuses p.id.page p.id.name p.body.encode
  exact hw.withLog _

end Preference

/-! ### Registries -/

namespace Registry

/-- The page that was opened for a preference was there if its place was taken. -/
theorem register_failsSafe (r : Registry) (p : Preference) : (r.register p).FailsSafe r := by
  unfold register
  dsimp only
  split
  · rename_i htaken
    unfold Book.contains at htaken
    rw [Book.get?_openPage] at htaken
    rw [Book.openPage_of_contains htaken]
    exact failsSafe_failed _ _ _
  · exact failsSafe_of_ok rfl

theorem update_failsSafe {α : Type} {f : Preference → Outcome Preference α}
    (h : ∀ p, (f p).FailsSafe p) (r : Registry) (page name : String) :
    (r.update page name f).FailsSafe r := by
  unfold update
  cases hget : r.get? page name with
  | none => exact failsSafe_failed _ _ _
  | some p =>
    have hf := (h p).within fun p => r.insert page name p
    rw [Book.insert_of_get? hget] at hf
    exact hf

theorem value_failsSafe (r : Registry) (tick : Int64) (page name : String) (type : ValueType) :
    (r.value tick page name type).FailsSafe r := by
  unfold value
  cases r.get? page name with
  | none => exact failsSafe_failed _ _ _
  | some p => exact (Preference.get_failsSafe p tick type).within fun _ => r

theorem set_failsSafe (r : Registry) (page name : String) (value : Value) :
    (r.set page name value).FailsSafe r :=
  update_failsSafe (fun p => Preference.set_failsSafe p value) r page name

end Registry

/-! ### Requests of a session -/

theorem Record.ofOutcome_error {σ α : Type} {o : Outcome σ α} {answer : α → Answer}
    {failure : Failure} (h : (ofOutcome o answer).result = .error failure) :
    ∃ e, o.result = .error e := by
  cases hr : o.result with
  | error e => exact ⟨e, rfl⟩
  | ok value =>
    unfold ofOutcome at h
    rw [hr] at h
    cases h

/-- A failure on record left the state as it was. -/
theorem Outcome.FailsSafe.onRecord {σ α : Type} {o : Outcome σ α} {before : σ}
    (ho : o.FailsSafe before) {answer : α → Answer} {failure : Failure}
    (h : (Record.ofOutcome o answer).result = .error failure) :
    o.state = before ∧ o.notices = [] := by
  obtain ⟨e, he⟩ := Record.ofOutcome_error h
  exact ho e he

/-- Requests that are carried out as a whole or not at all. A preference that cannot be filed is
lost with its label, the preference under a label gives way to one that cannot be built, and saving
stops at the first preference that is refused. -/
def Request.isAtomic : Request → Bool
  | .build .. | .registerLoose _ | .saveAll _ => false
  | _ => true

namespace Session

/-- Nothing in a session can be told from what was there before. -/
structure Alike (s t : Session) : Prop where
  clock : s.clock = t.clock
  loose : s.loose = t.loose
  registry : s.registry = t.registry
  kept : s.kept = t.kept
  refusals : s.refusals = t.refusals
  folder : s.folder = t.folder
  store : ∀ name, s.store name = t.store name

theorem Alike.refl (s : Session) : Alike s s := ⟨rfl, rfl, rfl, rfl, rfl, rfl, fun _ => rfl⟩

theorem alike_of_eq {s t : Session} (h : s = t) : Alike s t := h ▸ Alike.refl s

theorem store_putStore (s : Session) (name other : String) (store : Store) :
    (s.putStore name store).store other = if name = other then store else s.store other := by
  unfold Session.store putStore
  rw [Dict.get?_insert]
  split <;> rfl

theorem putStore_alike (s : Session) (name : String) : Alike (s.putStore name (s.store name)) s := by
  refine ⟨rfl, rfl, rfl, rfl, rfl, rfl, ?_⟩
  intro other
  rw [store_putStore]
  split
  · rename_i h
    rw [h]
  · rfl

theorem putPreference_self {s : Session} {place : Place} {p : Preference}
    (h : s.preference? place = some p) : s.putPreference place p = s := by
  cases place with
  | loose label =>
    have hloose : s.loose.get? label = some p := h
    simp only [putPreference, Dict.insert_of_get? hloose]
  | filed page name =>
    have hfiled : s.registry.get? page name = some p := h
    simp only [putPreference, Book.insert_of_get? hfiled]

theorem onPreference_failsSafe (tick : Int64) (p : Preference) (what : Ask) :
    (onPreference tick p what).FailsSafe p := by
  cases what with
  | set value =>
    cases value with
    | ok value => exact (Preference.set_failsSafe p value).map _
    | error e => exact failsSafe_failed _ _ _
  | setQuietly value => exact (Preference.setQuietly_failsSafe p value).map _
  | select selection =>
    cases selection with
    | ok selection => exact failsSafe_done _ _ _
    | error e =>
      unfold onPreference
      dsimp only
      split
      · exact failsSafe_failed _ _ _
      · exact failsSafe_done _ _ _
  | reset => exact failsSafe_of_ok rfl
  | bind item => exact (Preference.bind_failsSafe p item).map _
  | makeInternal => exact (Preference.makeInternal_failsSafe p).map _
  | _ => exact failsSafe_done _ _ _

/-- Putting back what a failed operation left of a preference changes nothing. -/
theorem putPreference_failed {α : Type} {s : Session} {place : Place} {p : Preference}
    {o : Outcome Preference α} {answer : α → Answer} {failure : Failure}
    (hp : s.preference? place = some p) (ho : o.FailsSafe p)
    (h : (Record.ofOutcome o answer).result = .error failure) :
    Alike (s.putPreference place o.state) s ∧ o.notices = [] := by
  obtain ⟨hstate, hnotices⟩ := ho.onRecord h
  rw [hstate]
  exact ⟨alike_of_eq (putPreference_self hp), hnotices⟩

theorem store_failed {α : Type} {s : Session} {name : String} {o : Outcome Store α}
    {answer : α → Answer} {failure : Failure} (ho : o.FailsSafe (s.store name))
    (h : (Record.ofOutcome o answer).result = .error failure) :
    Alike (s.putStore name o.state) s ∧ o.notices = [] := by
  obtain ⟨hstate, hnotices⟩ := ho.onRecord h
  rw [hstate]
  exact ⟨putStore_alike s name, hnotices⟩

theorem ask_failed {s : Session} {place : Place} {what : Ask} {failure : Failure}
    (h : (s.ask place what).2.result = .error failure) :
    Alike (s.ask place what).1 s ∧ (s.ask place what).2.notices = [] := by
  unfold ask at h ⊢
  cases hp : s.preference? place with
  | none =>
    dsimp only
    split <;> exact ⟨Alike.refl s, rfl⟩
  | some p =>
    simp only [hp] at h ⊢
    cases what with
    | get type => exact ⟨Alike.refl s, rfl⟩
    | getDefault type => exact ⟨Alike.refl s, rfl⟩
    | copy label => cases h
    | save name => exact store_failed (Preference.save_failsSafe p _ (s.store name)) h
    | restore name =>
      exact putPreference_failed hp (Preference.restoreFrom_failsSafe p (s.store name)) h
    | _ => exact putPreference_failed hp (onPreference_failsSafe s.clock p _) h

/-- The registry that a failed operation left is the one before. -/
theorem registry_failed {α : Type} {s : Session} {o : Outcome Registry α} {answer : α → Answer}
    {failure : Failure} (ho : o.FailsSafe s.registry)
    (h : (Record.ofOutcome o answer).result = .error failure) :
    Alike { s with registry := o.state } s ∧ o.notices = [] := by
  obtain ⟨hstate, hnotices⟩ := ho.onRecord h
  rw [hstate]
  exact ⟨Alike.refl s, hnotices⟩

theorem folder_failed {α : Type} {s : Session} {o : Outcome Folder α} {answer : α → Answer}
    {failure : Failure} (ho : o.FailsSafe s.folder)
    (h : (Record.ofOutcome o answer).result = .error failure) :
    Alike { s with folder := o.state } s ∧ o.notices = [] := by
  obtain ⟨hstate, hnotices⟩ := ho.onRecord h
  rw [hstate]
  exact ⟨Alike.refl s, hnotices⟩

theorem changeFolder_failed {s : Session} {changed : Except Error Folder} {failure : Failure}
    (h : (s.changeFolder changed).2.result = .error failure) :
    Alike (s.changeFolder changed).1 s ∧ (s.changeFolder changed).2.notices = [] := by
  cases changed with
  | ok folder => cases h
  | error e => exact ⟨Alike.refl s, rfl⟩

end Session

namespace Session

/-- A request that fails leaves the session as it was, and no watcher is told of it. -/
theorem step_failed {s : Session} {request : Request} {failure : Failure}
    (hatomic : request.isAtomic = true) (h : (s.step request).2.result = .error failure) :
    Alike (s.step request).1 s ∧ (s.step request).2.notices = [] := by
  cases request with
  | build _ _ => cases hatomic
  | registerLoose _ => cases hatomic
  | saveAll _ => cases hatomic
  | ask place what => exact ask_failed h
  | registerNew blueprint =>
    unfold step at h ⊢
    dsimp only at h ⊢
    split at h
    · exact registry_failed (Registry.register_failsSafe s.registry _) h
    · exact ⟨Alike.refl s, rfl⟩
  | getFiled page name type =>
    refine ⟨alike_of_eq ?_, Registry.notices_value _ _ _ _ _⟩
    show { s with registry := (s.registry.value s.clock page name type).state } = s
    rw [Registry.state_value]
  | setFiled page name value =>
    cases value with
    | error e => exact ⟨Alike.refl s, rfl⟩
    | ok value => exact registry_failed (Registry.set_failsSafe _ _ _ _) h
  | resetAll => cases h
  | loadAll _ => cases h
  | write name _ _ _ => exact store_failed (Store.write_failsSafe (s.store name) _ _ _ _) h
  | saveJson _ _ => exact folder_failed (Folder.write_failsSafe s.folder _ _) h
  | saveToml _ _ => exact folder_failed (Folder.write_failsSafe s.folder _ _) h
  | loadJson name _ => exact store_failed (Store.reload_failsSafe _ _ (s.store name) _ _) h
  | loadToml name _ => exact store_failed (Store.reload_failsSafe _ _ (s.store name) _ _) h
  | putFile _ _ => exact changeFolder_failed h
  | makeDirectory _ => exact changeFolder_failed h
  | _ => cases h

end Session

/-- Failure is safe everywhere: for the kinds that refuse values, for every operation on a
preference and on a registry, and for every request of a session that is one operation. -/
theorem failure_is_safe :
    (∀ (α : Type) (id : Identity) (c : Checked α) (value : α), (c.set id value).FailsSafe c) ∧
    (∀ (id : Identity) (c : Choice) (key : String), (c.set id key).FailsSafe c) ∧
    (∀ (α : Type) [LE α] [LT α] [DecidableLE α] [DecidableLT α] [Shown α] (id : Identity)
      (r : Range α) (value : α), (r.set id value).FailsSafe r) ∧
    (∀ (p : Preference) (value : Value), (p.set value).FailsSafe p) ∧
    (∀ (p : Preference) (store : Store), (p.restoreFrom store).FailsSafe p) ∧
    (∀ (p : Preference) (item : Nat), (p.bind item).FailsSafe p) ∧
    (∀ p : Preference, p.makeInternal.FailsSafe p) ∧
    (∀ (r : Registry) (p : Preference), (r.register p).FailsSafe r) ∧
    (∀ (r : Registry) (page name : String) (value : Value), (r.set page name value).FailsSafe r) ∧
    (∀ (r : Registry) (tick : Int64) (page name : String) (type : ValueType),
      (r.value tick page name type).FailsSafe r) ∧
    ∀ (s : Session) (request : Request) (failure : Failure), request.isAtomic = true →
      (s.step request).2.result = .error failure →
      (s.step request).1.Alike s ∧ (s.step request).2.notices = [] := by
  refine ⟨?_, Choice.set_failsSafe, ?_, Preference.set_failsSafe, Preference.restoreFrom_failsSafe,
    Preference.bind_failsSafe, Preference.makeInternal_failsSafe, Registry.register_failsSafe,
    Registry.set_failsSafe, Registry.value_failsSafe, ?_⟩
  · intro α id c value
    exact Checked.set_failsSafe id c value
  · intro α _ _ _ _ _ id r value
    exact Range.set_failsSafe id r value
  · intro s request failure hatomic h
    exact Session.step_failed hatomic h

/-- A watched number of copies between none and ten. -/
def sampleCopies : Preference :=
  ⟨⟨"General", "Copies", "a", ""⟩, .unbound .numberRange, .intRange ⟨5, 5, 0, 10, 1⟩,
    some "printer"⟩

def sampleRequest : Request := .registerNew ⟨⟨"General", "Author", "b", ""⟩, .text "" .string⟩

/-- A number past the maximum of a watched range, and a second preference of one name. -/
theorem refused_number_and_duplicate_are_safe :
    ((sampleCopies.set (.int32 11)).result = .error (.outOfRange "11" "0" "10") ∧
      (sampleCopies.set (.int32 11)).state = sampleCopies ∧
      (sampleCopies.set (.int32 11)).notices = []) ∧
    ∃ s : Session,
      (s.step sampleRequest).2.result = .error (.failed (.duplicate "General" "Author")) ∧
      (s.step sampleRequest).1.Alike s ∧ (s.step sampleRequest).2.notices = [] := by
  obtain ⟨-, -, -, hset, -, -, -, -, -, -, hstep⟩ := failure_is_safe
  have hrange : (sampleCopies.set (.int32 11)).result = .error (.outOfRange "11" "0" "10") := rfl
  have hduplicate : (((Session.start 0).step sampleRequest).1.step sampleRequest).2.result =
      .error (.failed (.duplicate "General" "Author")) := rfl
  exact ⟨⟨hrange, hset sampleCopies (.int32 11) _ hrange⟩, _, hduplicate,
    hstep _ sampleRequest _ rfl hduplicate⟩

end Preferences
