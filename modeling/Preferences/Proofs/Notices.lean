import Preferences.Proofs.Filing
import Preferences.Proofs.Restoration

/-!
# Notices

A roster keeps, for each place of a session, only what the preference there is called and who watches
it. Requests change a roster in few ways: a watcher comes or goes, and preferences are built, copied
and moved. From the roster alone, and from whether each request succeeded, it follows which notices
are due: one for a set and one for a reset, to the watcher of that moment, and one for each filed
preference when all are reset. These are the notices that a session gives.
-/

namespace Preferences

/-! ### Rosters -/

/-- What a preference is called, and who watches it. -/
structure Subscription where
  id : Identity
  watcher : Option String

namespace Subscription

def notices (s : Subscription) : List Notice := s.watcher.toList.map fun watcher => ⟨watcher, s.id⟩

end Subscription

structure Roster where
  loose : Dict Subscription
  filed : Book Subscription
  kept : Book Subscription

namespace Roster

def empty : Roster := ⟨.empty, .empty, .empty⟩

def at? (r : Roster) : Place → Option Subscription
  | .loose label => r.loose.get? label
  | .filed page name => r.filed.get? page name

def put (r : Roster) (place : Place) (s : Subscription) : Roster :=
  match place with
  | .loose label => { r with loose := r.loose.insert label s }
  | .filed page name => { r with filed := r.filed.insert page name s }

def file (r : Roster) (s : Subscription) : Roster :=
  { r with filed := r.filed.insert s.id.page s.id.name s }

/-- A watcher takes the place of any other. A copy is watched as its original is. -/
def ask (r : Roster) (place : Place) (what : Ask) : Roster :=
  match r.at? place, what with
  | some s, .watch watcher => r.put place { s with watcher := some watcher }
  | some s, .unwatch => r.put place { s with watcher := none }
  | some s, .copy label => { r with loose := r.loose.insert label s }
  | _, _ => r

/-- The roster after a request. What is built is watched by nobody; what is moved keeps its
watcher. -/
def next (r : Roster) (request : Request) (succeeded : Bool) : Roster :=
  match request with
  | .ask place what => r.ask place what
  | .build label blueprint =>
    if succeeded then { r with loose := r.loose.insert label ⟨blueprint.id, none⟩ }
    else { r with loose := r.loose.erase label }
  | .registerNew blueprint => if succeeded then r.file ⟨blueprint.id, none⟩ else r
  | .registerLoose label =>
    match r.loose.get? label with
    | none => r
    | some s =>
      let taken := { r with loose := r.loose.erase label }
      if succeeded then taken.file s else taken
  | .unregister page name label =>
    let loose := match label, r.filed.get? page name with
      | some label, some s => r.loose.insert label s
      | _, _ => r.loose
    { r with loose := loose, filed := r.filed.erase page name }
  | .keep => { r with kept := r.filed }
  | .goBack => { r with filed := r.kept }
  | _ => r

/-- The notices that are due for a request that succeeds, in order. -/
def due (r : Roster) : Request → List Notice
  | .ask place (.set _) | .ask place .reset => (r.at? place).toList.flatMap Subscription.notices
  | .setFiled page name _ => (r.filed.get? page name).toList.flatMap Subscription.notices
  | .resetAll => r.filed.values.flatMap Subscription.notices
  | _ => []

/-- The notices that are due for each of several requests, given which of them succeed. -/
def trace : Roster → List (Request × Bool) → List (List Notice)
  | _, [] => []
  | r, (request, succeeded) :: rest =>
    (if succeeded then r.due request else []) :: (r.next request succeeded).trace rest

theorem put_of_at? {r : Roster} {place : Place} {s : Subscription} (h : r.at? place = some s) :
    r.put place s = r := by
  cases place with
  | loose label =>
    have hloose : r.loose.get? label = some s := h
    simp only [put, Dict.insert_of_get? hloose]
  | filed page name =>
    have hfiled : r.filed.get? page name = some s := h
    simp only [put, Book.insert_of_get? hfiled]

end Roster

/-! ### Preferences -/

theorem Outcome.isOk_map {σ α β : Type} (f : α → β) (o : Outcome σ α) :
    (o.map f).isOk = o.isOk := by
  unfold Outcome.map Outcome.isOk
  cases o.result <;> rfl

namespace Preference

def subscription (p : Preference) : Subscription := ⟨p.id, p.watcher⟩

theorem notices_subscription (p : Preference) : p.subscription.notices = p.notices := rfl

theorem subscription_set (p : Preference) (value : Value) :
    (p.set value).state.subscription = p.subscription := by
  rw [set_state]
  rfl

theorem subscription_restoreFrom (p : Preference) (store : Store) :
    (p.restoreFrom store).state.subscription = p.subscription := by
  rcases p.restoreFrom_cases store with h | ⟨found, h⟩
  · rw [h]
  · rw [h]
    rfl

/-- A typed set tells the watcher exactly if it succeeds. -/
theorem notices_set (p : Preference) (value : Value) :
    (p.set value).notices = if (p.set value).isOk then p.notices else [] := by
  have hquiet : (p.setQuietly value).notices = [] := Body.notices_set p.body p.id value
  unfold set
  dsimp only
  generalize p.setQuietly value = o at *
  obtain ⟨state, result, log, notices⟩ := o
  subst hquiet
  cases result <;> rfl

theorem notices_restoreFrom (p : Preference) (store : Store) :
    (p.restoreFrom store).notices = [] := by
  unfold restoreFrom restore
  cases store.get? p.id.page p.id.name with
  | none => rfl
  | some found =>
    have hbody : (p.body.restore p.id found).notices = [] := by
      rw [Body.restore_eq]
      cases p.body.decode? found with
      | none => rfl
      | some value => exact Body.notices_set p.body p.id value
    unfold restoreValue
    dsimp only
    split <;> exact hbody

theorem notices_save (p : Preference) (refuses : String → String → Bool) (store : Store) :
    (p.save refuses store).notices = [] := by
  unfold save Store.write
  split <;> rfl

theorem subscription_onPreference (tick : Int64) (p : Preference) (what : Ask) :
    (Session.onPreference tick p what).state.subscription =
      match what with
      | .watch watcher => { p.subscription with watcher := some watcher }
      | .unwatch => { p.subscription with watcher := none }
      | _ => p.subscription := by
  cases what with
  | set value =>
    cases value with
    | ok value => exact subscription_set p value
    | error e => rfl
  | select selection =>
    cases selection with
    | ok selection =>
      show (p.select selection).1.subscription = p.subscription
      rcases select_eq p selection with h | h
      · rw [h]
      · rw [h]
        rfl
    | error e =>
      unfold Session.onPreference
      dsimp only
      split <;> rfl
  | _ => rfl

/-- Only a typed set and a reset give notices. -/
theorem notices_onPreference (tick : Int64) (p : Preference) (what : Ask) :
    (Session.onPreference tick p what).notices =
      if (Session.onPreference tick p what).isOk then
        match what with
        | .set _ | .reset => p.notices
        | _ => []
      else [] := by
  cases what with
  | set value =>
    cases value with
    | error e => rfl
    | ok value =>
      show (p.set value).notices = if ((p.set value).map _).isOk then p.notices else []
      rw [Outcome.isOk_map]
      exact p.notices_set value
  | setQuietly value =>
    have hquiet : (p.setQuietly value).notices = [] := Body.notices_set p.body p.id value
    exact hquiet.trans (ite_self []).symm
  | select selection =>
    cases selection with
    | ok selection => rfl
    | error e =>
      unfold Session.onPreference
      dsimp only
      split <;> rfl
  | bind item =>
    show (p.binding.bind item).notices = _
    rw [ite_self]
    unfold Binding.bind
    split <;> rfl
  | makeInternal =>
    show p.binding.makeInternal.notices = _
    rw [ite_self]
    unfold Binding.makeInternal
    split <;> rfl
  | _ => rfl

end Preference

/-- What is built is watched by nobody. -/
theorem Blueprint.subscription_build {blueprint : Blueprint} {tick : Int64} {p : Preference}
    {log : List Event} (h : blueprint.build tick = (.ok p, log)) :
    p.subscription = ⟨blueprint.id, none⟩ := by
  obtain ⟨id, design⟩ := blueprint
  have hresult : (design.build id tick).1 = .ok p := congrArg Prod.fst h
  cases design with
  | choice entries default control =>
    obtain ⟨c, -, rfl⟩ := ok_of_map hresult
    rfl
  | checked value accepts control =>
    obtain ⟨c, -, rfl⟩ := ok_of_map hresult
    rfl
  | checkedWithData value accepts data =>
    obtain ⟨c, -, rfl⟩ := ok_of_map hresult
    rfl
  | date service =>
    obtain ⟨s, -, rfl⟩ := ok_of_map hresult
    rfl
  | _ =>
    cases hresult
    rfl

/-! ### Records -/

namespace Record

def succeeded (record : Record) : Bool :=
  match record.result with
  | .ok _ => true
  | .error _ => false

theorem succeeded_ofOutcome {σ α : Type} (o : Outcome σ α) (answer : α → Answer) :
    (ofOutcome o answer).succeeded = o.isOk := by
  unfold succeeded ofOutcome Outcome.isOk
  cases o.result <;> rfl

end Record

/-! ### Sessions -/

namespace Session

def roster (s : Session) : Roster where
  loose := s.loose.mapValues fun _ => Preference.subscription
  filed := s.registry.mapValues Preference.subscription
  kept := s.kept.mapValues Preference.subscription

theorem at?_roster (s : Session) (place : Place) :
    s.roster.at? place = (s.preference? place).map Preference.subscription := by
  cases place with
  | loose label => exact Dict.get?_mapValues _ _ _
  | filed page name => exact Book.get?_mapValues _ _ _ _

theorem roster_putPreference (s : Session) (place : Place) (p : Preference) :
    (s.putPreference place p).roster = s.roster.put place p.subscription := by
  cases place with
  | loose label => simp only [putPreference, roster, Roster.put, Dict.mapValues_insert]
  | filed page name => simp only [putPreference, roster, Roster.put, Book.mapValues_insert]

/-- Putting back a preference that is called and watched as before leaves the roster alone. -/
theorem roster_putPreference_of_eq {s : Session} {place : Place} {p q : Preference}
    (hp : s.preference? place = some p) (hq : q.subscription = p.subscription) :
    (s.putPreference place q).roster = s.roster := by
  rw [roster_putPreference, hq]
  refine Roster.put_of_at? ?_
  rw [at?_roster, hp]
  rfl

theorem roster_ask (s : Session) (place : Place) (what : Ask) :
    (s.ask place what).1.roster = s.roster.ask place what := by
  have hat := at?_roster s place
  unfold Session.ask Roster.ask
  cases hp : s.preference? place with
  | none =>
    rw [hp, Option.map_none] at hat
    rw [hat]
    dsimp only
    split <;> rfl
  | some p =>
    rw [hp, Option.map_some] at hat
    rw [hat]
    cases what with
    | get type => rfl
    | getDefault type => rfl
    | copy label => simp only [roster, Dict.mapValues_insert]
    | save name => rfl
    | restore name =>
      exact roster_putPreference_of_eq hp (p.subscription_restoreFrom (s.store name))
    | watch watcher => exact roster_putPreference s place (p.watch watcher)
    | unwatch => exact roster_putPreference s place p.unwatch
    | _ => exact roster_putPreference_of_eq hp (p.subscription_onPreference s.clock _)

theorem notices_ask (s : Session) (place : Place) (what : Ask) :
    (s.ask place what).2.notices =
      if (s.ask place what).2.succeeded then s.roster.due (.ask place what) else [] := by
  have hat := at?_roster s place
  cases hp : s.preference? place with
  | none =>
    unfold Session.ask
    rw [hp]
    dsimp only
    split <;> rfl
  | some p =>
    rw [hp, Option.map_some] at hat
    have hdue : s.roster.due (.ask place what) =
        match what with
        | .set _ | .reset => p.notices
        | _ => [] := by
      cases what <;> simp only [Roster.due, hat, Option.toList_some, List.flatMap_cons,
        List.flatMap_nil, List.append_nil, Preference.notices_subscription]
    rw [hdue]
    unfold Session.ask
    rw [hp]
    cases what with
    | get type => exact (ite_self []).symm
    | getDefault type => exact (ite_self []).symm
    | copy label => rfl
    | save name =>
      exact (p.notices_save (s.refuses name) (s.store name)).trans (ite_self []).symm
    | restore name =>
      exact (p.notices_restoreFrom (s.store name)).trans (ite_self []).symm
    | _ =>
      refine (p.notices_onPreference s.clock _).trans ?_
      rw [← Record.succeeded_ofOutcome _ id]
      rfl

theorem roster_register (s : Session) (p : Preference) (log : List Event) :
    (s.register p log).1.roster =
      if (s.register p log).2.succeeded then s.roster.file p.subscription else s.roster := by
  have hok : (s.register p log).2.succeeded = (s.registry.register p).isOk :=
    Record.succeeded_ofOutcome (s.registry.register p) _
  rw [hok]
  show Session.roster { s with registry := (s.registry.register p).state } = _
  unfold Outcome.isOk
  rw [Registry.state_register, Registry.result_register]
  cases s.registry.contains p.id.page p.id.name with
  | true => rfl
  | false => simp only [Bool.false_eq_true, if_false, roster, Roster.file, Book.mapValues_insert,
      Preference.subscription, if_true]

theorem roster_update {α : Type} {f : Preference → Outcome Preference α}
    (hf : ∀ p, (f p).state.subscription = p.subscription) (s : Session) (page name : String) :
    roster { s with registry := (s.registry.update page name f).state } = s.roster := by
  unfold Registry.update
  cases hget : s.registry.get? page name with
  | none => rfl
  | some p =>
    have hfiled : s.preference? (.filed page name) = some p := hget
    have hput := roster_putPreference_of_eq hfiled (hf p)
    exact hput

theorem roster_mapValues {f : Preference → Preference}
    (hf : ∀ p, (f p).subscription = p.subscription) (s : Session) :
    roster { s with registry := s.registry.mapValues f } = s.roster := by
  have hfiled : (s.registry.mapValues f).mapValues Preference.subscription =
      s.registry.mapValues Preference.subscription := by
    rw [Book.mapValues_mapValues]
    simp only [hf]
  simp only [roster, hfiled]

/-- What a request does to the session, it does to the roster. -/
theorem roster_step (s : Session) (request : Request) :
    (s.step request).1.roster = s.roster.next request (s.step request).2.succeeded := by
  cases request with
  | ask place what => exact s.roster_ask place what
  | build label blueprint =>
    unfold step
    dsimp only
    split
    · rename_i p log hbuild
      have hinsert := Dict.mapValues_insert (fun _ => Preference.subscription) s.loose label p
      rw [blueprint.subscription_build hbuild] at hinsert
      exact congrArg (fun loose => ({ s.roster with loose := loose } : Roster)) hinsert
    · have herase := Dict.mapValues_erase (fun _ => Preference.subscription) s.loose label
      exact congrArg (fun loose => ({ s.roster with loose := loose } : Roster)) herase
  | registerNew blueprint =>
    unfold step
    dsimp only
    split
    · rename_i p log hbuild
      rw [roster_register, blueprint.subscription_build hbuild]
      rfl
    · rfl
  | registerLoose label =>
    have hloose : s.roster.loose.get? label = (s.loose.get? label).map Preference.subscription :=
      at?_roster s (.loose label)
    cases hp : s.loose.get? label with
    | none =>
      rw [hp] at hloose
      simp only [step, hp, Roster.next, hloose, Option.map_none]
    | some p =>
      rw [hp] at hloose
      have hstep : s.step (.registerLoose label) =
          { s with loose := s.loose.erase label }.register p [] := by simp only [step, hp]
      rw [hstep, roster_register]
      simp only [Roster.next, hloose, Option.map_some]
      simp only [roster, Dict.mapValues_erase]
  | unregister page name label =>
    have hfiled : s.roster.filed.get? page name =
        (s.registry.get? page name).map Preference.subscription :=
      at?_roster s (.filed page name)
    have herase := Book.mapValues_erase Preference.subscription s.registry page name
    cases label with
    | none => simp only [step, Registry.unregister_eq, Roster.next, roster, herase]
    | some label =>
      cases hp : s.registry.get? page name with
      | none =>
        rw [hp] at hfiled
        simp only [step, Registry.unregister_eq, hp, Roster.next, hfiled, Option.map_none]
        simp only [roster, herase]
      | some p =>
        rw [hp] at hfiled
        simp only [step, Registry.unregister_eq, hp, Roster.next, hfiled, Option.map_some]
        simp only [roster, herase, Dict.mapValues_insert]
  | getFiled page name type =>
    show roster { s with registry := (s.registry.value s.clock page name type).state } = s.roster
    rw [Registry.state_value]
  | setFiled page name value =>
    cases value with
    | error e => rfl
    | ok value => exact s.roster_update (fun p => p.subscription_set value) page name
  | resetAll =>
    show roster { s with registry := (s.registry.resetAll s.clock).state } = _
    rw [Registry.state_resetAll]
    exact s.roster_mapValues fun p => (rfl : (p.reset s.clock).state.subscription = p.subscription)
  | clearBindings =>
    exact s.roster_mapValues fun p => (rfl : p.clearBinding.subscription = p.subscription)
  | loadAll name =>
    show roster { s with registry := (s.registry.loadAll (s.store name)).state } = _
    rw [Registry.state_loadAll]
    exact s.roster_mapValues fun p => p.subscription_restoreFrom (s.store name)
  | putFile path node =>
    show (s.changeFolder _).1.roster = s.roster
    cases s.folder.put path node <;> rfl
  | makeDirectory path =>
    show (s.changeFolder _).1.roster = s.roster
    cases s.folder.makeDirectory path <;> rfl
  | _ => rfl

/-! ### Notices of requests -/

theorem notices_register (s : Session) (p : Preference) (log : List Event) :
    (s.register p log).2.notices = [] := by
  show (s.registry.register p).notices = []
  unfold Registry.register
  dsimp only
  split <;> rfl

theorem notices_setFiled (r : Registry) (page name : String) (value : Value) :
    (r.set page name value).notices =
      if (r.set page name value).isOk then
        (r.get? page name).toList.flatMap Preference.notices
      else [] := by
  unfold Registry.set Registry.update
  cases r.get? page name with
  | none => rfl
  | some p =>
    have hone : (some p).toList.flatMap Preference.notices = p.notices := List.append_nil _
    rw [hone]
    exact p.notices_set value

theorem notices_resetAll (r : Registry) (tick : Int64) :
    (r.resetAll tick).notices = r.values.flatMap Preference.notices := by
  unfold Registry.resetAll
  dsimp only
  rw [Book.sweep_fst]
  exact List.foldl_append_eq_append.trans (List.nil_append _)

theorem notices_saveEach (refuses : String → String → Bool) (ps : List Preference)
    (store : Store) : (Registry.saveEach refuses ps store).notices = [] := by
  induction ps generalizing store with
  | nil => rfl
  | cons p rest ih =>
    unfold Registry.saveEach
    dsimp only
    split
    · exact p.notices_save refuses store
    · exact ih _

theorem notices_saveAll (r : Registry) (refuses : String → String → Bool) (store : Store) :
    (r.saveAll refuses store).notices = [] := by
  unfold Registry.saveAll
  dsimp only
  split <;> exact notices_saveEach refuses r.values store

theorem notices_write (store : Store) (refuses : String → String → Bool) (page name : String)
    (value : Stored) : (store.write refuses page name value).notices = [] := by
  unfold Store.write
  split <;> rfl

theorem notices_reload (parse : String → Except DocumentFault Store) (loaded : Event)
    (store : Store) (folder : Folder) (path : String) :
    (Store.reload parse loaded store folder path).notices = [] := by
  unfold Store.reload
  split <;> rfl

theorem notices_writeFile (folder : Folder) (path text : String) :
    (folder.write path text).notices = [] := by
  unfold Folder.write
  split <;> rfl

theorem due_setFiled (s : Session) (page name : String) (value : Except Error Value) :
    s.roster.due (.setFiled page name value) =
      (s.registry.get? page name).toList.flatMap Preference.notices := by
  show (s.roster.filed.get? page name).toList.flatMap Subscription.notices = _
  have hat : s.roster.filed.get? page name = _ := at?_roster s (.filed page name)
  rw [hat]
  show ((s.registry.get? page name).map Preference.subscription).toList.flatMap _ = _
  cases s.registry.get? page name <;> rfl

theorem due_resetAll (s : Session) :
    s.roster.due .resetAll = s.registry.values.flatMap Preference.notices := by
  show (s.registry.mapValues Preference.subscription).values.flatMap Subscription.notices = _
  rw [Book.values_mapValues, List.flatMap_map]
  rfl

/-- A request gives the notices that are due if it succeeds, and none if it fails. -/
theorem notices_step (s : Session) (request : Request) :
    (s.step request).2.notices =
      if (s.step request).2.succeeded then s.roster.due request else [] := by
  cases request with
  | ask place what => exact s.notices_ask place what
  | setFiled page name value =>
    cases value with
    | error e => rfl
    | ok value =>
      rw [due_setFiled]
      have hok : (s.step (.setFiled page name (.ok value))).2.succeeded =
          (s.registry.set page name value).isOk := Record.succeeded_ofOutcome _ _
      rw [hok]
      exact notices_setFiled s.registry page name value
  | resetAll =>
    rw [due_resetAll]
    exact notices_resetAll s.registry s.clock
  | build label blueprint =>
    have hnone : (s.step (.build label blueprint)).2.notices = [] := by
      unfold step
      dsimp only
      split <;> rfl
    exact hnone.trans (ite_self []).symm
  | registerNew blueprint =>
    have hnone : (s.step (.registerNew blueprint)).2.notices = [] := by
      unfold step
      dsimp only
      split
      · exact notices_register s _ _
      · rfl
    exact hnone.trans (ite_self []).symm
  | registerLoose label =>
    have hnone : (s.step (.registerLoose label)).2.notices = [] := by
      unfold step
      dsimp only
      split
      · rfl
      · exact notices_register _ _ _
    exact hnone.trans (ite_self []).symm
  | getFiled page name type =>
    exact (Registry.notices_value s.registry s.clock page name type).trans (ite_self []).symm
  | saveAll name => exact (notices_saveAll s.registry _ _).trans (ite_self []).symm
  | write name page key value => exact (notices_write (s.store name) _ _ _ _).trans (ite_self []).symm
  | saveJson name path => exact (notices_writeFile s.folder path _).trans (ite_self []).symm
  | saveToml name path => exact (notices_writeFile s.folder path _).trans (ite_self []).symm
  | loadJson name path =>
    exact (notices_reload _ _ (s.store name) s.folder path).trans (ite_self []).symm
  | loadToml name path =>
    exact (notices_reload _ _ (s.store name) s.folder path).trans (ite_self []).symm
  | putFile path node =>
    show (s.changeFolder _).2.notices = if _ then [] else []
    rw [ite_self]
    cases s.folder.put path node <;> rfl
  | makeDirectory path =>
    show (s.changeFolder _).2.notices = if _ then [] else []
    rw [ite_self]
    cases s.folder.makeDirectory path <;> rfl
  | _ => rfl

/-- The notices of a run are those that the roster of its start lets expect. -/
theorem notices_run (s : Session) (requests : List Request) :
    (s.run requests).2.map Record.notices =
      s.roster.trace (requests.zip ((s.run requests).2.map Record.succeeded)) := by
  induction requests generalizing s with
  | nil => rfl
  | cons request rest ih =>
    show (s.step request).2.notices :: ((s.step request).1.run rest).2.map Record.notices = _
    rw [notices_step, ih, roster_step]
    rfl

theorem length_run (s : Session) (requests : List Request) :
    (s.run requests).2.length = requests.length := by
  induction requests generalizing s with
  | nil => rfl
  | cons request rest ih => exact congrArg (· + 1) (ih (s.step request).1)

/-! ### Copies -/

theorem preference?_putPreference_of_ne {s : Session} {place other : Place} {p : Preference}
    (h : other ≠ place) : (s.putPreference place p).preference? other = s.preference? other := by
  cases place with
  | loose label =>
    cases other with
    | loose other =>
      refine (Dict.get?_insert s.loose label other p).trans (if_neg fun hsame => ?_)
      exact h (congrArg Place.loose hsame.symm)
    | filed page name => rfl
  | filed page name =>
    cases other with
    | loose label => rfl
    | filed page' name' =>
      refine (Book.get?_insert s.registry page name page' name' p).trans (if_neg ?_)
      rintro ⟨rfl, rfl⟩
      exact h rfl

/-- What is asked of a preference is no concern of the preferences in other places. Only a copy
comes to be elsewhere, under its label. -/
theorem preference?_ask_of_ne {s : Session} {place other : Place} {what : Ask} (h : other ≠ place)
    (hcopy : ∀ label, what = .copy label → other ≠ .loose label) :
    (s.ask place what).1.preference? other = s.preference? other := by
  unfold Session.ask
  cases hp : s.preference? place with
  | none =>
    dsimp only
    split <;> rfl
  | some p =>
    cases what with
    | get type => rfl
    | getDefault type => rfl
    | copy label =>
      have hput := preference?_putPreference_of_ne (s := s) (p := p) (hcopy label rfl)
      exact hput
    | save name => cases other <;> rfl
    | restore name => exact preference?_putPreference_of_ne h
    | _ => exact preference?_putPreference_of_ne h

theorem preference?_copy {s : Session} {place : Place} {p : Preference}
    (h : s.preference? place = some p) (label : String) :
    (s.ask place (.copy label)).1.preference? (.loose label) = some p := by
  unfold Session.ask
  rw [h]
  exact Dict.get?_insert_self s.loose label p

/-- In any run of requests the notices are those that are due: for a set that succeeds and for a
reset one to the watcher of that moment, for a reset of all preferences one for each of them in order
of page and name, and none for anything else. A copy is watched as its original is, and after that
what is asked of one is no concern of the other. -/
theorem sessions_give_the_notices_due :
    (∀ (clock : Int64) (requests : List Request),
      ((start clock).run requests).2.length = requests.length ∧
      ((start clock).run requests).2.map Record.notices =
        Roster.empty.trace (requests.zip (((start clock).run requests).2.map Record.succeeded))) ∧
    ∀ (s : Session) (place : Place),
      (∀ p label, s.preference? place = some p →
        (s.ask place (.copy label)).1.preference? (.loose label) = some p) ∧
      ∀ what other, other ≠ place → (∀ label, what = .copy label → other ≠ .loose label) →
        (s.ask place what).1.preference? other = s.preference? other :=
  ⟨fun clock requests => ⟨length_run _ requests, notices_run (start clock) requests⟩,
    fun _ _ => ⟨fun _ label h => preference?_copy h label,
      fun _ _ h hcopy => preference?_ask_of_ne h hcopy⟩⟩

/-- A number past the maximum is set in vain. -/
def sampleRequests : List Request :=
  [.build "copies" ⟨⟨"General", "Copies", "a", ""⟩, .intRange 5 0 10 1⟩,
    .ask (.loose "copies") (.watch "printer"), .ask (.loose "copies") (.copy "spare"),
    .ask (.loose "spare") (.watch "archive"), .ask (.loose "copies") (.set (.ok (.int32 7))),
    .ask (.loose "spare") (.set (.ok (.int32 11))), .ask (.loose "spare") .reset]

theorem copy_gets_its_own_watcher :
    let s := ((start 0).run (sampleRequests.take 2)).1
    let t := (s.ask (.loose "copies") (.copy "spare")).1
    ((start 0).run sampleRequests).2.map Record.notices =
      [[], [], [], [], [⟨"printer", sampleCopies.id⟩], [], [⟨"archive", sampleCopies.id⟩]] ∧
    (s.preference? (.loose "copies") = some sampleCopies ∧
      t.preference? (.loose "spare") = some sampleCopies) ∧
    (t.ask (.loose "spare") (.watch "archive")).1.preference? (.loose "copies") =
      t.preference? (.loose "copies") := by
  intro s t
  obtain ⟨hrun, hcopies⟩ := sessions_give_the_notices_due
  have hcopy : s.preference? (.loose "copies") = some sampleCopies := rfl
  have hplaces : Place.loose "copies" ≠ .loose "spare" := by simp
  exact ⟨(hrun 0 sampleRequests).2, ⟨hcopy, (hcopies s _).1 _ "spare" hcopy⟩,
    (hcopies t _).2 _ _ hplaces fun _ h => nomatch h⟩

end Session

end Preferences
