import Preferences.Session

/-!
# What can become of preferences and registries

Whatever is asked of a preference and whatever it takes over from a store, its identity stays, and
its body is reached by setting and resetting it. Registries are reached by filing such preferences,
and hold each of them under its own page and name. The preferences and registries of a session are
reached in these ways.
-/

namespace Preferences

/-! ### Bodies -/

namespace Body

/-- Reached by sets and resets; a set may fail. -/
inductive Reaches (id : Identity) (start : Body) : Body → Prop
  | refl : Reaches id start start
  | set {body : Body} (h : Reaches id start body) (value : Value) :
      Reaches id start (body.set id value).state
  | reset {body : Body} (h : Reaches id start body) (tick : Int64) :
      Reaches id start (body.reset tick)

/-- What every set and every reset keeps of a body, holds of all that are reached from it. -/
theorem Reaches.keeps {P : Body → Prop} {id : Identity} {start body : Body}
    (h : Reaches id start body) (hstart : P start)
    (hset : ∀ b value, P b → P (b.set id value).state)
    (hreset : ∀ b tick, P b → P (b.reset tick)) : P body := by
  induction h with
  | refl => exact hstart
  | set _ value ih => exact hset _ value ih
  | reset _ tick ih => exact hreset _ tick ih

theorem Reaches.restore {id : Identity} {start body : Body} (h : Reaches id start body)
    (found : Stored) : Reaches id start (body.restore id found).state := by
  rw [restore_eq]
  cases body.decode? found with
  | none => exact h
  | some value => exact h.set value

end Body

/-! ### Preferences -/

namespace Preference

/-- Reached by asking the preference and by restoring it from stores. -/
inductive Reaches (start : Preference) : Preference → Prop
  | refl : Reaches start start
  | asked {p : Preference} (h : Reaches start p) (tick : Int64) (what : Ask) :
      Reaches start (Session.onPreference tick p what).state
  | restored {p : Preference} (h : Reaches start p) (store : Store) :
      Reaches start (p.restoreFrom store).state

theorem Reaches.trans {p q r : Preference} (hpq : p.Reaches q) (hqr : q.Reaches r) :
    p.Reaches r := by
  induction hqr with
  | refl => exact hpq
  | asked _ tick what ih => exact ih.asked tick what
  | restored _ store ih => exact ih.restored store

/-- Built from a blueprint, and reached from there. -/
def Reachable (p : Preference) : Prop :=
  ∃ blueprint tick start log, Blueprint.build blueprint tick = (.ok start, log) ∧ start.Reaches p

theorem Reachable.trans {p q : Preference} (h : p.Reachable) (hpq : p.Reaches q) :
    q.Reachable := by
  obtain ⟨blueprint, tick, start, log, hbuild, hreaches⟩ := h
  exact ⟨blueprint, tick, start, log, hbuild, hreaches.trans hpq⟩

theorem reachable_of_build {blueprint : Blueprint} {tick : Int64} {p : Preference}
    {log : List Event} (h : blueprint.build tick = (.ok p, log)) : p.Reachable :=
  ⟨blueprint, tick, p, log, h, .refl⟩

theorem set_state (p : Preference) (value : Value) :
    (p.set value).state = { p with body := (p.body.set p.id value).state } := by
  unfold set
  dsimp only
  split <;> rfl

theorem restoreValue_state (p : Preference) (found : Stored) :
    (p.restoreValue found).state = { p with body := (p.body.restore p.id found).state } := by
  unfold restoreValue
  dsimp only
  split <;> rfl

theorem select_eq (p : Preference) (selection : Calendar.Selection) :
    (p.select selection).1 = p ∨
      (p.select selection).1 = { p with body := (p.body.set p.id (.selection selection)).state } := by
  obtain ⟨id, binding, body, watcher⟩ := p
  cases body with
  | date d => exact .inr rfl
  | _ => exact .inl rfl

/-- One ask keeps the identity, and sets or resets the body, or leaves it alone. -/
theorem onPreference_cases (tick : Int64) (p : Preference) (what : Ask) :
    (Session.onPreference tick p what).state.id = p.id ∧
      ((Session.onPreference tick p what).state.body = p.body ∨
        (∃ value, (Session.onPreference tick p what).state.body =
          (p.body.set p.id value).state) ∨
        (Session.onPreference tick p what).state.body = p.body.reset tick) := by
  cases what with
  | set value =>
    cases value with
    | error e => exact ⟨rfl, .inl rfl⟩
    | ok value =>
      have hstate : (Session.onPreference tick p (.set (.ok value))).state = (p.set value).state :=
        rfl
      rw [hstate, set_state]
      exact ⟨rfl, .inr (.inl ⟨value, rfl⟩)⟩
  | setQuietly value => exact ⟨rfl, .inr (.inl ⟨value, rfl⟩)⟩
  | select selection =>
    cases selection with
    | error e =>
      unfold Session.onPreference
      dsimp only
      split <;> exact ⟨rfl, .inl rfl⟩
    | ok selection =>
      have hstate :
          (Session.onPreference tick p (.select (.ok selection))).state = (p.select selection).1 :=
        rfl
      rw [hstate]
      rcases select_eq p selection with h | h
      · rw [h]
        exact ⟨rfl, .inl rfl⟩
      · rw [h]
        exact ⟨rfl, .inr (.inl ⟨_, rfl⟩)⟩
  | reset => exact ⟨rfl, .inr (.inr rfl)⟩
  | _ => exact ⟨rfl, .inl rfl⟩

theorem restoreFrom_cases (p : Preference) (store : Store) :
    (p.restoreFrom store).state = p ∨
      ∃ found, (p.restoreFrom store).state =
        { p with body := (p.body.restore p.id found).state } := by
  unfold restoreFrom restore
  cases store.get? p.id.page p.id.name with
  | none => exact .inl rfl
  | some found => exact .inr ⟨found, restoreValue_state p found⟩

/-- The identity stays, and the body is reached by sets and resets. -/
theorem Reaches.body {start p : Preference} (h : start.Reaches p) :
    p.id = start.id ∧ Body.Reaches start.id start.body p.body := by
  induction h with
  | refl => exact ⟨rfl, .refl⟩
  | @asked p _ tick what ih =>
    obtain ⟨hid, hbody⟩ := ih
    obtain ⟨hid', hcases⟩ := onPreference_cases tick p what
    refine ⟨hid'.trans hid, ?_⟩
    rcases hcases with hsame | ⟨value, hset⟩ | hreset
    · rw [hsame]
      exact hbody
    · rw [hset, hid]
      exact hbody.set value
    · rw [hreset]
      exact hbody.reset tick
  | @restored p _ store ih =>
    obtain ⟨hid, hbody⟩ := ih
    rcases restoreFrom_cases p store with hsame | ⟨found, hfound⟩
    · rw [hsame]
      exact ⟨hid, hbody⟩
    · rw [hfound]
      refine ⟨hid, ?_⟩
      rw [hid]
      exact hbody.restore found

end Preference

/-! ### Registries -/

namespace Registry

/-- Reached from the empty registry. A filed preference may be replaced by what it can become. -/
inductive Reachable : Registry → Prop
  | empty : Reachable .empty
  | registered {r : Registry} {p : Preference} (h : Reachable r) (hp : p.Reachable) :
      Reachable (r.register p).state
  | unregistered {r : Registry} (h : Reachable r) (page name : String) :
      Reachable (r.unregister page name).1
  | changed {r : Registry} {page name : String} {p q : Preference} (h : Reachable r)
      (hget : r.get? page name = some p) (hpq : p.Reaches q) : Reachable (r.insert page name q)
  | reset {r : Registry} (h : Reachable r) (tick : Int64) : Reachable (r.resetAll tick).state
  | cleared {r : Registry} (h : Reachable r) : Reachable r.clearBindings
  | loaded {r : Registry} (h : Reachable r) (store : Store) : Reachable (r.loadAll store).state

/-- Every preference is filed under its own page and name, and was reached from a blueprint. -/
def Filed (r : Registry) : Prop :=
  ∀ page name p, r.get? page name = some p → p.id.page = page ∧ p.id.name = name ∧ p.Reachable

theorem filed_mapValues {r : Registry} {f : Preference → Preference} (h : r.Filed)
    (hf : ∀ p, Preference.Reaches p (f p)) : Filed (r.mapValues f) := by
  intro page name q hq
  rw [Book.get?_mapValues] at hq
  obtain ⟨p, hp, rfl⟩ := Option.map_eq_some_iff.1 hq
  obtain ⟨hpage, hname, hreachable⟩ := h page name p hp
  rw [(hf p).body.1]
  exact ⟨hpage, hname, hreachable.trans (hf p)⟩

theorem filed_register {r : Registry} {p : Preference} (h : r.Filed) (hp : p.Reachable) :
    Filed (r.register p).state := by
  unfold register
  dsimp only
  split
  · intro page name q hq
    rw [Outcome.state_failed, Book.get?_openPage] at hq
    exact h page name q hq
  · intro page name q hq
    rw [Book.insert_openPage, Book.get?_insert] at hq
    split at hq
    · rename_i hplace
      obtain ⟨hpage, hname⟩ := hplace
      cases hq
      exact ⟨hpage, hname, hp⟩
    · exact h page name q hq

theorem Reachable.filed {r : Registry} (h : r.Reachable) : r.Filed := by
  induction h with
  | empty =>
    intro page name p hp
    cases hp
  | registered _ hp ih => exact filed_register ih hp
  | @unregistered r _ page name ih =>
    intro page' name' p hp
    have hget : (r.erase page name).get? page' name' = some p := hp
    rw [Book.get?_erase] at hget
    split at hget
    · cases hget
    · exact ih page' name' p hget
  | @changed r page name p q _ hget hpq ih =>
    intro page' name' p' hp'
    rw [Book.get?_insert] at hp'
    split at hp'
    · rename_i hplace
      obtain ⟨rfl, rfl⟩ := hplace
      cases hp'
      obtain ⟨hpage, hname, hreachable⟩ := ih page name p hget
      rw [hpq.body.1]
      exact ⟨hpage, hname, hreachable.trans hpq⟩
    · exact ih page' name' p' hp'
  | reset _ tick ih =>
    rw [state_resetAll]
    exact filed_mapValues ih fun p => .asked .refl tick .reset
  | cleared _ ih => exact filed_mapValues ih fun p => .asked .refl 0 .clearBinding
  | loaded _ store ih =>
    rw [state_loadAll]
    exact filed_mapValues ih fun p => .restored .refl store

end Registry

/-! ### Sessions -/

namespace Session

/-- All that a session holds was reached. -/
structure Sound (s : Session) : Prop where
  loose : ∀ label p, s.loose.get? label = some p → p.Reachable
  registry : s.registry.Reachable
  kept : s.kept.Reachable

theorem start_sound (clock : Int64) : (start clock).Sound where
  loose := by
    intro label p hp
    cases hp
  registry := .empty
  kept := .empty

theorem Sound.preference {s : Session} (h : s.Sound) {place : Place} {p : Preference}
    (hp : s.preference? place = some p) : p.Reachable := by
  cases place with
  | loose label => exact h.loose label p hp
  | filed page name => exact (h.registry.filed page name p hp).2.2

theorem Sound.insertLoose {s : Session} (h : s.Sound) (label : String) {p : Preference}
    (hp : p.Reachable) : Sound { s with loose := s.loose.insert label p } := by
  refine ⟨?_, h.registry, h.kept⟩
  intro other q hq
  have hget : (s.loose.insert label p).get? other = some q := hq
  rw [Dict.get?_insert] at hget
  split at hget
  · cases hget
    exact hp
  · exact h.loose other q hget

theorem Sound.eraseLoose {s : Session} (h : s.Sound) (label : String) :
    Sound { s with loose := s.loose.erase label } := by
  refine ⟨?_, h.registry, h.kept⟩
  intro other q hq
  have hget : (s.loose.erase label).get? other = some q := hq
  rw [Dict.get?_erase] at hget
  split at hget
  · cases hget
  · exact h.loose other q hget

theorem Sound.withRegistry {s : Session} (h : s.Sound) {r : Registry} (hr : r.Reachable) :
    Sound { s with registry := r } := ⟨h.loose, hr, h.kept⟩

theorem Sound.of_eq {s t : Session} (h : s.Sound) (hloose : t.loose = s.loose)
    (hregistry : t.registry = s.registry) (hkept : t.kept = s.kept) : t.Sound := by
  refine ⟨?_, ?_, ?_⟩
  · rw [hloose]
    exact h.loose
  · rw [hregistry]
    exact h.registry
  · rw [hkept]
    exact h.kept

theorem Sound.putPreference {s : Session} (h : s.Sound) {place : Place} {p q : Preference}
    (hp : s.preference? place = some p) (hpq : p.Reaches q) : (s.putPreference place q).Sound := by
  cases place with
  | loose label => exact h.insertLoose label ((h.preference hp).trans hpq)
  | filed page name => exact h.withRegistry (h.registry.changed hp hpq)

theorem Sound.update {α : Type} {s : Session} (h : s.Sound) {page name : String}
    {f : Preference → Outcome Preference α} (hf : ∀ p : Preference, p.Reaches (f p).state) :
    Sound { s with registry := (s.registry.update page name f).state } := by
  refine h.withRegistry ?_
  unfold Registry.update
  cases hget : s.registry.get? page name with
  | none => exact h.registry
  | some p => exact h.registry.changed hget (hf p)

theorem Sound.ask {s : Session} (h : s.Sound) (place : Place) (what : Ask) :
    (s.ask place what).1.Sound := by
  unfold Session.ask
  cases hp : s.preference? place with
  | none =>
    dsimp only
    split <;> exact h
  | some p =>
    cases what with
    | get type => exact h
    | getDefault type => exact h
    | copy label => exact h.insertLoose label (h.preference hp)
    | save name => exact h.of_eq rfl rfl rfl
    | restore name => exact h.putPreference hp (.restored .refl _)
    | _ => exact h.putPreference hp (.asked .refl s.clock _)

theorem Sound.register {s : Session} (h : s.Sound) {p : Preference} (hp : p.Reachable)
    (log : List Event) : (s.register p log).1.Sound :=
  h.withRegistry (h.registry.registered hp)

theorem Sound.changeFolder {s : Session} (h : s.Sound) (changed : Except Error Folder) :
    (s.changeFolder changed).1.Sound := by
  cases changed with
  | ok folder => exact h.of_eq rfl rfl rfl
  | error e => exact h

theorem Sound.step {s : Session} (h : s.Sound) (request : Request) :
    (s.step request).1.Sound := by
  cases request with
  | ask place what => exact h.ask place what
  | build label blueprint =>
    unfold Session.step
    dsimp only
    split
    · rename_i p log hbuild
      exact h.insertLoose label (Preference.reachable_of_build hbuild)
    · exact h.eraseLoose label
  | registerNew blueprint =>
    unfold Session.step
    dsimp only
    split
    · rename_i p log hbuild
      exact h.register (Preference.reachable_of_build hbuild) log
    · exact h
  | registerLoose label =>
    unfold Session.step
    dsimp only
    cases hp : s.loose.get? label with
    | none => exact h
    | some p => exact (h.eraseLoose label).register (h.loose label p hp) []
  | unregister page name label =>
    unfold Session.step
    dsimp only
    have hregistry := h.registry.unregistered page name
    cases label with
    | none => exact h.withRegistry hregistry
    | some label =>
      cases hp : s.registry.get? page name with
      | none =>
        simp only [Registry.unregister_eq, hp]
        exact h.withRegistry hregistry
      | some p =>
        simp only [Registry.unregister_eq, hp]
        have hreachable := (h.registry.filed page name p hp).2.2
        exact (h.insertLoose label hreachable).withRegistry hregistry
  | getFiled page name type =>
    refine h.withRegistry ?_
    rw [Registry.state_value]
    exact h.registry
  | setFiled page name value =>
    cases value with
    | error e => exact h
    | ok value => exact h.update fun p => .asked .refl s.clock (.set (.ok value))
  | resetAll => exact h.withRegistry (h.registry.reset s.clock)
  | clearBindings => exact h.withRegistry h.registry.cleared
  | loadAll name => exact h.withRegistry (h.registry.loaded (s.store name))
  | keep => exact ⟨h.loose, h.registry, h.registry⟩
  | goBack => exact ⟨h.loose, h.kept, h.kept⟩
  | putFile path node => exact h.changeFolder _
  | makeDirectory path => exact h.changeFolder _
  | _ => exact h.of_eq rfl rfl rfl

/-- Everything in a session that was started and has taken requests was reached. -/
theorem Sound.run {s : Session} (h : s.Sound) (requests : List Request) :
    (s.run requests).1.Sound := by
  induction requests generalizing s with
  | nil => exact h
  | cons request rest ih => exact ih (h.step request)

end Session

end Preferences
