import Preferences.Proofs.Notices

/-!
# Restoring all preferences

Loading a registry takes each preference, in order of page and name, through its own restoration.
What becomes of one does not depend on the others, nor on whether they fail. Failures are counted
and reported one by one, and their number is reported last.
-/

namespace Preferences

/-! ### What setting and restoring log -/

/-- Setting logs nothing, or one event about the preference that a value was refused for. -/
theorem Body.log_set (body : Body) (id : Identity) (value : Value) :
    (body.set id value).log = [] ∨ ∃ event, (body.set id value).log = [event] ∧
      event.subject? = some id ∧ event.level = .debug ∧ event.target = "options::value" := by
  rcases body.set_cases id value with hdecides | hmismatch
  · generalize body.set id value = o at hdecides
    cases hdecides with
    | taken after => exact .inl rfl
    | refused hrefusal =>
      refine .inr ⟨_, rfl, ?_⟩
      cases hrefusal <;> exact ⟨rfl, rfl, rfl⟩
  · rw [hmismatch]
    exact .inl rfl

theorem Body.log_restore (body : Body) (id : Identity) (found : Stored) :
    ∀ event ∈ (body.restore id found).log, event.target = "options::value" := by
  rw [restore_eq]
  cases body.decode? found with
  | none => exact nofun
  | some value =>
    rcases body.log_set id value with h | ⟨event, h, -, -, htarget⟩
    · rw [h]
      exact nofun
    · rw [h]
      exact List.forall_mem_singleton.2 htarget

namespace Preference

/-- Restoring one preference logs nothing on behalf of the registry. -/
theorem log_restoreFrom (p : Preference) (store : Store) :
    ∀ event ∈ (p.restoreFrom store).log, event.target ≠ "options::db" := by
  have hstore : "options::store" ≠ "options::db" := by decide
  unfold restoreFrom restore
  cases store.get? p.id.page p.id.name with
  | none => exact List.forall_mem_singleton.2 hstore
  | some found =>
    have hbody : ∀ event ∈ (p.body.restore p.id found).log, event.target ≠ "options::db" := by
      intro event hevent
      rw [p.body.log_restore p.id found event hevent]
      decide
    unfold restoreValue
    dsimp only
    split
    · exact List.forall_mem_append.2 ⟨hbody, List.forall_mem_singleton.2 hstore⟩
    · exact hbody

end Preference

namespace Registry

/-- Of what is logged for preferences one by one, the registry has its say about failures only. -/
theorem filter_reports (store : Store) (ps : List Preference) :
    (ps.flatMap (reports store)).filter (fun event => event.target = "options::db") =
      (failures store ps).map warning := by
  induction ps with
  | nil => rfl
  | cons p rest ih =>
    have hown : (p.restoreFrom store).log.filter (fun event => event.target = "options::db") = [] :=
      List.filter_eq_nil_iff.2 fun event hevent => by
        simpa using p.log_restoreFrom store event hevent
    have hwarnings : ((failure? store p).toList.map warning).filter
        (fun event => event.target = "options::db") = (failure? store p).toList.map warning := by
      cases failure? store p <;> rfl
    rw [List.flatMap_cons, List.filter_append, ih, failures_cons, List.map_append, reports,
      List.filter_append, hown, hwarnings, List.nil_append]

theorem failures_pairwise {R : Preference → Preference → Prop} (store : Store)
    {ps : List Preference} (h : ps.Pairwise R) :
    (failures store ps).Pairwise fun x y => R x.1 y.1 := by
  refine h.filterMap _ ?_
  rintro p q hpq ⟨p', e⟩ hp ⟨q', e'⟩ hq
  obtain ⟨rfl, -⟩ := failure?_eq_some_iff.1 hp
  obtain ⟨rfl, -⟩ := failure?_eq_some_iff.1 hq
  exact hpq

end Registry

/-- Loading the registry of a session takes each preference through its own restoration, and nothing
else in the session changes. Those that fail are counted, and reported in order of page and name;
then their number is reported. No watcher is told of anything. -/
theorem Session.loading_restores_each_preference (rest : Session)
    (changes : List Registry.Change) (name : String) :
    let s : Session := { rest with registry := Registry.run .empty changes }
    let store := s.store name
    let later := (s.step (.loadAll name)).1
    let record := (s.step (.loadAll name)).2
    (later = { s with registry := later.registry } ∧
      later.registry.pageNames = s.registry.pageNames ∧
      ∀ page name, later.registry.get? page name =
        (s.registry.get? page name).map fun p => (p.restoreFrom store).state) ∧
    (record.notices = [] ∧ ∀ p ∈ s.registry.values, (p.restoreFrom store).notices = []) ∧
    ∃ failing : List (Preference × Error),
      (∀ p e, (p, e) ∈ failing ↔
        s.registry.get? p.id.page p.id.name = some p ∧ (p.restoreFrom store).result = .error e) ∧
      (failing.Pairwise fun x y => x.1.id.page < y.1.id.page ∨
        x.1.id.page = y.1.id.page ∧ x.1.id.name < y.1.id.name) ∧
      record.result = .ok (.count failing.length) ∧
      (record.log.filter fun event => event.target = "options::db").map
          (fun event => (event.level.name, event.fields)) =
        (failing.map fun failure => ("WARN", [("section", failure.1.id.page),
          ("name", failure.1.id.name), ("error", failure.2.message),
          ("message", "option not restored")])) ++
        [("DEBUG", [("failures", toString failing.length), ("message", "options loaded")])] := by
  intro s store later record
  have hordered : s.registry.Orderly := Registry.orderly_empty.run changes
  have hload := s.registry.loadAll_eq store
  have hregistry : later.registry = s.registry.mapValues fun p => (p.restoreFrom store).state :=
    congrArg Outcome.state hload
  have hlog : record.log = s.registry.values.flatMap (Registry.reports store) ++
      [.allLoaded (Registry.failures store s.registry.values).length] :=
    congrArg Outcome.log hload
  -- In an orderly registry the place of a preference is its identity, so the order of the listing is
  -- that of pages and names.
  refine ⟨⟨rfl, ?_, ?_⟩, ⟨rfl, fun p _ => p.notices_restoreFrom store⟩,
    Registry.failures store s.registry.values, ?_,
    Registry.failures_pairwise store hordered.values_pairwise, ?_, ?_⟩
  · rw [hregistry, Book.pageNames_mapValues]
  · intro page name
    rw [hregistry, Book.get?_mapValues]
  · intro p e
    rw [Registry.mem_failures_iff, hordered.mem_values_iff]
  · show ((s.registry.loadAll store).result.map Answer.count).mapError Failure.failed = _
    rw [hload]
    rfl
  · rw [hlog, List.filter_append, Registry.filter_reports, List.map_append, List.map_map]
    rfl

end Preferences
