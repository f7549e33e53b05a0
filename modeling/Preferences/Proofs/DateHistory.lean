import Preferences.Proofs.Bindings
import Preferences.Proofs.Calendar.Selections
import Preferences.Proofs.TypedAccess

/-!
# Dates against a moving clock

A date means the selection that was last set or restored, or the time at which it was last reset or
built, and nothing of what was selected before shows through. It is resolved by its service whenever
it is read, and so only relative dates move with the clock; the default is the present time
throughout.
-/

namespace Preferences

open Calendar

/-! ### Dates -/

namespace DateChoice

/-- What can happen to a date. Nothing need be found in a store, and what is found need not be a
selection. -/
inductive Step where
  | set (time : Int64)
  | select (selection : Selection)
  | reset
  | restore (found : Option Stored)

/-- The fields that a selection determines agree with each other. -/
def Settled (d : DateChoice) : Prop := d.mode = .absolute → d.period = .today

theorem select_settled {d : DateChoice} (selection : Selection) : (d.select selection).Settled := by
  cases selection with
  | absolute time => exact fun _ => rfl
  | starting period => exact nofun
  | ending period => exact nofun

/-- The selection that a step makes at a tick, if it makes any. -/
def Step.chosen? (service : TimeService) (tick : Int64) : Step → Option Selection
  | .set time => some (.absolute time)
  | .select selection => some selection
  | .reset => some (.absolute (service.now tick))
  | .restore found => found.bind Selection.decode?

theorem Step.chosen?_restore {service : TimeService} {tick : Int64} {found : Option Stored}
    {selection : Selection} :
    (Step.restore found).chosen? service tick = some selection ↔
      found = some selection.encode := by
  show found.bind Selection.decode? = some selection ↔ _
  simp only [Option.bind_eq_some_iff, Selection.decode?_eq_some_iff, exists_eq_right]

def apply (d : DateChoice) (tick : Int64) : Step → DateChoice
  | .set time => d.set time
  | .select selection => d.select selection
  | .reset => d.reset tick
  | .restore found =>
    match found.bind Selection.decode? with
    | some selection => d.select selection
    | none => d

def run (d : DateChoice) (history : List (Int64 × Step)) : DateChoice :=
  history.foldl (fun d event => d.apply event.1 event.2) d

def chosen (service : TimeService) (history : List (Int64 × Step)) : List Selection :=
  history.filterMap fun event => event.2.chosen? service event.1

theorem apply_eq (d : DateChoice) (tick : Int64) (step : Step) :
    d.apply tick step = match step.chosen? d.service tick with
      | some selection => d.select selection
      | none => d := by
  cases step <;> rfl

theorem chosen_cons (service : TimeService) (event : Int64 × Step) (rest : List (Int64 × Step)) :
    chosen service (event :: rest) =
      (event.2.chosen? service event.1).toList ++ chosen service rest := by
  unfold chosen
  rw [List.filterMap_cons]
  cases event.2.chosen? service event.1 <;> rfl

theorem run_eq (d : DateChoice) (history : List (Int64 × Step)) :
    d.run history = (chosen d.service history).foldl select d := by
  induction history generalizing d with
  | nil => rfl
  | cons event rest ih =>
    have hstep : d.run (event :: rest) = (d.apply event.1 event.2).run rest := rfl
    rw [hstep, ih, apply_eq, chosen_cons]
    cases event.2.chosen? d.service event.1 with
    | none => rfl
    | some selection =>
      dsimp only
      rw [service_select]
      rfl

theorem run_settled {d : DateChoice} (h : d.Settled) (history : List (Int64 × Step)) :
    (d.run history).Settled := by
  rw [run_eq]
  generalize chosen d.service history = selections
  induction selections generalizing d with
  | nil => exact h
  | cons selection rest ih => exact ih (select_settled selection)

theorem service_run (d : DateChoice) (history : List (Int64 × Step)) :
    (d.run history).service = d.service := by
  rw [run_eq]
  generalize chosen d.service history = selections
  induction selections generalizing d with
  | nil => rfl
  | cons selection rest ih => exact (ih _).trans (service_select d selection)

/-- The last selection that was made is the one that there is. -/
theorem selection_run (d : DateChoice) (history : List (Int64 × Step)) :
    (d.run history).selection = (chosen d.service history).getLast?.getD d.selection := by
  rw [run_eq]
  generalize chosen d.service history = selections
  induction selections generalizing d with
  | nil => rfl
  | cons selection rest ih =>
    -- The selection that is made first is what counts if none is made after it.
    rw [List.foldl_cons, ih, selection_select, List.getLast?_cons]
    rfl

end DateChoice

/-! ### Preferences -/

/-- What a deed does to the date in a preference, if anything. Restoring asks no clock. -/
def Deed.dateStep? (id : Identity) : Deed → Option (Int64 × DateChoice.Step)
  | .ask tick (.set (.ok (.int64 time))) | .ask tick (.setQuietly (.int64 time)) =>
    some (tick, .set time)
  | .ask tick (.set (.ok (.selection selection))) | .ask tick (.setQuietly (.selection selection))
  | .ask tick (.select (.ok selection)) => some (tick, .select selection)
  | .ask tick .reset => some (tick, .reset)
  | .restore store => some (0, .restore (store.get? id.page id.name))
  | _ => none

namespace Preference

theorem id_undergo (p : Preference) (deed : Deed) : (p.undergo deed).state.id = p.id := by
  cases deed with
  | ask tick what => exact (onPreference_cases tick p what).1
  | restore store =>
    show (p.restoreFrom store).state.id = p.id
    rcases p.restoreFrom_cases store with hsame | ⟨found, hfound⟩
    · rw [hsame]
    · rw [hfound]

theorem restoreFrom_date {p : Preference} {d : DateChoice} (h : p.body = .date d)
    (store : Store) : (p.restoreFrom store).state.body =
      .date (d.apply 0 (.restore (store.get? p.id.page p.id.name))) := by
  unfold restoreFrom
  cases store.get? p.id.page p.id.name with
  | none => exact h
  | some found =>
    have hstate := p.restoreValue_state found
    show (p.restoreValue found).state.body = _
    rw [hstate, h]
    show ((Body.date d).restore p.id found).state = _
    unfold Body.restore Body.settle DateChoice.apply
    dsimp only [Option.bind_some]
    cases Selection.decode? found <;> rfl

theorem undergo_date {p : Preference} {d : DateChoice} (h : p.body = .date d)
    (deed : Deed) : (p.undergo deed).state.body = .date (d.run (deed.dateStep? p.id).toList) := by
  obtain ⟨id, binding, body, watcher⟩ := p
  cases h
  cases deed with
  | restore store => exact restoreFrom_date rfl store
  | ask tick what =>
    cases what with
    | set value =>
      cases value with
      | error e => rfl
      | ok value => cases value <;> rfl
    | setQuietly value => cases value <;> rfl
    | select selection => cases selection <;> rfl
    | _ => rfl

theorem isOk_restoreValue (p : Preference) (found : Stored) :
    (p.restoreValue found).isOk = (p.body.restore p.id found).isOk := by
  unfold restoreValue
  dsimp only
  split <;> rfl

theorem restoreFrom_date_fails_iff {p : Preference} {d : DateChoice}
    (h : p.body = .date d) (store : Store) :
    (p.restoreFrom store).isOk = false ↔
      ∃ found, store.get? p.id.page p.id.name = some found ∧
        ∀ selection : Selection, found ≠ selection.encode := by
  unfold restoreFrom
  cases store.get? p.id.page p.id.name with
  | none => exact iff_of_false nofun nofun
  | some found =>
    have hread : (∀ selection : Selection, found ≠ selection.encode) ↔
        Selection.decode? found = none := by
      simp only [Option.eq_none_iff_forall_ne_some, ne_eq, Selection.decode?_eq_some_iff]
    simp only [Option.some.injEq, exists_eq_left', hread]
    show (p.restoreValue found).isOk = false ↔ _
    rw [isOk_restoreValue, h]
    unfold Body.restore Body.settle
    cases Selection.decode? found with
    | none => exact iff_of_true rfl rfl
    | some selection => exact iff_of_false nofun nofun

def after (p : Preference) (deeds : List Deed) : Preference :=
  deeds.foldl (fun p deed => (p.undergo deed).state) p

theorem id_after (p : Preference) (deeds : List Deed) : (p.after deeds).id = p.id := by
  induction deeds generalizing p with
  | nil => rfl
  | cons deed rest ih => exact (ih _).trans (p.id_undergo deed)

theorem after_date {p : Preference} {d : DateChoice} (h : p.body = .date d)
    (deeds : List Deed) :
    (p.after deeds).body = .date (d.run (deeds.filterMap (Deed.dateStep? p.id))) := by
  induction deeds generalizing p d with
  | nil => exact h
  | cons deed rest ih =>
    have hstep : p.after (deed :: rest) = (p.undergo deed).state.after rest := rfl
    rw [hstep, ih (undergo_date h deed), id_undergo, List.filterMap_cons]
    cases deed.dateStep? p.id <;> rfl

end Preference

/-- The state of a date, after whatever happened to it at whatever times and whatever its service:
its selection is the last one that was set or restored, or the time of its last reset or of its
construction; its period is `today` while it is a fixed time; it is read as the fixed time, or as
the start or the end that the service answers for the period when it is read, and is not read if
the service aborts then; and its default is the present time. -/
theorem dates_mean_what_was_last_selected :
    (∀ (service : TimeService) (built : Int64) (history : List (Int64 × DateChoice.Step)),
      let d := (DateChoice.build service built).run history
      d.selection = (DateChoice.chosen service history).getLast?.getD
        (.absolute (service.now built)) ∧
      (d.mode = .absolute → d.period = .today) ∧
      ∀ now, (∀ time, d.selection = .absolute time → d.value now = some time) ∧
        (∀ period, d.selection = .starting period →
          d.value now = service.periodStart now period) ∧
        (∀ period, d.selection = .ending period → d.value now = service.periodEnd now period) ∧
        d.defaultValue now = service.now now) ∧
    (∀ (d : DateChoice) (tick : Int64) (found : Option Stored),
      (∀ selection, (DateChoice.Step.restore found).chosen? d.service tick = some selection ↔
        found = some selection.encode) ∧
      ((DateChoice.Step.restore found).chosen? d.service tick = none →
        d.apply tick (.restore found) = d)) ∧
    ∀ (id : Identity) (service : TimeService) (built : Int64) (deeds : List Deed),
      let start := Preference.ofBody id .date (.date (.build service built))
      let selection := (DateChoice.chosen service (deeds.filterMap (Deed.dateStep? id))).getLast?.getD
        (.absolute (service.now built))
      let p := start.after deeds
      Blueprint.build ⟨id, .date (.ok service)⟩ built = (.ok start, []) ∧
      (∃ d, p.body = .date d ∧ (d.mode = .absolute → d.period = .today)) ∧
      (∀ now, (p.get now .selection).result = .ok (.selection selection) ∧
        (∀ time, selection = .absolute time → (p.get now .int64).result = .ok (.int64 time)) ∧
        (∀ period, selection = .starting period →
          (p.get now .int64).result = Body.told (service.periodStart now period)) ∧
        (∀ period, selection = .ending period →
          (p.get now .int64).result = Body.told (service.periodEnd now period)) ∧
        (p.getDefault now .int64).result = .ok (.int64 (service.now now))) ∧
      ∀ store : Store, (p.restoreFrom store).isOk = false ↔
        ∃ found, store.get? id.page id.name = some found ∧
          ∀ selection : Selection, found ≠ selection.encode := by
  refine ⟨?_, ?_, ?_⟩
  · intro service built history d
    have hservice : d.service = service := DateChoice.service_run _ history
    have hvalue : ∀ now selection, d.selection = selection →
        d.value now = service.resolve now selection := by
      rintro now selection rfl
      rw [← hservice]
      rfl
    refine ⟨DateChoice.selection_run _ history, DateChoice.run_settled (fun _ => rfl) history,
      fun now => ⟨fun time => hvalue now (.absolute time),
        fun period => hvalue now (.starting period), fun period => hvalue now (.ending period), ?_⟩⟩
    rw [← hservice]
    rfl
  · intro d tick found
    refine ⟨fun selection => DateChoice.Step.chosen?_restore, fun h => ?_⟩
    rw [d.apply_eq, h]
  · intro id service built deeds start selection p
    obtain ⟨d, hd⟩ : ∃ d, d = (DateChoice.build service built).run
      (deeds.filterMap (Deed.dateStep? id)) := ⟨_, rfl⟩
    have hbody : p.body = .date d := hd ▸ Preference.after_date rfl deeds
    have hservice : d.service = service := hd ▸ DateChoice.service_run _ _
    have hselection : d.selection = selection := hd ▸ DateChoice.selection_run _ _
    have hid : p.id = id := start.id_after deeds
    refine ⟨rfl, ⟨d, hbody, hd ▸ DateChoice.run_settled (fun _ => rfl) _⟩, fun now => ?_, ?_⟩
    · have hread : ∀ chosen, selection = chosen →
          (p.get now .int64).result = Body.told (service.resolve now chosen) := by
        rintro chosen rfl
        rw [Preference.get_date hbody, hservice, hselection]
      refine ⟨?_, fun time => hread (.absolute time), fun period => hread (.starting period),
        fun period => hread (.ending period), ?_⟩
      · show p.body.get now .selection = _
        rw [hbody, ← hselection]
        rfl
      · show p.body.getDefault now .int64 = _
        rw [hbody, ← hservice]
        rfl
    · intro store
      rw [Preference.restoreFrom_date_fails_iff hbody, hid]

/-- What is found is no selection, and so the date is still the time at which it was reset. -/
example (service : TimeService) (h : service.now 7 = 7) :
    let d := DateChoice.build service 3
    d.run [(5, .select (.ending .previousYear)), (7, .reset), (9, .restore (some .null))] =
      d.set 7 := by
  intro d
  show d.set (service.now 7) = _
  rw [h]

end Preferences
