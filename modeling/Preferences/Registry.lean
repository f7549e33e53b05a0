import Preferences.Preference
import Preferences.Store

/-!
# Registries

A registry is a book of preferences, each filed under the page and name of its identity. All of
them can be reset, saved to a store, and restored from one. Saving stops at the first preference
that the store refuses; restoring goes on past failures, which do not affect one another.
-/

namespace Preferences

namespace Preference

/-! ### One preference and a store -/

/-- Stores the value of a preference, unless the store refuses to take it
(`OptionHandle::save_to_book`). -/
def save (p : Preference) (refuses : String → String → Bool) (store : Store) :
    Outcome Store Unit :=
  let o := store.write refuses p.id.page p.id.name p.body.encode
  { o with log := .saving p.id :: o.log }

/-- Takes over what a store holds for a preference (`OptionHandle::read_from_book`). -/
def restoreFrom (p : Preference) (store : Store) : Outcome Preference Unit :=
  p.restore (store.get? p.id.page p.id.name)

end Preference

/-- Preferences by page and name (`OptionDb`). -/
abbrev Registry := Book Preference

namespace Registry

/-! ### Single preferences -/

/-- Opens the page of a preference and files the preference there (`OptionDb::register`); its place
must be free. -/
def register (r : Registry) (p : Preference) : Outcome Registry Unit :=
  let opened := r.openPage p.id.page
  if opened.contains p.id.page p.id.name then .failed opened (.duplicate p.id.page p.id.name) []
  else ⟨opened.insert p.id.page p.id.name p, .ok (), [.registered p.id p.body.kind], []⟩

/-- Takes a preference out and answers it (`OptionDb::unregister`). -/
def unregister (r : Registry) (page name : String) : Registry × Option Preference :=
  r.remove page name

theorem unregister_eq (r : Registry) (page name : String) :
    r.unregister page name = (r.erase page name, r.get? page name) :=
  Prod.ext rfl (r.remove_snd page name)

/-- Changes the preference in a place (`OptionDb::find_mut`). -/
def update {α : Type} (r : Registry) (page name : String) (f : Preference → Outcome Preference α) :
    Outcome Registry α :=
  match r.get? page name with
  | none => .failed r (.notFound page name) []
  | some p => (f p).within fun p => r.insert page name p

/-- Reads the preference in a place (`OptionDb::value`). -/
def value (r : Registry) (tick : Int64) (page name : String) (type : ValueType) :
    Outcome Registry Value Fault :=
  match r.get? page name with
  | none => .failed r (.failed (.notFound page name)) []
  | some p => (p.get tick type).within fun _ => r

theorem state_value (r : Registry) (tick : Int64) (page name : String) (type : ValueType) :
    (r.value tick page name type).state = r := by
  unfold value
  cases r.get? page name <;> rfl

theorem notices_value (r : Registry) (tick : Int64) (page name : String) (type : ValueType) :
    (r.value tick page name type).notices = [] := by
  unfold value
  cases r.get? page name <;> rfl

/-- Sets the preference in a place (`OptionDb::set_value`). -/
def set (r : Registry) (page name : String) (value : Value) : Outcome Registry Unit :=
  r.update page name fun p => p.set value

/-! ### Layout -/

/-- Whether one preference is laid out before another, or in the same place. -/
def precedes (p q : Preference) : Bool :=
  decide (p.id.sortTag < q.id.sortTag) ||
    (p.id.sortTag == q.id.sortTag && decide (p.id.name ≤ q.id.name))

/-- The preferences of a page by sort tag, and by name where tags are equal
(`OptionDb::section_options`). -/
def layout (r : Registry) (page : String) : List Preference :=
  ((r.pages.get? page).getD .empty).values.mergeSort precedes

/-! ### All preferences -/

/-- Resets preferences in order (`OptionDb::reset_defaults`); the notices add up. -/
def resetAll (r : Registry) (tick : Int64) : Outcome Registry Unit :=
  let (notices, r) := r.sweep (fun notices p =>
    let o := p.reset tick
    (notices ++ o.notices, o.state)) []
  ⟨r, .ok (), [], notices⟩

def clearBindings (r : Registry) : Registry := r.mapValues Preference.clearBinding

/-- Saves preferences in order, up to the first that is refused. -/
def saveEach (refuses : String → String → Bool) : List Preference → Store → Outcome Store Unit
  | [], store => .done store ()
  | p :: rest, store =>
    let first := p.save refuses store
    match first.result with
    | .error _ => first
    | .ok _ =>
      let others := saveEach refuses rest first.state
      { others with log := first.log ++ others.log }

/-- Saves every preference (`OptionDb::save_to_book`). -/
def saveAll (r : Registry) (refuses : String → String → Bool) (store : Store) :
    Outcome Store Unit :=
  let o := saveEach refuses r.values store
  if o.isOk then { o with log := o.log ++ [.allSaved r.size] } else o

/-- How far a restoration of many preferences has come. -/
structure Progress where
  failures : Nat
  log : List Event

def loadOne (store : Store) (progress : Progress) (p : Preference) : Progress × Preference :=
  let o := p.restoreFrom store
  match o.result with
  | .ok _ => (⟨progress.failures, progress.log ++ o.log⟩, o.state)
  | .error e => (⟨progress.failures + 1, progress.log ++ o.log ++ [.notRestored p.id e]⟩, o.state)

/-- Restores every preference (`OptionDb::load_from_book`); the result is the number of those that
could not be. -/
def loadAll (r : Registry) (store : Store) : Outcome Registry Nat :=
  let (progress, r) := r.sweep (loadOne store) ⟨0, []⟩
  ⟨r, .ok progress.failures, progress.log ++ [.allLoaded progress.failures], []⟩

/-! ### What resetting and restoring leave -/

theorem state_resetAll (r : Registry) (tick : Int64) :
    (r.resetAll tick).state = r.mapValues fun p => (p.reset tick).state :=
  Book.sweep_snd (fun (notices : List Notice) (p : Preference) =>
    (notices ++ (p.reset tick).notices, (p.reset tick).state)) (fun _ _ => rfl) [] r

theorem loadOne_snd (store : Store) (progress : Progress) (p : Preference) :
    (loadOne store progress p).2 = (p.restoreFrom store).state := by
  unfold loadOne
  dsimp only
  split <;> rfl

theorem state_loadAll (r : Registry) (store : Store) :
    (r.loadAll store).state = r.mapValues fun p => (p.restoreFrom store).state :=
  Book.sweep_snd _ (loadOne_snd store) _ r

/-- The preference with its error, if it cannot be restored from a store. -/
def failure? (store : Store) (p : Preference) : Option (Preference × Error) :=
  match (p.restoreFrom store).result with
  | .ok _ => none
  | .error e => some (p, e)

theorem failure?_eq_some_iff {store : Store} {p q : Preference} {e : Error} :
    failure? store p = some (q, e) ↔ p = q ∧ (p.restoreFrom store).result = .error e := by
  unfold failure?
  cases (p.restoreFrom store).result <;> simp

/-- The report of a failure. -/
def warning (failure : Preference × Error) : Event := .notRestored failure.1.id failure.2

/-- The preferences that cannot be restored, in order. -/
def failures (store : Store) (ps : List Preference) : List (Preference × Error) :=
  ps.filterMap (failure? store)

/-- All that is logged for one preference. -/
def reports (store : Store) (p : Preference) : List Event :=
  (p.restoreFrom store).log ++ (failure? store p).toList.map warning

theorem loadOne_fst (store : Store) (progress : Progress) (p : Preference) :
    (loadOne store progress p).1 =
      ⟨progress.failures + (failure? store p).toList.length,
        progress.log ++ reports store p⟩ := by
  unfold loadOne reports failure?
  cases h : (p.restoreFrom store).result with
  | ok _ => simp [h]
  | error e => simp [h, warning]

theorem failures_cons (store : Store) (p : Preference) (rest : List Preference) :
    failures store (p :: rest) = (failure? store p).toList ++ failures store rest := by
  unfold failures
  rw [List.filterMap_cons]
  cases failure? store p <;> rfl

theorem foldl_loadOne (store : Store) (ps : List Preference) (progress : Progress) :
    ps.foldl (fun progress p => (loadOne store progress p).1) progress =
      ⟨progress.failures + (failures store ps).length,
        progress.log ++ ps.flatMap (reports store)⟩ := by
  induction ps generalizing progress with
  | nil => simp [failures]
  | cons p rest ih =>
    rw [List.foldl_cons, ih, loadOne_fst, failures_cons, List.length_append, Nat.add_assoc,
      List.flatMap_cons, List.append_assoc]

theorem loadAll_eq (r : Registry) (store : Store) :
    r.loadAll store =
      ⟨r.mapValues fun p => (p.restoreFrom store).state, .ok (failures store r.values).length,
        r.values.flatMap (reports store) ++ [.allLoaded (failures store r.values).length], []⟩ := by
  have hfst : (r.sweep (loadOne store) ⟨0, []⟩).1 =
      ⟨(failures store r.values).length, r.values.flatMap (reports store)⟩ := by
    rw [Book.sweep_fst, foldl_loadOne, Nat.zero_add, List.nil_append]
  rw [← state_loadAll]
  unfold loadAll
  dsimp only
  rw [hfst]

theorem mem_failures_iff {store : Store} {ps : List Preference} {p : Preference} {e : Error} :
    (p, e) ∈ failures store ps ↔ p ∈ ps ∧ (p.restoreFrom store).result = .error e := by
  unfold failures
  simp only [List.mem_filterMap, failure?_eq_some_iff]
  constructor
  · rintro ⟨p, hp, rfl, he⟩
    exact ⟨hp, he⟩
  · rintro ⟨hp, he⟩
    exact ⟨p, hp, rfl, he⟩

/-- If every preference can be restored there are no failures. -/
theorem result_loadAll_of_forall {r : Registry} {store : Store}
    (h : ∀ p ∈ r.values, (p.restoreFrom store).isOk = true) : (r.loadAll store).result = .ok 0 := by
  have hnone : failures store r.values = [] := by
    refine List.eq_nil_iff_forall_not_mem.2 ?_
    rintro ⟨p, e⟩ hfailure
    obtain ⟨hp, he⟩ := mem_failures_iff.1 hfailure
    have hok := h p hp
    unfold Outcome.isOk at hok
    rw [he] at hok
    cases hok
  rw [loadAll_eq, hnone]
  rfl

end Registry

end Preferences
