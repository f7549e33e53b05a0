import Preferences.Proofs.Json.Stores
import Preferences.Proofs.Parts
import Preferences.Proofs.TomlRoundTrip

/-!
# There and back through JSON

A store that is saved as a JSON document and loaded again has the same pages and names. Its values
are the same in every part, but that what is no finite number has become nothing, and that a finite
number is what its text is read as. So integers and floating-point numbers are never taken for one
another, and where every number is read back as itself, nothing else is lost.
-/

namespace Preferences

/-! ### Values -/

/-- The text of the first number is read as the second. -/
def Json.ReadAs (x y : Binary64) : Prop := parse? (print (.float x)) = some (.float y)

theorem Json.readAs_iff {x y : Binary64} : ReadAs x y ↔ rereadFloat? x = some (.float y) := by
  unfold ReadAs
  rw [parse?_print, reread?]

namespace Stored

/-- The second value is the first with numbers that stand in a relation to its finite numbers, and
with nothing in place of those that are not finite. -/
inductive Rereads (R : Binary64 → Binary64 → Prop) : Stored → Stored → Prop
  | null : Rereads R .null .null
  | flag (value : Bool) : Rereads R (.flag value) (.flag value)
  | integer (value : Int64) : Rereads R (.integer value) (.integer value)
  | text (value : String) : Rereads R (.text value) (.text value)
  | finite {x y : Binary64} (hx : x.isFinite = true) (hxy : R x y) :
      Rereads R (.float x) (.float y)
  | infinite {x : Binary64} (hx : x.isFinite = false) : Rereads R (.float x) .null
  | list {items others : List Stored} (h : List.Forall₂ (Rereads R) items others) :
      Rereads R (.list items) (.list others)

section

variable {R S : Binary64 → Binary64 → Prop}

theorem rereads_float_iff {x : Binary64} {later : Stored} :
    Rereads R (.float x) later ↔
      (x.isFinite = true ∧ ∃ y, later = .float y ∧ R x y) ∨ x.isFinite = false ∧ later = .null := by
  constructor
  · intro h
    cases h with
    | finite hx hxy => exact .inl ⟨hx, _, rfl, hxy⟩
    | infinite hx => exact .inr ⟨hx, rfl⟩
  · rintro (⟨hx, y, rfl, hxy⟩ | ⟨hx, rfl⟩)
    · exact .finite hx hxy
    · exact .infinite hx

theorem rereads_list_iff {items : List Stored} {later : Stored} :
    Rereads R (.list items) later ↔
      ∃ others, later = .list others ∧ List.Forall₂ (Rereads R) items others := by
  constructor
  · intro h
    cases h with
    | list h => exact ⟨_, rfl, h⟩
  · rintro ⟨others, rfl, h⟩
    exact .list h

/-- Where each finite number in a value stands in the relation to some number, there is a value
that it is read as. -/
theorem exists_rereads {value : Stored}
    (h : ∀ path x, value.part? path = some (.float x) → x.isFinite = true → ∃ y, R x y) :
    ∃ later, Rereads R value later := by
  induction value using forall_of_parts with
  | null => exact ⟨_, .null⟩
  | flag b => exact ⟨_, .flag b⟩
  | integer n => exact ⟨_, .integer n⟩
  | text s => exact ⟨_, .text s⟩
  | float x =>
    cases hx : x.isFinite with
    | true =>
      obtain ⟨y, hy⟩ := h [] x rfl hx
      exact ⟨_, .finite hx hy⟩
    | false => exact ⟨_, .infinite hx⟩
  | list items ih =>
    have hitems : ∀ item ∈ items, ∃ later, Rereads R item later := by
      intro item hitem
      obtain ⟨place, hplace⟩ := List.mem_iff_getElem?.1 hitem
      refine ih item hitem fun path x hpath => h (place :: path) x ?_
      rw [part?_list, hplace]
      exact hpath
    obtain ⟨others, hothers⟩ := exists_forall₂_iff.2 hitems
    exact ⟨_, .list hothers⟩

theorem Rereads.imp {value later : Stored} (h : Rereads R value later)
    (hRS : ∀ x y, R x y → S x y) : Rereads S value later := by
  induction value using forall_of_parts generalizing later with
  | null => cases h; exact .null
  | flag b => cases h; exact .flag b
  | integer n => cases h; exact .integer n
  | text s => cases h; exact .text s
  | float x =>
    rcases rereads_float_iff.1 h with ⟨hx, y, rfl, hxy⟩ | ⟨hx, rfl⟩
    · exact .finite hx (hRS x y hxy)
    · exact .infinite hx
  | list items ih =>
    obtain ⟨others, rfl, hothers⟩ := rereads_list_iff.1 h
    refine .list ?_
    rw [List.forall₂_iff_get] at hothers ⊢
    exact ⟨hothers.1, fun i hi ho => ih _ (List.get_mem _ _) (hothers.2 i hi ho)⟩

/-- What holds of a value and of what it is read as holds of the parts, and there are no others. -/
theorem Rereads.part? {value later : Stored} (h : Rereads R value later) (path : List Nat) :
    Option.Rel (Rereads R) (value.part? path) (later.part? path) := by
  induction path generalizing value later with
  | nil => exact .some h
  | cons place rest ih =>
    cases h with
    | list h =>
      rw [part?_list, part?_list]
      exact rel_bind (rel_getElem?_of_forall₂ h place) fun _ _ hitem => ih hitem
    | _ => exact .none

theorem Rereads.part?_integer_iff {value later : Stored} (h : Rereads R value later)
    (path : List Nat) (n : Int64) :
    later.part? path = some (.integer n) ↔ value.part? path = some (.integer n) := by
  have hpart := h.part? path
  generalize value.part? path = a at hpart ⊢
  generalize later.part? path = b at hpart ⊢
  cases hpart with
  | none => exact Iff.rfl
  | some hab => cases hab <;> simp

theorem Rereads.part?_float_iff {value later : Stored} (h : Rereads R value later)
    (path : List Nat) : (∃ y, later.part? path = some (.float y)) ↔
      ∃ x, value.part? path = some (.float x) ∧ x.isFinite = true := by
  have hpart := h.part? path
  generalize value.part? path = a at hpart ⊢
  generalize later.part? path = b at hpart ⊢
  cases hpart with
  | none => simp
  | some hab => cases hab <;> simp [*]

end

/-! ### What is read -/

theorem toJsonItems_eq_map (items : List Stored) : toJsonItems items = items.map toJson := by
  induction items with
  | nil => rfl
  | cons item rest ih => rw [toJsonItems, ih, List.map_cons]

theorem ofJsonItems?_eq_mapM (items : List Json.Value) :
    ofJsonItems? items = items.mapM ofJson? := by
  induction items with
  | nil => rfl
  | cons item rest ih =>
    rw [ofJsonItems?, ih, List.mapM_cons]
    rfl

/-- What is read in place of a value where lists may be nested so deep. -/
def rereadAt? (depth : Nat) (value : Stored) : Option Stored :=
  (Json.reread? depth value.toJson).bind ofJson?

theorem rereadAt?_float (depth : Nat) (x : Binary64) :
    rereadAt? depth (.float x) = (Json.rereadFloat? x).bind ofJson? := by
  unfold rereadAt? toJson
  cases hx : x.isFinite with
  | true => rw [if_pos rfl, Json.reread?]
  | false =>
    rw [if_neg Bool.false_ne_true, Json.rereadFloat?_of_not_isFinite hx]
    rfl

theorem rereadAt?_list (depth : Nat) (items : List Stored) :
    rereadAt? (depth + 1) (.list items) = (items.mapM (rereadAt? depth)).map .list := by
  have hitems : (Json.rereadItems? depth (toJsonItems items)).bind ofJsonItems? =
      items.mapM (rereadAt? depth) := by
    rw [Json.rereadItems?_eq_mapM, toJsonItems_eq_map, List.mapM_map, funext ofJsonItems?_eq_mapM]
    exact mapM_bind_mapM _ _ items
  rw [← hitems]
  unfold rereadAt? toJson
  show ((Json.rereadItems? depth (toJsonItems items)).map Json.Value.array).bind ofJson? = _
  cases Json.rereadItems? depth (toJsonItems items) <;> rfl

theorem rereadAt?_scalar {depth : Nat} {value later : Stored}
    (hread : rereadAt? depth value = some value) (hself : value.Rereads Json.ReadAs value)
    (hlater : value.Rereads Json.ReadAs later → later = value) (hnesting : value.nesting = 0) :
    rereadAt? depth value = some later ↔
      value.nesting ≤ depth ∧ value.Rereads Json.ReadAs later := by
  rw [hread, hnesting]
  constructor
  · rintro ⟨⟩
    exact ⟨Nat.zero_le depth, hself⟩
  · exact fun h => congrArg some (hlater h.2).symm

/-- A value is read as another exactly if its lists are nested no deeper than is allowed and its
numbers are read as those of the other. -/
theorem rereadAt?_eq_some_iff {depth : Nat} {value later : Stored} :
    rereadAt? depth value = some later ↔
      value.nesting ≤ depth ∧ value.Rereads Json.ReadAs later := by
  induction value using forall_of_parts generalizing depth later with
  | null => exact rereadAt?_scalar rfl .null (fun h => by cases h; rfl) rfl
  | flag b => exact rereadAt?_scalar rfl (.flag b) (fun h => by cases h; rfl) rfl
  | integer n => exact rereadAt?_scalar rfl (.integer n) (fun h => by cases h; rfl) rfl
  | text s => exact rereadAt?_scalar rfl (.text s) (fun h => by cases h; rfl) rfl
  | float x =>
    rw [rereadAt?_float, rereads_float_iff, Option.bind_eq_some_iff]
    simp only [Json.readAs_iff]
    refine ⟨?_, ?_⟩
    · rintro ⟨v, hv, hlater⟩
      refine ⟨Nat.zero_le depth, ?_⟩
      cases hx : x.isFinite with
      | true =>
        obtain ⟨y, rfl⟩ := Json.rereadFloat?_of_isFinite hx hv
        cases hlater
        exact .inl ⟨rfl, y, rfl, hv⟩
      | false =>
        rw [Json.rereadFloat?_of_not_isFinite hx] at hv
        cases hv
        cases hlater
        exact .inr ⟨rfl, rfl⟩
    · rintro ⟨-, ⟨-, y, rfl, hy⟩ | ⟨hx, rfl⟩⟩
      · exact ⟨_, hy, rfl⟩
      · exact ⟨_, Json.rereadFloat?_of_not_isFinite hx, rfl⟩
  | list items ih =>
    cases depth with
    | zero =>
      refine ⟨fun h => (nomatch h), fun h => ?_⟩
      exact absurd h.1 (Nat.not_succ_le_zero _)
    | succ depth =>
      have hitems : ∀ others, items.mapM (rereadAt? depth) = some others ↔
          (∀ item ∈ items, item.nesting ≤ depth) ∧
            List.Forall₂ (Rereads Json.ReadAs) items others := by
        intro others
        rw [mapM_eq_some_iff_forall₂, ← List.forall₂_and_left]
        simp only [List.forall₂_iff_get]
        refine and_congr_right fun _ => forall_congr' fun i => forall_congr' fun hi => ?_
        exact forall_congr' fun ho => ih _ (List.get_mem items ⟨i, hi⟩)
      rw [rereadAt?_list, nesting_list_le_iff, rereads_list_iff, Option.map_eq_some_iff]
      simp only [hitems]
      constructor
      · rintro ⟨others, ⟨hdepth, hothers⟩, rfl⟩
        exact ⟨hdepth, others, rfl, hothers⟩
      · rintro ⟨hdepth, others, rfl, hothers⟩
        exact ⟨others, ⟨hdepth, hothers⟩, rfl⟩

end Stored

/-! ### Stores -/

namespace Store

theorem loadJson_saveJson_iff_matches {store : Store} {folder : Folder} {path : String}
    (hsaved : (store.saveJson folder path).result = .ok ()) (other loaded : Store) :
    other.loadJson (store.saveJson folder path).state path =
        ⟨loaded, .ok (), [.jsonLoaded], []⟩ ↔
      (∀ found ∈ store.values, found.nesting ≤ Json.maxDepth - 2) ∧
        store.Matches (Stored.Rereads Json.ReadAs) loaded := by
  rw [loadJson_saveJson_iff hsaved]
  constructor
  · rintro ⟨hreadable, rfl⟩
    have hread : ∀ found ∈ store.values, found.nesting ≤ Json.maxDepth - 2 ∧
        found.Rereads Json.ReadAs found.reread :=
      fun found hfound => Stored.rereadAt?_eq_some_iff.1 (hreadable found hfound).reread?_eq
    exact ⟨fun found hfound => (hread found hfound).1,
      Book.matches_mapValues fun found hfound => (hread found hfound).2⟩
  · rintro ⟨hdepth, hmatches⟩
    have hread : ∀ found ∈ store.values, ∀ later, found.Rereads Json.ReadAs later →
        found.reread? = some later :=
      fun found hfound later hlater =>
        Stored.rereadAt?_eq_some_iff.2 ⟨hdepth found hfound, hlater⟩
    constructor
    · intro found hfound
      obtain ⟨page, name, hplace⟩ := Book.mem_values_iff.1 hfound
      obtain ⟨later, -, hlater⟩ := hmatches.values page name found hplace
      unfold Stored.IsReadable
      rw [hread found hfound later hlater]
      rfl
    · refine (hmatches.imp fun found hfound later hlater => ?_).eq_mapValues
      unfold Stored.reread
      rw [hread found hfound later hlater]
      rfl

/-- Saving a store as a JSON document fails only where no file can be written. The file is loaded
exactly if no lists are nested too deep and every finite number is read as some number, and then as
a store with the same pages, blank ones too, the same names, and values that are the same but for
the numbers: a finite one is what its text is read as, and in place of another there is nothing. So
integers are in the places where integers were, and floating-point numbers where finite ones were.
If every finite number is read back as itself, the numbers that are not finite are all that is
lost. -/
theorem json_round_trip_only_nulls (store other : Store) (folder : Folder) (path : String) :
    (∀ text, (store.saveJson folder path).result = (folder.write path text).result) ∧
    ((store.saveJson folder path).result = .ok () →
      (∀ loaded,
        other.loadJson (store.saveJson folder path).state path =
            ⟨loaded, .ok (), [.jsonLoaded], []⟩ ↔
          (∀ found ∈ store.values, found.nesting ≤ Json.maxDepth - 2) ∧
            store.Matches (Stored.Rereads Json.ReadAs) loaded) ∧
      (∀ loaded, store.Matches (Stored.Rereads Json.ReadAs) loaded →
        ∀ page name found later, store.get? page name = some found →
          loaded.get? page name = some later → ∀ place,
            (∀ n, later.part? place = some (.integer n) ↔ found.part? place = some (.integer n)) ∧
            ((∃ y, later.part? place = some (.float y)) ↔
              ∃ x, found.part? place = some (.float x) ∧ x.isFinite = true)) ∧
      ((∀ found ∈ store.values, found.nesting ≤ Json.maxDepth - 2) →
        (∀ found ∈ store.values, ∀ place x, found.part? place = some (.float x) →
          x.isFinite = true → Json.ReadAs x x) →
        ∃ loaded,
          other.loadJson (store.saveJson folder path).state path =
            ⟨loaded, .ok (), [.jsonLoaded], []⟩ ∧
          store.Matches (Stored.Rereads Eq) loaded)) := by
  refine ⟨fun text => folder.result_write path _ text, fun hsaved => ?_⟩
  have hloads := loadJson_saveJson_iff_matches hsaved other
  refine ⟨hloads, ?_, fun hdepth hnumbers => ?_⟩
  · intro loaded hmatches page name found later hfound hlater place
    obtain ⟨_, hsame, hrereads⟩ := hmatches.values page name found hfound
    cases hlater.symm.trans hsame
    exact ⟨hrereads.part?_integer_iff place, hrereads.part?_float_iff place⟩
  · have hread : ∀ found ∈ store.values,
        found.Rereads (fun x y => x = y ∧ Json.ReadAs x y) found.reread := by
      intro found hfound
      obtain ⟨later, hlater⟩ :
          ∃ later, found.Rereads (fun x y => x = y ∧ Json.ReadAs x y) later :=
        Stored.exists_rereads fun place x hx hfinite =>
          ⟨x, rfl, hnumbers found hfound place x hx hfinite⟩
      have hsome : found.reread? = some later :=
        Stored.rereadAt?_eq_some_iff.2 ⟨hdepth found hfound, hlater.imp fun _ _ hxy => hxy.2⟩
      unfold Stored.reread
      rw [hsome]
      exact hlater
    refine ⟨store.mapValues Stored.reread, (hloads _).2 ⟨hdepth, ?_⟩, ?_⟩
    · exact Book.matches_mapValues fun found hfound => (hread found hfound).imp fun _ _ hxy => hxy.2
    · exact Book.matches_mapValues fun found hfound => (hread found hfound).imp fun _ _ hxy => hxy.1

/-- A store with a blank page, and with a whole number, an infinite one and an integer in lists. -/
def numbersStore : Store :=
  (Book.empty.openPage "S").insert "T" "x"
    (.list [.float (.ofInt 2), .list [.float (.infinity true), .integer 2]])

/-- The whole number does not become an integer, and the infinite one becomes nothing. -/
theorem whole_number_is_kept_and_infinite_one_is_not :
    ∃ loaded later,
      loadJson .empty (numbersStore.saveJson .empty "kept.json").state "kept.json" =
        ⟨loaded, .ok (), [.jsonLoaded], []⟩ ∧
      loaded.pageNames = ["S", "T"] ∧ loaded.get? "T" "x" = some later ∧
      later.part? [0] = some (.float (.ofInt 2)) ∧ later.part? [1, 0] = some .null ∧
      later.part? [1, 1] = some (.integer 2) := by
  have hvalues : ∀ found ∈ numbersStore.values,
      found = .list [.float (.ofInt 2), .list [.float (.infinity true), .integer 2]] :=
    fun found hfound => List.mem_singleton.1 hfound
  have htwo : Json.ReadAs (.ofInt 2) (.ofInt 2) := by
    show Json.ReadsBack (.float (.ofInt 2))
    decide +kernel
  obtain ⟨hwritten, hround⟩ := json_round_trip_only_nulls numbersStore .empty .empty "kept.json"
  obtain ⟨-, -, hkept⟩ := hround ((hwritten "").trans (by cbv))
  obtain ⟨loaded, hload, hmatches⟩ := hkept
    (fun found hfound => by rw [hvalues found hfound]; decide)
    (fun found hfound place x hx hfinite => by
      rw [hvalues found hfound] at hx
      rcases place with _ | ⟨_ | _ | _, _ | ⟨_ | _ | _, _ | _⟩⟩ <;> cases hx
      · exact htwo
      · cases hfinite)
  obtain ⟨later, hlater, hrereads⟩ := hmatches.values "T" "x" _ rfl
  have hfinite : Option.Rel (Stored.Rereads Eq) (some (.float (.ofInt 2))) (later.part? [0]) :=
    hrereads.part? [0]
  have hinfinite : Option.Rel (Stored.Rereads Eq) (some (.float (.infinity true)))
      (later.part? [1, 0]) := hrereads.part? [1, 0]
  refine ⟨loaded, later, hload, hmatches.pageNames.trans rfl, hlater, ?_, ?_,
    (hrereads.part?_integer_iff [1, 1] 2).2 rfl⟩
  · generalize later.part? [0] = found at hfinite ⊢
    rcases hfinite with ⟨h⟩
    rcases Stored.rereads_float_iff.1 h with ⟨-, y, rfl, rfl⟩ | ⟨hx, -⟩
    · rfl
    · exact absurd hx (by decide +kernel)
  · generalize later.part? [1, 0] = found at hinfinite ⊢
    rcases hinfinite with ⟨h⟩
    rcases Stored.rereads_float_iff.1 h with ⟨hx, -⟩ | ⟨-, rfl⟩
    · cases hx
    · rfl

end Store

end Preferences
