import Mathlib.Data.Finmap
import Preferences.Proofs.Loading

/-!
# Stores as flat maps

A store files its values page by page. To those who write, remove, clear, read and count it is one
finite map from places, that is from pairs of a page and a name: all answers are those of the map. A
place holds what was last written there and neither removed nor cleared since, and what is done in
one place can be exchanged with what is done in another, also on the same page.
-/

namespace Preferences

/-! ### Dictionaries -/

namespace Dict

variable {α : Type}

theorem insert_comm {key key' : String} (h : key ≠ key') (d : Dict α) (value value' : α) :
    (d.insert key' value').insert key value = (d.insert key value).insert key' value' := by
  refine ext_get? fun other => ?_
  simp only [get?_insert]
  by_cases hkey : key = other
  · simp [hkey, hkey ▸ Ne.symm h]
  · simp [hkey]

theorem erase_insert {key key' : String} (h : key ≠ key') (d : Dict α) (value : α) :
    (d.insert key value).erase key' = (d.erase key').insert key value := by
  refine ext_get? fun other => ?_
  simp only [get?_insert, get?_erase]
  by_cases hkey : key = other
  · simp [hkey, hkey ▸ Ne.symm h]
  · simp [hkey]

theorem erase_comm (d : Dict α) (key key' : String) :
    (d.erase key').erase key = (d.erase key).erase key' := by
  refine ext_get? fun other => ?_
  simp only [get?_erase]
  by_cases hkey : key = other <;> simp [hkey]

end Dict

namespace Book

variable {α : Type}

/-! ### Places -/

theorem get?_insert_place (b : Book α) (x y : String × String) (value : α) :
    (b.insert x.1 x.2 value).get? y.1 y.2 = if x = y then some value else b.get? y.1 y.2 := by
  rw [get?_insert]
  exact if_congr Prod.ext_iff.symm rfl rfl

theorem get?_erase_place (b : Book α) (x y : String × String) :
    (b.erase x.1 x.2).get? y.1 y.2 = if x = y then none else b.get? y.1 y.2 := by
  rw [get?_erase]
  exact if_congr Prod.ext_iff.symm rfl rfl

/-! ### The map of a book -/

/-- The values of a book with their places. -/
def placed (b : Book α) : List ((_ : String × String) × α) :=
  b.toList.map fun x => ⟨(x.1, x.2.1), x.2.2⟩

theorem nodupKeys_placed (b : Book α) : b.placed.NodupKeys := by
  have hkeys : b.placed.keys = b.toList.map fun x => (x.1, x.2.1) := by
    simp only [placed, List.keys, List.map_map, Function.comp_def]
  unfold List.NodupKeys
  rw [hkeys]
  refine List.Pairwise.map _ ?_ b.toList_pairwise
  intro x y hxy heq
  rw [Prod.mk.injEq] at heq
  rcases hxy with hpage | ⟨-, hname⟩
  · exact absurd (heq.1 ▸ hpage) (String.lt_irrefl _)
  · exact absurd (heq.2 ▸ hname) (String.lt_irrefl _)

def flat (b : Book α) : Finmap fun _ : String × String => α := ⟨b.placed, b.nodupKeys_placed⟩

@[simp] theorem lookup_flat (b : Book α) (place : String × String) :
    b.flat.lookup place = b.get? place.1 place.2 := by
  ext value
  rw [← mem_toList_iff]
  refine Finmap.lookup_eq_some_iff.trans ?_
  simp only [flat, placed, Multiset.mem_coe, List.mem_map]
  constructor
  · rintro ⟨⟨page, name, found⟩, hmem, heq⟩
    cases heq
    exact hmem
  · intro hmem
    exact ⟨_, hmem, rfl⟩

theorem mem_flat {b : Book α} {place : String × String} :
    place ∈ b.flat ↔ b.contains place.1 place.2 = true := by
  rw [← Finmap.lookup_isSome, lookup_flat, contains]

theorem card_keys_flat (b : Book α) : b.flat.keys.card = b.size := by
  show (b.placed.keys : Multiset (String × String)).card = b.size
  rw [← length_values, values_eq_map_toList]
  simp only [placed, List.keys, Multiset.coe_card, List.length_map]

theorem flat_empty : (empty : Book α).flat = ∅ := rfl

theorem flat_insert (b : Book α) (place : String × String) (value : α) :
    (b.insert place.1 place.2 value).flat = b.flat.insert place value := by
  refine Finmap.ext_lookup fun other => ?_
  rw [lookup_flat, get?_insert_place]
  by_cases h : place = other
  · rw [if_pos h, ← h, Finmap.lookup_insert]
  · rw [if_neg h, Finmap.lookup_insert_of_ne _ (Ne.symm h), lookup_flat]

theorem flat_erase (b : Book α) (place : String × String) :
    (b.erase place.1 place.2).flat = b.flat.erase place := by
  refine Finmap.ext_lookup fun other => ?_
  rw [lookup_flat, get?_erase_place]
  by_cases h : place = other
  · rw [if_pos h, ← h, Finmap.lookup_erase]
  · rw [if_neg h, Finmap.lookup_erase_ne (Ne.symm h), lookup_flat]

/-! ### Exchanging -/

/-- An operation that changes one page and leaves the others alone. -/
def ActsOn (op : Book α → Book α) (page : String) (f : Option (Dict α) → Option (Dict α)) : Prop :=
  ∀ b other, (op b).pages.get? other =
    if page = other then f (b.pages.get? page) else b.pages.get? other

theorem ActsOn.comm {op op' : Book α → Book α} {page page' : String}
    {f f' : Option (Dict α) → Option (Dict α)} (h : ActsOn op page f) (h' : ActsOn op' page' f')
    (hf : page = page' → ∀ entries, f (f' entries) = f' (f entries)) (b : Book α) :
    op (op' b) = op' (op b) := by
  have hpages : ∀ other, (op (op' b)).pages.get? other = (op' (op b)).pages.get? other := by
    intro other
    simp only [h _ _, h' _ _]
    by_cases hsame : page = page'
    · subst hsame
      by_cases hother : page = other <;> simp [hother, hf rfl]
    · by_cases hother : page = other
      · subst hother
        simp [Ne.symm hsame]
      · simp [hother, hsame]
  exact congrArg Book.mk (Dict.ext_get? hpages)

/-- A page stays if anything is left on it. -/
def kept (entries : Dict α) : Option (Dict α) := if entries.isEmpty then none else some entries

/-- No page counts as one without values. -/
theorem getD_kept (entries : Dict α) : (kept entries).getD .empty = entries := by
  unfold kept
  split
  · rename_i h
    exact (Dict.isEmpty_iff.1 h).symm
  · rfl

theorem kept_insert (entries : Dict α) (name : String) (value : α) :
    kept (entries.insert name value) = some (entries.insert name value) :=
  if_neg fun h => Dict.insert_ne_empty _ _ _ (Dict.isEmpty_iff.1 h)

def insertOn (name : String) (value : α) (entries : Option (Dict α)) : Option (Dict α) :=
  some ((entries.getD .empty).insert name value)

def eraseOn (name : String) (entries : Option (Dict α)) : Option (Dict α) :=
  kept ((entries.getD .empty).erase name)

theorem insert_actsOn (page name : String) (value : α) :
    ActsOn (fun b => b.insert page name value) page (insertOn name value) :=
  fun _ _ => Dict.get?_insert _ _ _ _

theorem erase_actsOn (page name : String) :
    ActsOn (fun b : Book α => b.erase page name) page (eraseOn name) := by
  intro b other
  rw [get?_pages_erase]
  cases b.pages.get? page with
  | none => rfl
  | some entries =>
    simp only [eraseOn, kept, Option.map_some, Option.getD_some, Option.filter_some]
    cases (entries.erase name).isEmpty <;> rfl

theorem insert_insert_comm {x y : String × String} (h : x ≠ y) (b : Book α) (value value' : α) :
    (b.insert y.1 y.2 value').insert x.1 x.2 value =
      (b.insert x.1 x.2 value).insert y.1 y.2 value' := by
  apply ActsOn.comm (insert_actsOn x.1 x.2 value) (insert_actsOn y.1 y.2 value')
  intro hpage entries
  simp only [insertOn, Option.getD_some, Dict.insert_comm fun hname => h (Prod.ext hpage hname)]

theorem insert_erase_comm {x y : String × String} (h : x ≠ y) (b : Book α) (value : α) :
    (b.erase y.1 y.2).insert x.1 x.2 value = (b.insert x.1 x.2 value).erase y.1 y.2 := by
  apply ActsOn.comm (insert_actsOn x.1 x.2 value) (erase_actsOn y.1 y.2)
  intro hpage entries
  -- The page that the removal may tear out is opened again by the insertion.
  simp only [insertOn, eraseOn, getD_kept, Option.getD_some,
    Dict.erase_insert fun hname => h (Prod.ext hpage hname), kept_insert]

theorem erase_erase_comm (x y : String × String) (b : Book α) :
    (b.erase y.1 y.2).erase x.1 x.2 = (b.erase x.1 x.2).erase y.1 y.2 := by
  apply ActsOn.comm (erase_actsOn x.1 x.2) (erase_actsOn y.1 y.2)
  intro hpage entries
  simp only [eraseOn, getD_kept]
  rw [Dict.erase_comm]

end Book

namespace Store

/-! ### Commands -/

/-- What is asked of a store in hand. -/
inductive Command where
  | change (change : Change)
  | read (page name : String)
  | contains (page name : String)
  | size

/-- The place that a command is about, if it is about a single one. -/
def Command.place? : Command → Option (String × String)
  | change (.write page name _) | change (.remove page name) => some (page, name)
  | read page name | contains page name => some (page, name)
  | change .clear | size => none

/-- Whether a command writes or removes what stands in a place. -/
def Command.overrules (place : String × String) : Command → Prop
  | change (.write page name _) | change (.remove page name) => (page, name) = place
  | change .clear => True
  | _ => False

def obey (store : Store) : Command → Store
  | .change change => store.apply change
  | _ => store

def answer (store : Store) : Command → Answer
  | .change (.remove page name) => .removed (store.remove page name).2
  | .change _ => .nothing
  | .read page name => .read (store.get? page name)
  | .contains page name => .flag (store.contains page name)
  | .size => .count store.size

/-- The answers to commands that are obeyed one after another. -/
def answers {σ : Type} (obey : σ → Command → σ) (answer : σ → Command → Answer) (s : σ) :
    List Command → List Answer
  | [] => []
  | command :: rest => answer s command :: answers obey answer (obey s command) rest

/-! ### One map from places -/

abbrev FlatMap := Finmap fun _ : String × String => Stored

namespace FlatMap

def obey (map : FlatMap) : Command → FlatMap
  | .change (.write page name value) => map.insert (page, name) value
  | .change (.remove page name) => map.erase (page, name)
  | .change .clear => ∅
  | _ => map

def answer (map : FlatMap) : Command → Answer
  | .change (.remove page name) => .removed (map.lookup (page, name))
  | .change _ => .nothing
  | .read page name => .read (map.lookup (page, name))
  | .contains page name => .flag (decide ((page, name) ∈ map))
  | .size => .count map.keys.card

end FlatMap

theorem flat_obey (store : Store) (command : Command) :
    (store.obey command).flat = FlatMap.obey store.flat command := by
  cases command with
  | change change =>
    cases change with
    | write page name value => exact Book.flat_insert store (page, name) value
    | remove page name => exact Book.flat_erase store (page, name)
    | clear => exact Book.flat_empty
  | _ => rfl

theorem answer_flat (store : Store) (command : Command) :
    FlatMap.answer store.flat command = store.answer command := by
  cases command with
  | change change =>
    cases change with
    | remove page name => simp [FlatMap.answer, answer, Book.remove_snd]
    | _ => rfl
  | read page name => simp [FlatMap.answer, answer]
  | contains page name => simp [FlatMap.answer, answer, Book.mem_flat]
  | size => simp [FlatMap.answer, answer, Book.card_keys_flat]

theorem flat_foldl_obey (store : Store) (commands : List Command) :
    (commands.foldl obey store).flat = commands.foldl FlatMap.obey store.flat := by
  induction commands generalizing store with
  | nil => rfl
  | cons command rest ih => rw [List.foldl_cons, List.foldl_cons, ih, flat_obey]

theorem answers_flat (store : Store) (commands : List Command) :
    answers FlatMap.obey FlatMap.answer store.flat commands =
      answers obey answer store commands := by
  induction commands generalizing store with
  | nil => rfl
  | cons command rest ih => rw [answers, answers, answer_flat, ← flat_obey, ih]

/-! ### What was last written -/

theorem get?_obey_of_not_overrules {command : Command} {place : String × String}
    (h : ¬ command.overrules place) (store : Store) :
    (store.obey command).get? place.1 place.2 = store.get? place.1 place.2 := by
  cases command with
  | change change =>
    cases change with
    | write page name value =>
      exact (Book.get?_insert_place store (page, name) place value).trans (if_neg h)
    | remove page name =>
      exact (Book.get?_erase_place store (page, name) place).trans (if_neg h)
    | clear => exact absurd trivial h
  | _ => rfl

theorem get?_obey_of_overrules {command : Command} {place : String × String}
    (h : command.overrules place) (store : Store) (value : Stored) :
    (store.obey command).get? place.1 place.2 = some value ↔
      command = .change (.write place.1 place.2 value) := by
  cases command with
  | change change =>
    cases change with
    | write page name written =>
      obtain rfl : (page, name) = place := h
      have hget : (store.insert page name written).get? page name = some written :=
        (Book.get?_insert_place store (page, name) (page, name) written).trans (if_pos rfl)
      show (store.insert page name written).get? page name = some value ↔ _
      simp [hget]
    | remove page name =>
      obtain rfl : (page, name) = place := h
      have hget : (store.erase page name).get? page name = none :=
        (Book.get?_erase_place store (page, name) (page, name)).trans (if_pos rfl)
      show (store.erase page name).get? page name = some value ↔ _
      simp [hget]
    | clear => simp [obey, apply]
  | _ => exact h.elim

/-- The value was written in the place, and no later command overruled that. -/
def WroteLast (commands : List Command) (place : String × String) (value : Stored) : Prop :=
  ∃ before after, commands = before ++ .change (.write place.1 place.2 value) :: after ∧
    ∀ command ∈ after, ¬ command.overrules place

theorem not_wroteLast_nil (place : String × String) (value : Stored) :
    ¬ WroteLast [] place value := by
  rintro ⟨before, after, h, -⟩
  simp at h

theorem wroteLast_cons {command : Command} {rest : List Command} {place : String × String}
    {value : Stored} :
    WroteLast (command :: rest) place value ↔
      (command = .change (.write place.1 place.2 value) ∧ ∀ later ∈ rest, ¬ later.overrules place) ∨
        WroteLast rest place value := by
  constructor
  · rintro ⟨before, after, h, hafter⟩
    cases before with
    | nil =>
      obtain ⟨rfl, rfl⟩ := List.cons.inj h
      exact .inl ⟨rfl, hafter⟩
    | cons first before =>
      obtain ⟨rfl, rfl⟩ := List.cons.inj h
      exact .inr ⟨before, after, rfl, hafter⟩
  · rintro (⟨rfl, hrest⟩ | ⟨before, after, rfl, hafter⟩)
    · exact ⟨[], rest, rfl, hrest⟩
    · exact ⟨command :: before, after, rfl, hafter⟩

/-- A place holds what was last written there, or else what it held at the start, unless that was
overruled. -/
theorem get?_foldl_obey (store : Store) (commands : List Command) (place : String × String)
    (value : Stored) :
    (commands.foldl obey store).get? place.1 place.2 = some value ↔
      WroteLast commands place value ∨
        store.get? place.1 place.2 = some value ∧
          ∀ command ∈ commands, ¬ command.overrules place := by
  induction commands generalizing store with
  | nil => simp [not_wroteLast_nil]
  | cons command rest ih =>
    -- What the place holds after the first command counts as what it held at the start of the rest.
    rw [List.foldl_cons, ih, wroteLast_cons, List.forall_mem_cons]
    by_cases h : command.overrules place
    · rw [get?_obey_of_overrules h]
      simp only [h, not_true_eq_false, false_and, and_false, or_false]
      exact or_comm
    · have hne : command ≠ .change (.write place.1 place.2 value) := by
        rintro rfl
        exact h rfl
      rw [get?_obey_of_not_overrules h]
      simp only [h, hne, not_false_eq_true, true_and, false_and, false_or]

/-! ### Exchanging commands -/

theorem not_overrules_of_place {command : Command} {x y : String × String}
    (h : command.place? = some x) (hne : x ≠ y) : ¬ command.overrules y := by
  cases command with
  | change change =>
    cases change with
    | clear => cases h
    | _ =>
      cases h
      exact hne
  | _ => exact not_false

/-- What a command in one place answers depends on that place only. -/
theorem answer_congr {command : Command} {x : String × String} (h : command.place? = some x)
    {store later : Store} (hget : later.get? x.1 x.2 = store.get? x.1 x.2) :
    later.answer command = store.answer command := by
  cases command with
  | change change =>
    cases change with
    | clear => cases h
    | write page name value => rfl
    | remove page name =>
      cases h
      unfold answer
      dsimp only
      rw [Book.remove_snd, Book.remove_snd]
      exact congrArg Answer.removed hget
  | read page name =>
    cases h
    exact congrArg Answer.read hget
  | contains page name =>
    cases h
    exact congrArg (fun found : Option Stored => Answer.flag found.isSome) hget
  | size => cases h

theorem apply_comm {first second : Change} {x y : String × String}
    (hx : (Command.change first).place? = some x) (hy : (Command.change second).place? = some y)
    (hne : x ≠ y) (store : Store) :
    (store.apply second).apply first = (store.apply first).apply second := by
  cases first with
  | write page name value =>
    cases hx
    cases second with
    | write page' name' value' =>
      cases hy
      exact Book.insert_insert_comm hne store value value'
    | remove page' name' =>
      cases hy
      exact Book.insert_erase_comm hne store value
    | clear => cases hy
  | remove page name =>
    cases hx
    cases second with
    | write page' name' value' =>
      cases hy
      exact (Book.insert_erase_comm hne.symm store value').symm
    | remove page' name' => exact Book.erase_erase_comm (page, name) (page', name') store
    | clear => cases hy
  | clear => cases hx

theorem obey_comm {first second : Command} {x y : String × String} (hx : first.place? = some x)
    (hy : second.place? = some y) (hne : x ≠ y) (store : Store) :
    (store.obey second).obey first = (store.obey first).obey second := by
  cases first with
  | change change =>
    cases second with
    | change change' => exact apply_comm hx hy hne store
    | _ => rfl
  | _ => cases second <;> rfl

/-- A store in hand, new or loaded, answers all commands as one finite map from places does. A place
holds what was last written there, or what it held at the start; there a new store holds nothing,
and a loaded one what the document says. Commands in different places can be exchanged. -/
theorem stores_are_flat_maps (store : Store) (commands : List Command) (folder : Folder)
    (path : String) :
    (answers obey answer store commands =
        answers FlatMap.obey FlatMap.answer store.flat commands ∧
      (commands.foldl obey store).flat = commands.foldl FlatMap.obey store.flat) ∧
    (∀ place value, (commands.foldl obey store).get? place.1 place.2 = some value ↔
      WroteLast commands place value ∨ store.get? place.1 place.2 = some value ∧
        ∀ command ∈ commands, ¬ command.overrules place) ∧
    (∀ first second x y, Command.place? first = some x → Command.place? second = some y → x ≠ y →
      let later := commands.foldl obey store
      (later.obey second).obey first = (later.obey first).obey second ∧
        (later.obey second).answer first = later.answer first ∧
        (later.obey first).answer second = later.answer second) ∧
    (Book.empty : Store).flat = ∅ ∧
    ((store.loadJson folder path).result = .ok () →
      ∃ text document, folder.read path = .ok text ∧ Json.parse? text = some document ∧
        ∀ page name, (store.loadJson folder path).state.flat.lookup (page, name) =
          ((document.member? page).bind (Json.Value.member? name)).bind Stored.ofJson?) ∧
    ((store.loadToml folder path).result = .ok () →
      ∃ text document, folder.read path = .ok text ∧ Toml.read? text = some document ∧
        ∀ page name, (store.loadToml folder path).state.flat.lookup (page, name) =
          (((Toml.Value.table document).member? page).bind (Toml.Value.member? name)).bind
            Stored.ofToml?) := by
  refine ⟨⟨(answers_flat store commands).symm, flat_foldl_obey store commands⟩,
    get?_foldl_obey store commands, ?_, Book.flat_empty, ?_, ?_⟩
  · intro first second x y hx hy hne later
    have hfirst := get?_obey_of_not_overrules (not_overrules_of_place hy hne.symm) later
    have hsecond := get?_obey_of_not_overrules (not_overrules_of_place hx hne) later
    exact ⟨obey_comm hx hy hne later, answer_congr hx hfirst, answer_congr hy hsecond⟩
  · intro hloaded
    obtain ⟨text, hread, hparse⟩ := reload_ok hloaded
    obtain ⟨document, hdocument, hget⟩ := get?_parseJson hparse
    refine ⟨text, document, hread, hdocument, fun page name => ?_⟩
    rw [Book.lookup_flat]
    exact hget page name
  · intro hloaded
    obtain ⟨text, hread, hparse⟩ := reload_ok hloaded
    obtain ⟨document, hdocument, hget⟩ := get?_parseToml hparse
    refine ⟨text, document, hread, hdocument, fun page name => ?_⟩
    rw [Book.lookup_flat]
    exact hget page name

/-- Two files with a value each. -/
def placedFolder : Folder :=
  ⟨.ofList [("kept.json", .file "\x7b\"S\":\x7b\"x\":true\x7d\x7d"),
    ("kept.toml", .file "[S]\nx = \"\"\n")]⟩

def placedStore : Store := (loadJson .empty placedFolder "kept.json").state

/-- Removing a value that was loaded can be exchanged with writing another on its page. -/
theorem neighbours_can_be_exchanged :
    let removeX : Command := .change (.remove "S" "x")
    let writeY : Command := .change (.write "S" "y" .null)
    ((loadJson .empty placedFolder "kept.json").result = .ok () ∧
      placedStore.flat.lookup ("S", "x") = some (.flag true)) ∧
    ((loadToml .empty placedFolder "kept.toml").result = .ok () ∧
      (loadToml .empty placedFolder "kept.toml").state.flat.lookup ("S", "x") = some .null) ∧
    (placedStore.obey writeY).obey removeX = (placedStore.obey removeX).obey writeY ∧
    ([writeY, removeX].foldl obey placedStore).get? "S" "y" = some .null := by
  intro removeX writeY
  have hjson : placedFolder.read "kept.json" = .ok "\x7b\"S\":\x7b\"x\":true\x7d\x7d" := by cbv
  have hpages : Json.parse? "\x7b\"S\":\x7b\"x\":true\x7d\x7d" =
    some (.object [("S", .object [("x", .bool true)])]) := by cbv
  have htoml : placedFolder.read "kept.toml" = .ok "[S]\nx = \"\"\n" := by cbv
  have hdocument : Toml.read? "[S]\nx = \"\"\n" = some [("S", .table [("x", .string "")])] := by
    cbv
  have hjsonLoaded : (loadJson .empty placedFolder "kept.json").result = .ok () := by cbv
  have htomlLoaded : (loadToml .empty placedFolder "kept.toml").result = .ok () := by cbv
  obtain ⟨-, -, -, -, hfromJson, -⟩ :=
    stores_are_flat_maps .empty [] placedFolder "kept.json"
  obtain ⟨-, -, -, -, -, hfromToml⟩ :=
    stores_are_flat_maps .empty [] placedFolder "kept.toml"
  obtain ⟨-, hget, -⟩ :=
    stores_are_flat_maps placedStore [writeY, removeX] placedFolder "kept.json"
  have hplaces : ("S", "x") ≠ ("S", "y") := by decide
  have hcomm := (stores_are_flat_maps placedStore [] placedFolder "kept.json").2.2.1
    removeX writeY ("S", "x") ("S", "y") rfl rfl hplaces
  refine ⟨⟨hjsonLoaded, ?_⟩, ⟨htomlLoaded, ?_⟩, hcomm.1, ?_⟩
  · obtain ⟨text, document, hread, hparse, hlookup⟩ := hfromJson hjsonLoaded
    cases hread.symm.trans hjson
    cases hparse.symm.trans hpages
    exact (hlookup "S" "x").trans (by cbv)
  · obtain ⟨text, document, hread, hparse, hlookup⟩ := hfromToml htomlLoaded
    cases hread.symm.trans htoml
    cases hparse.symm.trans hdocument
    exact (hlookup "S" "x").trans (by cbv)
  · refine (hget ("S", "y") .null).2 (.inl ⟨[], [removeX], rfl, fun command hcommand => ?_⟩)
    cases List.mem_singleton.1 hcommand
    exact hplaces

end Store

end Preferences
