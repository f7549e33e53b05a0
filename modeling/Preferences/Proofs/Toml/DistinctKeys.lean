import Preferences.Proofs.Listing

/-!
# Distinct keys of TOML tables

No table of a document that was read has two entries with one key, wherever it stands: among the
pages, inside a page, or inside a value. The invariant is carried through the lines of the text,
each of which changes the document in one place, and through the values between braces.
-/

namespace Preferences

namespace Dict

variable {α : Type} {l : List (String × α)}

theorem lookup_eq_some_iff_of_nodup (hl : (l.map Prod.fst).Nodup) {key : String} {value : α} :
    lookup key l = some value ↔ (key, value) ∈ l := by
  induction l with
  | nil => exact ⟨nofun, nofun⟩
  | cons entry rest ih =>
    obtain ⟨k, a⟩ := entry
    rw [List.map_cons, List.nodup_cons] at hl
    unfold lookup
    split
    · rename_i hk
      subst hk
      have hrest : (k, value) ∉ rest := fun h =>
        hl.1 (List.mem_map.2 ⟨(k, value), h, rfl⟩)
      simp [hrest, eq_comm]
    · rename_i hk
      rw [ih hl.2, List.mem_cons, Prod.mk.injEq, eq_comm, or_iff_right fun h => hk h.1]

theorem get?_ofList_eq_some_iff (hl : (l.map Prod.fst).Nodup) {key : String} {value : α} :
    (ofList l).get? key = some value ↔ (key, value) ∈ l := by
  have hreverse : (l.reverse.map Prod.fst).Nodup := by
    rw [List.map_reverse]
    exact List.nodup_reverse.2 hl
  rw [get?_ofList, lookup_eq_some_iff_of_nodup hreverse, List.mem_reverse]

end Dict

namespace Toml

/-- No table in the value has two entries with one key. -/
inductive Value.KeysDistinct : Value → Prop where
  | string (value : String) : KeysDistinct (.string value)
  | integer (value : Int64) : KeysDistinct (.integer value)
  | float (value : Binary64) : KeysDistinct (.float value)
  | bool (value : Bool) : KeysDistinct (.bool value)
  | datetime (value : Datetime) : KeysDistinct (.datetime value)
  | array {items : List Value} (hitems : ∀ item ∈ items, KeysDistinct item) :
      KeysDistinct (.array items)
  | table {entries : List (String × Value)} (hkeys : (entries.map Prod.fst).Nodup)
      (hvalues : ∀ entry ∈ entries, KeysDistinct entry.2) : KeysDistinct (.table entries)

theorem Value.keysDistinct_array_iff {items : List Value} :
    (Value.array items).KeysDistinct ↔ ∀ item ∈ items, item.KeysDistinct := by
  constructor
  · rintro (_ | _ | _ | _ | _ | hitems | _)
    exact hitems
  · exact .array

theorem Value.keysDistinct_table_iff {entries : List (String × Value)} :
    (Value.table entries).KeysDistinct ↔
      (entries.map Prod.fst).Nodup ∧ ∀ entry ∈ entries, entry.2.KeysDistinct := by
  constructor
  · rintro (_ | _ | _ | _ | _ | _ | ⟨hkeys, hvalues⟩)
    exact ⟨hkeys, hvalues⟩
  · rintro ⟨hkeys, hvalues⟩
    exact .table hkeys hvalues

/-! ### Documents being put together -/

def Item.KeysDistinct (item : Item) : Prop := item.toValue.KeysDistinct

namespace Entries

theorem toValues_eq_map (entries : Entries) :
    toValues entries = entries.map fun entry => (entry.1, entry.2.toValue) := by
  induction entries with
  | nil => rfl
  | cons entry rest ih => rw [toValues, ih, List.map_cons]

theorem toTables_eq_map (elements : List Entries) :
    toTables elements = elements.map fun entries => .table (toValues entries) := by
  induction elements with
  | nil => rfl
  | cons entries rest ih => rw [toTables, ih, List.map_cons]

def KeysDistinct (entries : Entries) : Prop := (Value.table (toValues entries)).KeysDistinct

theorem keysDistinct_iff {entries : Entries} :
    KeysDistinct entries ↔
      (entries.map Prod.fst).Nodup ∧ ∀ entry ∈ entries, entry.2.KeysDistinct := by
  unfold KeysDistinct
  rw [Value.keysDistinct_table_iff, toValues_eq_map, List.map_map, List.forall_mem_map]
  rfl

theorem keysDistinct_nil : KeysDistinct [] := keysDistinct_iff.2 ⟨.nil, nofun⟩

theorem keysDistinct_append_singleton {entries : Entries} {key : String} {item : Item}
    (h : KeysDistinct entries) (hkey : key ∉ entries.map Prod.fst) (hitem : item.KeysDistinct) :
    KeysDistinct (entries ++ [(key, item)]) := by
  obtain ⟨hkeys, hitems⟩ := keysDistinct_iff.1 h
  refine keysDistinct_iff.2 ⟨?_, ?_⟩
  · rw [List.map_append, List.nodup_append]
    refine ⟨hkeys, List.pairwise_singleton _ key, ?_⟩
    rintro other hother _ (_ | ⟨_, ⟨⟩⟩) rfl
    exact hkey hother
  · rw [List.forall_mem_append]
    exact ⟨hitems, List.forall_mem_singleton.2 hitem⟩

theorem KeysDistinct.replace {before after : Entries} {key : String} {old new : Item}
    (h : KeysDistinct (before ++ (key, old) :: after)) (hnew : new.KeysDistinct) :
    KeysDistinct (before ++ (key, new) :: after) := by
  obtain ⟨hkeys, hitems⟩ := keysDistinct_iff.1 h
  rw [List.forall_mem_append, List.forall_mem_cons] at hitems
  refine keysDistinct_iff.2 ⟨?_, ?_⟩
  · simpa only [List.map_append, List.map_cons] using hkeys
  · rw [List.forall_mem_append, List.forall_mem_cons]
    exact ⟨hitems.1, hnew, hitems.2.2⟩

theorem keysDistinct_filter {entries : Entries} (h : KeysDistinct entries)
    (p : String × Item → Bool) : KeysDistinct (entries.filter p) := by
  obtain ⟨hkeys, hitems⟩ := keysDistinct_iff.1 h
  exact keysDistinct_iff.2 ⟨hkeys.sublist (List.filter_sublist.map Prod.fst),
    fun entry hentry => hitems entry (List.mem_filter.1 hentry).1⟩

/-! ### One change -/

/-- The change leaves keys distinct, if it can be made. -/
def Keeps (f : Entries → Option Entries) : Prop :=
  ∀ {entries changed : Entries}, KeysDistinct entries → f entries = some changed →
    KeysDistinct changed

/-- An entry is replaced where it stands, or a new one comes behind the others. -/
theorem alter_cases {key : String} {f : Option Item → Option Item} {entries changed : Entries}
    (h : alter key f entries = some changed) :
    (∃ before old new after, entries = before ++ (key, old) :: after ∧
      f (some old) = some new ∧ changed = before ++ (key, new) :: after) ∨
    (∃ new, key ∉ entries.map Prod.fst ∧ f none = some new ∧ changed = entries ++ [(key, new)]) := by
  induction entries generalizing changed with
  | nil =>
    obtain ⟨new, hnew, rfl⟩ := Option.map_eq_some_iff.1 h
    exact .inr ⟨new, List.not_mem_nil, hnew, rfl⟩
  | cons entry rest ih =>
    obtain ⟨k, item⟩ := entry
    unfold alter at h
    split at h
    · rename_i hk
      obtain ⟨new, hnew, rfl⟩ := Option.map_eq_some_iff.1 h
      exact .inl ⟨[], item, new, rest, by rw [hk]; rfl, hnew, by rw [hk]; rfl⟩
    · rename_i hk
      obtain ⟨more, hmore, rfl⟩ := Option.map_eq_some_iff.1 h
      rcases ih hmore with ⟨before, old, new, after, rfl, hnew, rfl⟩ | ⟨new, hkey, hnew, rfl⟩
      · exact .inl ⟨(k, item) :: before, old, new, after, rfl, hnew, rfl⟩
      · refine .inr ⟨new, ?_, hnew, rfl⟩
        rw [List.map_cons, List.mem_cons, not_or]
        exact ⟨fun heq => hk heq.symm, hkey⟩

theorem keeps_alter {key : String} {f : Option Item → Option Item}
    (hnone : ∀ new, f none = some new → new.KeysDistinct)
    (hsome : ∀ old new, old.KeysDistinct → f (some old) = some new → new.KeysDistinct) :
    Keeps (alter key f) := by
  intro entries changed h halter
  rcases alter_cases halter with ⟨before, old, new, after, rfl, hnew, rfl⟩ | ⟨new, hkey, hnew, rfl⟩
  · have hold : old.KeysDistinct :=
      (keysDistinct_iff.1 h).2 (key, old) (List.mem_append_right before List.mem_cons_self)
    exact h.replace (hsome old new hold hnew)
  · exact keysDistinct_append_singleton h hkey (hnone new hnew)

variable {f : Entries → Option Entries}

theorem keysDistinct_alterLast (hf : Keeps f) {elements changed : List Entries}
    (h : ∀ entries ∈ elements, KeysDistinct entries) (halter : alterLast f elements = some changed) :
    ∀ entries ∈ changed, KeysDistinct entries := by
  induction elements using alterLast.induct generalizing changed with
  | case1 => cases halter
  | case2 last =>
    obtain ⟨new, hnew, rfl⟩ := Option.map_eq_some_iff.1 halter
    exact List.forall_mem_singleton.2 (hf (h last List.mem_cons_self) hnew)
  | case3 first rest hrest ih =>
    rw [List.forall_mem_cons] at h
    rw [alterLast] at halter
    · obtain ⟨more, hmore, rfl⟩ := Option.map_eq_some_iff.1 halter
      exact List.forall_mem_cons.2 ⟨h.1, ih h.2 hmore⟩
    · exact hrest

/-! ### Changes deeper down -/

theorem keysDistinct_table (hf : Keeps f) {inner : Entries} (h : KeysDistinct inner)
    {origin : Origin} {item : Item} (hitem : (f inner).map (Item.table origin) = some item) :
    item.KeysDistinct := by
  obtain ⟨changed, hchanged, rfl⟩ := Option.map_eq_some_iff.1 hitem
  exact hf h hchanged

theorem keysDistinct_tables_iff {elements : List Entries} :
    (Item.tables elements).KeysDistinct ↔ ∀ entries ∈ elements, KeysDistinct entries := by
  unfold Item.KeysDistinct Item.toValue
  rw [Value.keysDistinct_array_iff, toTables_eq_map, List.forall_mem_map]
  rfl

theorem keysDistinct_tables (hf : Keeps f) {elements : List Entries}
    (h : (Item.tables elements).KeysDistinct) {item : Item}
    (hitem : (alterLast f elements).map Item.tables = some item) : item.KeysDistinct := by
  obtain ⟨changed, hchanged, rfl⟩ := Option.map_eq_some_iff.1 hitem
  rw [keysDistinct_tables_iff] at h ⊢
  exact keysDistinct_alterLast hf h hchanged

theorem keeps_within (hf : Keeps f) (path : List String) : Keeps (within f path) := by
  induction path with
  | nil => exact hf
  | cons key path ih =>
    refine keeps_alter ?_ ?_
    · intro new hnew
      exact keysDistinct_table ih keysDistinct_nil hnew
    · intro old new hold hnew
      cases old with
      | value value => cases hnew
      | table origin inner => exact keysDistinct_table ih hold hnew
      | tables elements => exact keysDistinct_tables ih hold hnew

theorem keeps_assign {value : Value} (hvalue : value.KeysDistinct) (path : List String)
    (isOpen : Bool) : Keeps (assign value path isOpen) := by
  induction path generalizing isOpen with
  | nil =>
    intro entries changed _ h
    cases h
  | cons key path ih =>
    cases path with
    | nil =>
      intro entries changed h hassign
      unfold assign at hassign
      split at hassign
      · refine keeps_alter ?_ ?_ h hassign
        · intro new hnew
          cases hnew
          exact hvalue
        · intro old new _ hnew
          cases hnew
      · cases hassign
    | cons next path =>
      refine keeps_alter ?_ ?_
      · intro new hnew
        exact keysDistinct_table (ih true) keysDistinct_nil hnew
      · intro old new hold hnew
        cases old with
        | value value => cases hnew
        | table origin inner =>
          cases origin with
          | stated => cases hnew
          | implied => exact keysDistinct_table (ih false) hold hnew
          | dotted => exact keysDistinct_table (ih true) hold hnew
        | tables elements => exact keysDistinct_tables (ih false) hold hnew

theorem keeps_push (key : String) : Keeps (push key) := by
  refine keeps_alter ?_ ?_
  · intro new hnew
    cases hnew
    exact keysDistinct_tables_iff.2 (List.forall_mem_singleton.2 keysDistinct_nil)
  · intro old new hold hnew
    cases old with
    | tables elements =>
      cases hnew
      rw [keysDistinct_tables_iff] at hold ⊢
      exact List.forall_mem_append.2 ⟨hold, List.forall_mem_singleton.2 keysDistinct_nil⟩
    | _ => cases hnew

theorem keeps_state (key : String) : Keeps (state key) := by
  intro entries changed h hstate
  unfold state at hstate
  split at hstate
  · rename_i hlookup
    cases hstate
    refine keysDistinct_append_singleton h ?_ keysDistinct_nil
    intro hkey
    obtain ⟨entry, hentry, rfl⟩ := List.mem_map.1 hkey
    exact bne_iff_ne.1 (List.lookup_eq_none_iff.1 hlookup entry hentry) rfl
  · rename_i inner hlookup
    cases hstate
    -- The implied table leaves its place, and is added with what it holds.
    obtain ⟨before, after, rfl, -⟩ := List.lookup_eq_some_iff.1 hlookup
    have hinner : KeysDistinct inner :=
      (keysDistinct_iff.1 h).2 (key, .table .implied inner)
        (List.mem_append_right before List.mem_cons_self)
    refine keysDistinct_append_singleton (keysDistinct_filter h _) ?_ hinner
    simp
  · cases hstate

end Entries

/-! ### Values -/

/-- Whatever the scanner reads has distinct keys. -/
def ReadsDistinct (read : Scan Value) : Prop :=
  ∀ {cs : List Char} {v : Value} {rest : List Char}, read cs = some (v, rest) → v.KeysDistinct

theorem keysDistinct_integerOf? {n : Int} {v : Value} (h : integerOf? n = some v) :
    v.KeysDistinct := by
  unfold integerOf? at h
  split at h
  · cases h
    exact .integer _
  · cases h

theorem keysDistinct_numberOf? {negative : Bool} {ds : List Char} {fraction? : Option (List Char)}
    {exponent? : Option Int} {v : Value} (h : numberOf? negative ds fraction? exponent? = some v) :
    v.KeysDistinct := by
  unfold numberOf? at h
  split at h
  · exact keysDistinct_integerOf? h
  · dsimp only at h
    split at h
    · cases h
      exact .float _
    · cases h

theorem readsDistinct_integerIn (base : Nat) : ReadsDistinct (integerIn base) := by
  intro cs v rest h
  obtain ⟨⟨ds, after⟩, -, h⟩ := Option.bind_eq_some_iff.1 h
  obtain ⟨value, hvalue, h⟩ := Option.bind_eq_some_iff.1 h
  cases h
  exact keysDistinct_integerOf? hvalue

theorem readsDistinct_signed : ReadsDistinct signed := by
  intro cs v rest h
  unfold signed at h
  dsimp only at h
  split at h
  · cases h
    exact .float _
  · cases h
    exact .float _
  · obtain ⟨⟨ds, after⟩, -, h⟩ := Option.bind_eq_some_iff.1 h
    obtain ⟨⟨fraction?, after⟩, -, h⟩ := Option.bind_eq_some_iff.1 h
    obtain ⟨⟨exponent?, after⟩, -, h⟩ := Option.bind_eq_some_iff.1 h
    obtain ⟨value, hvalue, h⟩ := Option.bind_eq_some_iff.1 h
    cases h
    exact keysDistinct_numberOf? hvalue

theorem readsDistinct_number : ReadsDistinct number := by
  intro cs v rest h
  unfold number at h
  split at h
  · cases h
    exact .datetime _
  · split at h
    · exact readsDistinct_integerIn 16 h
    · exact readsDistinct_integerIn 8 h
    · exact readsDistinct_integerIn 2 h
    · exact readsDistinct_signed h

theorem keysDistinct_arrayItems {item : Scan Value} (hitem : ReadsDistinct item) {bound : Nat}
    {cs : List Char} {items : List Value} {rest : List Char}
    (h : arrayItems item bound cs = some (items, rest)) : ∀ v ∈ items, v.KeysDistinct := by
  induction bound generalizing cs items rest with
  | zero => cases h
  | succ bound ih =>
    unfold arrayItems at h
    obtain ⟨here, -, h⟩ := Option.bind_eq_some_iff.1 h
    split at h
    · cases h
      exact nofun
    · obtain ⟨⟨first, after⟩, hfirst, h⟩ := Option.bind_eq_some_iff.1 h
      obtain ⟨there, -, h⟩ := Option.bind_eq_some_iff.1 h
      split at h
      · obtain ⟨⟨more, last⟩, hmore, h⟩ := Option.map_eq_some_iff.1 h
        cases h
        exact List.forall_mem_cons.2 ⟨hitem hfirst, ih hmore⟩
      · cases h
        exact List.forall_mem_singleton.2 (hitem hfirst)
      · cases h

theorem keysDistinct_tableEntries {item : Scan Value} (hitem : ReadsDistinct item) {bound : Nat}
    {entries found : Entries} (hentries : entries.KeysDistinct) {cs rest : List Char}
    (h : tableEntries item bound entries cs = some (found, rest)) : found.KeysDistinct := by
  induction bound generalizing entries cs with
  | zero => cases h
  | succ bound ih =>
    unfold tableEntries at h
    obtain ⟨⟨path, after⟩, -, h⟩ := Option.bind_eq_some_iff.1 h
    obtain ⟨after, -, h⟩ := Option.bind_eq_some_iff.1 h
    obtain ⟨⟨value, after⟩, hvalue, h⟩ := Option.bind_eq_some_iff.1 h
    obtain ⟨changed, hchanged, h⟩ := Option.bind_eq_some_iff.1 h
    have hkept : changed.KeysDistinct :=
      Entries.keeps_assign (hitem hvalue) path true hentries hchanged
    split at h
    · exact ih hkept h
    · cases h
      exact hkept
    · cases h

theorem readsDistinct_tableBody {item : Scan Value} (hitem : ReadsDistinct item) :
    ReadsDistinct (tableBody item) := by
  intro cs v rest h
  unfold tableBody at h
  split at h
  · cases h
    exact Entries.keysDistinct_nil
  · obtain ⟨⟨entries, after⟩, hentries, h⟩ := Option.map_eq_some_iff.1 h
    cases h
    exact keysDistinct_tableEntries hitem Entries.keysDistinct_nil hentries

theorem readsDistinct_value (depth : Nat) : ReadsDistinct (value depth) := by
  -- Only brackets and braces use up depth, so a case split on it comes inside the one on the text.
  induction depth using Nat.strongRecOn with
  | ind depth ih =>
    intro cs v rest h
    unfold value at h
    split at h
    · cases h
    · split at h
      · cases h
      · rename_i depth
        obtain ⟨⟨items, after⟩, hitems, h⟩ := Option.map_eq_some_iff.1 h
        cases h
        exact .array (keysDistinct_arrayItems (ih depth (Nat.lt_succ_self depth)) hitems)
    · split at h
      · cases h
      · rename_i depth
        exact readsDistinct_tableBody (ih depth (Nat.lt_succ_self depth)) h
    · obtain ⟨after, -, h⟩ := Option.map_eq_some_iff.1 h
      cases h
      exact .bool true
    · obtain ⟨after, -, h⟩ := Option.map_eq_some_iff.1 h
      cases h
      exact .bool false
    · split at h
      · obtain ⟨⟨body, after⟩, -, h⟩ := Option.map_eq_some_iff.1 h
        cases h
        exact .string _
      · exact readsDistinct_number h

/-! ### Lines -/

theorem keysDistinct_header {draft later : Draft} (hdraft : draft.entries.KeysDistinct)
    {cs rest : List Char} (h : header draft cs = some (later, rest)) :
    later.entries.KeysDistinct := by
  unfold header at h
  split at h
  · obtain ⟨⟨path, after⟩, -, h⟩ := Option.bind_eq_some_iff.1 h
    obtain ⟨after, -, h⟩ := Option.bind_eq_some_iff.1 h
    obtain ⟨last, -, h⟩ := Option.bind_eq_some_iff.1 h
    obtain ⟨changed, hchanged, h⟩ := Option.bind_eq_some_iff.1 h
    cases h
    exact Entries.keeps_within (Entries.keeps_push last) path.dropLast hdraft hchanged
  · obtain ⟨⟨path, after⟩, -, h⟩ := Option.bind_eq_some_iff.1 h
    obtain ⟨after, -, h⟩ := Option.bind_eq_some_iff.1 h
    obtain ⟨last, -, h⟩ := Option.bind_eq_some_iff.1 h
    obtain ⟨changed, hchanged, h⟩ := Option.bind_eq_some_iff.1 h
    cases h
    exact Entries.keeps_within (Entries.keeps_state last) path.dropLast hdraft hchanged

theorem keysDistinct_entry {draft later : Draft} (hdraft : draft.entries.KeysDistinct)
    {cs rest : List Char} (h : entry draft cs = some (later, rest)) :
    later.entries.KeysDistinct := by
  obtain ⟨⟨path, after⟩, -, h⟩ := Option.bind_eq_some_iff.1 h
  obtain ⟨after, -, h⟩ := Option.bind_eq_some_iff.1 h
  obtain ⟨⟨v, after⟩, hv, h⟩ := Option.bind_eq_some_iff.1 h
  obtain ⟨changed, hchanged, h⟩ := Option.bind_eq_some_iff.1 h
  cases h
  exact Entries.keeps_within (Entries.keeps_assign (readsDistinct_value maxDepth hv) path true)
    draft.path hdraft hchanged

theorem keysDistinct_lines {bound : Nat} {draft later : Draft}
    (hdraft : draft.entries.KeysDistinct) {cs : List Char}
    (h : lines bound draft cs = some later) : later.entries.KeysDistinct := by
  induction bound generalizing draft cs with
  | zero => cases h
  | succ bound ih =>
    unfold lines at h
    split at h
    · cases h
      exact hdraft
    · rename_i c rest _
      have hline : ∀ {next : Draft} {after : List Char}, next.entries.KeysDistinct →
          (lineEnd? after).bind (lines bound next) = some later → later.entries.KeysDistinct := by
        intro next after hnext h
        obtain ⟨others, -, h⟩ := Option.bind_eq_some_iff.1 h
        exact ih hnext h
      split at h
      · obtain ⟨⟨next, after⟩, hnext, h⟩ := Option.bind_eq_some_iff.1 h
        exact hline (keysDistinct_header hdraft hnext) h
      · split at h
        · exact hline hdraft h
        · obtain ⟨⟨next, after⟩, hnext, h⟩ := Option.bind_eq_some_iff.1 h
          exact hline (keysDistinct_entry hdraft hnext) h

theorem keysDistinct_parse? {text : String} {document : Dict Value}
    (h : parse? text = some document) : ∀ page ∈ document.entries, page.2.KeysDistinct := by
  obtain ⟨draft, hdraft, h⟩ := Option.bind_eq_some_iff.1 h
  cases h
  have hkeys : draft.entries.KeysDistinct := keysDistinct_lines Entries.keysDistinct_nil hdraft
  obtain ⟨hnodup, hvalues⟩ := Value.keysDistinct_table_iff.1 hkeys
  rintro ⟨page, v⟩ hpage
  exact hvalues (page, v) ((Dict.get?_ofList_eq_some_iff hnodup).1 (Dict.get?_eq_some_iff.2 hpage))

/-! ### Date-times in place of tables -/

mutual

theorem keysDistinct_resolve? {v resolved : Value} (hv : v.KeysDistinct)
    (h : v.resolve? = some resolved) : resolved.KeysDistinct := by
  cases hv with
  | array hitems =>
    obtain ⟨others, hothers, rfl⟩ := Option.map_eq_some_iff.1 h
    exact .array (keysDistinct_resolveItems? hitems hothers)
  | @table entries hkeys hvalues =>
    -- The first key decides whether the table is a date-time; all others are kept as they are.
    cases entries with
    | nil =>
      cases h
      exact .table hkeys hvalues
    | cons entry rest =>
      obtain ⟨key, value⟩ := entry
      rw [List.forall_mem_cons] at hvalues
      unfold Value.resolve? at h
      split at h
      · split at h
        · obtain ⟨d, -, rfl⟩ := Option.map_eq_some_iff.1 h
          exact .datetime d
        · cases h
      · obtain ⟨first, hfirst, h⟩ := Option.bind_eq_some_iff.1 h
        obtain ⟨others, hothers, h⟩ := Option.bind_eq_some_iff.1 h
        cases h
        obtain ⟨hsame, hothers⟩ := keysDistinct_resolveEntries? hvalues.2 hothers
        refine .table ?_ (List.forall_mem_cons.2 ⟨keysDistinct_resolve? hvalues.1 hfirst, hothers⟩)
        rw [List.map_cons, hsame]
        exact hkeys
  | _ =>
    cases h
    constructor

theorem keysDistinct_resolveItems? {items resolved : List Value}
    (hitems : ∀ item ∈ items, item.KeysDistinct) (h : resolveItems? items = some resolved) :
    ∀ item ∈ resolved, item.KeysDistinct := by
  cases items with
  | nil =>
    cases h
    exact nofun
  | cons item rest =>
    rw [List.forall_mem_cons] at hitems
    obtain ⟨first, hfirst, h⟩ := Option.bind_eq_some_iff.1 h
    obtain ⟨others, hothers, h⟩ := Option.bind_eq_some_iff.1 h
    cases h
    exact List.forall_mem_cons.2
      ⟨keysDistinct_resolve? hitems.1 hfirst, keysDistinct_resolveItems? hitems.2 hothers⟩

theorem keysDistinct_resolveEntries? {entries resolved : List (String × Value)}
    (hentries : ∀ entry ∈ entries, entry.2.KeysDistinct)
    (h : resolveEntries? entries = some resolved) :
    resolved.map Prod.fst = entries.map Prod.fst ∧ ∀ entry ∈ resolved, entry.2.KeysDistinct := by
  cases entries with
  | nil =>
    cases h
    exact ⟨rfl, nofun⟩
  | cons entry rest =>
    rw [List.forall_mem_cons] at hentries
    obtain ⟨first, hfirst, h⟩ := Option.bind_eq_some_iff.1 h
    obtain ⟨others, hothers, h⟩ := Option.bind_eq_some_iff.1 h
    cases h
    obtain ⟨hkeys, hvalues⟩ := keysDistinct_resolveEntries? hentries.2 hothers
    exact ⟨congrArg (entry.1 :: ·) hkeys,
      List.forall_mem_cons.2 ⟨keysDistinct_resolve? hentries.1 hfirst, hvalues⟩⟩

end

/-- The entries of a document come in ascending order of key, and no table in it has two entries
with one key. -/
theorem keysDistinct_read? {text : String} {document : List (String × Value)}
    (h : read? text = some document) :
    (document.map Prod.fst).Pairwise (· < ·) ∧ (Value.table document).KeysDistinct := by
  obtain ⟨found, hfound, h⟩ := Option.bind_eq_some_iff.1 h
  obtain ⟨hkeys, hvalues⟩ := keysDistinct_resolveEntries? (keysDistinct_parse? hfound) h
  have hascending : (document.map Prod.fst).Pairwise (· < ·) := by
    rw [hkeys]
    exact found.keys_pairwise
  exact ⟨hascending, .table (hascending.imp String.ne_of_lt) hvalues⟩

end Toml

end Preferences
