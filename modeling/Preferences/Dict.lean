/-!
# Dictionaries keyed by text

A dictionary lists its entries in strictly ascending order of key, and text is ordered by code
point. The order is part of the type: a key occurs once, every listing comes out sorted, and two
dictionaries that answer every look-up alike are equal (`Dict.ext_get?`).
-/

namespace Preferences

/-- Entries in strictly ascending order of key. -/
structure Dict (α : Type) where
  entries : List (String × α)
  ascending : entries.Pairwise (fun a b => a.1 < b.1)

namespace Dict

variable {α β : Type}

/-! ### Entry lists -/

def lookup (key : String) : List (String × α) → Option α
  | [] => none
  | (k, a) :: rest => if k = key then some a else lookup key rest

/-- Files `value` at the place of `key`, over whatever was there. -/
def place (key : String) (value : α) : List (String × α) → List (String × α)
  | [] => [(key, value)]
  | (k, a) :: rest =>
    if key < k then (key, value) :: (k, a) :: rest
    else if k = key then (key, value) :: rest
    else (k, a) :: place key value rest

theorem lt_of_not_lt_of_ne {a b : String} (h : ¬ a < b) (hne : b ≠ a) : b < a := by
  rcases String.le_total a b with hab | hba
  · exact absurd (String.le_antisymm (String.not_lt.1 h) hab) hne
  · exact Classical.byContradiction fun hn => hne (String.le_antisymm hba (String.not_lt.1 hn))

theorem fst_mem_of_mem_place {key : String} {value : α} {l : List (String × α)}
    {e : String × α} (h : e ∈ place key value l) : e.1 = key ∨ e ∈ l := by
  induction l with
  | nil => exact .inl (by simp [place] at h; simp [h])
  | cons x rest ih =>
    obtain ⟨k, a⟩ := x
    unfold place at h
    split at h
    · rcases List.mem_cons.1 h with rfl | h
      · exact .inl rfl
      · exact .inr h
    · split at h
      · rcases List.mem_cons.1 h with rfl | h
        · exact .inl rfl
        · exact .inr (List.mem_cons_of_mem _ h)
      · rcases List.mem_cons.1 h with rfl | h
        · exact .inr List.mem_cons_self
        · exact (ih h).imp id (List.mem_cons_of_mem _)

theorem pairwise_place {l : List (String × α)} (hl : l.Pairwise (fun a b => a.1 < b.1))
    (key : String) (value : α) :
    (place key value l).Pairwise (fun a b => a.1 < b.1) := by
  induction l with
  | nil => simp [place]
  | cons x rest ih =>
    obtain ⟨k, a⟩ := x
    have hx := (List.pairwise_cons.1 hl).1
    have hr := (List.pairwise_cons.1 hl).2
    unfold place
    split
    · rename_i hlt
      refine List.pairwise_cons.2 ⟨fun e he => ?_, hl⟩
      rcases List.mem_cons.1 he with rfl | he
      · exact hlt
      · exact String.lt_trans hlt (hx e he)
    · rename_i hnlt
      split
      · rename_i heq
        exact List.pairwise_cons.2 ⟨fun e he => heq ▸ hx e he, hr⟩
      · rename_i hne
        refine List.pairwise_cons.2 ⟨fun e he => ?_, ih hr⟩
        rcases fst_mem_of_mem_place he with h | h
        · rw [h]
          exact lt_of_not_lt_of_ne hnlt hne
        · exact hx e h

theorem lookup_place (key other : String) (value : α) (l : List (String × α)) :
    lookup other (place key value l) = if key = other then some value else lookup other l := by
  induction l with
  | nil => simp [place, lookup]
  | cons x rest ih =>
    obtain ⟨k, a⟩ := x
    unfold place
    split
    · simp [lookup]
    · split
      · rename_i heq
        subst heq
        by_cases h : k = other <;> simp [lookup, h]
      · rename_i hne
        by_cases h : key = other
        · subst h
          simp [lookup, ih, hne]
        · by_cases hk : k = other <;> simp [lookup, ih, h, hk]

theorem lookup_filter_ne (key other : String) (l : List (String × α)) :
    lookup other (l.filter fun e => e.1 ≠ key) = if key = other then none else lookup other l := by
  induction l with
  | nil => simp [lookup]
  | cons x rest ih =>
    obtain ⟨k, a⟩ := x
    by_cases hk : k = key
    · subst hk
      by_cases h : k = other <;> simp_all [lookup]
    · by_cases h : key = other
      · subst h
        simp_all [lookup]
      · by_cases hko : k = other <;> simp_all [lookup]

/-- The entries without the one under `key`, and what that one held. -/
def extract (key : String) : List (String × α) → List (String × α) × Option α
  | [] => ([], none)
  | (k, a) :: rest =>
    if k = key then (rest, some a)
    else
      let (others, found) := extract key rest
      ((k, a) :: others, found)

theorem extract_fst (key : String) {l : List (String × α)}
    (hl : l.Pairwise (fun a b => a.1 < b.1)) :
    (extract key l).1 = l.filter fun e => e.1 ≠ key := by
  induction l with
  | nil => rfl
  | cons x rest ih =>
    obtain ⟨k, a⟩ := x
    obtain ⟨hx, hr⟩ := List.pairwise_cons.1 hl
    unfold extract
    split
    · rename_i heq
      -- The keys after this one are greater, so that none of them is taken out.
      have hrest : ∀ e ∈ rest, decide (e.1 ≠ key) = true := by
        intro e he
        refine decide_eq_true fun hsame => ?_
        exact String.lt_irrefl key (by simpa only [heq, hsame] using hx e he)
      rw [List.filter_cons_of_neg (by simp [heq]), List.filter_eq_self.2 hrest]
    · rename_i hne
      rw [List.filter_cons_of_pos (by simp [hne]), ← ih hr]

theorem extract_snd (key : String) (l : List (String × α)) :
    (extract key l).2 = lookup key l := by
  induction l with
  | nil => rfl
  | cons x rest ih =>
    obtain ⟨k, a⟩ := x
    unfold extract lookup
    split
    · rfl
    · exact ih

/-- Rewrites values in order; each is told what the ones before it left behind. -/
def sweepEntries {σ : Type} (f : σ → α → σ × β) : σ → List (String × α) → σ × List (String × β)
  | s, [] => (s, [])
  | s, (k, a) :: rest =>
    let (s, b) := f s a
    let (s, others) := sweepEntries f s rest
    (s, (k, b) :: others)

theorem keys_sweepEntries {σ : Type} (f : σ → α → σ × β) (s : σ) (l : List (String × α)) :
    (sweepEntries f s l).2.map Prod.fst = l.map Prod.fst := by
  induction l generalizing s with
  | nil => rfl
  | cons x rest ih => simp [sweepEntries, ih]

theorem lookup_eq_some_iff {l : List (String × α)} (hl : l.Pairwise (fun a b => a.1 < b.1))
    {key : String} {value : α} : lookup key l = some value ↔ (key, value) ∈ l := by
  induction l with
  | nil => simp [lookup]
  | cons x rest ih =>
    obtain ⟨k, a⟩ := x
    have hx := (List.pairwise_cons.1 hl).1
    have ih := ih (List.pairwise_cons.1 hl).2
    by_cases h : k = key
    · subst h
      simp only [lookup, if_true, Option.some.injEq, List.mem_cons, Prod.mk.injEq, true_and]
      constructor
      · exact fun h => .inl h.symm
      · rintro (h | h)
        · exact h.symm
        · exact absurd (hx _ h) (String.lt_irrefl k)
    · simp [lookup, h, ih, Ne.symm h]

/-! ### Operations -/

def empty : Dict α := ⟨[], .nil⟩

instance : Inhabited (Dict α) := ⟨empty⟩

def get? (d : Dict α) (key : String) : Option α := lookup key d.entries

def contains (d : Dict α) (key : String) : Bool := (d.get? key).isSome

def insert (d : Dict α) (key : String) (value : α) : Dict α :=
  ⟨place key value d.entries, pairwise_place d.ascending key value⟩

/-- Takes out what is filed under a key, and answers it. -/
def remove (d : Dict α) (key : String) : Dict α × Option α :=
  let left := extract key d.entries
  (⟨left.1, by
    rw [extract_fst key d.ascending]
    exact d.ascending.filter _⟩, left.2)

def erase (d : Dict α) (key : String) : Dict α := (d.remove key).1

def keys (d : Dict α) : List String := d.entries.map Prod.fst

def values (d : Dict α) : List α := d.entries.map Prod.snd

def size (d : Dict α) : Nat := d.entries.length

def isEmpty (d : Dict α) : Bool := d.entries.isEmpty

/-- Rewrites every value, each with its key at hand. -/
def mapValues (f : String → α → β) (d : Dict α) : Dict β :=
  ⟨d.entries.map fun e => (e.1, f e.1 e.2), by
    rw [List.pairwise_map]
    exact d.ascending⟩

/-- Rewrites every value in order; each is told what the ones before it left behind. -/
def sweep {σ : Type} (f : σ → α → σ × β) (s : σ) (d : Dict α) : σ × Dict β :=
  let swept := sweepEntries f s d.entries
  (swept.1, ⟨swept.2, by
    rw [← List.pairwise_map (R := (· < ·)), keys_sweepEntries, List.pairwise_map]
    exact d.ascending⟩)

/-- Of two entries with one key the later one counts. -/
def ofList (l : List (String × α)) : Dict α :=
  l.foldl (fun d e => d.insert e.1 e.2) empty

/-! ### Look-ups after each operation -/

@[simp] theorem get?_empty (key : String) : (empty : Dict α).get? key = none := rfl

theorem get?_insert (d : Dict α) (key other : String) (value : α) :
    (d.insert key value).get? other = if key = other then some value else d.get? other :=
  lookup_place key other value d.entries

@[simp] theorem get?_insert_self (d : Dict α) (key : String) (value : α) :
    (d.insert key value).get? key = some value := by
  simp [get?_insert]

/-- What is taken out is what was there. -/
theorem remove_snd (d : Dict α) (key : String) : (d.remove key).2 = d.get? key :=
  extract_snd key d.entries

theorem get?_erase (d : Dict α) (key other : String) :
    (d.erase key).get? other = if key = other then none else d.get? other := by
  show lookup other (extract key d.entries).1 = _
  rw [extract_fst key d.ascending]
  exact lookup_filter_ne key other d.entries

@[simp] theorem get?_erase_self (d : Dict α) (key : String) : (d.erase key).get? key = none := by
  simp [get?_erase]

theorem get?_eq_some_iff {d : Dict α} {key : String} {value : α} :
    d.get? key = some value ↔ (key, value) ∈ d.entries :=
  lookup_eq_some_iff d.ascending

theorem keys_pairwise (d : Dict α) : d.keys.Pairwise (· < ·) := by
  unfold keys
  rw [List.pairwise_map]
  exact d.ascending

theorem mem_keys_iff {d : Dict α} {key : String} : key ∈ d.keys ↔ (d.get? key).isSome := by
  simp only [keys, List.mem_map, Option.isSome_iff_exists, get?_eq_some_iff]
  constructor
  · rintro ⟨⟨k, a⟩, h, rfl⟩
    exact ⟨a, h⟩
  · rintro ⟨a, h⟩
    exact ⟨(key, a), h, rfl⟩

theorem isEmpty_iff {d : Dict α} : d.isEmpty = true ↔ d = empty := by
  obtain ⟨entries, ascending⟩ := d
  cases entries <;> simp [isEmpty, empty]

/-! ### Equality -/

theorem entries_injective {d e : Dict α} (h : d.entries = e.entries) : d = e := by
  cases d
  cases e
  cases h
  rfl

theorem eq_of_pairwise_of_mem_iff {l m : List (String × α)}
    (hl : l.Pairwise (fun a b => a.1 < b.1)) (hm : m.Pairwise (fun a b => a.1 < b.1))
    (h : ∀ e, e ∈ l ↔ e ∈ m) : l = m := by
  induction l generalizing m with
  | nil =>
    cases m with
    | nil => rfl
    | cons y m => exact absurd ((h y).2 List.mem_cons_self) (by simp)
  | cons x l ih =>
    cases m with
    | nil => exact absurd ((h x).1 List.mem_cons_self) (by simp)
    | cons y m =>
      have hx := (List.pairwise_cons.1 hl).1
      have hy := (List.pairwise_cons.1 hm).1
      have hxy : x = y := by
        rcases List.mem_cons.1 ((h x).1 List.mem_cons_self) with e | hxm
        · exact e
        · rcases List.mem_cons.1 ((h y).2 List.mem_cons_self) with e | hyl
          · exact e.symm
          · exact absurd (String.lt_trans (hx y hyl) (hy x hxm)) (String.lt_irrefl _)
      subst hxy
      refine congrArg (x :: ·) (ih (List.pairwise_cons.1 hl).2 (List.pairwise_cons.1 hm).2 ?_)
      intro e
      constructor
      · intro he
        rcases List.mem_cons.1 ((h e).1 (List.mem_cons_of_mem _ he)) with rfl | h'
        · exact absurd (hx _ he) (String.lt_irrefl _)
        · exact h'
      · intro he
        rcases List.mem_cons.1 ((h e).2 (List.mem_cons_of_mem _ he)) with rfl | h'
        · exact absurd (hy _ he) (String.lt_irrefl _)
        · exact h'

/-- A dictionary is determined by its look-ups. -/
theorem ext_get? {d e : Dict α} (h : ∀ key, d.get? key = e.get? key) : d = e := by
  refine entries_injective (eq_of_pairwise_of_mem_iff d.ascending e.ascending ?_)
  rintro ⟨key, value⟩
  rw [← get?_eq_some_iff, ← get?_eq_some_iff, h key]

theorem insert_of_get? {d : Dict α} {key : String} {value : α} (h : d.get? key = some value) :
    d.insert key value = d := by
  refine ext_get? fun other => ?_
  rw [get?_insert]
  split
  · rename_i heq
    rw [← heq, h]
  · rfl

theorem insert_insert_self (d : Dict α) (key : String) (first value : α) :
    (d.insert key first).insert key value = d.insert key value := by
  refine ext_get? fun other => ?_
  simp only [get?_insert]
  split <;> rfl

/-- Inserting the entries of a dictionary one after another puts it together again. -/
theorem get?_foldl_insert (l : List (String × α)) (hl : l.Pairwise (fun a b => a.1 < b.1))
    (d : Dict α) (key : String) :
    (l.foldl (fun d e => d.insert e.1 e.2) d).get? key = (lookup key l).or (d.get? key) := by
  induction l generalizing d with
  | nil => rfl
  | cons x rest ih =>
    have hx := (List.pairwise_cons.1 hl).1
    rw [List.foldl_cons, ih (List.pairwise_cons.1 hl).2, get?_insert]
    by_cases h : x.1 = key
    · have hnone : lookup key rest = none := by
        cases hlook : lookup key rest with
        | none => rfl
        | some a =>
          have hmem := (lookup_eq_some_iff (List.pairwise_cons.1 hl).2).1 hlook
          exact absurd (h ▸ hx _ hmem) (String.lt_irrefl _)
      simp [lookup, h, hnone]
    · simp [lookup, h]

theorem ofList_entries (d : Dict α) : ofList d.entries = d := by
  refine ext_get? fun key => ?_
  unfold ofList
  rw [get?_foldl_insert d.entries d.ascending, get?_empty, Option.or_none]
  rfl

/-! ### Rewriting every value -/

theorem lookup_map (f : String → α → β) (key : String) (l : List (String × α)) :
    lookup key (l.map fun e => (e.1, f e.1 e.2)) = (lookup key l).map (f key) := by
  induction l with
  | nil => rfl
  | cons x rest ih =>
    by_cases h : x.1 = key
    · simp [lookup, h]
    · simp [lookup, h, ih]

theorem get?_mapValues (f : String → α → β) (d : Dict α) (key : String) :
    (d.mapValues f).get? key = (d.get? key).map (f key) :=
  lookup_map f key d.entries

section

variable {σ : Type} (f : σ → α → σ × β)

/-- What a sweep leaves behind is what its steps leave behind one after another. -/
theorem sweepEntries_fst (s : σ) (l : List (String × α)) :
    (sweepEntries f s l).1 = (l.map Prod.snd).foldl (fun s a => (f s a).1) s := by
  induction l generalizing s with
  | nil => rfl
  | cons x rest ih => exact ih (f s x.2).1

theorem sweep_fst (s : σ) (d : Dict α) :
    (d.sweep f s).1 = d.values.foldl (fun s a => (f s a).1) s :=
  sweepEntries_fst f s d.entries

/-- A sweep that takes no notice of what was left behind rewrites each value on its own. -/
theorem sweepEntries_snd {g : α → β} (h : ∀ s a, (f s a).2 = g a) (s : σ)
    (l : List (String × α)) : (sweepEntries f s l).2 = l.map fun e => (e.1, g e.2) := by
  induction l generalizing s with
  | nil => rfl
  | cons x rest ih => simp [sweepEntries, h, ih]

theorem sweep_snd {g : α → β} (h : ∀ s a, (f s a).2 = g a) (s : σ) (d : Dict α) :
    (d.sweep f s).2 = d.mapValues fun _ => g :=
  entries_injective (sweepEntries_snd f h s d.entries)

end

end Dict

end Preferences
