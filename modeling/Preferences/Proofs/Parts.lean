import Mathlib.Data.List.Forall2
import Preferences.Stored

/-!
# Parts of stored values

A part of a stored value is where a path of places leads, from list to list. What holds of scalars,
and of lists if it holds of the items, holds of every value. Lists may be nested some levels deep.
-/

namespace Preferences

/-! ### Items read one by one -/

theorem mapM_eq_some_iff_forall₂ {α β : Type} {f : α → Option β} {xs : List α} {ys : List β} :
    xs.mapM f = some ys ↔ List.Forall₂ (fun x y => f x = some y) xs ys := by
  induction xs generalizing ys with
  | nil => simp [eq_comm]
  | cons x rest ih =>
    simp only [List.mapM_cons, Option.bind_eq_bind, Option.bind_eq_some_iff, ih, Option.pure_def,
      Option.some.injEq, List.forall₂_cons_left_iff]
    constructor
    · rintro ⟨y, hy, others, hothers, rfl⟩
      exact ⟨y, others, hy, hothers, rfl⟩
    · rintro ⟨y, others, hy, hothers, rfl⟩
      exact ⟨y, hy, others, hothers, rfl⟩

theorem mapM_bind_mapM {α β γ : Type} (f : α → Option β) (g : β → Option γ) (xs : List α) :
    (xs.mapM f).bind (List.mapM g) = xs.mapM fun x => (f x).bind g := by
  induction xs with
  | nil => rfl
  | cons x rest ih =>
    rw [List.mapM_cons, List.mapM_cons, ← ih]
    cases f x with
    | none => rfl
    | some y =>
      cases rest.mapM f with
      | none => cases hy : g y <;> simp [hy]
      | some ys => simp

theorem exists_forall₂_iff {α β : Type} {R : α → β → Prop} {xs : List α} :
    (∃ ys, List.Forall₂ R xs ys) ↔ ∀ x ∈ xs, ∃ y, R x y := by
  induction xs with
  | nil => exact ⟨fun _ _ h => (nomatch h), fun _ => ⟨[], .nil⟩⟩
  | cons x rest ih =>
    rw [List.forall_mem_cons, ← ih]
    constructor
    · rintro ⟨_, _ | ⟨hxy, hrest⟩⟩
      exact ⟨⟨_, hxy⟩, _, hrest⟩
    · rintro ⟨⟨y, hxy⟩, ys, hrest⟩
      exact ⟨y :: ys, .cons hxy hrest⟩

theorem rel_bind {α β γ δ : Type} {R : α → β → Prop} {S : γ → δ → Prop} {a : Option α}
    {b : Option β} (h : Option.Rel R a b) {f : α → Option γ} {g : β → Option δ}
    (hfg : ∀ x y, R x y → Option.Rel S (f x) (g y)) : Option.Rel S (a.bind f) (b.bind g) := by
  cases h with
  | none => exact .none
  | some hxy => exact hfg _ _ hxy

theorem rel_getElem?_of_forall₂ {α β : Type} {R : α → β → Prop} {xs : List α} {ys : List β}
    (h : List.Forall₂ R xs ys) (i : Nat) : Option.Rel R xs[i]? ys[i]? := by
  induction h generalizing i with
  | nil => exact .none
  | cons hxy _ ih =>
    cases i with
    | zero => exact .some hxy
    | succ i => exact ih i

namespace Stored

/-! ### Parts -/

/-- The part of a value that a path of places in lists leads to. -/
def part? (value : Stored) : List Nat → Option Stored
  | [] => some value
  | place :: rest =>
    match value with
    | .list items => items[place]?.bind fun item => item.part? rest
    | _ => none

theorem part?_list (items : List Stored) (place : Nat) (rest : List Nat) :
    (list items).part? (place :: rest) = items[place]?.bind fun item => item.part? rest := rfl

/-- What holds of scalars, and of lists if it holds of all in them, holds of every value. -/
theorem forall_of_parts {P : Stored → Prop} (null : P .null) (flag : ∀ b, P (.flag b))
    (integer : ∀ n, P (.integer n)) (float : ∀ x, P (.float x)) (text : ∀ s, P (.text s))
    (list : ∀ items, (∀ item ∈ items, P item) → P (.list items)) (value : Stored) : P value := by
  refine @Stored.rec P (fun items => ∀ item ∈ items, P item) null flag integer float text list
    ?_ ?_ value
  · exact fun _ h => (nomatch h)
  · exact fun item rest hitem hrest => List.forall_mem_cons.2 ⟨hitem, hrest⟩

/-! ### Depth -/

mutual

/-- How deep lists stand within lists. -/
def nesting : Stored → Nat
  | .list items => nestingItems items + 1
  | _ => 0

def nestingItems : List Stored → Nat
  | [] => 0
  | item :: rest => max (nesting item) (nestingItems rest)

end

theorem nestingItems_le_iff {items : List Stored} {depth : Nat} :
    nestingItems items ≤ depth ↔ ∀ item ∈ items, item.nesting ≤ depth := by
  induction items with
  | nil => simp [nestingItems]
  | cons item rest ih => rw [nestingItems, Nat.max_le, ih, List.forall_mem_cons]

theorem nesting_list_le_iff {items : List Stored} {depth : Nat} :
    (list items).nesting ≤ depth + 1 ↔ ∀ item ∈ items, item.nesting ≤ depth := by
  rw [nesting, Nat.add_le_add_iff_right, nestingItems_le_iff]

end Stored

end Preferences
