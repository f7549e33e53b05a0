/-!
# Names

The members of an enumeration are told apart by their names, and a text is read as the member whose
name it is.
-/

namespace Preferences

/-- An enumeration whose members are all listed, under names that differ. -/
class Named (α : Type) where
  all : List α
  name : α → String
  mem_all : ∀ a, a ∈ all
  names_differ : (all.map name).Pairwise (· ≠ ·)

namespace Named

variable {α : Type} [Named α]

/-- The member with a name. -/
def ofName? (name : String) : Option α := all.find? fun a => Named.name a == name

theorem find?_eq_some_of_mem {l : List α} (hl : (l.map name).Pairwise (· ≠ ·)) {a : α}
    (ha : a ∈ l) : l.find? (fun b => name b == name a) = some a := by
  induction l with
  | nil => cases ha
  | cons b rest ih =>
    obtain ⟨hb, hrest⟩ := List.pairwise_cons.1 hl
    rcases List.mem_cons.1 ha with rfl | ha
    · exact List.find?_cons_of_pos (beq_self_eq_true _)
    · have hne : name b ≠ name a := hb _ (List.mem_map_of_mem ha)
      rw [List.find?_cons_of_neg (by simpa using hne), ih hrest ha]

theorem ofName?_eq_some_iff {text : String} {a : α} : ofName? text = some a ↔ text = name a := by
  constructor
  · intro h
    unfold ofName? at h
    have hname := List.find?_some h
    exact (eq_of_beq hname).symm
  · rintro rfl
    exact find?_eq_some_of_mem names_differ (mem_all a)

end Named

end Preferences
