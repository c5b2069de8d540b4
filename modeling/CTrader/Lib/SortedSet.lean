import Mathlib.Data.List.Sort

/-! Finite sets that can be walked in order, each held as the increasing list of its members. -/

/-- A finite set: its members in increasing order. -/
@[ext]
structure SortedSet (α : Type) [LinearOrder α] where
  elements : List α
  sorted : elements.Pairwise (· < ·)

namespace SortedSet

variable {α : Type} [LinearOrder α]

instance : DecidableEq (SortedSet α) := fun _ _ => decidable_of_iff _ SortedSet.ext_iff.symm

instance : Membership α (SortedSet α) := ⟨fun s a => a ∈ s.elements⟩

instance (a : α) (s : SortedSet α) : Decidable (a ∈ s) := inferInstanceAs (Decidable (a ∈ s.elements))

/-- The set with no members. -/
def empty : SortedSet α := ⟨[], .nil⟩

instance : EmptyCollection (SortedSet α) := ⟨empty⟩

/-- The set with one more member, which it may have had before. -/
def insert (s : SortedSet α) (a : α) : SortedSet α :=
  if fresh : a ∈ s.elements then s
  else
    ⟨s.elements.orderedInsert (· ≤ ·) a, by
      -- The list is increasing, and no two of its members are the same.
      have increasing : s.elements.Pairwise (· ≤ ·) := s.sorted.imp le_of_lt
      have distinct : (s.elements.orderedInsert (· ≤ ·) a).Nodup :=
        (List.perm_orderedInsert (· ≤ ·) a s.elements).nodup_iff.mpr
          (List.nodup_cons.mpr ⟨fresh, s.sorted.imp ne_of_lt⟩)
      exact ((increasing.orderedInsert a).and distinct).imp fun both => lt_of_le_of_ne both.1 both.2⟩

/-- The set without a member, which it may not have had before. -/
def erase (s : SortedSet α) (a : α) : SortedSet α :=
  ⟨s.elements.erase a, s.sorted.sublist List.erase_sublist⟩

/-- The set with all of a list, as the `update` of the source. -/
def update (s : SortedSet α) (list : List α) : SortedSet α := list.foldl insert s

/-- The set without any of a list, as the `difference_update` of the source. -/
def differenceUpdate (s : SortedSet α) (list : List α) : SortedSet α := list.foldl erase s

/-- The members of a set are those of its list. -/
theorem mem_def {a : α} {s : SortedSet α} : a ∈ s ↔ a ∈ s.elements := .rfl

/-- The empty set has no members. -/
@[simp] theorem not_mem_empty (a : α) : a ∉ (∅ : SortedSet α) := List.not_mem_nil

/-- A member that is put in joins the others. -/
@[simp] theorem mem_insert {a b : α} {s : SortedSet α} : b ∈ s.insert a ↔ b = a ∨ b ∈ s := by
  unfold insert
  split
  · rename_i held
    constructor
    · exact .inr
    · rintro (rfl | other)
      · exact held
      · exact other
  · exact List.mem_orderedInsert _

/-- A member that is taken out leaves the others. -/
@[simp] theorem mem_erase {a b : α} {s : SortedSet α} : b ∈ s.erase a ↔ b ≠ a ∧ b ∈ s := by
  have distinct : s.elements.Nodup := s.sorted.imp ne_of_lt
  exact distinct.mem_erase_iff

/-- The members of a list that is put in join the others. -/
@[simp] theorem mem_update {b : α} {list : List α} {s : SortedSet α} :
    b ∈ s.update list ↔ b ∈ list ∨ b ∈ s := by
  unfold update
  induction list generalizing s with
  | nil => simp
  | cons a rest ih => simp only [List.foldl_cons, ih, mem_insert, List.mem_cons, or_assoc, or_left_comm]

/-- The members of a list that is taken out leave the others. -/
@[simp] theorem mem_differenceUpdate {b : α} {list : List α} {s : SortedSet α} :
    b ∈ s.differenceUpdate list ↔ b ∉ list ∧ b ∈ s := by
  unfold differenceUpdate
  induction list generalizing s with
  | nil => simp
  | cons a rest ih =>
    simp only [List.foldl_cons, ih, mem_erase, List.mem_cons, not_or]
    tauto

/-- Sets with the same members are the same. -/
theorem eq_of_mem_iff {s t : SortedSet α} (same : ∀ a, a ∈ s ↔ a ∈ t) : s = t :=
  SortedSet.ext (s.sorted.eq_of_mem_iff t.sorted same)

/-- The empty set, updated with the members of a set, is that set. -/
@[simp] theorem empty_update (s : SortedSet α) : (∅ : SortedSet α).update s.elements = s :=
  eq_of_mem_iff fun a => by
    rw [mem_update, ← mem_def]
    simp

end SortedSet
