import Mathlib

/-! The undominated members of a growing collection, and their listing in the order of a
key. Domination need not be transitive: it only has to leave the newest member alone. -/
namespace ContextRelay.Library

section Domination

variable {α : Type u} {dominates : α → α → Prop} {members : Set α}

/-- A member that no member dominates. -/
def Undominated (dominates : α → α → Prop) (members : Set α) (item : α) : Prop :=
  item ∈ members ∧ ∀ other ∈ members, ¬ dominates other item

/-- A new member that nothing dominates joins the undominated ones and removes exactly those
it dominates. -/
theorem undominated_insert (itself : ¬ dominates newest newest)
    (untouched : ∀ other ∈ members, ¬ dominates other newest) :
    Undominated dominates (insert newest members) item ↔
      item = newest ∨ Undominated dominates members item ∧ ¬ dominates newest item := by
  constructor
  · rintro ⟨member, free⟩
    rcases Set.mem_insert_iff.mp member with same | older
    · exact Or.inl same
    · refine Or.inr ⟨⟨older, ?_⟩, free newest (Set.mem_insert ..)⟩
      intro other otherMember
      exact free other (Set.mem_insert_of_mem _ otherMember)
  · rintro (rfl | ⟨⟨member, free⟩, spared⟩)
    · refine ⟨Set.mem_insert .., ?_⟩
      intro other member
      rcases Set.mem_insert_iff.mp member with rfl | older
      · exact itself
      · exact untouched other older
    · refine ⟨Set.mem_insert_of_mem _ member, ?_⟩
      intro other otherMember
      rcases Set.mem_insert_iff.mp otherMember with rfl | older
      · exact spared
      · exact free other older

end Domination

section Listing

variable {α : Type u} {κ : Type v} [LinearOrder κ] {key : α → κ}

/-- Listed in strictly ascending order of a key. -/
def Ascending (key : α → κ) (items : List α) : Prop :=
  items.Pairwise (fun left right => key left < key right)

namespace Ascending

/-- The members determine the listing. -/
theorem eq_of_mem_iff (leftSorted : Ascending key left) (rightSorted : Ascending key right)
    (same : ∀ item, item ∈ left ↔ item ∈ right) : left = right := by
  have leftNodup : left.Nodup := leftSorted.imp (fun lower equal => by simp [equal] at lower)
  have rightNodup : right.Nodup := rightSorted.imp (fun lower equal => by simp [equal] at lower)
  exact ((List.perm_ext_iff_of_nodup leftNodup rightNodup).mpr same).eq_of_pairwise
    (fun _ _ _ _ lower higher => absurd lower (not_lt.mpr higher.le)) leftSorted rightSorted

/-- No two items of a listing share a key. -/
theorem eq_of_key_eq (sorted : Ascending key items) (left : first ∈ items)
    (right : second ∈ items) (same : key first = key second) : first = second := by
  induction items with
  | nil => cases left
  | cons head rest ih =>
    obtain ⟨below, tail⟩ := List.pairwise_cons.mp sorted
    rcases List.mem_cons.mp left with rfl | leftLater
    · rcases List.mem_cons.mp right with rfl | rightLater
      · rfl
      · exact absurd same (below _ rightLater).ne
    · rcases List.mem_cons.mp right with rfl | rightLater
      · exact absurd same.symm (below _ leftLater).ne
      · exact ih tail leftLater rightLater

theorem head_le (sorted : Ascending key items) (isHead : items.head? = some first)
    (member : item ∈ items) : key first ≤ key item := by
  cases items with
  | nil => cases member
  | cons head rest =>
    obtain rfl : head = first := by simpa using isHead
    rcases List.mem_cons.mp member with rfl | later
    · exact le_rfl
    · exact (List.pairwise_cons.mp sorted).1 _ later |>.le

end Ascending

/-- Sorting items with distinct keys lists them. -/
theorem ascending_insertionSort {items : List α} (distinct : (items.map key).Nodup) :
    Ascending key (items.insertionSort (fun left right => key left ≤ key right)) := by
  let order : α → α → Prop := fun left right => key left ≤ key right
  have total : Std.Total order := ⟨fun left right => le_total (key left) (key right)⟩
  have transitive : IsTrans α order := ⟨fun _ _ _ => le_trans⟩
  have sorted := List.pairwise_insertionSort order items
  have nodup : ((items.insertionSort order).map key).Nodup :=
    ((List.perm_insertionSort order items).map key).nodup_iff.mpr distinct
  have apart : (items.insertionSort order).Pairwise (fun left right => key left ≠ key right) :=
    List.pairwise_map.mp nodup
  exact (sorted.and apart).imp (fun both => lt_of_le_of_ne both.1 both.2)

end Listing

end ContextRelay.Library
