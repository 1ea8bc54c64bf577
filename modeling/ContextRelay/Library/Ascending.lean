import Mathlib

/-! Ascending lists: prefixes of a sorted list, lists of consecutive numbers, and the
greatest number of a list. -/
namespace ContextRelay.Library

/-- A prefix of a sorted list holds everything that is not above one of its members. -/
theorem mem_take_of_lower {before : α → α → Prop} {items : List α}
    (sorted : items.Pairwise before) (taken : high ∈ items.take count) (member : low ∈ items)
    (lower : ¬ before high low) : low ∈ items.take count := by
  rw [← List.take_append_drop count items] at sorted member
  rcases List.mem_append.mp member with early | late
  · exact early
  · exact absurd ((List.pairwise_append.mp sorted).2.2 high taken low late) lower

/-- Ascending numbers above a bound that leave none out are consecutive. -/
theorem eq_range'_of_closed (ascending : numbers.Pairwise (· < ·))
    (above : ∀ n ∈ numbers, bound < n)
    (closed : ∀ n ∈ numbers, ∀ m, bound < m → m < n → m ∈ numbers) :
    numbers = List.range' (bound + 1) numbers.length := by
  induction numbers generalizing bound with
  | nil => rfl
  | cons first rest ih =>
    obtain ⟨lowest, tail⟩ := List.pairwise_cons.mp ascending
    have first_eq : first = bound + 1 := by
      have past := above first (by simp)
      by_contra different
      have skipped := closed first (by simp) (bound + 1) (by omega) (by omega)
      rcases List.mem_cons.mp skipped with same | later
      · exact different same.symm
      · have higher := lowest _ later
        omega
    rw [List.length_cons, List.range'_succ]
    subst first_eq
    congr 1
    refine ih tail lowest ?_
    intro n member m past lower
    rcases List.mem_cons.mp (closed n (by simp [member]) m (by omega) lower) with same | later
    · omega
    · exact later

/-- The greatest number of a list, or zero. -/
def greatest (numbers : List Nat) : Nat := numbers.foldr max 0

theorem le_greatest (member : n ∈ numbers) : n ≤ greatest numbers := by
  induction numbers with
  | nil => cases member
  | cons first rest ih =>
    rcases List.mem_cons.mp member with rfl | later
    · exact Nat.le_max_left ..
    · exact (ih later).trans (Nat.le_max_right ..)

theorem greatest_mem (positive : 0 < greatest numbers) : greatest numbers ∈ numbers := by
  induction numbers with
  | nil => simp [greatest] at positive
  | cons first rest ih =>
    have split : greatest (first :: rest) = max first (greatest rest) := rfl
    rw [split] at positive ⊢
    rcases le_total first (greatest rest) with lower | higher
    · rw [Nat.max_eq_right lower] at positive ⊢
      exact List.mem_cons_of_mem _ (ih positive)
    · rw [Nat.max_eq_left higher]
      simp

end ContextRelay.Library
