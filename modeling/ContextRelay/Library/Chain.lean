import Mathlib

/-! Hash-linked sequences: each item names the digest of the one before it, and the first
names a fixed starting digest. -/
namespace ContextRelay.Library

/-- `items` is linked from the digest `start`; following it ends at the digest `final`. -/
inductive Linked {α : Type u} {δ : Type v} (previous hash : α → δ) : δ → List α → δ → Prop where
  | nil (start : δ) : Linked previous hash start [] start
  | cons {start final : δ} {item : α} {rest : List α} (link : previous item = start)
      (tail : Linked previous hash (hash item) rest final) :
      Linked previous hash start (item :: rest) final

namespace Linked

variable {α : Type u} {δ : Type v} {previous hash : α → δ}

section

variable {start final : δ} {items : List α}

theorem append {middle : δ} {first second : List α} (left : Linked previous hash start first middle)
    (right : Linked previous hash middle second final) :
    Linked previous hash start (first ++ second) final := by
  induction left with
  | nil => simpa using right
  | cons link _ ih => exact .cons link (ih right)

/-- One more item that names the digest the sequence ends at. -/
theorem snoc {item : α} (chain : Linked previous hash start items final)
    (link : previous item = final) :
    Linked previous hash start (items ++ [item]) (hash item) :=
  chain.append (.cons link (.nil _))

/-- A sequence ends at the digest of its last item. -/
theorem final_eq (chain : Linked previous hash start items final) :
    final = (items.getLast?.map hash).getD start := by
  induction chain with
  | nil => rfl
  | cons link tail ih =>
    rename_i rest
    cases rest with
    | nil => simpa using ih
    | cons next later =>
      rw [ih, List.getLast?_cons_cons]
      cases final : (next :: later).getLast? with
      | none => simp at final
      | some last => rfl

/-- The first item names the digest the sequence starts at. -/
theorem first (chain : Linked previous hash start items final) (found : items[0]? = some item) : previous item = start := by
  cases chain with
  | nil => simp at found
  | cons link _ =>
    obtain rfl := Option.some.inj found
    exact link

/-- An item names the digest of the one before it. -/
theorem consecutive (chain : Linked previous hash start items final)
    (before : items[n]? = some item) (after : items[n + 1]? = some next) : previous next = hash item := by
  induction chain generalizing n with
  | nil => simp at before
  | cons link tail ih =>
    cases n with
    | zero =>
      obtain rfl := Option.some.inj before
      exact tail.first after
    | succ n => exact ih before after

end

end Linked
end ContextRelay.Library
