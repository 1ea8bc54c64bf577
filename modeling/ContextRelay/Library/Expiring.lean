import Mathlib

/-! Bounded queues of keys that expire. Expired entries are taken from the front only, an entry may
be taken out by its key, and a push at full capacity evicts the oldest. An entry that has not
expired is lost only when it is taken out or when enough other keys have been pushed behind it. -/
namespace ContextRelay.Library

structure Expiring (κ : Type u) where
  key : κ
  expiresAt : Nat
deriving DecidableEq

namespace Expiring

variable {κ : Type u} [DecidableEq κ]

def removeExpired (now : Nat) (entries : List (Expiring κ)) : List (Expiring κ) :=
  entries.dropWhile fun entry => entry.expiresAt ≤ now

def removeKey (key : κ) (entries : List (Expiring κ)) : List (Expiring κ) :=
  entries.eraseP fun entry => entry.key = key

def holds (key : κ) (entries : List (Expiring κ)) : Bool :=
  entries.any fun entry => entry.key = key

def pushBounded (capacity : Nat) (entry : Expiring κ) (entries : List (Expiring κ)) :
    List (Expiring κ) :=
  (if entries.length = capacity then entries.tail else entries) ++ [entry]

variable {entries : List (Expiring κ)} {entry : Expiring κ} {key : κ} {now : Nat}

theorem holds_iff : holds key entries = true ↔ key ∈ entries.map Expiring.key := by
  simp only [holds, List.any_eq_true, decide_eq_true_eq, List.mem_map]

omit [DecidableEq κ] in
theorem removeExpired_sublist (now : Nat) (entries : List (Expiring κ)) :
    (removeExpired now entries).Sublist entries :=
  List.dropWhile_sublist _

theorem removeKey_sublist (key : κ) (entries : List (Expiring κ)) :
    (removeKey key entries).Sublist entries :=
  List.eraseP_sublist

/-- The entries expire in the order in which they stand. -/
def InOrder (entries : List (Expiring κ)) : Prop :=
  entries.Pairwise fun first second => first.expiresAt ≤ second.expiresAt

omit [DecidableEq κ] in
/-- When the entries expire in order, looking at the front finds every expired one. -/
theorem removeExpired_eq_filter (ordered : InOrder entries) :
    removeExpired now entries = entries.filter fun entry => now < entry.expiresAt := by
  unfold removeExpired
  induction entries with
  | nil => rfl
  | cons entry entries ih =>
    obtain ⟨first, rest⟩ := List.pairwise_cons.mp ordered
    by_cases expired : entry.expiresAt ≤ now
    · rw [List.dropWhile_cons_of_pos (by simpa using expired),
        List.filter_cons_of_neg (by simpa using expired), ih rest]
    · rw [List.dropWhile_cons_of_neg (by simpa using expired), List.filter_eq_self.mpr]
      intro kept member
      rcases List.mem_cons.mp member with rfl | later
      · simpa using expired
      · have := first kept later
        simp only [decide_eq_true_eq]
        omega

omit [DecidableEq κ] in
theorem removeExpired_live (ordered : InOrder entries) (now : Nat) :
    ∀ entry ∈ removeExpired now entries, now < entry.expiresAt := by
  rw [removeExpired_eq_filter ordered]
  exact fun entry member => of_decide_eq_true (List.mem_filter.mp member).2

omit [DecidableEq κ] in
theorem removeExpired_of_live (live : ∀ entry ∈ entries, now < entry.expiresAt) :
    removeExpired now entries = entries := by
  cases entries with
  | nil => rfl
  | cons entry entries =>
    have := live entry List.mem_cons_self
    exact List.dropWhile_cons_of_neg (by simpa using this)

omit [DecidableEq κ] in
/-- Entries expire alike whether or not some of them are left out, and however often the expired
ones were removed before. -/
theorem filter_removeExpired (ordered : InOrder entries) (passed : earlier ≤ now)
    (keep : Expiring κ → Bool) :
    (removeExpired now entries).filter keep =
      removeExpired now ((removeExpired earlier entries).filter keep) := by
  have expired : InOrder ((removeExpired earlier entries).filter keep) :=
    ordered.sublist (List.filter_sublist.trans (removeExpired_sublist earlier entries))
  rw [removeExpired_eq_filter expired, removeExpired_eq_filter ordered,
    removeExpired_eq_filter ordered, List.filter_filter, List.filter_filter, List.filter_filter]
  refine List.filter_congr fun entry _ => ?_
  rw [Bool.eq_iff_iff]
  simp only [Bool.and_eq_true, decide_eq_true_eq]
  constructor
  · rintro ⟨kept, live⟩
    exact ⟨⟨live, kept⟩, by omega⟩
  · rintro ⟨⟨live, kept⟩, _⟩
    exact ⟨kept, live⟩

/-- Removing one key leaves the entries of another alone. -/
theorem filter_removeKey (key other : κ) (entries : List (Expiring κ)) :
    (removeKey other entries).filter (·.key = key) =
      if other = key then removeKey key (entries.filter (·.key = key))
      else entries.filter (·.key = key) := by
  unfold removeKey
  induction entries with
  | nil => simp
  | cons entry entries ih =>
    by_cases found : entry.key = other
    · rw [List.eraseP_cons_of_pos (by simpa using found)]
      split
      · next same =>
        rw [List.filter_cons_of_pos (by simp [found, same]),
          List.eraseP_cons_of_pos (by simp [found, same])]
      · next different => rw [List.filter_cons_of_neg (by simpa [found] using different)]
    · rw [List.eraseP_cons_of_neg (by simpa using found)]
      by_cases kept : entry.key = key
      · rw [List.filter_cons_of_pos (by simpa using kept), ih,
          List.filter_cons_of_pos (by simpa using kept), if_neg (kept ▸ Ne.symm found),
          if_neg (kept ▸ Ne.symm found)]
      · rw [List.filter_cons_of_neg (by simpa using kept), ih,
          List.filter_cons_of_neg (by simpa using kept)]

theorem holds_filter (key : κ) (entries : List (Expiring κ)) :
    holds key (entries.filter (·.key = key)) = holds key entries := by
  rw [Bool.eq_iff_iff, holds_iff, holds_iff]
  simp [List.mem_map, List.mem_filter]

/-- A push that does not evict a key adds at most its own entry to those of the key. -/
theorem filter_pushBounded (distinct : (entries.map Expiring.key).Nodup)
    (absent : holds entry.key entries = false)
    (kept : holds key entries = true → holds key (pushBounded capacity entry entries) = true) :
    (pushBounded capacity entry entries).filter (·.key = key) =
      entries.filter (·.key = key) ++ if entry.key = key then [entry] else [] := by
  have own : [entry].filter (·.key = key) = if entry.key = key then [entry] else [] := by
    simp [List.filter_cons]
  unfold pushBounded at kept ⊢
  split
  · next full =>
    rw [if_pos full] at kept
    rw [List.filter_append, own]
    cases entries with
    | nil => rfl
    | cons first rest =>
      -- The first entry is dropped, so it is not the key's.
      have different : first.key ≠ key := by
        rintro rfl
        have left := holds_iff.mp (kept (holds_iff.mpr List.mem_cons_self))
        rw [List.map_append, List.mem_append] at left
        rcases left with later | pushed
        · exact (List.nodup_cons.mp distinct).1 later
        · rw [← List.mem_singleton.mp pushed, holds_iff.mpr List.mem_cons_self] at absent
          cases absent
      rw [List.tail_cons, List.filter_cons_of_neg (by simpa using different)]
  · rw [List.filter_append, own]

/-- The keys stay distinct when a new one is pushed. -/
theorem nodup_pushBounded (capacity : Nat) (distinct : (entries.map Expiring.key).Nodup)
    (absent : holds entry.key entries = false) :
    ((pushBounded capacity entry entries).map Expiring.key).Nodup := by
  have missing : entry.key ∉ entries.map Expiring.key := by
    rw [← holds_iff, absent]
    exact Bool.false_ne_true
  have shorter : (if entries.length = capacity then entries.tail else entries).Sublist entries := by
    split
    · exact List.tail_sublist entries
    · exact .refl entries
  rw [pushBounded, List.map_append, List.nodup_append]
  refine ⟨distinct.sublist (shorter.map _), List.nodup_singleton _, ?_⟩
  rintro kept member pushed isPushed rfl
  rw [List.map_singleton, List.mem_singleton] at isPushed
  exact missing (isPushed ▸ (shorter.map _).subset member)

/-- The key waits in the queue until after the given time, and every key behind it is one of the
others. -/
def Waits (key : κ) (deadline : Nat) (others : Finset κ) (entries : List (Expiring κ)) : Prop :=
  ∃ front entry back, entries = front ++ entry :: back ∧ entry.key = key ∧
    deadline < entry.expiresAt ∧ ∀ later ∈ back, later.key ∈ others

variable {deadline : Nat} {others more : Finset κ}

omit [DecidableEq κ] in
theorem Waits.mono (waits : Waits key deadline others entries) (subset : others ⊆ more) :
    Waits key deadline more entries := by
  obtain ⟨front, entry, back, split, same, unexpired, behind⟩ := waits
  exact ⟨front, entry, back, split, same, unexpired, fun later member =>
    subset (behind later member)⟩

theorem Waits.holds (waits : Waits key deadline others entries) :
    Expiring.holds key entries = true := by
  obtain ⟨front, entry, back, rfl, same, _⟩ := waits
  simp [holds_iff, same]

omit [DecidableEq κ] in
theorem Waits.removeExpired (waits : Waits key deadline others entries) (early : now ≤ deadline) :
    Waits key deadline others (removeExpired now entries) := by
  obtain ⟨front, entry, back, rfl, same, unexpired, behind⟩ := waits
  refine ⟨front.dropWhile fun entry => entry.expiresAt ≤ now, entry, back, ?_, same, unexpired,
    behind⟩
  unfold Expiring.removeExpired
  induction front with
  | nil => exact List.dropWhile_cons_of_neg (by simp; omega)
  | cons first front ih =>
    rw [List.cons_append, List.dropWhile_cons, List.dropWhile_cons]
    split
    · exact ih
    · rfl

theorem Waits.removeKey (waits : Waits key deadline others entries) (different : other ≠ key) :
    Waits key deadline others (removeKey other entries) := by
  obtain ⟨front, entry, back, rfl, same, unexpired, behind⟩ := waits
  unfold Expiring.removeKey
  rw [List.eraseP_append]
  split
  · exact ⟨_, entry, back, rfl, same, unexpired, behind⟩
  · rw [List.eraseP_cons_of_neg (by simpa [same] using different.symm)]
    exact ⟨front, entry, _, rfl, same, unexpired, fun later member =>
      behind later (List.eraseP_sublist.subset member)⟩

/-- A push loses the waiting key only when the others fill the queue. -/
theorem Waits.pushBounded (waits : Waits key deadline others entries)
    (distinct : (entries.map Expiring.key).Nodup)
    (absent : Expiring.holds entry.key entries = false) :
    Waits key deadline (insert entry.key others) (pushBounded capacity entry entries) ∨
      capacity ≤ (insert entry.key others).card := by
  obtain ⟨front, waiting, back, rfl, same, unexpired, behind⟩ := waits
  have pushedBehind : ∀ later ∈ back ++ [entry], later.key ∈ insert entry.key others := by
    intro later member
    rcases List.mem_append.mp member with old | new
    · exact Finset.mem_insert_of_mem (behind later old)
    · rw [List.mem_singleton.mp new]
      exact Finset.mem_insert_self _ _
  unfold Expiring.pushBounded
  by_cases full : (front ++ waiting :: back).length = capacity
  · rw [if_pos full]
    cases front with
    | cons first front =>
      exact .inl ⟨front, waiting, back ++ [entry], by simp, same, unexpired, pushedBehind⟩
    | nil =>
      -- The waiting key is the oldest: all the others stand behind it.
      right
      have missing : entry.key ∉ (waiting :: back).map Expiring.key := by
        rw [← holds_iff]
        simpa using absent
      rw [List.nil_append, List.map_cons, List.nodup_cons] at distinct
      rw [List.map_cons, List.mem_cons, not_or] at missing
      have covered : (back.map Expiring.key).toFinset ⊆ others := by
        intro found member
        obtain ⟨later, inBack, rfl⟩ := List.mem_map.mp (List.mem_toFinset.mp member)
        exact behind later inBack
      have fresh : entry.key ∉ (back.map Expiring.key).toFinset := by
        rw [List.mem_toFinset]
        exact missing.2
      have counted := Finset.card_le_card (Finset.insert_subset_insert entry.key covered)
      rw [Finset.card_insert_of_notMem fresh, List.toFinset_card_of_nodup distinct.2,
        List.length_map] at counted
      rw [List.nil_append, List.length_cons] at full
      omega
  · rw [if_neg full]
    exact .inl ⟨front, waiting, back ++ [entry], by simp, same, unexpired, pushedBehind⟩

end Expiring

end ContextRelay.Library
