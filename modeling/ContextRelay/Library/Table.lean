import Mathlib

/-! Tables with a primary key, as a relational store keeps them. The rows are held
in strictly ascending key order, so a query without further ordering reads them in
key order and two tables that answer every point query alike are the same table. -/
namespace ContextRelay.Library

/-- A table: its rows in strictly ascending key order. Two rows with one key, or
rows out of order, cannot be built. -/
structure Table (κ : Type u) (ν : Type v) [LinearOrder κ] where
  rows : List (κ × ν)
  ordered : rows.Pairwise (fun left right => left.1 < right.1)

namespace Table

variable {κ : Type u} {ν : Type v} [LinearOrder κ]

/-- The row lookup behind `find?`. -/
def findRow : List (κ × ν) → κ → Option ν
  | [], _ => none
  | row :: rest, key => if row.1 = key then some row.2 else findRow rest key

/-- The row insertion behind `upsert`: one pass that replaces the row of an equal key. -/
def putRow (key : κ) (value : ν) : List (κ × ν) → List (κ × ν)
  | [] => [(key, value)]
  | row :: rest =>
    if key < row.1 then (key, value) :: row :: rest
    else if row.1 = key then (key, value) :: rest
    else row :: putRow key value rest

section

variable {rows : List (κ × ν)} {table : Table κ ν} {place : ν → κ} {pick : κ × ν → Option β}

theorem mem_putRow (member : row ∈ putRow key value rows) : row = (key, value) ∨ row ∈ rows := by
  induction rows with
  | nil => simpa [putRow] using member
  | cons first rest ih =>
    unfold putRow at member
    split at member
    · simpa using member
    · split at member
      · rcases List.mem_cons.mp member with same | later
        · exact Or.inl same
        · exact Or.inr (List.mem_cons_of_mem _ later)
      · rcases List.mem_cons.mp member with same | later
        · exact Or.inr (by simp [same])
        · exact (ih later).imp_right (List.mem_cons_of_mem _)

theorem putRow_ordered (key : κ) (value : ν)
    (ordered : rows.Pairwise (fun left right => left.1 < right.1)) :
    (putRow key value rows).Pairwise (fun left right => left.1 < right.1) := by
  induction rows with
  | nil => simp [putRow]
  | cons first rest ih =>
    obtain ⟨before, tail⟩ := List.pairwise_cons.mp ordered
    unfold putRow
    split
    · rename_i lower
      refine List.pairwise_cons.mpr ⟨?_, ordered⟩
      intro row member
      rcases List.mem_cons.mp member with rfl | later
      · exact lower
      · exact lower.trans (before row later)
    · rename_i notLower
      split
      · rename_i same
        subst same
        exact List.pairwise_cons.mpr ⟨before, tail⟩
      · rename_i different
        refine List.pairwise_cons.mpr ⟨?_, ih tail⟩
        intro row member
        rcases mem_putRow member with rfl | later
        · exact lt_of_le_of_ne (not_lt.mp notLower) different
        · exact before row later

/-- The table without rows. -/
def empty : Table κ ν := ⟨[], List.Pairwise.nil⟩

/-- The point query by primary key. -/
def find? (table : Table κ ν) (key : κ) : Option ν := findRow table.rows key

/-- Insert a row, or replace the row that has its key. -/
def upsert (table : Table κ ν) (key : κ) (value : ν) : Table κ ν :=
  ⟨putRow key value table.rows, putRow_ordered key value table.ordered⟩

/-- Insert a row whose key must be new: `none` is the primary-key conflict. -/
def insert? (table : Table κ ν) (key : κ) (value : ν) : Option (Table κ ν) :=
  if (table.find? key).isSome then none else some (table.upsert key value)

/-- The rows that satisfy a condition, still in key order. -/
def select (table : Table κ ν) (keep : κ → ν → Bool) : Table κ ν :=
  ⟨table.rows.filter (fun row => keep row.1 row.2), table.ordered.filter _⟩

/-- Delete the row of one key. -/
def erase (table : Table κ ν) (key : κ) : Table κ ν :=
  table.select (fun other _ => !decide (other = key))

/-- Keep and rewrite the rows a function picks; keys stay. -/
def choose (table : Table κ ν) (pick : κ → ν → Option μ) : Table κ μ :=
  ⟨table.rows.filterMap (fun row => (pick row.1 row.2).map (fun value => (row.1, value))), by
    refine table.ordered.filterMap _ ?_
    intro left right lower leftRow leftPicked rightRow rightPicked
    obtain ⟨_, _, rfl⟩ := Option.map_eq_some_iff.mp leftPicked
    obtain ⟨_, _, rfl⟩ := Option.map_eq_some_iff.mp rightPicked
    exact lower⟩

/-- The keys, in ascending order. -/
def keys (table : Table κ ν) : List κ := table.rows.map Prod.fst

/-- The values, in the order of their keys. -/
def values (table : Table κ ν) : List ν := table.rows.map Prod.snd

/-- The number of rows. -/
def size (table : Table κ ν) : Nat := table.rows.length

/-- The table of the given values, each under its own key; a later value replaces an earlier one. -/
def ofValues (place : ν → κ) (values : List ν) : Table κ ν :=
  values.foldl (fun table value => table.upsert (place value) value) empty

/-! ## Point queries -/

private theorem findRow_eq_some (ordered : rows.Pairwise (fun left right => left.1 < right.1)) :
    findRow rows key = some value ↔ (key, value) ∈ rows := by
  induction rows with
  | nil => simp [findRow]
  | cons first rest ih =>
    obtain ⟨before, tail⟩ := List.pairwise_cons.mp ordered
    unfold findRow
    split
    · rename_i same
      constructor
      · intro found
        have value_eq : first.2 = value := by simpa using found
        simp [← same, ← value_eq]
      · intro member
        rcases List.mem_cons.mp member with rfl | later
        · rfl
        · have lower := before _ later
          rw [same] at lower
          exact absurd lower (lt_irrefl _)
    · rename_i different
      rw [ih tail, List.mem_cons]
      constructor
      · exact Or.inr
      · rintro (rfl | later)
        · exact absurd rfl different
        · exact later

theorem find?_eq_some (table : Table κ ν) :
    table.find? key = some value ↔ (key, value) ∈ table.rows :=
  findRow_eq_some table.ordered

theorem find?_eq_none (table : Table κ ν) :
    table.find? key = none ↔ ∀ value, (key, value) ∉ table.rows := by
  rw [Option.eq_none_iff_forall_ne_some]
  exact forall_congr' fun value => not_congr table.find?_eq_some

theorem mem_keys (table : Table κ ν) : key ∈ table.keys ↔ (table.find? key).isSome := by
  rw [Option.isSome_iff_exists]
  simp only [keys, List.mem_map, table.find?_eq_some]
  constructor
  · rintro ⟨row, member, rfl⟩
    exact ⟨row.2, member⟩
  · rintro ⟨value, member⟩
    exact ⟨_, member, rfl⟩

/-- Point queries determine the table. -/
theorem ext_find? {left right : Table κ ν}
    (agree : ∀ key, left.find? key = right.find? key) : left = right := by
  have members : ∀ row, row ∈ left.rows ↔ row ∈ right.rows := by
    intro row
    rw [← left.find?_eq_some, ← right.find?_eq_some, agree]
  have leftNodup : left.rows.Nodup := left.ordered.imp (fun lower same => by simp [same] at lower)
  have rightNodup : right.rows.Nodup := right.ordered.imp (fun lower same => by simp [same] at lower)
  have permuted := (List.perm_ext_iff_of_nodup leftNodup rightNodup).mpr members
  have same := permuted.eq_of_pairwise
    (fun a b _ _ lower higher => absurd lower (not_lt.mpr higher.le)) left.ordered right.ordered
  cases left
  cases right
  simpa using same

@[simp] theorem find?_empty (key : κ) : (empty : Table κ ν).find? key = none := rfl

private theorem findRow_putRow (rows : List (κ × ν)) (key : κ) (value : ν) (other : κ) :
    findRow (putRow key value rows) other =
      if key = other then some value else findRow rows other := by
  induction rows with
  | nil => simp [putRow, findRow]
  | cons first rest ih =>
    unfold putRow
    split
    · by_cases same : key = other
      · simp [findRow, same]
      · simp [findRow, same]
    · split
      · rename_i same
        subst same
        by_cases found : first.1 = other <;> simp [findRow, found]
      · rename_i different
        by_cases found : first.1 = other
        · have apart : key ≠ other := fun same => different (found.trans same.symm)
          simp [findRow, found, apart]
        · simp [findRow, found, ih]

theorem find?_upsert (table : Table κ ν) (key : κ) (value : ν) (other : κ) :
    (table.upsert key value).find? other =
      if key = other then some value else table.find? other :=
  findRow_putRow table.rows key value other

@[simp] theorem find?_upsert_self (table : Table κ ν) (key : κ) (value : ν) :
    (table.upsert key value).find? key = some value := by
  simp [find?_upsert]

theorem find?_upsert_of_ne (table : Table κ ν) (value : ν) (different : key ≠ other) :
    (table.upsert key value).find? other = table.find? other := by
  simp [find?_upsert, different]

theorem insert?_eq_some :
    table.insert? key value = some inserted ↔
      table.find? key = none ∧ inserted = table.upsert key value := by
  unfold insert?
  split
  · rename_i present
    simp only [reduceCtorEq, false_iff, not_and]
    intro absent
    simp [absent] at present
  · rename_i absent
    simp only [Option.some.injEq, eq_comm (a := inserted)]
    have none_eq : table.find? key = none := by simpa using absent
    simp [none_eq]

theorem find?_select (table : Table κ ν) (keep : κ → ν → Bool) (key : κ) :
    (table.select keep).find? key = (table.find? key).filter (keep key) := by
  apply Option.ext
  intro value
  rw [Option.filter_eq_some_iff, find?_eq_some, find?_eq_some]
  simp [select, List.mem_filter]

theorem find?_erase (table : Table κ ν) (key other : κ) :
    (table.erase key).find? other = if key = other then none else table.find? other := by
  unfold erase
  rw [find?_select]
  by_cases same : key = other
  · subst same
    cases table.find? key <;> simp [Option.filter]
  · have apart : ¬ other = key := fun equal => same equal.symm
    cases table.find? other <;> simp [Option.filter, same, apart]

@[simp] theorem find?_erase_self (table : Table κ ν) (key : κ) :
    (table.erase key).find? key = none := by
  simp [find?_erase]

theorem find?_erase_of_ne (table : Table κ ν) (different : key ≠ other) :
    (table.erase key).find? other = table.find? other := by
  simp [find?_erase, different]

theorem find?_choose (table : Table κ ν) (pick : κ → ν → Option μ) (key : κ) :
    (table.choose pick).find? key = (table.find? key).bind (pick key) := by
  apply Option.ext
  intro value
  rw [find?_eq_some, Option.bind_eq_some_iff]
  simp only [choose, List.mem_filterMap, Option.map_eq_some_iff, Prod.mk.injEq]
  constructor
  · rintro ⟨row, member, picked, pickedRow, rfl, rfl⟩
    exact ⟨row.2, table.find?_eq_some.mpr member, pickedRow⟩
  · rintro ⟨old, found, picked⟩
    exact ⟨(key, old), table.find?_eq_some.mp found, value, picked, rfl, rfl⟩

theorem find?_foldl_erase (table : Table κ ν) (place : α → κ) (items : List α) (key : κ) :
    (items.foldl (fun remaining item => remaining.erase (place item)) table).find? key =
      if key ∈ items.map place then none else table.find? key := by
  induction items generalizing table with
  | nil => simp
  | cons item rest ih =>
    rw [List.foldl_cons, ih, find?_erase]
    by_cases first : place item = key
    · simp [first]
    · simp [first, Ne.symm first]

private theorem find?_foldl_upsert {values : List ν}
    (distinct : values.Pairwise (fun left right => place left ≠ place right)) (table : Table κ ν) :
    (values.foldl (fun table value => table.upsert (place value) value) table).find? key =
        some value ↔
      (value ∈ values ∧ place value = key) ∨
        ((∀ other ∈ values, place other ≠ key) ∧ table.find? key = some value) := by
  induction values generalizing table with
  | nil => simp
  | cons first rest ih =>
    obtain ⟨apart, tail⟩ := List.pairwise_cons.mp distinct
    rw [List.foldl_cons, ih tail, find?_upsert]
    by_cases same : place first = key
    · subst same
      have fresh : ∀ other ∈ rest, place other ≠ place first := fun other member equal =>
        apart other member equal.symm
      simp only [if_true, Option.some.injEq, List.mem_cons, forall_eq_or_imp, ne_eq,
        not_true_eq_false, false_and, or_false]
      constructor
      · rintro (⟨member, place⟩ | ⟨_, rfl⟩)
        · exact ⟨.inr member, place⟩
        · exact ⟨.inl rfl, rfl⟩
      · rintro ⟨rfl | member, place⟩
        · exact .inr ⟨fresh, rfl⟩
        · exact .inl ⟨member, place⟩
    · simp only [List.mem_cons, forall_eq_or_imp, ne_eq, same, not_false_eq_true, true_and]
      constructor
      · rintro (⟨member, place⟩ | other)
        · exact .inl ⟨.inr member, place⟩
        · exact .inr other
      · rintro (⟨rfl | member, place⟩ | other)
        · exact absurd place same
        · exact .inl ⟨member, place⟩
        · exact .inr other

theorem find?_ofValues {values : List ν}
    (distinct : values.Pairwise (fun left right => place left ≠ place right)) :
    (ofValues place values).find? key = some value ↔ value ∈ values ∧ place value = key := by
  rw [ofValues, find?_foldl_upsert distinct]
  simp

/-- A table whose rows stand under their own keys is the table of its values. -/
theorem ofValues_values (own : ∀ row ∈ table.rows, row.1 = place row.2) : ofValues place table.values = table := by
  have distinct : table.values.Pairwise (fun left right => place left ≠ place right) := by
    refine List.pairwise_map.mpr (table.ordered.imp_of_mem ?_)
    intro left right leftMember rightMember lower
    rw [← own left leftMember, ← own right rightMember]
    exact lower.ne
  apply ext_find?
  intro key
  apply Option.ext
  intro value
  rw [find?_ofValues distinct, find?_eq_some]
  constructor
  · rintro ⟨member, rfl⟩
    obtain ⟨row, rowMember, rfl⟩ := List.mem_map.mp member
    rw [← own row rowMember]
    exact rowMember
  · intro member
    exact ⟨List.mem_map.mpr ⟨_, member, rfl⟩, (own _ member).symm⟩

/-- Leaving out the values of one key is deleting its row. -/
theorem values_erase (own : ∀ row ∈ table.rows, row.1 = place row.2) (key : κ) :
    (table.erase key).values = table.values.filter fun value => decide (place value ≠ key) := by
  rw [values, values, List.filter_map, erase, select]
  congr 1
  apply List.filter_congr
  intro row member
  simp [own row member]

/-! ## The number of rows -/

theorem size_putRow (absent : ∀ other, (key, other) ∉ rows) :
    (putRow key value rows).length = rows.length + 1 := by
  induction rows with
  | nil => rfl
  | cons first rest ih =>
    have apart : first.1 ≠ key := by
      rintro rfl
      exact absent first.2 (List.mem_cons_self ..)
    unfold putRow
    split
    · simp
    · rw [List.length_cons, List.length_cons,
        ih (fun other member => absent other (List.mem_cons_of_mem _ member))]

theorem rows_upsert_empty (key : κ) (value : α) :
    (empty.upsert key value : Table κ α).rows = [(key, value)] := rfl

theorem size_upsert_empty (key : κ) (value : α) : (empty.upsert key value : Table κ α).size = 1 := rfl

theorem size_upsert_of_absent (absent : table.find? key = none) (value : ν) :
    (table.upsert key value).size = table.size + 1 :=
  size_putRow (table.find?_eq_none.mp absent)

/-- A key above all others goes to the end. -/
theorem putRow_of_greater (greater : ∀ row ∈ rows, row.1 < key) : putRow key value rows = rows ++ [(key, value)] := by
  induction rows with
  | nil => rfl
  | cons row rest ih =>
    have above := greater row (by simp)
    rw [putRow, if_neg above.not_gt, if_neg above.ne,
      ih fun other member => greater other (by simp [member]), List.cons_append]

theorem rows_insert? (greater : ∀ row ∈ table.rows, row.1 < key)
    (placed : table.insert? key value = some inserted) :
    inserted.rows = table.rows ++ [(key, value)] := by
  obtain ⟨_, rfl⟩ := insert?_eq_some.mp placed
  exact putRow_of_greater greater

/-- One more row at the end raises the bound on numbered rows by one. -/
theorem rows_lt_succ {table after : Table Nat ν} {value : ν}
    (below : ∀ row ∈ table.rows, row.1 < offset)
    (rows : after.rows = table.rows ++ [(offset, value)]) :
    ∀ row ∈ after.rows, row.1 < offset + 1 := by
  intro row member
  rw [rows] at member
  rcases List.mem_append.mp member with old | new
  · exact Nat.lt_succ_of_lt (below row old)
  · obtain rfl := List.mem_singleton.mp new
    exact Nat.lt_succ_self offset

theorem exists_two_of_size (several : 2 ≤ table.size) :
    ∃ first second, first ≠ second ∧ (table.find? first).isSome ∧ (table.find? second).isSome := by
  obtain ⟨rows, ordered⟩ := table
  match rows, ordered, several with
  | first :: second :: rest, ordered, _ =>
    have apart : first.1 < second.1 := (List.pairwise_cons.mp ordered).1 second (by simp)
    refine ⟨first.1, second.1, apart.ne, ?_, ?_⟩ <;> rw [← mem_keys] <;> simp [keys]

theorem size_erase_of_found (found : table.find? key = some value) :
    (table.erase key).size + 1 = table.size := by
  have back : (table.erase key).upsert key value = table := by
    apply ext_find?
    intro other
    rw [find?_upsert, find?_erase]
    by_cases same : key = other
    · subst same
      rw [if_pos rfl, found]
    · rw [if_neg same, if_neg same]
  rw [← size_upsert_of_absent (table.find?_erase_self key) value, back]

/-! ## Queries over all rows -/

theorem mem_filterMap_rows :
    item ∈ table.rows.filterMap pick ↔
      ∃ key value, table.find? key = some value ∧ pick (key, value) = some item := by
  simp only [List.mem_filterMap, Prod.exists, find?_eq_some]

/-- The answers to a query are in the order of the keys they come from. -/
theorem pairwise_filterMap_rows {before : β → β → Prop}
    (respects : ∀ left right first second, left.1 < right.1 → pick left = some first →
      pick right = some second → before first second) :
    (table.rows.filterMap pick).Pairwise before := by
  refine table.ordered.filterMap _ ?_
  intro left right lower first firstPicked second secondPicked
  exact respects left right first second lower firstPicked secondPicked

theorem filterMap_rows_eq (table : Table κ ν) (pick : κ × ν → Option β) :
    table.rows.filterMap pick = (table.choose (fun key value => pick (key, value))).values := by
  simp only [values, choose, List.map_filterMap]
  congr 1
  funext row
  cases picked : pick (row.1, row.2) <;> simp_all

/-- Two queries give the same answers when they do so row by row. -/
theorem filterMap_rows_congr {other : Table κ μ}
    (agree : ∀ key, ((table.find? key).bind fun value => pick (key, value)) = (other.find? key).bind fun value => pickOther (key, value)) :
    table.rows.filterMap pick = other.rows.filterMap pickOther := by
  rw [filterMap_rows_eq, filterMap_rows_eq]
  congr 1
  apply ext_find?
  intro key
  rw [find?_choose, find?_choose]
  exact agree key

end

end Table

/-- Among items with distinct keys, a search for an item's key finds the item. -/
theorem find?_of_nodup_map [DecidableEq β] {key : α → β} {items : List α} {item : α}
    (distinct : (items.map key).Nodup) (member : item ∈ items) :
    items.find? (fun other => decide (key other = key item)) = some item := by
  induction items with
  | nil => cases member
  | cons first rest ih =>
    obtain ⟨fresh, distinctRest⟩ := List.nodup_cons.mp distinct
    rcases List.mem_cons.mp member with rfl | later
    · simp
    · have other : key first ≠ key item := by
        intro same
        exact fresh (same ▸ List.mem_map_of_mem later)
      rw [List.find?_cons_of_neg (by simpa using other)]
      exact ih distinctRest later

/-- Lists with the same images are the same, where the function keeps their items apart. -/
theorem eq_of_map_eq {left right : List α}
    (apart : ∀ item ∈ left, ∀ other ∈ right, image item = image other → item = other)
    (same : left.map image = right.map image) : left = right := by
  induction left generalizing right with
  | nil => exact (List.map_eq_nil_iff.mp same.symm).symm
  | cons item rest ih =>
    cases right with
    | nil => cases same
    | cons other others =>
      obtain ⟨first, later⟩ := List.cons.inj same
      rw [apart item (by simp) other (by simp) first, ih ?_ later]
      intro inner member outer among
      exact apart inner (by simp [member]) outer (by simp [among])

end ContextRelay.Library
