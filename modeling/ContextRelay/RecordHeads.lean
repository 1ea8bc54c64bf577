import ContextRelay.DeviceChain
import ContextRelay.Library.Undominated

/-! Record heads. A fresh operation either leaves the heads of its record alone or joins
them and removes the heads it follows; the conflict row names the two heads with the
least ids. -/
namespace ContextRelay

open Library

variable {P : Primitives} {v v' : Vault}

/-! ## Held operations and heads -/

/-- A signed operation of the vault, stored under its id and with metadata. -/
def Vault.Holds (v : Vault) (operation : SyncOperationV1) : Prop :=
  v.operations.find? operation.operationId = some ⟨operation.recordId, operation⟩ ∧
    (v.operationMeta.find? operation.operationId).isSome

/-- The operations at the heads of a record, by id. -/
def Vault.headOperations (v : Vault) (workspace : WorkspaceId) (record : RecordId) :
    List SyncOperationV1 :=
  (v.headRows workspace record).map (fun row => row.2.2)

/-- The conflict row of a record with these heads: the first two, if there are two. -/
def conflictOf : List SyncOperationV1 → Option ConflictRow
  | left :: right :: _ => some ⟨left, right⟩
  | _ => none

theorem conflictOf_isSome : (conflictOf heads).isSome ↔ 2 ≤ heads.length := by
  unfold conflictOf
  split
  · simp
  · rename_i short
    simp only [Option.isSome_none, Bool.false_eq_true, false_iff, not_le]
    match heads, short with
    | [], _ => simp
    | [_], _ => simp
    | left :: right :: rest, short => exact absurd rfl (short left right rest)

/-- Every head row is that of a held operation. -/
def Rooted (P : Primitives) (v : Vault) : Prop :=
  ∀ workspace record id row,
    v.recordHeads.find? (toLex (workspace, toLex (record, id))) = some row →
      ∃ operation, v.Holds operation ∧ operation.workspaceId = workspace ∧
        operation.recordId = record ∧ operation.operationId = id ∧
        row = headRow operation (operationDigest P operation)

/-- Heads are held operations, a held operation's record is owned, and the conflict row of
its record names the two first heads. -/
structure HeadInvariant (P : Primitives) (v : Vault) : Prop where
  rooted : Rooted P v
  owned : ∀ operation, v.Holds operation → v.recordOwners.find? operation.recordId =
    some ⟨operation.accountId, operation.workspaceId, operation.recordKind, .verified⟩
  conflict : ∀ operation, v.Holds operation → v.conflicts.find? operation.recordId =
    conflictOf (v.headOperations operation.workspaceId operation.recordId)

theorem Vault.Holds.eq_of_id_eq (left : v.Holds first) (right : v.Holds second)
    (same : first.operationId = second.operationId) : first = second := by
  have stored := left.1
  rw [same, right.1] at stored
  have rows : first.recordId = second.recordId ∧ first = second := by
    simpa using (Option.some.inj stored).symm
  exact rows.2

theorem headKey_inj : headKey left first = headKey right second ↔
    left.workspaceId = right.workspaceId ∧ left.recordId = right.recordId ∧ first = second := by
  simp [headKey]

theorem mem_headRows :
    item ∈ v.headRows workspace record ↔
    v.recordHeads.find? (toLex (workspace, toLex (record, item.1))) = some item.2.1 ∧
      ∃ row, v.operations.find? item.1 = some row ∧ row.operation = item.2.2 := by
  obtain ⟨id, head, operation⟩ := item
  unfold Vault.headRows
  rw [Table.mem_filterMap_rows]
  constructor
  · rintro ⟨key, value, found, picked⟩
    dsimp only at picked
    split at picked
    · rename_i place
      obtain ⟨row, stored, same⟩ := Option.map_eq_some_iff.mp picked
      obtain ⟨rfl, rfl⟩ := place
      simp only [Prod.mk.injEq] at same
      obtain ⟨rfl, rfl, rfl⟩ := same
      exact ⟨found, row, stored, rfl⟩
    · cases picked
  · rintro ⟨found, row, stored, rfl⟩
    exact ⟨_, head, found, by simp [stored]⟩

namespace Rooted

theorem mem_headOperations (rooted : Rooted P v) :
    operation ∈ v.headOperations workspace record ↔
      v.Holds operation ∧ operation.workspaceId = workspace ∧ operation.recordId = record ∧
        v.recordHeads.find? (headKey operation operation.operationId) =
          some (headRow operation (operationDigest P operation)) := by
  simp only [Vault.headOperations, List.mem_map, mem_headRows]
  constructor
  · rintro ⟨⟨id, row, found⟩, ⟨foundHead, stored, storedAt, rfl⟩, rfl⟩
    obtain ⟨operation, held, rfl, rfl, rfl, rfl⟩ := rooted _ _ _ _ foundHead
    obtain rfl : stored = ⟨operation.recordId, operation⟩ :=
      Option.some.inj (storedAt.symm.trans held.1)
    exact ⟨held, rfl, rfl, foundHead⟩
  · rintro ⟨held, rfl, rfl, found⟩
    exact ⟨(operation.operationId, _, operation), ⟨found, _, held.1, rfl⟩, rfl⟩

theorem headOperations_ascending (rooted : Rooted P v) :
    Ascending SyncOperationV1.operationId (v.headOperations workspace record) := by
  have byKey : (v.headRows workspace record).Pairwise (fun left right => left.1 < right.1) := by
    refine Table.pairwise_filterMap_rows ?_
    intro left right first second lower picked pickedSecond
    dsimp only at picked pickedSecond
    split at picked
    · split at pickedSecond
      · rename_i place placeSecond
        obtain ⟨_, _, rfl⟩ := Option.map_eq_some_iff.mp picked
        obtain ⟨_, _, rfl⟩ := Option.map_eq_some_iff.mp pickedSecond
        rw [Prod.Lex.lt_iff, Prod.Lex.lt_iff] at lower
        rcases lower with lower | ⟨_, lower | ⟨_, lower⟩⟩
        · exact absurd (place.1.trans placeSecond.1.symm) lower.ne
        · exact absurd (place.2.trans placeSecond.2.symm) lower.ne
        · exact lower
      · cases pickedSecond
    · cases picked
  have named : ∀ row ∈ v.headRows workspace record, row.2.2.operationId = row.1 := by
    intro row member
    obtain ⟨found, stored, storedAt, same⟩ := mem_headRows.mp member
    obtain ⟨operation, held, _, _, sameId, _⟩ := rooted _ _ _ _ found
    rw [← sameId, held.1] at storedAt
    obtain rfl := Option.some.inj storedAt
    rw [← same]
    exact sameId
  unfold Ascending Vault.headOperations
  rw [List.pairwise_map]
  refine byKey.imp_of_mem ?_
  intro left right leftMember rightMember lower
  rw [named left leftMember, named right rightMember]
  exact lower

end Rooted

/-! ## Loading heads -/

theorem storedRecordHead_ok (loaded : storedRecordHead P row = .ok head) :
    head.operation = row.2.2 ∧ head.operationId = row.1 ∧ head.operation.operationId = row.1 := by
  simp only [storedRecordHead, ok_iff] at loaded
  obtain ⟨_, _, _, ⟨sameId, _, _, _⟩, rfl⟩ := loaded
  exact ⟨rfl, rfl, sameId⟩

/-- Loaded heads are the head operations, under their ids. -/
theorem loadRecordHeads_ok (loaded : loadRecordHeads P v workspace record = .ok heads) :
    heads.map StoredRecordHead.operation = v.headOperations workspace record ∧
      ∀ head ∈ heads, head.operationId = head.operation.operationId := by
  rw [loadRecordHeads, collect_eq_ok] at loaded
  unfold Vault.headOperations
  generalize v.headRows workspace record = rows at loaded
  induction loaded with
  | nil => simp
  | cons first _ ih =>
    obtain ⟨same, sameId, ownId⟩ := storedRecordHead_ok first
    obtain ⟨sameRest, idsRest⟩ := ih
    constructor
    · rw [List.map_cons, List.map_cons, same, sameRest]
    · intro head member
      rcases List.mem_cons.mp member with rfl | later
      · rw [sameId, ownId]
      · exact idsRest head later

/-! ## Joining the heads -/

/-- The heads an operation does not follow. -/
def sparedHeads (operation : SyncOperationV1) (heads : List SyncOperationV1) :
    List SyncOperationV1 :=
  heads.filter (fun head => compareOperations operation head ≠ .after)

/-- The heads of a record after an operation joined them, by id. -/
def joinedHeads (operation : SyncOperationV1) (heads : List SyncOperationV1) :
    List SyncOperationV1 :=
  (sparedHeads operation heads ++ [operation]).insertionSort
    (fun left right => left.operationId ≤ right.operationId)

/-- The operation became a head of its record: the heads it follows went, and none of the
others is before it. -/
structure Joins (P : Primitives) (v v' : Vault) (operation : SyncOperationV1) : Prop where
  newest : ∀ head ∈ v.headOperations operation.workspaceId operation.recordId,
    compareOperations operation head = .after ∨ compareOperations operation head = .concurrent
  heads : ∀ key, v'.recordHeads.find? key =
    if headKey operation operation.operationId = key then
      some (headRow operation (operationDigest P operation))
    else if ∃ head ∈ v.headOperations operation.workspaceId operation.recordId,
        compareOperations operation head = .after ∧ headKey operation head.operationId = key then none
    else v.recordHeads.find? key
  conflict : v'.conflicts.find? operation.recordId =
    conflictOf (joinedHeads operation (v.headOperations operation.workspaceId operation.recordId))
  otherConflicts : ∀ record, operation.recordId ≠ record →
    v'.conflicts.find? record = v.conflicts.find? record

/-- The operation came too late for its record: heads and conflict row stay. -/
structure LeavesHeads (v v' : Vault) (operation : SyncOperationV1) : Prop where
  late : ∃ head ∈ v.headOperations operation.workspaceId operation.recordId,
    compareOperations operation head = .before ∨ compareOperations operation head = .equal
  heads : v'.recordHeads = v.recordHeads
  conflicts : v'.conflicts = v.conflicts

/-- The decisions: no change when a head is not followed and not concurrent, otherwise the
followed heads are removed. -/
theorem decideMerge_ok (decided : decideMerge incoming current = .ok decision) :
    (decision = .noLiveChange ∧ ∃ head ∈ current,
      compareOperations incoming.operation head.operation = .before ∨
        compareOperations incoming.operation head.operation = .equal) ∨
    ∃ remove,
      (∀ head ∈ current, compareOperations incoming.operation head.operation = .after ∨
        compareOperations incoming.operation head.operation = .concurrent) ∧
      (∀ id, id ∈ remove ↔ ∃ head ∈ current,
        compareOperations incoming.operation head.operation = .after ∧ head.operationId = id) ∧
      ((decision = .replaceHeads remove ∨ decision = .resolveConflict remove) ∧
          (∀ head ∈ current, compareOperations incoming.operation head.operation = .after) ∨
        decision = .addConflictHead remove ∧
          ∃ head ∈ current, compareOperations incoming.operation head.operation = .concurrent) := by
  simp only [decideMerge, ok_iff] at decided
  obtain ⟨_, _, _, decided⟩ := decided
  split at decided
  · rename_i isEmpty
    simp only [ok_iff] at decided
    have empty := List.isEmpty_iff.mp isEmpty
    subst empty decided
    exact Or.inr ⟨[], by simp, by simp, Or.inl ⟨Or.inl rfl, by simp⟩⟩
  · split at decided
    · rename_i allAfter
      have after : ∀ head ∈ current,
          compareOperations incoming.operation head.operation = .after := by
        simpa using allAfter
      simp only [ok_iff] at decided
      refine Or.inr ⟨sortIds (current.map StoredRecordHead.operationId),
        fun head member => Or.inl (after head member), ?_, Or.inl ⟨?_, after⟩⟩
      · intro id
        simp only [sortIds, List.mem_insertionSort, List.mem_map]
        constructor
        · rintro ⟨head, member, same⟩
          exact ⟨head, member, after head member, same⟩
        · rintro ⟨head, member, _, same⟩
          exact ⟨head, member, same⟩
      · subst decided
        split
        · exact Or.inr rfl
        · exact Or.inl rfl
    · rename_i someOther
      split at decided
      · rename_i anyLate
        simp only [ok_iff] at decided
        exact Or.inl ⟨decided.symm, by simpa using anyLate⟩
      · rename_i noneLate
        simp only [ok_iff] at decided
        have newest : ∀ head ∈ current,
            compareOperations incoming.operation head.operation = .after ∨
              compareOperations incoming.operation head.operation = .concurrent := by
          intro head member
          cases order : compareOperations incoming.operation head.operation with
          | after => exact Or.inl rfl
          | concurrent => exact Or.inr rfl
          | before => exact absurd (List.any_eq_true.mpr ⟨head, member, by simp [order]⟩) noneLate
          | equal => exact absurd (List.any_eq_true.mpr ⟨head, member, by simp [order]⟩) noneLate
        refine Or.inr ⟨_, newest, ?_, Or.inr ⟨decided.symm, ?_⟩⟩
        · intro id
          simp [sortIds, and_assoc]
        · obtain ⟨head, member, other⟩ : ∃ head ∈ current,
              ¬ compareOperations incoming.operation head.operation = .after := by
            simpa using someOther
          exact ⟨head, member, (newest head member).resolve_left other⟩

theorem find?_replacedHeads
    (heads : Table (WorkspaceId ×ₗ RecordId ×ₗ OperationId) RecordHeadRow)
    (operation : SyncOperationV1) (remove : List OperationId) (canonicalHash : Sha256Digest)
    (key : WorkspaceId ×ₗ RecordId ×ₗ OperationId) :
    (replacedHeads heads operation remove canonicalHash).find? key =
      if headKey operation operation.operationId = key then some (headRow operation canonicalHash)
      else if key ∈ remove.map (headKey operation) then none
      else heads.find? key := by
  rw [replacedHeads, Table.find?_upsert, Table.find?_foldl_erase]
  split_ifs <;> rfl

/-- The heads as a fresh apply reads them: by id, with what it would remove. -/
private theorem mem_remove_map {remove : List OperationId}
    (loaded : loadRecordHeads P v operation.workspaceId operation.recordId = .ok current)
    (removes : ∀ id, id ∈ remove ↔ ∃ head ∈ current, compareOperations operation head.operation = .after ∧ head.operationId = id)
    (key : WorkspaceId ×ₗ RecordId ×ₗ OperationId) :
    key ∈ remove.map (headKey operation) ↔
      ∃ head ∈ v.headOperations operation.workspaceId operation.recordId,
        compareOperations operation head = .after ∧ headKey operation head.operationId = key := by
  obtain ⟨sameHeads, ids⟩ := loadRecordHeads_ok loaded
  rw [← sameHeads]
  simp only [List.mem_map, removes]
  constructor
  · rintro ⟨_, ⟨head, member, after, rfl⟩, rfl⟩
    exact ⟨head.operation, ⟨head, member, rfl⟩, after, by rw [ids head member]⟩
  · rintro ⟨_, ⟨head, member, rfl⟩, after, rfl⟩
    exact ⟨head.operationId, ⟨head, member, after, rfl⟩, by rw [ids head member]⟩

/-- The heads kept in conflict with an admitted operation are those it does not follow. -/
theorem conflictHeads_eq (rooted : Rooted P v)
    (loaded : loadRecordHeads P v admitted.operation.workspaceId admitted.operation.recordId =
      .ok current)
    (removes : ∀ id, id ∈ remove ↔ ∃ head ∈ current,
      compareOperations admitted.operation head.operation = .after ∧ head.operationId = id) :
    conflictHeads admitted current remove = joinedHeads admitted.operation
      (v.headOperations admitted.operation.workspaceId admitted.operation.recordId) := by
  obtain ⟨sameHeads, ids⟩ := loadRecordHeads_ok loaded
  have ascending : Ascending SyncOperationV1.operationId
      (v.headOperations admitted.operation.workspaceId admitted.operation.recordId) :=
    rooted.headOperations_ascending
  have kept : (current.filter (fun head => head.operationId ∉ remove)).map
      StoredRecordHead.operation = sparedHeads admitted.operation
        (v.headOperations admitted.operation.workspaceId admitted.operation.recordId) := by
    rw [sparedHeads, ← sameHeads, List.filter_map]
    congr 1
    refine List.filter_congr ?_
    intro head member
    -- Ids are distinct among heads, so an id is removed exactly when its head is followed.
    have removed : head.operationId ∈ remove ↔
        compareOperations admitted.operation head.operation = .after := by
      rw [removes]
      constructor
      · rintro ⟨other, otherMember, after, same⟩
        rw [ids other otherMember, ids head member] at same
        have equal := ascending.eq_of_key_eq
          (sameHeads ▸ List.mem_map_of_mem otherMember) (sameHeads ▸ List.mem_map_of_mem member) same
        rw [← equal]
        exact after
      · intro after
        exact ⟨head, member, after, rfl⟩
    simp [removed]
  rw [conflictHeads, joinedHeads, ← kept]

theorem joinedHeads_of_all_after
    (after : ∀ head ∈ heads, compareOperations operation head = .after) :
    joinedHeads operation heads = [operation] := by
  have none : sparedHeads operation heads = [] := by
    rw [sparedHeads, List.filter_eq_nil_iff]
    intro head member
    simp [after head member]
  rw [joinedHeads, none]
  rfl

/-- A fresh apply leaves the heads, when it decides so, or joins them. -/
theorem applyFresh_heads (valid : validateAdmitted P admitted = .ok ()) (rooted : Rooted P v)
    (ran : applyFresh P v admitted material rehydrate resolver appliedAtMs receivedAt =
      .ok (decision, update, v')) :
    decision = .noLiveChange ∧ LeavesHeads v v' admitted.operation ∨
      decision ≠ .noLiveChange ∧ Joins P v v' admitted.operation := by
  obtain ⟨claimed, current, chosen, materialized, change, claim, loaded, decided, chained,
    represented, stored, recorded, rfl⟩ := applyFresh_ok ran
  obtain ⟨owners, aliases, rfl, _⟩ := claimRecord_effect claim
  obtain ⟨tables, rfl⟩ := materializeRepresentative_effect stored
  obtain ⟨schedule, _, _, _, _, written⟩ := recordIncoming_ok recorded
  obtain ⟨_, _, digest, _, _, _⟩ := validateAdmitted_ok valid
  replace loaded : loadRecordHeads P v admitted.operation.workspaceId
    admitted.operation.recordId = .ok current := loaded
  obtain ⟨sameHeads, _⟩ := loadRecordHeads_ok loaded
  have lifts : ∀ {holds : SyncOperationV1 → Prop}, (∀ head ∈ current, holds head.operation) →
      ∀ head ∈ v.headOperations admitted.operation.workspaceId admitted.operation.recordId,
        holds head := by
    intro holds each head member
    rw [← sameHeads] at member
    obtain ⟨stored, storedMember, rfl⟩ := List.mem_map.mp member
    exact each stored storedMember
  rcases decideMerge_ok decided with ⟨rfl, head, member, late⟩ |
      ⟨remove, newest, removes, shape⟩
  · refine Or.inl ⟨rfl, ⟨head.operation, sameHeads ▸ List.mem_map_of_mem member, late⟩, ?_, ?_⟩
    · rcases writeHeads_effect written with ⟨_, rfl⟩ | ⟨_, impossible | impossible, _⟩ |
        ⟨_, _, _, _, impossible, _⟩
      · rfl
      all_goals cases impossible
    · rcases writeHeads_effect written with ⟨_, rfl⟩ | ⟨_, impossible | impossible, _⟩ |
        ⟨_, _, _, _, impossible, _⟩
      · rfl
      all_goals cases impossible
  · have changes : decision ≠ .noLiveChange := by
      rcases shape with ⟨rfl | rfl, _⟩ | ⟨rfl, _⟩ <;> simp
    refine Or.inr ⟨changes, ?_⟩
    rcases writeHeads_effect written with ⟨rfl, _⟩ | ⟨removed, which, rfl⟩ |
        ⟨removed, left, right, rest, rfl, heads, rfl⟩
    · exact absurd rfl changes
    · have all : ∀ head ∈ current,
          compareOperations admitted.operation head.operation = .after := by
        rcases shape with ⟨_, all⟩ | ⟨rfl, _⟩
        · exact all
        · rcases which with impossible | impossible <;> cases impossible
      obtain rfl : removed = remove := by
        rcases shape with ⟨rfl | rfl, _⟩ | ⟨rfl, _⟩ <;> rcases which with same | same <;> cases same <;> rfl
      refine ⟨lifts newest, ?_, ?_, ?_⟩
      · intro key
        simp only [find?_replacedHeads, mem_remove_map loaded removes, digest]
        rfl
      · rw [joinedHeads_of_all_after (lifts all)]
        exact Table.find?_erase_self ..
      · intro record different
        exact Table.find?_erase_of_ne _ different
    · obtain rfl : removed = remove := by
        rcases shape with ⟨impossible | impossible, _⟩ | ⟨same, _⟩
        · cases impossible
        · cases impossible
        · cases same; rfl
      rw [conflictHeads_eq rooted loaded removes] at heads
      refine ⟨lifts newest, ?_, ?_, ?_⟩
      · intro key
        simp only [find?_replacedHeads, mem_remove_map loaded removes, digest]
        rfl
      · rw [heads]
        exact Table.find?_upsert_self ..
      · intro record different
        exact Table.find?_upsert_of_ne _ _ different

/-- Deleting every head of a record is deleting those an operation follows, if it follows all. -/
theorem find?_removeRecordHeads (rooted : Rooted P v)
    (all : ∀ head ∈ v.headOperations operation.workspaceId operation.recordId,
      compareOperations operation head = .after)
    (key : WorkspaceId ×ₗ RecordId ×ₗ OperationId) :
    (removeRecordHeads v operation).recordHeads.find? key =
      if ∃ head ∈ v.headOperations operation.workspaceId operation.recordId,
        compareOperations operation head = .after ∧ headKey operation head.operationId = key then none
      else v.recordHeads.find? key := by
  obtain ⟨workspace, record, id, rfl⟩ : ∃ workspace record id,
      key = toLex (workspace, toLex (record, id)) := ⟨_, _, _, rfl⟩
  unfold removeRecordHeads
  rw [Table.find?_select]
  cases found : v.recordHeads.find? (toLex (workspace, toLex (record, id))) with
  | none => simp
  | some row =>
    obtain ⟨head, held, rfl, rfl, rfl, rfl⟩ := rooted _ _ _ _ found
    by_cases ours : head.workspaceId = operation.workspaceId ∧ head.recordId = operation.recordId
    · have member : head ∈ v.headOperations operation.workspaceId operation.recordId :=
        rooted.mem_headOperations.mpr ⟨held, ours.1, ours.2, found⟩
      rw [if_pos ⟨head, member, all head member, headKey_inj.mpr ⟨ours.1.symm, ours.2.symm, rfl⟩⟩]
      simp [Option.filter, ours]
    · rw [if_neg]
      · simp [Option.filter, ours]
      · rintro ⟨other, _, _, same⟩
        obtain ⟨sameWorkspace, sameRecord, _⟩ := headKey_inj.mp same
        exact ours ⟨sameWorkspace.symm, sameRecord.symm⟩

/-- A fresh outgoing operation follows every head of its record and replaces them. -/
theorem persistFresh_heads (valid : validateCommit P mutation built = .ok ()) (rooted : Rooted P v)
    (ran : persistFresh P v mutation built embedding committedAtMs queuedAt materialize =
      .ok (disposition, change, v')) :
    Joins P v v' built.operation ∧
      ∀ head ∈ v.headOperations built.operation.workspaceId built.operation.recordId,
        compareOperations built.operation head = .after := by
  obtain ⟨claimed, heads, materialized, claim, chained, loaded, follows, stored, recorded, rfl⟩ :=
    persistFresh_ok ran
  obtain ⟨owners, rfl, _⟩ := ensureSyncRecordOwner_effect claim
  obtain ⟨tables, rfl⟩ := materializeOutgoing_effect stored
  obtain ⟨schedule, _, _, _, _, _, rfl⟩ := recordOutgoing_ok recorded
  obtain ⟨_, _, digest, _, _, _⟩ := validateCommit_ok valid
  replace loaded : loadRecordHeads P v built.operation.workspaceId
    built.operation.recordId = .ok heads := loaded
  obtain ⟨sameHeads, _⟩ := loadRecordHeads_ok loaded
  have all : ∀ head ∈ v.headOperations built.operation.workspaceId built.operation.recordId,
      compareOperations built.operation head = .after := by
    intro head member
    rw [← sameHeads] at member
    obtain ⟨stored, storedMember, rfl⟩ := List.mem_map.mp member
    exact follows stored storedMember
  refine ⟨⟨fun head member => Or.inl (all head member), ?_, ?_, ?_⟩, all⟩
  · intro key
    rw [Table.find?_upsert, digest]
    by_cases own : headKey built.operation built.operation.operationId = key
    · rw [if_pos own, if_pos own]
    · rw [if_neg own, if_neg own]
      exact find?_removeRecordHeads rooted all key
  · rw [joinedHeads_of_all_after all]
    exact Table.find?_erase_self ..
  · intro record different
    exact Table.find?_erase_of_ne _ different

/-! ## The invariant -/

/-- A fresh operation entered the vault: it was recorded, its record claimed, which nobody
owned only if it was not materialized, and it joined the heads or left them alone. -/
structure Entered (P : Primitives) (v v' : Vault) (operation : SyncOperationV1) : Prop where
  recorded : ∃ row, Recorded P v v' operation row
  claimed : Claimed v.recordOwners v'.recordOwners operation.accountId operation.workspaceId
    operation.recordId operation.recordKind
  unowned : v.recordOwners.find? operation.recordId = none →
    materializedRecordKinds v operation.recordId = []
  heads : LeavesHeads v v' operation ∨ Joins P v v' operation

theorem applyFresh_entered (valid : validateAdmitted P admitted = .ok ()) (rooted : Rooted P v)
    (ran : applyFresh P v admitted material rehydrate resolver appliedAtMs receivedAt =
      .ok (decision, update, v')) : Entered P v v' admitted.operation where
  recorded := ⟨_, applyFresh_recorded valid ran⟩
  claimed := by
    obtain ⟨claimed, current, chosen, materialized, change, claim, _, _, _, _, stored, recorded,
      rfl⟩ := applyFresh_ok ran
    obtain ⟨owners, aliases, rfl, claimed⟩ := claimRecord_effect claim
    obtain ⟨tables, rfl⟩ := materializeRepresentative_effect stored
    obtain ⟨schedule, _, _, _, _, written⟩ := recordIncoming_ok recorded
    rcases writeHeads_effect written with ⟨_, rfl⟩ | ⟨_, _, rfl⟩ | ⟨_, _, _, _, _, _, rfl⟩ <;>
      exact claimed
  unowned := by
    obtain ⟨claimed, _, _, _, _, claim, _⟩ := applyFresh_ok ran
    simp only [claimRecord, bind_eq_ok] at claim
    obtain ⟨_, ensured, _⟩ := claim
    exact ensureSyncRecordOwner_unowned ensured
  heads := (applyFresh_heads valid rooted ran).imp And.right And.right

theorem persistFresh_entered (valid : validateCommit P mutation built = .ok ()) (rooted : Rooted P v)
    (ran : persistFresh P v mutation built embedding committedAtMs queuedAt materialize =
      .ok (disposition, change, v')) : Entered P v v' built.operation where
  recorded := ⟨_, persistFresh_recorded valid ran⟩
  claimed := by
    obtain ⟨claimed, heads, materialized, claim, _, _, _, stored, recorded, rfl⟩ :=
      persistFresh_ok ran
    obtain ⟨owners, rfl, claimed⟩ := ensureSyncRecordOwner_effect claim
    obtain ⟨tables, rfl⟩ := materializeOutgoing_effect stored
    obtain ⟨schedule, _, _, _, _, _, rfl⟩ := recordOutgoing_ok recorded
    exact claimed
  unowned := by
    obtain ⟨claimed, _, _, claim, _⟩ := persistFresh_ok ran
    exact ensureSyncRecordOwner_unowned claim
  heads := Or.inr (persistFresh_heads valid rooted ran).1

/-- The held operations after recording one. -/
theorem Recorded.holds (recorded : Recorded P v v' operation row) :
    v'.Holds other ↔ v.Holds other ∨ other = operation := by
  simp only [Vault.Holds, recorded.operations, recorded.operationMeta]
  by_cases same : operation.operationId = other.operationId
  · rw [← same, Table.find?_upsert_self, Table.find?_upsert_self, recorded.fresh]
    constructor
    · rintro ⟨stored, _⟩
      have rows : operation.recordId = other.recordId ∧ operation = other := by simpa using stored
      exact Or.inr rows.2.symm
    · rintro (⟨impossible, _⟩ | rfl)
      · cases impossible
      · exact ⟨rfl, rfl⟩
  · rw [Table.find?_upsert_of_ne _ _ same, Table.find?_upsert_of_ne _ _ same]
    constructor
    · exact Or.inl
    · rintro (held | rfl)
      · exact held
      · exact absurd rfl same

theorem Recorded.not_holds (recorded : Recorded P v v' operation row) (held : v.Holds other) :
    other.operationId ≠ operation.operationId := by
  intro same
  have stored := held.1
  rw [same, recorded.fresh] at stored
  cases stored

/-- What the head table holds after an operation joined. -/
theorem Joins.isHead (joins : Joins P v v' operation) (recorded : Recorded P v v' operation row)
    (rooted : Rooted P v) (held : v.Holds head) :
    v'.recordHeads.find? (headKey head head.operationId) = some found ↔
      v.recordHeads.find? (headKey head head.operationId) = some found ∧
        ¬ (head.workspaceId = operation.workspaceId ∧ head.recordId = operation.recordId ∧
          compareOperations operation head = .after) := by
  have apart : headKey operation operation.operationId ≠ headKey head head.operationId := by
    intro same
    exact recorded.not_holds held (headKey_inj.mp same).2.2.symm
  rw [joins.heads, if_neg apart]
  by_cases followed : head.workspaceId = operation.workspaceId ∧
      head.recordId = operation.recordId ∧ compareOperations operation head = .after
  · obtain ⟨sameWorkspace, sameRecord, after⟩ := followed
    simp only [sameWorkspace, sameRecord, after, and_self, not_true_eq_false, and_false, iff_false]
    split
    · simp
    · rename_i notHead
      intro isHead
      obtain ⟨other, otherHeld, _, _, sameId, rfl⟩ := rooted _ _ _ _ isHead
      obtain rfl := otherHeld.eq_of_id_eq held sameId
      have member := rooted.mem_headOperations.mpr ⟨held, sameWorkspace, sameRecord, isHead⟩
      exact notHead ⟨other, member, after, headKey_inj.mpr
        ⟨sameWorkspace.symm, sameRecord.symm, rfl⟩⟩
  · rw [if_neg]
    · simp [followed]
    · rintro ⟨other, member, after, same⟩
      obtain ⟨otherHeld, _, _, _⟩ := rooted.mem_headOperations.mp member
      obtain ⟨sameWorkspace, sameRecord, sameId⟩ := headKey_inj.mp same
      obtain rfl := otherHeld.eq_of_id_eq held sameId
      exact followed ⟨sameWorkspace.symm, sameRecord.symm, after⟩

theorem mem_joinedHeads : head ∈ joinedHeads operation heads ↔
    head ∈ heads ∧ compareOperations operation head ≠ .after ∨ head = operation := by
  simp [joinedHeads, sparedHeads]

theorem joinedHeads_ascending (ascending : Ascending SyncOperationV1.operationId heads)
    (fresh : ∀ head ∈ heads, head.operationId ≠ operation.operationId) :
    Ascending SyncOperationV1.operationId (joinedHeads operation heads) := by
  apply ascending_insertionSort
  have spared : (sparedHeads operation heads).Pairwise
      (fun left right => left.operationId ≠ right.operationId) :=
    (ascending.filter _).imp (fun lower => lower.ne)
  rw [List.map_append, List.nodup_append]
  refine ⟨List.pairwise_map.mpr spared, by simp, ?_⟩
  intro id member other isNew
  obtain ⟨head, headMember, rfl⟩ := List.mem_map.mp member
  obtain rfl : other = operation.operationId := by simpa using isNew
  exact fresh head (List.mem_filter.mp headMember).1

namespace Entered

section

variable (entered : Entered P v v' operation) (before : Rooted P v)

include entered before

theorem rooted : Rooted P v' := by
  obtain ⟨row, recorded⟩ := entered.recorded
  intro workspace record id found isHead
  rcases entered.heads with leaves | joins
  · rw [leaves.heads] at isHead
    obtain ⟨head, held, rest⟩ := before _ _ _ _ isHead
    exact ⟨head, recorded.holds.mpr (Or.inl held), rest⟩
  · rw [joins.heads] at isHead
    split at isHead
    · rename_i own
      obtain ⟨rfl, rfl, rfl⟩ : operation.workspaceId = workspace ∧ operation.recordId = record ∧
          operation.operationId = id := by simpa [headKey] using own
      obtain rfl := Option.some.inj isHead
      exact ⟨operation, recorded.holds.mpr (Or.inr rfl), rfl, rfl, rfl, rfl⟩
    · split at isHead
      · cases isHead
      · obtain ⟨head, held, rest⟩ := before _ _ _ _ isHead
        exact ⟨head, recorded.holds.mpr (Or.inl held), rest⟩

/-- An operation that left the heads alone is not one of them. -/
theorem headOperations_left (leaves : LeavesHeads v v' operation) (workspace : WorkspaceId)
    (record : RecordId) :
    v'.headOperations workspace record = v.headOperations workspace record := by
  obtain ⟨row, recorded⟩ := entered.recorded
  refine (entered.rooted before).headOperations_ascending.eq_of_mem_iff
    before.headOperations_ascending ?_
  intro head
  rw [(entered.rooted before).mem_headOperations, before.mem_headOperations, recorded.holds,
    leaves.heads]
  constructor
  · rintro ⟨held | rfl, rest⟩
    · exact ⟨held, rest⟩
    · obtain ⟨other, otherHeld, _, _, sameId, _⟩ := before _ _ _ _ rest.2.2
      exact absurd sameId (recorded.not_holds otherHeld)
  · rintro ⟨held, rest⟩
    exact ⟨Or.inl held, rest⟩

theorem headOperations_joined (joins : Joins P v v' operation) :
    v'.headOperations operation.workspaceId operation.recordId =
      joinedHeads operation (v.headOperations operation.workspaceId operation.recordId) := by
  obtain ⟨row, recorded⟩ := entered.recorded
  refine (entered.rooted before).headOperations_ascending.eq_of_mem_iff
    (joinedHeads_ascending before.headOperations_ascending ?_) ?_
  · intro head member
    exact recorded.not_holds (before.mem_headOperations.mp member).1
  · intro head
    rw [(entered.rooted before).mem_headOperations, mem_joinedHeads, before.mem_headOperations,
      recorded.holds]
    constructor
    · rintro ⟨held | same, sameWorkspace, sameRecord, isHead⟩
      · obtain ⟨wasHead, spared⟩ := (joins.isHead recorded before held).mp isHead
        exact Or.inl ⟨⟨held, sameWorkspace, sameRecord, wasHead⟩,
          fun after => spared ⟨sameWorkspace, sameRecord, after⟩⟩
      · exact Or.inr same
    · rintro (⟨⟨held, sameWorkspace, sameRecord, isHead⟩, spared⟩ | rfl)
      · refine ⟨Or.inl held, sameWorkspace, sameRecord, (joins.isHead recorded before held).mpr
          ⟨isHead, fun followed => spared followed.2.2⟩⟩
      · refine ⟨Or.inr rfl, rfl, rfl, ?_⟩
        rw [joins.heads, if_pos rfl]

/-- Heads of other records stay. -/
theorem headOperations_other
    (other : ¬ (workspace = operation.workspaceId ∧ record = operation.recordId)) :
    v'.headOperations workspace record = v.headOperations workspace record := by
  obtain ⟨row, recorded⟩ := entered.recorded
  rcases entered.heads with leaves | joins
  · exact entered.headOperations_left before leaves workspace record
  · refine (entered.rooted before).headOperations_ascending.eq_of_mem_iff
      before.headOperations_ascending ?_
    intro head
    rw [(entered.rooted before).mem_headOperations, before.mem_headOperations, recorded.holds]
    constructor
    · rintro ⟨held | rfl, sameWorkspace, sameRecord, isHead⟩
      · exact ⟨held, sameWorkspace, sameRecord,
          ((joins.isHead recorded before held).mp isHead).1⟩
      · exact absurd ⟨sameWorkspace.symm, sameRecord.symm⟩ other
    · rintro ⟨held, sameWorkspace, sameRecord, isHead⟩
      refine ⟨Or.inl held, sameWorkspace, sameRecord,
        (joins.isHead recorded before held).mpr ⟨isHead, ?_⟩⟩
      rintro ⟨ownWorkspace, ownRecord, _⟩
      exact other ⟨sameWorkspace.symm.trans ownWorkspace, sameRecord.symm.trans ownRecord⟩

end

theorem headInvariant (entered : Entered P v v' operation) (before : HeadInvariant P v) :
    HeadInvariant P v' := by
  obtain ⟨row, recorded⟩ := entered.recorded
  -- Operations on one record share its owner, hence its workspace.
  have sameOwner : ∀ other, v.Holds other → other.recordId = operation.recordId →
      other.accountId = operation.accountId ∧ other.workspaceId = operation.workspaceId ∧
        other.recordKind = operation.recordKind := by
    intro other held sameRecord
    have owner := before.owned other held
    rw [sameRecord] at owner
    exact entered.claimed.agreed _ owner
  have ownConflict : v'.conflicts.find? operation.recordId =
      conflictOf (v'.headOperations operation.workspaceId operation.recordId) := by
    rcases entered.heads with leaves | joins
    · obtain ⟨head, member, _⟩ := leaves.late
      obtain ⟨held, sameWorkspace, sameRecord, _⟩ := before.rooted.mem_headOperations.mp member
      rw [leaves.conflicts, entered.headOperations_left before.rooted leaves, ← sameRecord,
        ← sameWorkspace]
      exact before.conflict head held
    · rw [entered.headOperations_joined before.rooted joins]
      exact joins.conflict
  have otherConflict : ∀ record, operation.recordId ≠ record →
      v'.conflicts.find? record = v.conflicts.find? record := by
    intro record different
    rcases entered.heads with leaves | joins
    · rw [leaves.conflicts]
    · exact joins.otherConflicts record different
  refine ⟨entered.rooted before.rooted, ?_, ?_⟩
  · intro other held
    rcases recorded.holds.mp held with old | rfl
    · by_cases sameRecord : other.recordId = operation.recordId
      · obtain ⟨account, workspace, kind⟩ := sameOwner other old sameRecord
        rw [account, workspace, kind, sameRecord]
        exact entered.claimed.owned
      · rw [entered.claimed.others _ (Ne.symm sameRecord)]
        exact before.owned other old
    · exact entered.claimed.owned
  · intro other held
    rcases recorded.holds.mp held with old | rfl
    · by_cases sameRecord : other.recordId = operation.recordId
      · rw [(sameOwner other old sameRecord).2.1, sameRecord]
        exact ownConflict
      · rw [otherConflict _ (Ne.symm sameRecord),
          entered.headOperations_other before.rooted (fun same => sameRecord same.2)]
        exact before.conflict other old
    · exact ownConflict

end Entered

/-! ## Quiet writes keep it -/

theorem KeepsSigned.holds (kept : KeepsSigned v v') : v'.Holds operation ↔ v.Holds operation := by
  unfold Vault.Holds
  rw [kept.operationMeta]
  constructor
  · rintro ⟨stored, signed⟩
    exact ⟨by rw [← kept.operations _ signed]; exact stored, signed⟩
  · rintro ⟨stored, signed⟩
    exact ⟨by rw [kept.operations _ signed]; exact stored, signed⟩

theorem Quiet.rooted (quiet : Quiet v v') (before : Rooted P v) : Rooted P v' := by
  intro workspace record id row isHead
  rw [quiet.recordHeads] at isHead
  obtain ⟨operation, held, rest⟩ := before _ _ _ _ isHead
  exact ⟨operation, quiet.signed.holds.mpr held, rest⟩

theorem Quiet.headOperations (quiet : Quiet v v') (before : Rooted P v) (workspace : WorkspaceId)
    (record : RecordId) :
    v'.headOperations workspace record = v.headOperations workspace record := by
  refine (quiet.rooted before).headOperations_ascending.eq_of_mem_iff
    before.headOperations_ascending ?_
  intro operation
  rw [(quiet.rooted before).mem_headOperations, before.mem_headOperations, quiet.signed.holds,
    quiet.recordHeads]

theorem Quiet.headInvariant (quiet : Quiet v v') (before : HeadInvariant P v) :
    HeadInvariant P v' where
  rooted := quiet.rooted before.rooted
  owned := fun operation held =>
    quiet.owners _ _ (before.owned operation (quiet.signed.holds.mp held))
  conflict := by
    intro operation held
    rw [quiet.conflicts, quiet.headOperations before.rooted]
    exact before.conflict operation (quiet.signed.holds.mp held)

end ContextRelay
