import ContextRelay.RecordHeads

/-! Convergence of replicas. Operations reach a vault in causal order: an operation is
admitted only when the vault knows everything its author knew. The heads of a record are
therefore the held operations that no held operation follows, whatever the order of
delivery, and two vaults with the same operations agree on everything derived from them. -/
namespace ContextRelay

open Library

variable {P : Primitives} {v v' : Vault}

/-! ## Replica runs -/

/-- One delivery to a replica: an admitted operation is applied, or a local one is persisted
with the vault's own frontier. -/
inductive ReplicaStep (P : Primitives) : Vault → Vault → Prop where
  | applied {v v' : Vault} {bytes : Bytes} {material : TrustedSyncMaterial}
      {admitted : AdmittedOperation} {claimant : Option TrustedSyncMaterial}
      {rehydrate : SyncOperationV1 → Except VaultError RecordMutationV1}
      {resolver : RepresentativeEmbeddingResolver} {appliedAtMs : Nat} {receivedAt : String}
      {decision : MergeDecision} {update : SyncCacheUpdate}
      (admission : admitOperation P v bytes material = .ok (.admitted admitted))
      (ran : applyVerifiedInTransaction P v admitted claimant rehydrate resolver appliedAtMs
        receivedAt = .ok (decision, update, v')) : ReplicaStep P v v'
  | persisted {v v' : Vault} {mutation : RecordMutationV1} {built : BuiltOperation}
      {embedding : Option Embedding384} {committedAtMs queuedAt : Nat} {materialize : Bool}
      {disposition : CommitDisposition} {change : CacheChange}
      (current : loadCheckpointFrontier v ⟨built.operation.accountId, built.operation.workspaceId⟩ =
        .ok built.operation.causalFrontier)
      (ran : persistOutgoing P v mutation built embedding committedAtMs queuedAt materialize =
        .ok (disposition, change, v')) : ReplicaStep P v v'

/-- A vault without signed operations and heads. -/
structure EmptyWorkspaces (v : Vault) : Prop extends Unsigned v where
  recordHeads : v.recordHeads = .empty

/-- A vault reached from an empty one by deliveries in any order. -/
def Replica (P : Primitives) (v : Vault) : Prop :=
  ∃ first, EmptyWorkspaces first ∧ Relation.ReflTransGen (ReplicaStep P) first v

/-! ## Causal delivery -/

/-- The vault knows a frontier: each entry is at most its device's head. -/
def Vault.Knows (v : Vault) (workspace : WorkspaceId) (frontier : List DeviceSequence) : Prop :=
  ∀ entry ∈ frontier, ∃ head, v.deviceHead workspace entry.deviceId = some head ∧
    entry.sequence ≤ head.sequence

/-- The held operations of one record. -/
def Vault.heldOn (v : Vault) (workspace : WorkspaceId) (record : RecordId) : Set SyncOperationV1 :=
  { operation | v.Holds operation ∧ operation.workspaceId = workspace ∧ operation.recordId = record }

/-- The first operation causally follows the second. -/
def Follows (later earlier : SyncOperationV1) : Prop := compareOperations later earlier = .after

structure ReplicaInvariant (P : Primitives) (v : Vault) : Prop where
  chains : ChainInvariant P v
  heads : HeadInvariant P v
  known : ∀ operation, v.Holds operation → v.Knows operation.workspaceId operation.causalFrontier
  undominated : ∀ workspace record operation,
    operation ∈ v.headOperations workspace record ↔
      Undominated Follows (v.heldOn workspace record) operation

/-- Held operations are the signed ones of their device. -/
theorem ChainInvariant.signedBy_iff (chains : ChainInvariant P v) :
    SignedBy v workspace device operation ↔
      v.Holds operation ∧ operation.workspaceId = workspace ∧ operation.deviceId = device := by
  constructor
  · rintro ⟨id, row, found, foundAt, rfl, rfl, storedAt, rfl⟩
    obtain ⟨stored, storedAgain, sameRecord, described⟩ := chains.described id found foundAt
    obtain rfl : row = stored := Option.some.inj (storedAt.symm.trans storedAgain)
    refine ⟨⟨?_, ?_⟩, described.workspace.symm, described.device.symm⟩
    · rw [described.operationId, storedAt, ← sameRecord]
    · rw [described.operationId, foundAt]; rfl
  · rintro ⟨⟨stored, signed⟩, rfl, rfl⟩
    obtain ⟨found, foundAt⟩ := Option.isSome_iff_exists.mp signed
    obtain ⟨row, storedAgain, _, described⟩ := chains.described _ found foundAt
    obtain rfl := Option.some.inj (stored.symm.trans storedAgain)
    exact ⟨_, _, found, foundAt, described.workspace, described.device, stored, rfl⟩

/-- A held operation is at most the head of its device. -/
theorem ChainInvariant.held_le_head (chains : ChainInvariant P v) (held : v.Holds operation) :
    ∃ head, v.deviceHead operation.workspaceId operation.deviceId = some head ∧
      operation.deviceSequence ≤ head.sequence := by
  obtain ⟨operations, chain⟩ := chains.chained operation.workspaceId operation.deviceId
  have member : operation ∈ operations :=
    (chain.members operation).mpr (chains.signedBy_iff.mpr ⟨held, rfl, rfl⟩)
  obtain ⟨positive, place⟩ := place_of_sequences chain.sequences member
  have inside : operation.deviceSequence - 1 < operations.length :=
    (List.getElem?_eq_some_iff.mp place).1
  obtain ⟨final, linked⟩ := chain.linked
  cases last : operations.getLast? with
  | none => simp_all
  | some final =>
    have head := chain.head
    rw [last] at head
    refine ⟨_, head, ?_⟩
    rw [(chain.head_eq linked head).1]
    omega

theorem knownSequence_le (bounded : ∀ entry ∈ operation.causalFrontier,
      entry.deviceId = device → entry.sequence ≤ bound) :
    knownSequence operation device ≤ bound := by
  have fold : ∀ (entries : List Nat) (start : Nat), start ≤ bound →
      (∀ entry ∈ entries, entry ≤ bound) → entries.foldl max start ≤ bound := by
    intro entries
    induction entries with
    | nil => exact fun _ low _ => low
    | cons entry rest ih =>
      intro start low each
      exact ih _ (max_le low (each entry (by simp))) (fun later member => each later (by simp [member]))
  refine fold _ 0 (Nat.zero_le _) ?_
  intro sequence member
  simp only [List.mem_map, List.mem_filter, decide_eq_true_eq] at member
  obtain ⟨entry, ⟨inFrontier, sameDevice⟩, rfl⟩ := member
  exact bounded entry inFrontier sameDevice

/-- An operation that extends its device's chain is numbered above the stored head. -/
theorem validateDeviceChain_ok (valid : validateDeviceChain v operation = .ok ()) :
    0 < operation.deviceSequence ∧
      ∀ head, v.deviceHead operation.workspaceId operation.deviceId = some head →
        operation.deviceSequence = head.sequence + 1 := by
  unfold validateDeviceChain at valid
  split at valid
  · rename_i head found
    simp only [ok_iff, checkedSucc_eq_some] at valid
    obtain ⟨_, ⟨_, rfl⟩, sequence, _⟩ := valid
    refine ⟨by omega, ?_⟩
    intro other foundAgain
    obtain rfl := Option.some.inj (found.symm.trans foundAgain)
    exact sequence
  · rename_i absent
    simp only [require_eq_ok] at valid
    refine ⟨by omega, ?_⟩
    intro head found
    exact absurd (absent.symm.trans found) (by simp)

/-- What a held operation's author had seen does not include the next operation of a device. -/
theorem knownSequence_lt_next (knows : v.Knows operation.workspaceId held.causalFrontier)
    (next : validateDeviceChain v operation = .ok ()) :
    knownSequence held operation.deviceId < operation.deviceSequence := by
  obtain ⟨positive, above⟩ := validateDeviceChain_ok next
  have bounded : knownSequence held operation.deviceId ≤ operation.deviceSequence - 1 := by
    apply knownSequence_le
    intro entry member sameDevice
    obtain ⟨head, found, low⟩ := knows entry member
    rw [sameDevice] at found
    have sequence := above head found
    omega
  omega

/-- The next operation of a device follows a held operation or is concurrent with it, and no
held operation follows it. -/
theorem ReplicaInvariant.compare_next (invariant : ReplicaInvariant P v) (held : v.Holds other)
    (sameWorkspace : other.workspaceId = operation.workspaceId)
    (next : validateDeviceChain v operation = .ok ()) :
    (compareOperations operation other = .after ∨ compareOperations operation other = .concurrent) ∧
      ¬ Follows other operation := by
  have knows := invariant.known other held
  rw [sameWorkspace] at knows
  have unseen := knownSequence_lt_next knows next
  by_cases sameDevice : operation.deviceId = other.deviceId
  · obtain ⟨head, found, low⟩ := invariant.chains.held_le_head held
    rw [sameWorkspace, ← sameDevice] at found
    have sequence := (validateDeviceChain_ok next).2 head found
    constructor
    · left
      rw [compareOperations, if_pos sameDevice, if_neg (by omega), if_neg (by omega)]
    · rw [Follows, compareOperations, if_pos sameDevice.symm, if_pos (by omega)]
      simp
  · have notSeen : ¬ operation.deviceSequence ≤ knownSequence other operation.deviceId := by omega
    constructor
    · rw [compareOperations, if_neg sameDevice, decide_eq_false notSeen]
      by_cases seen : other.deviceSequence ≤ knownSequence operation other.deviceId
      · left; simp [seen]
      · right; simp [seen]
    · rw [Follows, compareOperations, if_neg (Ne.symm sameDevice), decide_eq_false notSeen]
      by_cases seen : other.deviceSequence ≤ knownSequence operation other.deviceId <;> simp [seen]

theorem not_follows_self (operation : SyncOperationV1) : ¬ Follows operation operation := by
  simp [Follows, compareOperations]

/-! ## One delivery -/

/-- Device heads only grow. -/
theorem Recorded.deviceHead_le (recorded : Recorded P v v' operation row)
    (found : v.deviceHead workspace device = some head) :
    ∃ later, v'.deviceHead workspace device = some later ∧ head.sequence ≤ later.sequence := by
  rw [Vault.deviceHead, recorded.deviceHeads, Table.find?_upsert]
  split
  · rename_i own
    obtain ⟨rfl, rfl⟩ : operation.workspaceId = workspace ∧ operation.deviceId = device := by
      simpa using own
    have sequence := (validateDeviceChain_ok recorded.chained).2 head found
    exact ⟨_, rfl, by dsimp only; omega⟩
  · exact ⟨head, found, le_rfl⟩

theorem Recorded.knows {frontier : List DeviceSequence} (recorded : Recorded P v v' operation row)
    (knows : v.Knows workspace frontier) : v'.Knows workspace frontier := by
  intro entry member
  obtain ⟨head, found, low⟩ := knows entry member
  obtain ⟨later, foundLater, grown⟩ := recorded.deviceHead_le found
  exact ⟨later, foundLater, low.trans grown⟩

/-- The next operation of a device is too new to leave the heads of its record alone. -/
theorem ReplicaInvariant.not_leaves (before : ReplicaInvariant P v)
    (next : validateDeviceChain v operation = .ok ()) : ¬ LeavesHeads v v' operation := by
  intro leaves
  obtain ⟨head, member, late⟩ := leaves.late
  obtain ⟨held, sameWorkspace, _, _⟩ := before.heads.rooted.mem_headOperations.mp member
  rcases (before.compare_next held sameWorkspace next).1 with order | order <;>
    rcases late with late | late <;> rw [order] at late <;> cases late

theorem Entered.joins (entered : Entered P v v' operation) (before : ReplicaInvariant P v) :
    Joins P v v' operation := by
  obtain ⟨row, recorded⟩ := entered.recorded
  exact entered.heads.resolve_left (before.not_leaves recorded.chained)

theorem Recorded.heldOn (recorded : Recorded P v v' operation row) :
    v'.heldOn operation.workspaceId operation.recordId =
      insert operation (v.heldOn operation.workspaceId operation.recordId) := by
  ext other
  simp only [Vault.heldOn, Set.mem_ofPred_eq, Set.mem_insert_iff, recorded.holds]
  constructor
  · rintro ⟨held | same, place⟩
    · exact Or.inr ⟨held, place⟩
    · exact Or.inl same
  · rintro (rfl | ⟨held, place⟩)
    · exact ⟨Or.inr rfl, rfl, rfl⟩
    · exact ⟨Or.inl held, place⟩

theorem Recorded.heldOn_other (recorded : Recorded P v v' operation row)
    (other : ¬ (workspace = operation.workspaceId ∧ record = operation.recordId)) :
    v'.heldOn workspace record = v.heldOn workspace record := by
  ext held
  simp only [Vault.heldOn, Set.mem_ofPred_eq, recorded.holds]
  constructor
  · rintro ⟨old | rfl, place⟩
    · exact ⟨old, place⟩
    · exact absurd ⟨place.1.symm, place.2.symm⟩ other
  · rintro ⟨old, place⟩
    exact ⟨Or.inl old, place⟩

theorem Entered.replicaInvariant (entered : Entered P v v' operation)
    (before : ReplicaInvariant P v)
    (knows : v.Knows operation.workspaceId operation.causalFrontier) : ReplicaInvariant P v' := by
  obtain ⟨row, recorded⟩ := entered.recorded
  refine ⟨recorded.preserves before.chains, entered.headInvariant before.heads, ?_, ?_⟩
  · intro other held
    rcases recorded.holds.mp held with old | rfl
    · exact recorded.knows (before.known other old)
    · exact recorded.knows knows
  · intro workspace record other
    by_cases own : workspace = operation.workspaceId ∧ record = operation.recordId
    · obtain ⟨rfl, rfl⟩ := own
      rw [entered.headOperations_joined before.heads.rooted (entered.joins before), mem_joinedHeads,
        before.undominated, recorded.heldOn, undominated_insert (not_follows_self operation)]
      · exact or_comm
      · intro old member
        exact (before.compare_next member.1 member.2.1 recorded.chained).2
    · rw [entered.headOperations_other before.heads.rooted own, recorded.heldOn_other own]
      exact before.undominated workspace record other

theorem mem_workspaceHeads :
    head ∈ v.workspaceHeads workspace ↔ v.deviceHead workspace head.1 = some head.2 := by
  unfold Vault.workspaceHeads
  rw [Table.mem_filterMap_rows]
  constructor
  · rintro ⟨key, value, found, picked⟩
    split at picked
    · rename_i own
      obtain rfl := Option.some.inj picked
      subst own
      exact found
    · cases picked
  · intro found
    exact ⟨_, head.2, found, if_pos rfl⟩

/-- A vault knows its own frontier. -/
theorem loadCheckpointFrontier_known {frontier : List DeviceSequence}
    (loaded : loadCheckpointFrontier v scope = .ok frontier) :
    v.Knows scope.workspaceId frontier := by
  simp only [loadCheckpointFrontier, ok_iff] at loaded
  obtain ⟨_, collected, _, _, rfl⟩ := loaded
  intro entry member
  obtain ⟨row, rowMember, made⟩ := collect_mem collected member
  obtain ⟨head, headMember, joined⟩ := List.mem_filterMap.mp rowMember
  obtain ⟨found, _, rfl⟩ := Option.map_eq_some_iff.mp joined
  simp only [frontierEntry, ok_iff] at made
  obtain ⟨_, rfl⟩ := made
  exact ⟨head.2, mem_workspaceHeads.mp headMember, le_rfl⟩

/-- Admission lets in only operations whose frontier the vault knows. -/
theorem Admits.knows (admits : Admits P v bytes material admitted trusted scope key) :
    v.Knows admitted.operation.workspaceId admitted.operation.causalFrontier := by
  have frontier := admits.frontier
  simp only [validateFrontierAgainstVault, ok_iff] at frontier
  intro entry member
  have known := frontier.2 entry member
  cases found : v.deviceHead _ entry.deviceId with
  | none => simp [found] at known
  | some head => exact ⟨head, rfl, by simpa [found] using known⟩

theorem ReplicaStep.preserves (step : ReplicaStep P v v') (before : ReplicaInvariant P v) :
    ReplicaInvariant P v' := by
  cases step with
  | applied admission ran =>
    simp only [applyVerifiedInTransaction, ok_iff] at ran
    obtain ⟨valid, replay, _, ran⟩ := ran
    split at ran
    · simp only [ok_iff, Prod.mk.injEq] at ran
      exact ran.2.2 ▸ before
    · obtain ⟨trusted, scope, key, admits⟩ := admitOperation_admitted.mp admission
      exact (applyFresh_entered valid before.heads.rooted ran).replicaInvariant before
        admits.knows
  | persisted current ran =>
    obtain ⟨valid, _, ⟨_, rfl⟩ | fresh⟩ := persistOutgoing_cases ran
    · exact before
    · exact (persistFresh_entered valid before.heads.rooted fresh).replicaInvariant before
        (loadCheckpointFrontier_known current)

theorem EmptyWorkspaces.not_holds (empty : EmptyWorkspaces v) : ¬ v.Holds operation := by
  rintro ⟨_, signed⟩
  simp [empty.operationMeta] at signed

theorem EmptyWorkspaces.headOperations (empty : EmptyWorkspaces v) (workspace : WorkspaceId)
    (record : RecordId) : v.headOperations workspace record = [] := by
  simp [Vault.headOperations, Vault.headRows, empty.recordHeads, Table.empty]

theorem EmptyWorkspaces.replicaInvariant (empty : EmptyWorkspaces v) : ReplicaInvariant P v := by
  refine ⟨empty.toUnsigned.chainInvariant, ⟨?_, ?_, ?_⟩, ?_, ?_⟩
  · intro workspace record id row found
    simp [empty.recordHeads] at found
  · exact fun _ held => absurd held empty.not_holds
  · exact fun _ held => absurd held empty.not_holds
  · exact fun _ held => absurd held empty.not_holds
  · intro workspace record operation
    rw [empty.headOperations]
    simp only [List.not_mem_nil, false_iff]
    exact fun undominated => empty.not_holds undominated.1.1

theorem Replica.invariant (replica : Replica P v) : ReplicaInvariant P v := by
  obtain ⟨first, empty, steps⟩ := replica
  induction steps with
  | refl => exact empty.replicaInvariant
  | tail _ step ih => exact step.preserves ih

/-! ## Agreement -/

/-- Both vaults hold the same operations of a workspace. -/
def SameOperations (left right : Vault) (workspace : WorkspaceId) : Prop :=
  ∀ operation, operation.workspaceId = workspace → (left.Holds operation ↔ right.Holds operation)

theorem Rooted.find?_eq_some {id : OperationId} (rooted : Rooted P v) :
    v.recordHeads.find? (toLex (workspace, toLex (record, id))) = some row ↔
      ∃ operation ∈ v.headOperations workspace record, operation.operationId = id ∧
        row = headRow operation (operationDigest P operation) := by
  constructor
  · intro found
    obtain ⟨operation, held, rfl, rfl, rfl, rfl⟩ := rooted _ _ _ _ found
    exact ⟨operation, rooted.mem_headOperations.mpr ⟨held, rfl, rfl, found⟩, rfl, rfl⟩
  · rintro ⟨operation, member, rfl, rfl⟩
    obtain ⟨_, rfl, rfl, found⟩ := rooted.mem_headOperations.mp member
    exact found

/-- The metadata row at a place of a chain is that of a held operation. -/
theorem ChainInvariant.metaAt_eq_some {id : OperationId} {sequence : Nat}
    (chains : ChainInvariant P v) (found : v.metaAt workspace device sequence = some (id, row)) :
    ∃ operation, v.Holds operation ∧ operation.workspaceId = workspace ∧
      operation.deviceId = device ∧ operation.deviceSequence = sequence ∧
      row.accountId = operation.accountId ∧ row.canonicalSha256 = operationDigest P operation := by
  have member := List.mem_of_find?_eq_some found
  have place := List.find?_some found
  simp only [decide_eq_true_eq] at place
  obtain ⟨rfl, rfl, rfl⟩ := place
  obtain ⟨stored, storedAt, sameRecord, described⟩ :=
    chains.described id row ((Table.find?_eq_some _).mpr member)
  refine ⟨stored.operation, ⟨?_, ?_⟩, described.workspace.symm, described.device.symm,
    described.sequence.symm, described.account, described.digest⟩
  · rw [described.operationId, storedAt, ← sameRecord]
  · rw [described.operationId, (Table.find?_eq_some _).mpr member]
    rfl

theorem ChainInvariant.metaAt_isSome (chains : ChainInvariant P v) (held : v.Holds operation) :
    ∃ id row, v.metaAt operation.workspaceId operation.deviceId operation.deviceSequence =
      some (id, row) := by
  obtain ⟨found, foundAt⟩ := Option.isSome_iff_exists.mp held.2
  obtain ⟨stored, storedAt, _, described⟩ := chains.described _ found foundAt
  obtain rfl := Option.some.inj (held.1.symm.trans storedAt)
  cases search : v.metaAt operation.workspaceId operation.deviceId operation.deviceSequence with
  | some pair => exact ⟨pair.1, pair.2, rfl⟩
  | none =>
    have absent := List.find?_eq_none.mp search _ ((Table.find?_eq_some _).mp foundAt)
    simp only [decide_eq_true_eq] at absent
    exact absurd ⟨described.workspace, described.device, described.sequence⟩ absent

/-- One place of a device's chain has one operation. -/
theorem ChainInvariant.eq_of_place (chains : ChainInvariant P v) (held : v.Holds first)
    (heldToo : v.Holds second) (sameWorkspace : first.workspaceId = second.workspaceId)
    (sameDevice : first.deviceId = second.deviceId)
    (sameSequence : first.deviceSequence = second.deviceSequence) : first = second := by
  obtain ⟨operations, chain⟩ := chains.chained first.workspaceId first.deviceId
  have place := place_of_sequences chain.sequences ((chain.members first).mpr
    (chains.signedBy_iff.mpr ⟨held, rfl, rfl⟩))
  have placeToo := place_of_sequences chain.sequences ((chain.members second).mpr
    (chains.signedBy_iff.mpr ⟨heldToo, sameWorkspace.symm, sameDevice.symm⟩))
  rw [sameSequence] at place
  exact Option.some.inj (place.2.symm.trans placeToo.2)

section Agreement

variable {left right : Vault} {workspace : WorkspaceId}

section

variable (leftInvariant : ReplicaInvariant P left) (rightInvariant : ReplicaInvariant P right)
  (same : SameOperations left right workspace)

include leftInvariant rightInvariant same

theorem agree_headOperations (record : RecordId) :
    left.headOperations workspace record = right.headOperations workspace record := by
  have held : left.heldOn workspace record = right.heldOn workspace record := by
    ext operation
    simp only [Vault.heldOn, Set.mem_ofPred_eq]
    constructor
    · rintro ⟨held, rfl, rfl⟩
      exact ⟨(same operation rfl).mp held, rfl, rfl⟩
    · rintro ⟨held, rfl, rfl⟩
      exact ⟨(same operation rfl).mpr held, rfl, rfl⟩
  refine leftInvariant.heads.rooted.headOperations_ascending.eq_of_mem_iff
    rightInvariant.heads.rooted.headOperations_ascending ?_
  intro operation
  rw [leftInvariant.undominated, rightInvariant.undominated, held]

theorem agree_recordHeads (record : RecordId) (id : OperationId) :
    left.recordHeads.find? (toLex (workspace, toLex (record, id))) =
      right.recordHeads.find? (toLex (workspace, toLex (record, id))) := by
  apply Option.ext
  intro row
  rw [leftInvariant.heads.rooted.find?_eq_some, rightInvariant.heads.rooted.find?_eq_some,
    agree_headOperations leftInvariant rightInvariant same]

theorem agree_deviceHead (device : DeviceId) : left.deviceHead workspace device = right.deviceHead workspace device := by
  obtain ⟨leftOperations, leftChain⟩ := leftInvariant.chains.chained workspace device
  obtain ⟨rightOperations, rightChain⟩ := rightInvariant.chains.chained workspace device
  have ascending : ∀ {v : Vault} {operations : List SyncOperationV1},
      DeviceChain P v workspace device operations →
      Ascending SyncOperationV1.deviceSequence operations := by
    intro v operations chain
    have sequences : (operations.map SyncOperationV1.deviceSequence).Pairwise (· < ·) := by
      rw [chain.sequences]
      exact List.pairwise_lt_range'
    exact List.pairwise_map.mp sequences
  have operations : leftOperations = rightOperations := by
    refine (ascending leftChain).eq_of_mem_iff (ascending rightChain) ?_
    intro operation
    rw [leftChain.members, rightChain.members, leftInvariant.chains.signedBy_iff,
      rightInvariant.chains.signedBy_iff]
    constructor
    · rintro ⟨held, rfl, sameDevice⟩
      exact ⟨(same operation rfl).mp held, rfl, sameDevice⟩
    · rintro ⟨held, rfl, sameDevice⟩
      exact ⟨(same operation rfl).mpr held, rfl, sameDevice⟩
  rw [leftChain.head, rightChain.head, operations]

theorem agree_metaAt (device : DeviceId) (sequence : Nat) :
    (left.metaAt workspace device sequence).map
        (fun found => (found.2.accountId, found.2.canonicalSha256)) =
      (right.metaAt workspace device sequence).map
        (fun found => (found.2.accountId, found.2.canonicalSha256)) := by
  cases leftFound : left.metaAt workspace device sequence with
  | some leftRow =>
    obtain ⟨operation, held, rfl, rfl, rfl, account, digest⟩ :=
      leftInvariant.chains.metaAt_eq_some leftFound
    have heldRight := (same operation rfl).mp held
    obtain ⟨id, rightRow, rightFound⟩ := rightInvariant.chains.metaAt_isSome heldRight
    obtain ⟨other, otherHeld, sameWorkspace, sameDevice, sameSequence, otherAccount, otherDigest⟩ :=
      rightInvariant.chains.metaAt_eq_some rightFound
    obtain rfl := rightInvariant.chains.eq_of_place otherHeld heldRight sameWorkspace sameDevice
      sameSequence
    simp [rightFound, account, digest, otherAccount, otherDigest]
  | none =>
    cases rightFound : right.metaAt workspace device sequence with
    | none => rfl
    | some rightRow =>
      obtain ⟨operation, held, rfl, rfl, rfl, _, _⟩ :=
        rightInvariant.chains.metaAt_eq_some rightFound
      obtain ⟨id, leftRow, found⟩ :=
        leftInvariant.chains.metaAt_isSome ((same operation rfl).mpr held)
      simp [leftFound] at found

theorem agree_workspaceHeads :
    left.workspaceHeads workspace = right.workspaceHeads workspace := by
  apply Table.filterMap_rows_congr
  intro key
  by_cases own : (ofLex key).1 = workspace
  · subst own
    have heads := agree_deviceHead leftInvariant rightInvariant same (ofLex key).2
    rw [show left.deviceHeads.find? key = right.deviceHeads.find? key from heads]
  · simp [own]

theorem agree_loadCheckpointFrontier (account : AccountId) :
    loadCheckpointFrontier left ⟨account, workspace⟩ =
      loadCheckpointFrontier right ⟨account, workspace⟩ := by
  have heads := agree_workspaceHeads leftInvariant rightInvariant same
  simp only [loadCheckpointFrontier, heads]
  congr 1
  apply collect_filterMap_congr
  intro head _
  -- Rows may differ in direction and receipt time, which the frontier does not read.
  have rows := agree_metaAt leftInvariant rightInvariant same head.1 head.2.sequence
  cases leftFound : left.metaAt workspace head.1 head.2.sequence with
  | none =>
    cases rightFound : right.metaAt workspace head.1 head.2.sequence with
    | none => rfl
    | some rightRow => simp [leftFound, rightFound] at rows
  | some leftRow =>
    cases rightFound : right.metaAt workspace head.1 head.2.sequence with
    | none => simp [leftFound, rightFound] at rows
    | some rightRow =>
      have fields : leftRow.2.accountId = rightRow.2.accountId ∧
          leftRow.2.canonicalSha256 = rightRow.2.canonicalSha256 := by
        simpa [leftFound, rightFound] using rows
      simp [frontierEntry, fields]

/-- What a query on head rows reads of the head's operation is the same in both vaults. -/
private theorem agree_head {id : OperationId}
    (found : left.recordHeads.find? (toLex (workspace, toLex (record, id))) = some row) :
    left.operations.find? id = right.operations.find? id ∧
      ∃ leftMeta rightMeta, left.operationMeta.find? id = some leftMeta ∧
        right.operationMeta.find? id = some rightMeta ∧
        leftMeta.accountId = rightMeta.accountId ∧ leftMeta.workspaceId = rightMeta.workspaceId := by
  obtain ⟨operation, held, rfl, rfl, rfl, _⟩ := leftInvariant.heads.rooted _ _ _ _ found
  have heldRight := (same operation rfl).mp held
  refine ⟨held.1.trans heldRight.1.symm, ?_⟩
  obtain ⟨leftMeta, leftFound⟩ := Option.isSome_iff_exists.mp held.2
  obtain ⟨rightMeta, rightFound⟩ := Option.isSome_iff_exists.mp heldRight.2
  obtain ⟨_, leftStored, _, leftDescribed⟩ := leftInvariant.chains.described _ _ leftFound
  obtain ⟨_, rightStored, _, rightDescribed⟩ := rightInvariant.chains.described _ _ rightFound
  obtain rfl := Option.some.inj (held.1.symm.trans leftStored)
  obtain rfl := Option.some.inj (heldRight.1.symm.trans rightStored)
  exact ⟨leftMeta, rightMeta, leftFound, rightFound,
    leftDescribed.account.trans rightDescribed.account.symm,
    leftDescribed.workspace.trans rightDescribed.workspace.symm⟩

theorem agree_headRows (record : RecordId) : left.headRows workspace record = right.headRows workspace record := by
  apply Table.filterMap_rows_congr
  intro key
  obtain ⟨owner, other, id, rfl⟩ : ∃ owner other id, key = toLex (owner, toLex (other, id)) :=
    ⟨_, _, _, rfl⟩
  simp only [ofLex_toLex]
  by_cases own : owner = workspace ∧ other = record
  · obtain ⟨rfl, rfl⟩ := own
    have heads := agree_recordHeads leftInvariant rightInvariant same other id
    cases found : left.recordHeads.find? (toLex (owner, toLex (other, id))) with
    | none => simp [← heads, found]
    | some row =>
      have stored := (agree_head leftInvariant rightInvariant same found).1
      simp [← heads, found, stored]
  · simp [own]

theorem agree_summarizedRecords (account : AccountId) :
    left.summarizedRecords ⟨account, workspace⟩ = right.summarizedRecords ⟨account, workspace⟩ := by
  unfold Vault.summarizedRecords
  congr 1
  apply Table.filterMap_rows_congr
  intro key
  obtain ⟨owner, record, id, rfl⟩ : ∃ owner record id, key = toLex (owner, toLex (record, id)) :=
    ⟨_, _, _, rfl⟩
  simp only [ofLex_toLex]
  by_cases own : owner = workspace
  · subst own
    have heads := agree_recordHeads leftInvariant rightInvariant same record id
    cases found : left.recordHeads.find? (toLex (owner, toLex (record, id))) with
    | none => simp [← heads, found]
    | some row =>
      obtain ⟨leftMeta, rightMeta, leftFound, rightFound, account, workspace⟩ :=
        (agree_head leftInvariant rightInvariant same found).2
      simp [← heads, found, leftFound, rightFound, account, workspace]
  · simp [own]

theorem agree_headCount :
    left.headCount workspace = right.headCount workspace := by
  have rows : left.recordHeads.select (fun key _ => decide ((ofLex key).1 = workspace)) =
      right.recordHeads.select (fun key _ => decide ((ofLex key).1 = workspace)) := by
    apply Table.ext_find?
    intro key
    rw [Table.find?_select, Table.find?_select]
    by_cases own : (ofLex key).1 = workspace
    · subst own
      rw [show left.recordHeads.find? key = right.recordHeads.find? key from
        agree_recordHeads leftInvariant rightInvariant same _ _]
    · cases left.recordHeads.find? key <;> cases right.recordHeads.find? key <;>
        simp [Option.filter, own]
  exact congrArg (fun table => table.rows.length) rows

theorem agree_loadStateSummary (account : AccountId) :
    loadStateSummary P left ⟨account, workspace⟩ =
      loadStateSummary P right ⟨account, workspace⟩ := by
  have entries : ∀ record, summaryEntry P left ⟨account, workspace⟩ record =
      summaryEntry P right ⟨account, workspace⟩ record := by
    intro record
    simp only [summaryEntry, loadRecordHeads,
      agree_headRows leftInvariant rightInvariant same record]
  simp only [loadStateSummary, agree_summarizedRecords leftInvariant rightInvariant same account,
    agree_headCount leftInvariant rightInvariant same, collect_congr (fun record _ => entries record)]

end

/-- Two replicas with the same operations of a workspace agree on the heads of every record,
on its conflict row, which names the two heads with the least ids, on the device heads, and
on the frontier, the state summary and the state hash a checkpoint would take. -/
theorem replicas_converge (leftReplica : Replica P left) (rightReplica : Replica P right)
    (same : SameOperations left right workspace) (account : AccountId) :
    (∀ record id, left.recordHeads.find? (toLex (workspace, toLex (record, id))) =
      right.recordHeads.find? (toLex (workspace, toLex (record, id)))) ∧
    (∀ operation, left.Holds operation → operation.workspaceId = workspace →
      left.conflicts.find? operation.recordId = right.conflicts.find? operation.recordId ∧
      left.conflicts.find? operation.recordId =
        conflictOf (left.headOperations workspace operation.recordId) ∧
      Ascending SyncOperationV1.operationId (left.headOperations workspace operation.recordId)) ∧
    (∀ device, left.deviceHead workspace device = right.deviceHead workspace device) ∧
    loadCheckpointFrontier left ⟨account, workspace⟩ =
      loadCheckpointFrontier right ⟨account, workspace⟩ ∧
    loadStateSummary P left ⟨account, workspace⟩ = loadStateSummary P right ⟨account, workspace⟩ ∧
    (loadStateSummary P left ⟨account, workspace⟩).map (StateSummaryV1.stateHash P) =
      (loadStateSummary P right ⟨account, workspace⟩).map (StateSummaryV1.stateHash P) := by
  have leftInvariant := leftReplica.invariant
  have rightInvariant := rightReplica.invariant
  have summaries := agree_loadStateSummary leftInvariant rightInvariant same account
  refine ⟨agree_recordHeads leftInvariant rightInvariant same, ?_,
    agree_deviceHead leftInvariant rightInvariant same,
    agree_loadCheckpointFrontier leftInvariant rightInvariant same account, summaries,
    congrArg _ summaries⟩
  rintro operation held rfl
  have leftConflict := leftInvariant.heads.conflict operation held
  have rightConflict := rightInvariant.heads.conflict operation ((same operation rfl).mp held)
  refine ⟨?_, leftConflict, leftInvariant.heads.rooted.headOperations_ascending⟩
  rw [leftConflict, rightConflict, agree_headOperations leftInvariant rightInvariant same]

end Agreement

namespace Sample

/-- What it leaves when it then applies the other device's operation. -/
def appliedSecond (v : Vault) (mutation : RecordMutationV1) (operation : SyncOperationV1) : Vault :=
  match applied pairWorld v mutation operation [5, 6] with
  | .ok (_, _, v) => v
  | .error _ => Vault.empty

def replicaOfFifth : Vault := appliedSecond (persistedFirst firstTask fifth) secondTask sixth

def replicaOfSixth : Vault := appliedSecond (persistedFirst secondTask sixth) firstTask fifth

theorem persist_fifth : persistOutgoing pairWorld Vault.empty firstTask
    (built pairWorld firstTask fifth) none 0 0 true =
      .ok (.inserted, .none, persistedFirst firstTask fifth) := rfl

theorem persist_sixth : persistOutgoing pairWorld Vault.empty secondTask
    (built pairWorld secondTask sixth) none 0 0 true =
      .ok (.inserted, .none, persistedFirst secondTask sixth) := rfl

theorem admit_fifth : admitOperation pairWorld (persistedFirst secondTask sixth)
    (pairWorld.writeOperation fifth) (material [5, 6]) =
      .ok (.admitted (received pairWorld firstTask fifth)) := rfl

theorem apply_sixth : applied pairWorld (persistedFirst firstTask fifth) secondTask sixth [5, 6] =
    .ok (.addConflictHead [], none, replicaOfFifth) := rfl

theorem apply_fifth : applied pairWorld (persistedFirst secondTask sixth) firstTask fifth [5, 6] =
    .ok (.addConflictHead [], none, replicaOfSixth) := rfl

end Sample

open Sample (pairWorld replicaOfFifth replicaOfSixth workspace account persist_fifth admit_sixth
  apply_sixth persist_sixth admit_fifth apply_fifth)

theorem replicas_converge_on_concurrent_tasks :
    Replica pairWorld replicaOfFifth ∧
      Replica pairWorld replicaOfSixth ∧
      SameOperations replicaOfFifth replicaOfSixth workspace ∧
      replicaOfFifth.conflicts.rows.length = 1 ∧
      loadStateSummary pairWorld replicaOfFifth ⟨account, workspace⟩ =
        loadStateSummary pairWorld replicaOfSixth
          ⟨account, workspace⟩ := by
  have empty : EmptyWorkspaces Vault.empty := ⟨⟨rfl, rfl⟩, rfl⟩
  have fifth : Replica pairWorld replicaOfFifth :=
    ⟨_, empty, .tail (.single (.persisted rfl persist_fifth))
      (.applied admit_sixth apply_sixth)⟩
  have sixth : Replica pairWorld replicaOfSixth :=
    ⟨_, empty, .tail (.single (.persisted rfl persist_sixth))
      (.applied admit_fifth apply_fifth)⟩
  have same : SameOperations replicaOfFifth replicaOfSixth workspace := by
    intro operation _
    have signed : ∀ id, (replicaOfFifth.operationMeta.find? id).isSome =
        (replicaOfSixth.operationMeta.find? id).isSome := by
      intro id
      rw [Bool.eq_iff_iff, ← Table.mem_keys, ← Table.mem_keys]
      rfl
    unfold Vault.Holds
    rw [signed, show replicaOfFifth.operations = replicaOfSixth.operations from rfl]
  exact ⟨fifth, sixth, same, rfl,
    (replicas_converge fifth sixth same account).2.2.2.2.1⟩

end ContextRelay
