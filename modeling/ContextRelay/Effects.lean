import ContextRelay.Backfill
import ContextRelay.Receipts

/-! What the writes do: for each transaction, the tables it can change and the values it
leaves there. Every invariant of the vault is derived from these statements. -/
namespace ContextRelay

open Library

variable {P : Primitives}

/-! ## Canonical bytes -/

theorem encodeSyncOperationV1_eq (encoded : encodeSyncOperationV1 P operation = .ok bytes) :
    bytes = P.writeOperation operation := by
  simp only [encodeSyncOperationV1, boundedCbor, ok_iff] at encoded
  exact encoded.2.2.symm

/-- The operation has canonical bytes. -/
def Encodable (P : Primitives) (operation : SyncOperationV1) : Prop :=
  encodeSyncOperationV1 P operation = .ok (P.writeOperation operation)

/-- The SHA-256 of an operation's canonical bytes. -/
def operationDigest (P : Primitives) (operation : SyncOperationV1) : Sha256Digest :=
  P.sha256 (P.writeOperation operation)

theorem Encodable.of_encoded (encoded : encodeSyncOperationV1 P operation = .ok bytes) :
    Encodable P operation := by
  rw [Encodable, encoded, encodeSyncOperationV1_eq encoded]

theorem validateAdmitted_ok (valid : validateAdmitted P admitted = .ok done) :
    Encodable P admitted.operation ∧ admitted.canonicalBytes = P.writeOperation admitted.operation ∧
      admitted.canonicalHash = operationDigest P admitted.operation ∧
      admitted.operation.recordId = admitted.mutation.recordId ∧
      admitted.operation.recordKind = admitted.mutation.recordKind ∧
      admitted.operation.mutationKind = admitted.mutation.mutationKind := by
  simp only [validateAdmitted, ok_iff] at valid
  obtain ⟨_, _, ⟨sameRecord, sameKind, sameMutation⟩, bytes, encoded, sameBytes, sameHash⟩ := valid
  have canonical := encodeSyncOperationV1_eq encoded
  refine ⟨.of_encoded encoded, ?_, ?_, sameRecord, sameKind, sameMutation⟩
  · rw [← sameBytes, canonical]
  · rw [← sameHash, canonical, operationDigest]

theorem validateCommit_ok (valid : validateCommit P mutation built = .ok done) :
    Encodable P built.operation ∧ built.canonicalBytes = P.writeOperation built.operation ∧
      built.canonicalHash = operationDigest P built.operation ∧
      built.operation.recordId = mutation.recordId ∧
      built.operation.recordKind = mutation.recordKind ∧
      built.operation.mutationKind = mutation.mutationKind := by
  simp only [validateCommit, BuiltOperation.validateForPersistence, ok_iff] at valid
  obtain ⟨⟨_, _, _, bytes, encoded, sameBytes, sameHash, _⟩, sameRecord, sameKind, sameMutation⟩ :=
    valid
  have canonical := encodeSyncOperationV1_eq encoded
  refine ⟨.of_encoded encoded, ?_, ?_, sameRecord, sameKind, sameMutation⟩
  · rw [← sameBytes, canonical]
  · rw [← sameHash, canonical, operationDigest]

/-! ## Claiming a record -/

/-- The owner table after a claim: the record is verified as the claimant's, an owner it had
before was the claimant already, and other records keep theirs. -/
structure Claimed (before after : Table RecordId StoredSyncRecordOwner) (account : AccountId)
    (workspace : WorkspaceId) (record : RecordId) (kind : RecordKind) : Prop where
  owned : after.find? record = some ⟨account, workspace, kind, .verified⟩
  agreed : ∀ owner, before.find? record = some owner →
    owner.accountId = account ∧ owner.workspaceId = workspace ∧ owner.recordKind = kind
  others : ∀ other, record ≠ other → after.find? other = before.find? other

theorem insertOrVerifySyncRecordOwner_effect
    (ran : insertOrVerifySyncRecordOwner v account workspace record kind = .ok v') :
    ∃ owners, v' = { v with recordOwners := owners } ∧
      Claimed v.recordOwners owners account workspace record kind := by
  unfold insertOrVerifySyncRecordOwner at ran
  split at ran
  · rename_i owner found
    simp only [ok_iff] at ran
    obtain ⟨rfl, rfl⟩ := ran
    refine ⟨v.recordOwners, rfl, found, ?_, fun _ _ => rfl⟩
    intro owner foundAgain
    obtain rfl := Option.some.inj (foundAgain.symm.trans found)
    exact ⟨rfl, rfl, rfl⟩
  · rename_i absent
    simp only [ok_iff] at ran
    refine ⟨_, ran.symm, Table.find?_upsert_self .., ?_, fun _ different =>
      Table.find?_upsert_of_ne _ _ different⟩
    intro owner found
    exact absurd (absent.symm.trans found) (by simp)

theorem ensureSyncRecordOwner_effect
    (ran : ensureSyncRecordOwner P v material account workspace record kind = .ok v') :
    ∃ owners, v' = { v with recordOwners := owners } ∧
      Claimed v.recordOwners owners account workspace record kind := by
  simp only [ensureSyncRecordOwner, ok_iff] at ran
  obtain ⟨_, ran⟩ := ran
  split at ran
  · rename_i owner found
    simp only [ok_iff, Prod.mk.injEq] at ran
    obtain ⟨⟨rfl, rfl, rfl⟩, ran⟩ := ran
    have agreed : ∀ other, v.recordOwners.find? record = some other →
        other.accountId = owner.accountId ∧ other.workspaceId = owner.workspaceId ∧
          other.recordKind = owner.recordKind := by
      intro other foundAgain
      obtain rfl := Option.some.inj (foundAgain.symm.trans found)
      exact ⟨rfl, rfl, rfl⟩
    split at ran
    · rename_i verified
      simp only [ok_iff] at ran
      subst ran
      refine ⟨v.recordOwners, rfl, ?_, agreed, fun _ _ => rfl⟩
      rw [show v.recordOwners.find? record = some owner from found, ← verified]
    · simp only [ok_iff] at ran
      obtain ⟨_, _, _, _, _, rfl⟩ := ran
      exact ⟨_, rfl, Table.find?_upsert_self .., agreed, fun _ different =>
        Table.find?_upsert_of_ne _ _ different⟩
  · simp only [ok_iff] at ran
    exact insertOrVerifySyncRecordOwner_effect ran.2

/-- A record nobody owned was not materialized when it was claimed. -/
theorem ensureSyncRecordOwner_unowned
    (ran : ensureSyncRecordOwner P v material account workspace record kind = .ok v')
    (unowned : v.recordOwners.find? record = none) : materializedRecordKinds v record = [] := by
  simp only [ensureSyncRecordOwner, storedSyncRecordOwner, unowned, ok_iff] at ran
  exact List.isEmpty_iff.mp ran.2.1

theorem restoreReceivedCandidateAlias_effect
    (ran : restoreReceivedCandidateAlias P v candidate account workspace = .ok v') :
    ∃ aliases, v' = { v with candidateAliases := aliases } := by
  simp only [restoreReceivedCandidateAlias, ok_iff] at ran
  obtain ⟨_, _, ran⟩ := ran
  split at ran
  · simp only [ok_iff] at ran
    exact ⟨v.candidateAliases, ran.symm⟩
  · simp only [ok_iff] at ran
    exact ⟨_, ran.2.symm⟩

theorem claimRecord_effect (ran : claimRecord P v admitted material = .ok v') :
    ∃ owners aliases, v' = { v with recordOwners := owners, candidateAliases := aliases } ∧
      Claimed v.recordOwners owners admitted.operation.accountId admitted.operation.workspaceId
        admitted.operation.recordId admitted.operation.recordKind := by
  simp only [claimRecord, bind_eq_ok] at ran
  obtain ⟨claimed, ensured, ran⟩ := ran
  obtain ⟨owners, rfl, claim⟩ := ensureSyncRecordOwner_effect ensured
  split at ran
  · obtain ⟨aliases, rfl⟩ := restoreReceivedCandidateAlias_effect ran
    exact ⟨owners, aliases, rfl, claim⟩
  · simp only [ok_iff] at ran
    exact ⟨owners, v.candidateAliases, ran.symm, claim⟩

/-! ## Materialization -/

/-- The tables that hold materialized records. -/
structure RecordTables where
  records : Table RecordId SearchableRecord
  candidates : Table RecordId MemoryCandidate
  tasks : Table RecordId TaskRecord
  secretRefs : Table RecordId SecretRef
  components : Table RecordId ComponentRecord
  projects : Table RecordId ProjectIdentity

def Vault.recordTables (v : Vault) : RecordTables :=
  ⟨v.records, v.candidates, v.tasks, v.secretRefs, v.components, v.projects⟩

def Vault.withRecordTables (v : Vault) (tables : RecordTables) : Vault :=
  { v with
    records := tables.records
    candidates := tables.candidates
    tasks := tables.tasks
    secretRefs := tables.secretRefs
    components := tables.components
    projects := tables.projects }

theorem upsertSearchableRecord_effect (ran : upsertSearchableRecord v record row = .ok v') :
    v' = { v with records := v.records.upsert record row } ∧
      ∀ existing, v.records.find? record = some existing → existing.kind = row.kind := by
  simp only [upsertSearchableRecord, ok_iff] at ran
  obtain ⟨sameKind, rfl⟩ := ran
  refine ⟨rfl, fun existing found => ?_⟩
  simpa [found] using sameKind

theorem materializeMutation_effect
    (ran : materializeMutation v mutation embedding = .ok (v', change)) :
    ∃ tables, v' = v.withRecordTables tables := by
  refine ⟨v'.recordTables, ?_⟩
  cases mutation <;>
    simp only [materializeMutation, ok_iff, Prod.mk.injEq] at ran
  case upsertMemory record =>
    obtain ⟨_, _, _, stored, rfl, _⟩ := ran
    obtain ⟨rfl, _⟩ := upsertSearchableRecord_effect stored
    rfl
  case upsertInstruction record =>
    obtain ⟨_, _, _, stored, rfl, _⟩ := ran
    obtain ⟨rfl, _⟩ := upsertSearchableRecord_effect stored
    rfl
  case upsertMemoryCandidate record =>
    obtain ⟨_, rfl, _⟩ := ran
    rfl
  case tombstone record kind =>
    obtain ⟨rfl, _⟩ := ran
    cases kind <;> rfl
  all_goals
    obtain ⟨rfl, _⟩ := ran
    rfl

theorem materializeRepresentative_effect
    (ran : materializeRepresentative v resolver chosen = .ok (v', change)) :
    ∃ tables, v' = v.withRecordTables tables := by
  cases chosen with
  | none =>
    simp only [materializeRepresentative, ok_iff, Prod.mk.injEq] at ran
    exact ⟨v.recordTables, ran.1.symm⟩
  | some pair =>
    simp only [materializeRepresentative, bind_eq_ok] at ran
    obtain ⟨embedding, _, materialized⟩ := ran
    exact materializeMutation_effect materialized

/-! ## Recording an operation -/

theorem insertOperation_effect (ran : insertOperation v operation row = .ok v') :
    v.operations.find? operation.operationId = none ∧
      v.metaAt row.workspaceId row.deviceId row.deviceSequence = none ∧
      v.operationMeta.find? operation.operationId = none ∧
      v' = { v with
        operations := v.operations.upsert operation.operationId ⟨operation.recordId, operation⟩
        operationMeta := v.operationMeta.upsert operation.operationId row } := by
  simp only [insertOperation, ok_iff, Table.insert?_eq_some] at ran
  obtain ⟨_, ⟨fresh, rfl⟩, unused, _, ⟨freshMeta, rfl⟩, rfl⟩ := ran
  exact ⟨fresh, unused, freshMeta, rfl⟩

theorem insertNonce_effect (ran : insertNonce v operation = .ok v') :
    (∀ row ∈ v.nonces.rows, row.2 ≠ operation.operationId) ∧
      v.nonces.find? (toLex (operation.keyEpoch, operation.nonce)) = none ∧
      v' = { v with
        nonces := v.nonces.upsert (toLex (operation.keyEpoch, operation.nonce))
          operation.operationId } := by
  simp only [insertNonce, ok_iff, Table.insert?_eq_some] at ran
  obtain ⟨unused, _, ⟨fresh, rfl⟩, rfl⟩ := ran
  exact ⟨unused, fresh, rfl⟩

/-- The head row of an operation. -/
def headRow (operation : SyncOperationV1) (canonicalHash : Sha256Digest) : RecordHeadRow :=
  ⟨operation.recordKind, operation.mutationKind, canonicalHash⟩

theorem insertRecordHead_effect (ran : insertRecordHead v operation canonicalHash = .ok v') :
    v.recordHeads.find? (headKey operation operation.operationId) = none ∧
      v' = { v with
        recordHeads := v.recordHeads.upsert (headKey operation operation.operationId)
          (headRow operation canonicalHash) } := by
  simp only [insertRecordHead, ok_iff, Table.insert?_eq_some] at ran
  obtain ⟨_, ⟨fresh, rfl⟩, rfl⟩ := ran
  exact ⟨fresh, rfl⟩

/-- The head table after deleting some heads of a record and adding one. -/
def replacedHeads (heads : Table (WorkspaceId ×ₗ RecordId ×ₗ OperationId) RecordHeadRow)
    (operation : SyncOperationV1) (remove : List OperationId) (canonicalHash : Sha256Digest) :
    Table (WorkspaceId ×ₗ RecordId ×ₗ OperationId) RecordHeadRow :=
  (remove.foldl (fun table id => table.erase (headKey operation id)) heads).upsert
    (headKey operation operation.operationId) (headRow operation canonicalHash)

theorem writeHeads_effect (ran : writeHeads v admitted current decision = .ok v') :
    (decision = .noLiveChange ∧ v' = v) ∨
    (∃ remove, (decision = .replaceHeads remove ∨ decision = .resolveConflict remove) ∧
      v' = { v with
        recordHeads := replacedHeads v.recordHeads admitted.operation remove admitted.canonicalHash
        conflicts := v.conflicts.erase admitted.operation.recordId }) ∨
    (∃ remove left right rest, decision = .addConflictHead remove ∧
      conflictHeads admitted current remove = left :: right :: rest ∧
      v' = { v with
        recordHeads := replacedHeads v.recordHeads admitted.operation remove admitted.canonicalHash
        conflicts := v.conflicts.upsert admitted.operation.recordId ⟨left, right⟩ }) := by
  cases decision with
  | noLiveChange =>
    simp only [writeHeads, ok_iff] at ran
    exact Or.inl ⟨rfl, ran.symm⟩
  | replaceHeads remove =>
    simp only [writeHeads, ok_iff] at ran
    obtain ⟨_, inserted, rfl⟩ := ran
    obtain ⟨_, rfl⟩ := insertRecordHead_effect inserted
    exact Or.inr (Or.inl ⟨remove, Or.inl rfl, rfl⟩)
  | resolveConflict remove =>
    simp only [writeHeads, ok_iff] at ran
    obtain ⟨_, inserted, rfl⟩ := ran
    obtain ⟨_, rfl⟩ := insertRecordHead_effect inserted
    exact Or.inr (Or.inl ⟨remove, Or.inr rfl, rfl⟩)
  | addConflictHead remove =>
    simp only [writeHeads, bind_eq_ok] at ran
    obtain ⟨_, inserted, ran⟩ := ran
    obtain ⟨_, rfl⟩ := insertRecordHead_effect inserted
    split at ran
    · rename_i left right rest shape
      simp only [ok_iff] at ran
      exact Or.inr (Or.inr ⟨remove, left, right, rest, rfl, shape, ran.symm⟩)
    · simp at ran

/-- A fresh operation entered the operation tables at the end of its device's chain. -/
structure Recorded (P : Primitives) (v v' : Vault) (operation : SyncOperationV1)
    (row : OperationMeta) : Prop where
  fresh : v.operations.find? operation.operationId = none
  freshMeta : v.operationMeta.find? operation.operationId = none
  unused : v.metaAt operation.workspaceId operation.deviceId operation.deviceSequence = none
  chained : validateDeviceChain v operation = .ok ()
  freshNonce : v.nonces.find? (toLex (operation.keyEpoch, operation.nonce)) = none
  encodable : Encodable P operation
  sameAccount : row.accountId = operation.accountId
  sameWorkspace : row.workspaceId = operation.workspaceId
  sameDevice : row.deviceId = operation.deviceId
  sameSequence : row.deviceSequence = operation.deviceSequence
  sameDigest : row.canonicalSha256 = operationDigest P operation
  operations : v'.operations =
    v.operations.upsert operation.operationId ⟨operation.recordId, operation⟩
  operationMeta : v'.operationMeta = v.operationMeta.upsert operation.operationId row
  deviceHeads : v'.deviceHeads = v.deviceHeads.upsert
    (toLex (operation.workspaceId, operation.deviceId))
    ⟨operation.deviceSequence, operationDigest P operation⟩
  nonces : v'.nonces = v.nonces.upsert (toLex (operation.keyEpoch, operation.nonce))
    operation.operationId

/-- The stages a fresh apply went through. -/
theorem applyFresh_ok (ran : applyFresh P v admitted material rehydrate resolver appliedAtMs
      receivedAt = .ok (decision, update, v')) :
    ∃ claimed current chosen materialized change,
      claimRecord P v admitted material = .ok claimed ∧
      loadRecordHeads P claimed admitted.operation.workspaceId admitted.operation.recordId =
        .ok current ∧
      decideMerge admitted current = .ok decision ∧
      validateDeviceChain claimed admitted.operation = .ok () ∧
      representative admitted current rehydrate decision = .ok chosen ∧
      materializeRepresentative claimed resolver chosen = .ok (materialized, change) ∧
      recordIncoming materialized admitted current decision appliedAtMs receivedAt = .ok v' ∧
      update = cacheUpdate change := by
  simp only [applyFresh, ok_iff, Prod.mk.injEq] at ran
  obtain ⟨claimed, claim, current, loaded, _, decided, chained, chosen, represented,
    ⟨materialized, change⟩, stored, _, recorded, rfl, rfl, rfl⟩ := ran
  exact ⟨claimed, current, chosen, materialized, change, claim, loaded, decided, chained,
    represented, stored, recorded, rfl⟩

theorem recordIncoming_ok
    (ran : recordIncoming v admitted current decision appliedAtMs receivedAt = .ok v') :
    ∃ schedule, v.operations.find? admitted.operation.operationId = none ∧
      v.metaAt admitted.operation.workspaceId admitted.operation.deviceId
        admitted.operation.deviceSequence = none ∧
      v.operationMeta.find? admitted.operation.operationId = none ∧
      v.nonces.find? (toLex (admitted.operation.keyEpoch, admitted.operation.nonce)) = none ∧
      writeHeads { v with
        operations := v.operations.upsert admitted.operation.operationId
          ⟨admitted.operation.recordId, admitted.operation⟩
        operationMeta := v.operationMeta.upsert admitted.operation.operationId
          (incomingMeta admitted receivedAt)
        checkpointSchedule := schedule
        nonces := v.nonces.upsert (toLex (admitted.operation.keyEpoch, admitted.operation.nonce))
          admitted.operation.operationId
        deviceHeads := v.deviceHeads.upsert
          (toLex (admitted.operation.workspaceId, admitted.operation.deviceId))
          ⟨admitted.operation.deviceSequence, admitted.canonicalHash⟩ } admitted current decision =
        .ok v' := by
  simp only [recordIncoming, bind_eq_ok] at ran
  obtain ⟨_, inserted, _, nonced, ran⟩ := ran
  obtain ⟨fresh, unused, freshMeta, rfl⟩ := insertOperation_effect inserted
  obtain ⟨_, freshNonce, rfl⟩ := insertNonce_effect nonced
  exact ⟨(noteCheckpointOperation v admitted.operation.accountId admitted.operation.workspaceId
    appliedAtMs).checkpointSchedule, fresh, unused, freshMeta, freshNonce, ran⟩

/-- A fresh apply records its operation. -/
theorem applyFresh_recorded (valid : validateAdmitted P admitted = .ok ())
    (ran : applyFresh P v admitted material rehydrate resolver appliedAtMs receivedAt =
      .ok (decision, update, v')) :
    Recorded P v v' admitted.operation (incomingMeta admitted receivedAt) := by
  obtain ⟨claimed, current, chosen, materialized, change, claim, loaded, decided, chained,
    represented, stored, recorded, rfl⟩ := applyFresh_ok ran
  obtain ⟨owners, aliases, rfl, _⟩ := claimRecord_effect claim
  obtain ⟨tables, rfl⟩ := materializeRepresentative_effect stored
  obtain ⟨schedule, fresh, unused, freshMeta, freshNonce, written⟩ := recordIncoming_ok recorded
  obtain ⟨encodable, _, digest, _, _, _⟩ := validateAdmitted_ok valid
  rcases writeHeads_effect written with ⟨_, rfl⟩ | ⟨_, _, rfl⟩ | ⟨_, _, _, _, _, _, rfl⟩ <;>
    exact ⟨fresh, freshMeta, unused, chained, freshNonce, encodable, rfl, rfl, rfl, rfl, digest, rfl,
      rfl, by rw [← digest]; rfl, rfl⟩

/-! ## Outgoing operations -/

/-- The stages a fresh persist went through. -/
theorem persistFresh_ok (ran : persistFresh P v mutation built embedding committedAtMs queuedAt
      materialize = .ok (disposition, change, v')) :
    ∃ claimed heads materialized,
      ensureSyncRecordOwner P v none built.operation.accountId built.operation.workspaceId
        built.operation.recordId built.operation.recordKind = .ok claimed ∧
      validateDeviceChain claimed built.operation = .ok () ∧
      loadRecordHeads P claimed built.operation.workspaceId built.operation.recordId = .ok heads ∧
      (∀ head ∈ heads, compareOperations built.operation head.operation = .after) ∧
      materializeOutgoing claimed mutation built embedding materialize = .ok (materialized, change) ∧
      recordOutgoing materialized built committedAtMs queuedAt = .ok v' ∧
      disposition = .inserted := by
  simp only [persistFresh, ok_iff, Prod.mk.injEq] at ran
  obtain ⟨claimed, claim, chained, heads, loaded, follows, ⟨materialized, _⟩, stored, _, recorded,
    rfl, rfl, rfl⟩ := ran
  exact ⟨claimed, heads, materialized, claim, chained, loaded, follows, stored, recorded, rfl⟩

theorem materializeOutgoing_effect
    (ran : materializeOutgoing v mutation built embedding materialize = .ok (v', change)) :
    ∃ tables, v' = v.withRecordTables tables := by
  unfold materializeOutgoing at ran
  split at ran
  · exact materializeMutation_effect ran
  · simp only [ok_iff, Prod.mk.injEq] at ran
    exact ⟨v.recordTables, ran.2.1.symm⟩

theorem recordOutgoing_ok (ran : recordOutgoing v built committedAtMs queuedAt = .ok v') :
    ∃ schedule, v.operations.find? built.operation.operationId = none ∧
      v.metaAt built.operation.workspaceId built.operation.deviceId
        built.operation.deviceSequence = none ∧
      v.operationMeta.find? built.operation.operationId = none ∧
      v.nonces.find? (toLex (built.operation.keyEpoch, built.operation.nonce)) = none ∧
      v.outbox.find? built.operation.operationId = none ∧
      v' = { v with
        operations := v.operations.upsert built.operation.operationId
          ⟨built.operation.recordId, built.operation⟩
        operationMeta := v.operationMeta.upsert built.operation.operationId (outgoingMeta built)
        checkpointSchedule := schedule
        outbox := v.outbox.upsert built.operation.operationId ⟨queuedAt, 0, 0, none⟩
        deviceHeads := v.deviceHeads.upsert
          (toLex (built.operation.workspaceId, built.operation.deviceId))
          ⟨built.operation.deviceSequence, built.canonicalHash⟩
        recordHeads := (removeRecordHeads v built.operation).recordHeads.upsert
          (headKey built.operation built.operation.operationId)
          (headRow built.operation built.canonicalHash)
        conflicts := v.conflicts.erase built.operation.recordId
        nonces := v.nonces.upsert (toLex (built.operation.keyEpoch, built.operation.nonce))
          built.operation.operationId } := by
  simp only [recordOutgoing, bind_eq_ok] at ran
  obtain ⟨_, inserted, _, queued, _, headed, nonced⟩ := ran
  obtain ⟨fresh, unused, freshMeta, rfl⟩ := insertOperation_effect inserted
  simp only [insertOutbox, ok_iff, Table.insert?_eq_some] at queued
  obtain ⟨_, ⟨unqueued, rfl⟩, rfl⟩ := queued
  obtain ⟨_, rfl⟩ := insertRecordHead_effect headed
  obtain ⟨_, freshNonce, rfl⟩ := insertNonce_effect nonced
  exact ⟨(noteCheckpointOperation v built.operation.accountId built.operation.workspaceId
    committedAtMs).checkpointSchedule, fresh, unused, freshMeta, freshNonce, unqueued, rfl⟩

/-- A fresh persist records its operation. -/
theorem persistFresh_recorded (valid : validateCommit P mutation built = .ok ())
    (ran : persistFresh P v mutation built embedding committedAtMs queuedAt materialize =
      .ok (disposition, change, v')) :
    Recorded P v v' built.operation (outgoingMeta built) := by
  obtain ⟨claimed, heads, materialized, claim, chained, loaded, follows, stored, recorded, rfl⟩ :=
    persistFresh_ok ran
  obtain ⟨owners, rfl, _⟩ := ensureSyncRecordOwner_effect claim
  obtain ⟨tables, rfl⟩ := materializeOutgoing_effect stored
  obtain ⟨schedule, fresh, unused, freshMeta, freshNonce, _, rfl⟩ := recordOutgoing_ok recorded
  obtain ⟨encodable, _, digest, _, _, _⟩ := validateCommit_ok valid
  exact ⟨fresh, freshMeta, unused, chained, freshNonce, encodable, rfl, rfl, rfl, rfl, digest, rfl,
    rfl, by rw [← digest]; rfl, rfl⟩

/-- A fresh persist queues its operation, due at once. -/
theorem persistFresh_queued (ran : persistFresh P v mutation built embedding committedAtMs queuedAt
      materialize = .ok (disposition, change, v')) :
    v.outbox.find? built.operation.operationId = none ∧
      v'.outbox = v.outbox.upsert built.operation.operationId ⟨queuedAt, 0, 0, none⟩ ∧
      v'.membership = v.membership := by
  obtain ⟨claimed, heads, materialized, claim, _, _, _, stored, recorded, _⟩ := persistFresh_ok ran
  obtain ⟨owners, rfl, _⟩ := ensureSyncRecordOwner_effect claim
  obtain ⟨tables, rfl⟩ := materializeOutgoing_effect stored
  obtain ⟨schedule, _, _, _, _, unqueued, rfl⟩ := recordOutgoing_ok recorded
  exact ⟨unqueued, rfl, rfl⟩

end ContextRelay

/-! ## A small workspace

An instance of the primitives that computes, and the identities of a small workspace
with two devices. It shows that hypotheses on the primitives can be met and lets the
transactions run on concrete operations. An operation is written as the last byte of its
id, a mutation as its place in a list; the cipher leaves the text as it is. -/
namespace ContextRelay.Sample

open Library

def digest (bytes : Bytes) : Sha256Digest :=
  ⟨.ofNat (bytes.foldl (fun value byte => value * 256 + byte.toNat + 1) 1)⟩

def writeOperation (operation : SyncOperationV1) : Bytes :=
  [UInt8.ofNat operation.operationId.uuid]

def writeCheckpoint (checkpoint : CheckpointV1) : Bytes :=
  [UInt8.ofNat checkpoint.createdHlc.logical]

/-- The primitives of a world with these operations, mutations and checkpoints. -/
def primitives (operations : List SyncOperationV1) (mutations : List RecordMutationV1)
    (checkpoints : List CheckpointV1) : Primitives where
  sha256 := digest
  signingPublicKey keys := ⟨.ofNat keys.signingSeed⟩
  wrappingPublicKey keys := ⟨.ofNat keys.wrappingSeed⟩
  sign keys message := ⟨.ofNat (keys.signingSeed * 2 ^ 64 + (digest message).value)⟩
  verifySignature key message signature :=
    decide (signature = ⟨.ofNat (key.value * 2 ^ 64 + (digest message).value)⟩)
  encryptWithNonce _ plaintext _ nonce := some ⟨nonce, plaintext⟩
  decrypt _ payload _ := some payload.ciphertext
  writeOperation := writeOperation
  writeOperationPreimage := writeOperation
  writeOperationAad _ := []
  readOperation bytes := operations.find? (fun operation => writeOperation operation = bytes)
  writeMutation mutation := [UInt8.ofNat (mutations.idxOf mutation)]
  readMutation bytes := bytes.head?.bind (fun place => mutations[place.toNat]?)
  writeCheckpoint := writeCheckpoint
  writeCheckpointPreimage := writeCheckpoint
  readCheckpoint bytes := checkpoints.find? (fun checkpoint => writeCheckpoint checkpoint = bytes)
  writeStateSummary entries := entries.map (fun entry => UInt8.ofNat entry.headHashes.length)

scoped instance numbers_nonzero : NeZero 256 := ⟨by decide⟩

theorem isUuidV7_sample (n : Fin 256) : isUuidV7 (7 * 2 ^ 76 + 2 * 2 ^ 62 + n) = true := by
  simp only [isUuidV7, Bool.and_eq_true, decide_eq_true_eq, beq_iff_eq]
  omega

/-- The identifier with number `n`. -/
def id (n : Fin 256) : Id kind := ⟨7 * 2 ^ 76 + 2 * 2 ^ 62 + n, isUuidV7_sample n⟩

def account : AccountId := id 1
def workspace : WorkspaceId := id 2

/-- A device without accepted membership, named by its number. -/
def identity (device : Fin 256) : SyncIdentity where
  membershipEndpoint := none
  accountId := account
  workspaceId := workspace
  deviceId := id device
  controlEpoch := 1
  keyEpoch := 1
  deviceKeys := ⟨device, device⟩
  contentKey := ⟨1⟩

def certificate (device : DeviceId) (seed : Nat) : DeviceCertificateV1 where
  issuer := .recoveryRoot ⟨.zero⟩
  accountId := account
  workspaceId := workspace
  controlEpoch := 1
  requestNonce := ⟨.zero⟩
  deviceId := device
  signingPublicKey := ⟨.ofNat seed⟩
  wrappingPublicKey := ⟨.ofNat seed⟩
  signature := ⟨.zero⟩

def task (record project : Fin 256) (revision : Fin 256) : RecordMutationV1 :=
  .upsertTask ⟨id record, id project, "title", "body", .open, [], id revision⟩

/-- What a device asks the builder for: a mutation of a record of some project. -/
def request (device operation project : Fin 256) (mutation : RecordMutationV1)
    (frontier : List DeviceSequence) (previous : Option OperationChainHead) :
    OperationBuildRequest :=
  ⟨id operation, some (id project), mutation, frontier, previous, [], ⟨0, 0, id device⟩⟩

/-- The operation the builder makes of a request, at a place of the device's chain. -/
def sealedOperation (P : Primitives) (device : Fin 256) (nonce sequence : Nat)
    (previousHash : Sha256Digest) (request : OperationBuildRequest) : SyncOperationV1 :=
  let plaintext := P.writeMutation request.mutation
  let operation := { unsealedOperation (identity device) request request.causalFrontier sequence
      previousHash with
    nonce := ⟨.ofNat nonce⟩
    ciphertext := plaintext
    ciphertextHash := P.sha256 plaintext }
  { operation with
    signature := P.sign (identity device).deviceKeys (P.writeOperationPreimage operation.unsigned) }

def built (P : Primitives) (mutation : RecordMutationV1) (operation : SyncOperationV1) :
    BuiltOperation where
  membershipEndpoint := none
  operation
  canonicalBytes := P.writeOperation operation
  canonicalHash := operationDigest P operation
  sealedMutationHash := P.sha256 (P.writeMutation mutation)
  sealedOperationHash := operationDigest P operation

/-- The vault a transaction left, or another one where it failed. -/
def vaultOr (fallback : Vault) (outcome : Except VaultError (α × Vault)) : Vault :=
  match outcome with
  | .ok (_, v) => v
  | .error _ => fallback

/-- A device of the workspace as another one trusts it. -/
def trusted (device : DeviceId) (seed : Nat) : TrustedDevice := ⟨certificate device seed, 1, 1⟩

/-- Trust in some devices at epoch one, with the one content key. -/
def material (devices : List (Fin 256)) : TrustedSyncMaterial where
  historicalReadMaterial := none
  membershipEndpoint := none
  trustedDevice _ _ device :=
    match devices.find? (fun known => (id known : DeviceId) = device) with
    | some known => .ok (trusted device known)
    | none => .error .invalidIdentity
  contentKey _ epoch := if epoch = 1 then .ok ⟨1⟩ else .error .invalidIdentity

def noEmbedding : RepresentativeEmbeddingResolver := fun _ _ => .ok none

def oneEmbedding : RepresentativeEmbeddingResolver := fun _ _ => .ok (some ⟨[]⟩)

/-- An operation as admission hands it on. -/
def received (P : Primitives) (mutation : RecordMutationV1) (operation : SyncOperationV1) :
    AdmittedOperation :=
  ⟨none, operation, mutation, P.writeOperation operation, operationDigest P operation⟩

/-- What applying a received operation gives. -/
def applied (P : Primitives) (v : Vault) (mutation : RecordMutationV1) (operation : SyncOperationV1)
    (devices : List (Fin 256)) : Except VaultError (MergeDecision × SyncCacheUpdate × Vault) :=
  applyVerifiedInTransaction P v (received P mutation operation) (some (material devices))
    (rehydrateStoredMutation P (material devices)) noEmbedding 0 "1"

/-! ## Two devices write one record -/

def firstTask : RecordMutationV1 := task 10 20 30

def secondTask : RecordMutationV1 := task 10 20 31

def tasks : List RecordMutationV1 := [firstTask, secondTask]

def fifth : SyncOperationV1 :=
  sealedOperation (primitives [] tasks []) 5 9 1 .zero (request 5 30 20 firstTask [] none)

def sixth : SyncOperationV1 :=
  sealedOperation (primitives [] tasks []) 6 8 1 .zero (request 6 31 20 secondTask [] none)

def pairWorld : Primitives := primitives [fifth, sixth] tasks []

/-- What a device leaves that persists its own operation first. -/
def persistedFirst (mutation : RecordMutationV1) (operation : SyncOperationV1) : Vault :=
  match persistOutgoing pairWorld Vault.empty mutation (built pairWorld mutation operation) none 0 0
    true with
  | .ok (_, _, v) => v
  | .error _ => Vault.empty

theorem admit_sixth : admitOperation pairWorld (persistedFirst firstTask fifth)
    (pairWorld.writeOperation sixth) (material [5, 6]) =
      .ok (.admitted (received pairWorld secondTask sixth)) := rfl

/-- The sixth device's operation pulled from a provider and applied. -/
def pulledSixth : Except VaultError (MergeDecision × Vault) :=
  applyAdmittedOperationAt pairWorld (persistedFirst firstTask fifth)
    (received pairWorld secondTask sixth) (material [5, 6]) .memory "1" noEmbedding 0

def afterPull : Vault := vaultOr Vault.empty pulledSixth

theorem commit_fifth : commitOutgoingOperationWithBindingAt pairWorld Vault.empty firstTask
    (built pairWorld firstTask fifth) none 0 0 none =
      .ok (.inserted, persistedFirst firstTask fifth) := rfl

theorem pulledSixth_ok : pulledSixth = .ok (.addConflictHead [], afterPull) := rfl

/-! ## Two commits of one device -/

def otherTask : RecordMutationV1 := task 11 20 40

def twoTasks : List RecordMutationV1 := [firstTask, otherTask]

/-- The device's first operation; its id is above that of the second. -/
def early : SyncOperationV1 :=
  sealedOperation (primitives [] twoTasks []) 5 9 1 .zero (request 5 41 20 firstTask [] none)

def earlyHead : OperationChainHead := ⟨1, operationDigest (primitives [] twoTasks []) early⟩

def late : SyncOperationV1 :=
  sealedOperation (primitives [] twoTasks []) 5 10 2 earlyHead.canonicalHash
    (request 5 40 20 otherTask [⟨id 5, 1⟩] (some earlyHead))

def queueWorld : Primitives := primitives [early, late] twoTasks []

/-- The vault after the commit of the early operation in second zero. -/
def earlyCommitted : Vault :=
  vaultOr Vault.empty (commitOutgoingOperationWithBindingAt queueWorld Vault.empty firstTask
    (built queueWorld firstTask early) none 0 0 none)

theorem commit_early : commitOutgoingOperationWithBindingAt queueWorld Vault.empty firstTask
    (built queueWorld firstTask early) none 0 0 none = .ok (.inserted, earlyCommitted) := rfl

/-- The vault after the commit of the late operation, in the same second. -/
def bothCommitted (v : Vault) : Vault :=
  vaultOr Vault.empty (commitOutgoingOperationWithBindingAt queueWorld v otherTask
    (built queueWorld otherTask late) none 0 0 none)

theorem commit_late : commitOutgoingOperationWithBindingAt queueWorld earlyCommitted otherTask
    (built queueWorld otherTask late) none 0 0 none =
      .ok (.inserted, bothCommitted earlyCommitted) := rfl

/-! ## An update and a delete -/

/-- The record of the first task, put into some project. -/
def moved (project : Fin 256) : RecordMutationV1 := task 10 project 32

def deleted : RecordMutationV1 := .tombstone (id 10) .task

def edits (project : Fin 256) : List RecordMutationV1 := [firstTask, moved project, deleted]

def created (project : Fin 256) : SyncOperationV1 :=
  sealedOperation (primitives [] (edits project) []) 5 9 1 .zero (request 5 30 20 firstTask [] none)

def createdHead (project : Fin 256) : OperationChainHead :=
  ⟨1, operationDigest (primitives [] (edits project) []) (created project)⟩

/-- The fifth device updates the record. -/
def update (project : Fin 256) : SyncOperationV1 :=
  sealedOperation (primitives [] (edits project) []) 5 10 2 (createdHead project).canonicalHash
    (request 5 32 project (moved project) [⟨id 5, 1⟩] (some (createdHead project)))

/-- The sixth device deletes it, having seen it in project 20. -/
def deletion (project : Fin 256) : SyncOperationV1 :=
  sealedOperation (primitives [] (edits project) []) 6 11 1 .zero
    (request 6 33 20 deleted [⟨id 5, 1⟩] none)

def editWorld (project : Fin 256) : Primitives :=
  primitives [created project, update project, deletion project] (edits project) []

/-- A third device that pulled the record. -/
def reader (project : Fin 256) : Vault :=
  vaultOr Vault.empty (applyAdmittedOperationAt (editWorld project) Vault.empty
    (received (editWorld project) firstTask (created project)) (material [5, 6]) .memory "1"
    oneEmbedding 0)

theorem admit_created (project : Fin 256) (known : project = 20 ∨ project = 21) :
    admitOperation (editWorld project) Vault.empty
      ((editWorld project).writeOperation (created project)) (material [5, 6]) =
        .ok (.admitted (received (editWorld project) firstTask (created project))) := by
  rcases known with rfl | rfl <;> rfl

end ContextRelay.Sample
