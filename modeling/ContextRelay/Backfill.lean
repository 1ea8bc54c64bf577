import ContextRelay.Outgoing
import ContextRelay.StateSummary

/-! Backfill: records written before the workspace was synchronized are signed and queued in
bounded batches. The candidate ids of older databases are renamed first, and the unsigned
queue entries a signed snapshot replaces are retired. -/
namespace ContextRelay

open Library

variable (P : Primitives)

/-- Verified device authority and the active content key of one sync cycle. -/
structure VaultSyncMaterial where
  historicalRead : Option HistoricalReadMaterial
  membershipEndpoint : Option MembershipEndpoint
  scope : SyncScope
  controlEpoch : Nat
  keyEpoch : Nat
  contentKey : ContentKey
  certificates : Table DeviceId DeviceCertificateV1

def VaultSyncMaterial.localIdentity (material : VaultSyncMaterial) (deviceId : DeviceId)
    (keys : DeviceKeys) : Except SyncError SyncIdentity := do
  let certificate ← present (material.certificates.find? deviceId) .invalidIdentity
  require (certificate.signingPublicKey = P.signingPublicKey keys ∧
    certificate.wrappingPublicKey = P.wrappingPublicKey keys) .invalidIdentity
  pure {
    membershipEndpoint := material.membershipEndpoint
    accountId := material.scope.accountId
    workspaceId := material.scope.workspaceId
    deviceId
    controlEpoch := material.controlEpoch
    keyEpoch := material.keyEpoch
    deviceKeys := keys
    contentKey := material.contentKey }

def VaultSyncMaterial.toTrusted (material : VaultSyncMaterial) : TrustedSyncMaterial where
  historicalReadMaterial := material.historicalRead
  membershipEndpoint := material.membershipEndpoint
  trustedDevice account workspace device := do
    require (account = material.scope.accountId ∧ workspace = material.scope.workspaceId)
      .invalidScope
    let certificate ← present (material.certificates.find? device) .invalidIdentity
    pure ⟨certificate, material.controlEpoch, material.keyEpoch⟩
  contentKey workspace keyEpoch := do
    require (workspace = material.scope.workspaceId ∧ keyEpoch = material.keyEpoch) .invalidScope
    pure material.contentKey

/-! ## Renaming the candidates of older databases -/

/-- Does any alias name one of the two ids? -/
def aliasNames (v : Vault) (oldId newId : RecordId) : Bool :=
  v.candidateAliases.rows.any (fun row =>
    row.1 = oldId ∨ row.1 = newId ∨ row.2 = oldId ∨ row.2 = newId)

def toRecordId (uuid : Nat) : Option RecordId :=
  if valid : isUuidV7 uuid = true then some ⟨uuid, valid⟩ else none

def migrateCandidate (v : Vault) (row : RecordId × MemoryCandidate) : Except VaultError Vault := do
  let (oldId, candidate) := row
  renameFailure candidate.validate (fun failure => .validation failure.display)
  require ((candidate.id.retype : RecordId) = oldId ∧ storedSyncRecordOwner v oldId = none ∧
    ∀ kind ∈ materializedRecordKinds v oldId, kind = .memory ∨ kind = .memoryCandidate)
    .operationConflict
  let newUuid ← present (derivedRecordUuid P candidate.id.uuid legacyCandidateDomain) .operationConflict
  let newId ← present (toRecordId newUuid) .operationConflict
  require (aliasNames v oldId newId = false ∧ (materializedRecordKinds v newId).isEmpty ∧
    storedSyncRecordOwner v newId = none) .operationConflict
  pure { v with
    candidates := (v.candidates.erase oldId).upsert newId { candidate with id := newId.retype }
    candidateAliases := v.candidateAliases.upsert oldId newId }

def migrateLegacyCandidateIds (v : Vault) (limit : Nat) : Except VaultError Vault :=
  thread (migrateCandidate P) v
    ((v.candidates.rows.filter (fun row => row.1.uuid = row.2.proposedMemory.id.uuid)).take limit)

/-! ## Retiring unsigned queue entries -/

/-- The queued operations of a record that were never signed, by id. -/
def legacyQueue (v : Vault) (record : RecordId) : List (OperationId × OperationRow) :=
  v.operations.rows.filter (fun row => row.2.recordId = record ∧
    (v.outbox.find? row.1).isSome ∧ (v.operationMeta.find? row.1).isNone)

def validateOperationFor (operation : SyncOperationV1) (record : RecordId) (kind : RecordKind) :
    Except VaultError Unit := do
  renameFailure operation.validate (fun failure => .validation failure.display)
  require (operation.recordId = record ∧ operation.recordKind = kind)
    (.validation "operation record identity does not match payload")
  require (operation.mutationKind = .upsert)
    (.validation "live record writes require an upsert operation")

/-- Is an operation id the target of a head or a nonce? -/
def isReferenced (v : Vault) (operationId : OperationId) : Bool :=
  v.recordHeads.rows.any (fun row => (ofLex (ofLex row.1).2).2 = operationId) ||
    v.nonces.rows.any (fun row => row.2 = operationId)

def retireLegacyRow (record : RecordId) (kind : RecordKind) (v : Vault)
    (row : OperationId × OperationRow) : Except VaultError Vault := do
  validateOperationFor row.2.operation record kind
  require (row.2.operation.operationId = row.1 ∧ isReferenced v row.1 = false) .operationConflict
  pure { v with outbox := v.outbox.erase row.1 }

def retireLegacyQueueForRecord (v : Vault) (record : RecordId) (kind : RecordKind) :
    Except VaultError Vault :=
  thread (retireLegacyRow record kind) v ((legacyQueue v record).take 32)

/-! ## The batch -/

/-- Every materialized record with its kind, table by table. -/
def localRecords (v : Vault) : List (RecordId × RecordKind) :=
  v.records.rows.map (fun row => (row.1, row.2.kind)) ++
    v.tasks.rows.map (fun row => (row.1, .task)) ++
    v.candidates.rows.map (fun row => (row.1, .memoryCandidate)) ++
    v.secretRefs.rows.map (fun row => (row.1, .secretRef)) ++
    v.components.rows.map (fun row => (row.1, .component)) ++
    v.projects.rows.map (fun row => (row.1, .project))

/-- The materialized records that no workspace owns under their kind. -/
def unownedRecords (v : Vault) : List (RecordId × RecordKind) :=
  (localRecords v).filter (fun record =>
    !(storedSyncRecordOwner v record.1).any (fun owner => owner.recordKind = record.2))

/-- Projects come first, then renamed candidates, then the rest. -/
def backfillPriority (v : Vault) (record : RecordId × RecordKind) : Nat :=
  if record.2 = .project then 0
  else if record.2 = .memoryCandidate ∧
      v.candidateAliases.rows.any (fun row => row.2 = record.1) then 1
  else 2

/-- The place of a kind's name in text order. -/
def kindNameRank : RecordKind → Nat
  | .component => 0
  | .instruction => 1
  | .memory => 2
  | .memoryCandidate => 3
  | .project => 4
  | .secretRef => 5
  | .task => 6

def backfillKey (v : Vault) (record : RecordId × RecordKind) : Nat ×ₗ RecordId ×ₗ Nat :=
  toLex (backfillPriority v record, toLex (record.1, kindNameRank record.2))

def backfillBatch (v : Vault) (limit : Nat) : List (RecordId × RecordKind) :=
  ((unownedRecords v).insertionSort
    (fun left right => backfillKey v left ≤ backfillKey v right)).take limit

/-- Owned records that still have an unsigned queue entry, by record id. -/
def pendingLegacy (v : Vault) (scope : SyncScope) (limit : Nat) : List (RecordId × RecordKind) :=
  ((v.recordOwners.rows.filter (fun row => row.2.accountId = scope.accountId ∧
      row.2.workspaceId = scope.workspaceId ∧ row.2.state = .verified ∧
      legacyQueue v row.1 ≠ [])).map (fun row => (row.1, row.2.recordKind))).take limit

/-- Is there anything to backfill, for any scope? -/
def hasBackfillWork (v : Vault) : Bool :=
  !(unownedRecords v).isEmpty ||
    v.candidates.rows.any (fun row => row.1.uuid = row.2.proposedMemory.id.uuid) ||
    v.recordOwners.rows.any (fun row => row.2.state = .verified && !(legacyQueue v row.1).isEmpty)

/-- What the batch draws for one record: a fresh operation id, a nonce and the second its
outbox row is inserted. -/
structure BackfillDraw where
  operationId : OperationId
  nonce : XChaChaNonce
  queuedAt : Nat
deriving DecidableEq

/-- The state threaded through a batch: the vault and the device's chain head. -/
structure BackfillState where
  vault : Vault
  previous : Option OperationChainHead

/-- A candidate that still has the id of the memory it proposes. -/
def isUnrenamedCandidate : RecordMutationV1 → Bool
  | .upsertMemoryCandidate candidate => candidate.id.uuid == candidate.proposedMemory.id.uuid
  | _ => false

def backfillRecord (identity : SyncIdentity) (now : Nat) (state : BackfillState)
    (item : (RecordId × RecordKind) × BackfillDraw) : Except VaultError BackfillState := do
  let ((record, kind), draw) := item
  let v := state.vault
  let scope : SyncScope := ⟨identity.accountId, identity.workspaceId⟩
  require (materializedRecordKinds v record = [kind]) .operationConflict
  let mutation ← present (loadMaterializedMutation v record kind) .operationConflict
  require (isUnrenamedCandidate mutation = false) .operationConflict
  let recordScope ← present (materializedScope v record kind) .operationConflict
  let frontier ← loadCheckpointFrontier v scope
  let request : OperationBuildRequest := {
    operationId := draw.operationId
    projectId := scopeProject recordScope
    mutation
    causalFrontier := frontier
    previous := state.previous
    blobRefs := []
    createdHlc := ⟨now, 0, identity.deviceId⟩ }
  let built ← renameFailure (OperationBuilder.build P identity draw.nonce request)
    (fun failure => .validation failure.display)
  let v ← insertOrVerifySyncRecordOwner v scope.accountId scope.workspaceId record kind
  let (_, _, v) ← persistOutgoing P v mutation built none now draw.queuedAt false
  let v ← retireLegacyQueueForRecord v record kind
  pure ⟨v, some ⟨built.operation.deviceSequence, built.canonicalHash⟩⟩

def retirePending (material : VaultSyncMaterial) (v : Vault) (item : RecordId × RecordKind) :
    Except VaultError Vault := do
  let matching ← legacyOwnerMatchesMaterialization P v material.toTrusted material.scope.accountId
    material.scope.workspaceId item.1 item.2
  require (matching = true) .operationConflict
  retireLegacyQueueForRecord v item.1 item.2

/-- `draws` supplies one draw for each record of the batch. -/
def backfillSyncRecords (v : Vault) (material : Except VaultError VaultSyncMaterial)
    (deviceId : DeviceId) (keys : DeviceKeys) (limit now : Nat) (draws : Nat → BackfillDraw) :
    Except VaultError (Nat × Vault) :=
  if limit = 0 ∨ hasBackfillWork v = false then pure (0, v)
  else do
    let material ← material
    let identity ← renameFailure (material.localIdentity P deviceId keys)
      (fun failure => .validation failure.display)
    let previous := v.deviceHead identity.workspaceId deviceId
    let v ← migrateLegacyCandidateIds P v (min limit 32)
    let batch := backfillBatch v (min limit 32)
    let state ← thread (backfillRecord P identity now) ⟨v, previous⟩
      (batch.zip ((List.range batch.length).map draws))
    let pending := pendingLegacy state.vault material.scope (min limit 32)
    let v ← thread (retirePending P material) state.vault pending
    pure (batch.length + pending.length, v)

end ContextRelay
