import ContextRelay.Admission

/-! Applying an admitted operation: claiming the record identifier, deciding what becomes
of the record's heads, materializing the representative and recording the operation, in
one transaction. A failed transaction leaves the vault as it was. -/
namespace ContextRelay

open Library

inductive MergeDecision where
  | noLiveChange
  | replaceHeads (remove : List OperationId)
  | addConflictHead (remove : List OperationId)
  | resolveConflict (remove : List OperationId)
deriving DecidableEq

/-! ## Merge decision -/

def validateIncoming (incoming : AdmittedOperation) : Except SyncError Unit :=
  require (incoming.operation.recordId = incoming.mutation.recordId ∧
      incoming.operation.recordKind = incoming.mutation.recordKind ∧
      incoming.operation.mutationKind = incoming.mutation.mutationKind)
    .invalidMutation

def validateHead (incoming : AdmittedOperation) (head : StoredRecordHead) : Except SyncError Unit :=
  require (head.operationId = head.operation.operationId ∧
      head.recordKind = head.operation.recordKind ∧
      head.mutationKind = head.operation.mutationKind ∧
      head.operation.workspaceId = incoming.operation.workspaceId ∧
      head.operation.recordId = incoming.operation.recordId ∧
      head.recordKind = incoming.operation.recordKind)
    .invalidEnvelope

def sortIds (ids : List OperationId) : List OperationId := ids.insertionSort (· ≤ ·)

def decideMerge (incoming : AdmittedOperation) (current : List StoredRecordHead) :
    Except SyncError MergeDecision := do
  validateIncoming incoming
  let _ ← collect (validateHead incoming) current
  if current.isEmpty then pure (.replaceHeads [])
  else
    let order (head : StoredRecordHead) := compareOperations incoming.operation head.operation
    let remove := sortIds (current.map StoredRecordHead.operationId)
    if current.all (fun head => order head = .after) then
      pure (if 1 < current.length then .resolveConflict remove else .replaceHeads remove)
    else if current.any (fun head => order head = .before ∨ order head = .equal) then
      pure .noLiveChange
    else
      pure (.addConflictHead (sortIds ((current.filter (fun head => order head = .after)).map
        StoredRecordHead.operationId)))

/-! ## Claiming the record -/

variable (P : Primitives)

def insertOrVerifySyncRecordOwner (v : Vault) (account : AccountId) (workspace : WorkspaceId)
    (record : RecordId) (kind : RecordKind) : Except VaultError Vault :=
  match storedSyncRecordOwner v record with
  | some owner => do
    require (owner = ⟨account, workspace, kind, .verified⟩)
      (.validation "record identifier belongs to another sync scope")
    pure v
  | none =>
    pure { v with recordOwners := v.recordOwners.upsert record ⟨account, workspace, kind, .verified⟩ }

def ensureSyncRecordOwner (v : Vault) (material : Option TrustedSyncMaterial)
    (account : AccountId) (workspace : WorkspaceId) (record : RecordId) (kind : RecordKind) :
    Except VaultError Vault := do
  require (candidateAliasAllowsScope v account workspace record kind = true) .operationConflict
  match storedSyncRecordOwner v record with
  | some owner =>
    require ((owner.accountId, owner.workspaceId, owner.recordKind) = (account, workspace, kind))
      (.validation "record identifier belongs to another sync scope")
    if owner.state = .verified then pure v
    else do
      let material ← present material
        (.validation "legacy sync record owner requires verified reconciliation")
      let matching ← legacyOwnerMatchesMaterialization P v material account workspace record kind
      require (matching = true)
        (.validation "legacy sync record owner requires verified reconciliation")
      pure { v with recordOwners := v.recordOwners.upsert record { owner with state := .verified } }
  | none =>
    require ((materializedRecordKinds v record).isEmpty = true)
      (.validation "ownerless materialized record requires explicit sync binding")
    insertOrVerifySyncRecordOwner v account workspace record kind

/-- The identifier derived from another: its first six bytes, then the leading ten bytes of a
domain-separated digest with the version and variant bits set. Absent when it is the
source itself. -/
def derivedRecordUuid (source : Nat) (domain : Bytes) : Option Nat :=
  let digest := (P.sha256 (domain ++ bigEndian 16 source)).value / 256 ^ 22 % 256 ^ 10
  let timestamp := source / 2 ^ 80 * 2 ^ 80
  let randomA := digest / 2 ^ 64 % 2 ^ 12
  let randomB := digest % 2 ^ 62
  let derived := timestamp + 7 * 2 ^ 76 + randomA * 2 ^ 64 + 2 * 2 ^ 62 + randomB
  if derived = source then none else some derived

def legacyCandidateDomain : Bytes := "context-relay.legacy-candidate.v1".toUTF8.toList

/-- Record the alias of a received candidate whose id derives from its proposed memory. -/
def restoreReceivedCandidateAlias (v : Vault) (candidate : MemoryCandidate) (account : AccountId)
    (workspace : WorkspaceId) : Except VaultError Vault := do
  let expected ← present (derivedRecordUuid P candidate.proposedMemory.id.uuid legacyCandidateDomain)
    .operationConflict
  let oldId : RecordId := candidate.proposedMemory.id.retype
  let newId : RecordId := candidate.id.retype
  if candidate.id.uuid ≠ expected ∨ resolveCandidateId v oldId = newId then pure v
  else do
    let aliasExists := v.candidateAliases.rows.any (fun row =>
      row.1 = oldId ∨ row.1 = newId ∨ row.2 = oldId ∨ row.2 = newId)
    let kinds := materializedRecordKinds v oldId
    let owner := storedSyncRecordOwner v oldId
    require (aliasExists = false ∧ (∀ kind ∈ kinds, kind = .memory) ∧
      owner.all (fun owner => owner = ⟨account, workspace, .memory, .verified⟩) ∧
      (owner.isSome ∨ kinds.isEmpty)) .operationConflict
    pure { v with candidateAliases := v.candidateAliases.upsert oldId newId }

/-! ## Materialization -/

inductive CacheChange where
  | putMemory (record : MemoryRecord) (embedding : Embedding384)
  | putInstruction (record : InstructionRecord) (embedding : Embedding384)
  | remove (record : RecordId)
  | none
deriving DecidableEq

/-- Store a searchable record; its kind never changes. -/
def upsertSearchableRecord (v : Vault) (record : RecordId) (row : SearchableRecord) :
    Except VaultError Vault := do
  require ((v.records.find? record).all (fun existing => existing.kind = row.kind))
    (.validation "record kind cannot change")
  pure { v with records := v.records.upsert record row }

def embeddingMissing : VaultError := .validation "searchable sync mutation requires an embedding"

/-- Delete a record from the table of its kind. -/
def deleteMaterialized (v : Vault) (record : RecordId) : RecordKind → Vault
  | .memory | .instruction => { v with records := v.records.erase record }
  | .memoryCandidate => { v with candidates := v.candidates.erase record }
  | .task => { v with tasks := v.tasks.erase record }
  | .secretRef => { v with secretRefs := v.secretRefs.erase record }
  | .component => { v with components := v.components.erase record }
  | .project => { v with projects := v.projects.erase record }

def materializeMutation (v : Vault) (mutation : RecordMutationV1)
    (embedding : Option Embedding384) : Except VaultError (Vault × CacheChange) :=
  match mutation with
  | .upsertMemory record => do
    let embedding ← present embedding embeddingMissing
    let v ← upsertSearchableRecord v record.id.retype (.memory record)
    pure (v, .putMemory record embedding)
  | .upsertMemoryCandidate record => do
    require (resolveCandidateId v record.id.retype = record.id.retype) .operationConflict
    pure ({ v with candidates := v.candidates.upsert record.id.retype record }, .none)
  | .upsertTask record =>
    pure ({ v with tasks := v.tasks.upsert record.id.retype record }, .none)
  | .upsertSecretRef record =>
    pure ({ v with secretRefs := v.secretRefs.upsert record.id.retype record }, .none)
  | .upsertInstruction record => do
    let embedding ← present embedding embeddingMissing
    let v ← upsertSearchableRecord v record.id (.instruction record)
    pure (v, .putInstruction record embedding)
  | .upsertComponent record =>
    pure ({ v with components := v.components.upsert record.id record }, .none)
  | .upsertProject record =>
    pure ({ v with projects := v.projects.upsert record.projectId.retype record }, .none)
  | .tombstone recordId recordKind =>
    pure (deleteMaterialized v recordId recordKind,
      if recordKind = .memory ∨ recordKind = .instruction then .remove recordId else .none)

def cachedEmbedding (scope : ScopeRef) (archived : Bool) (embedding : Embedding384) :
    CachedEmbedding :=
  ⟨true, archived, scope, embedding⟩

abbrev SyncCacheUpdate := Option (RecordId × Option CachedEmbedding)

def cacheUpdate : CacheChange → SyncCacheUpdate
  | .putMemory record embedding =>
    some (record.id.retype, some (cachedEmbedding record.scope record.archived embedding))
  | .putInstruction record embedding =>
    some (record.id, some (cachedEmbedding record.scope record.archived embedding))
  | .remove record => some (record, none)
  | .none => none

def applySyncCacheUpdate (v : Vault) (update : SyncCacheUpdate) : Vault :=
  { v with
    embeddingCache := match update with
      | none => v.embeddingCache
      | some (record, some cached) => v.embeddingCache.upsert record cached
      | some (record, none) => v.embeddingCache.erase record }

/-! ## Recording an operation -/

/-- A SQLite integer holds at most this. -/
def sqliteMax : Nat := 2 ^ 63 - 1

def noteCheckpointOperation (v : Vault) (account : AccountId) (workspace : WorkspaceId)
    (appliedAtMs : Nat) : Vault :=
  let key := toLex (account, workspace)
  let appliedAt := min appliedAtMs sqliteMax
  let row : SyncCheckpointSchedule :=
    match v.checkpointSchedule.find? key with
    | none => ⟨1, some appliedAt, none, false⟩
    | some stored => { stored with
        appliedOperations :=
          if stored.appliedOperations < sqliteMax then stored.appliedOperations + 1
          else stored.appliedOperations
        firstUncheckpointedMs := stored.firstUncheckpointedMs.or (some appliedAt) }
  { v with checkpointSchedule := v.checkpointSchedule.upsert key row }

/-- Insert an operation and its metadata: the id and the place in the device chain are new. -/
def insertOperation (v : Vault) (operation : SyncOperationV1) (row : OperationMeta) :
    Except VaultError Vault := do
  let operations ← present (v.operations.insert? operation.operationId
    ⟨operation.recordId, operation⟩) .database
  require (v.metaAt row.workspaceId row.deviceId row.deviceSequence = none) .database
  let operationMeta ← present (v.operationMeta.insert? operation.operationId row) .database
  pure { v with operations, operationMeta }

/-- A nonce is used once per key epoch, and an operation has one nonce. -/
def insertNonce (v : Vault) (operation : SyncOperationV1) : Except VaultError Vault := do
  require (∀ row ∈ v.nonces.rows, row.2 ≠ operation.operationId) .database
  let nonces ← present (v.nonces.insert? (toLex (operation.keyEpoch, operation.nonce))
    operation.operationId) .database
  pure { v with nonces }

def setDeviceHead (v : Vault) (operation : SyncOperationV1) (canonicalHash : Sha256Digest) : Vault :=
  let head : StoredDeviceHead := ⟨operation.deviceSequence, canonicalHash⟩
  { v with deviceHeads := v.deviceHeads.upsert (toLex (operation.workspaceId, operation.deviceId)) head }

def headKey (operation : SyncOperationV1) (operationId : OperationId) :
    WorkspaceId ×ₗ RecordId ×ₗ OperationId :=
  toLex (operation.workspaceId, toLex (operation.recordId, operationId))

def insertRecordHead (v : Vault) (operation : SyncOperationV1) (canonicalHash : Sha256Digest) :
    Except VaultError Vault := do
  let recordHeads ← present (v.recordHeads.insert? (headKey operation operation.operationId)
    ⟨operation.recordKind, operation.mutationKind, canonicalHash⟩) .database
  pure { v with recordHeads }

/-- Delete some heads of the operation's record. -/
def removeHeads (v : Vault) (operation : SyncOperationV1) (remove : List OperationId) : Vault :=
  { v with recordHeads := remove.foldl (fun table id => table.erase (headKey operation id)) v.recordHeads }

def deleteConflict (v : Vault) (record : RecordId) : Vault :=
  { v with conflicts := v.conflicts.erase record }

/-- An operation extends the stored chain of its device by one. -/
def validateDeviceChain (v : Vault) (operation : SyncOperationV1) : Except VaultError Unit :=
  match v.deviceHead operation.workspaceId operation.deviceId with
  | some head => do
    let expected ← present (checkedSucc head.sequence) (.validation "device sequence exhausted")
    require (operation.deviceSequence = expected ∧ operation.previousDeviceHash = head.canonicalHash)
      (.validation "operation does not extend the persisted device head")
  | none =>
    require (operation.deviceSequence = 1 ∧ operation.previousDeviceHash = .zero)
      (.validation "first persisted device operation must be genesis")

/-! ## The transaction -/

abbrev RepresentativeEmbeddingResolver :=
  OperationId → RecordMutationV1 → Except SyncError (Option Embedding384)

def validateAdmitted (admitted : AdmittedOperation) : Except VaultError Unit := do
  orFail admitted.operation.validate (.validation "invalid admitted operation")
  orFail admitted.mutation.validate (.validation "invalid admitted mutation")
  require (admitted.operation.recordId = admitted.mutation.recordId ∧
      admitted.operation.recordKind = admitted.mutation.recordKind ∧
      admitted.operation.mutationKind = admitted.mutation.mutationKind)
    (.validation "admitted operation does not match mutation")
  let canonical ← orFail (encodeSyncOperationV1 P admitted.operation)
    (.validation "invalid admitted operation")
  require (canonical = admitted.canonicalBytes ∧ P.sha256 canonical = admitted.canonicalHash)
    (.validation "admitted canonical operation mismatch")

def exactIncomingReplay (v : Vault) (admitted : AdmittedOperation) : Except VaultError Bool :=
  match v.operations.find? admitted.operation.operationId with
  | none => pure false
  | some row => do
    let canonical ← orFail (encodeSyncOperationV1 P row.operation)
      (.validation "invalid stored operation")
    require (canonical = admitted.canonicalBytes) .operationConflict
    pure true

/-- The operations that stay in conflict when an incoming one joins them, by id. -/
def conflictHeads (admitted : AdmittedOperation) (current : List StoredRecordHead)
    (remove : List OperationId) : List SyncOperationV1 :=
  let kept := (current.filter (fun head => head.operationId ∉ remove)).map StoredRecordHead.operation
  (kept ++ [admitted.operation]).insertionSort (fun left right => left.operationId ≤ right.operationId)

/-- The operation whose mutation becomes the live record, with that mutation. -/
def representative (admitted : AdmittedOperation) (current : List StoredRecordHead)
    (rehydrate : SyncOperationV1 → Except VaultError RecordMutationV1) :
    MergeDecision → Except VaultError (Option (OperationId × RecordMutationV1))
  | .noLiveChange => pure none
  | .replaceHeads _ | .resolveConflict _ =>
    pure (some (admitted.operation.operationId, admitted.mutation))
  | .addConflictHead remove => do
    let first ← present (conflictHeads admitted current remove).head?
      (.validation "conflict head set is empty")
    if first.operationId = admitted.operation.operationId then
      pure (some (first.operationId, admitted.mutation))
    else do
      let mutation ← rehydrate first
      pure (some (first.operationId, mutation))

/-- Memories and instructions are searchable and need a vector. -/
def isSearchable (mutation : RecordMutationV1) : Bool :=
  match mutation with
  | .upsertMemory _ | .upsertInstruction _ => true
  | _ => false

def resolveEmbedding (resolver : RepresentativeEmbeddingResolver) (operationId : OperationId)
    (mutation : RecordMutationV1) : Except VaultError (Option Embedding384) :=
  if isSearchable mutation then
    renameFailure (resolver operationId mutation) (fun failure => .validation failure.display)
  else pure none

/-- Materialize the representative, if the decision has one. -/
def materializeRepresentative (v : Vault) (resolver : RepresentativeEmbeddingResolver) :
    Option (OperationId × RecordMutationV1) → Except VaultError (Vault × CacheChange)
  | none => pure (v, .none)
  | some (operationId, mutation) => do
    let embedding ← resolveEmbedding resolver operationId mutation
    materializeMutation v mutation embedding

/-- Write the record's heads and its conflict row as the decision says. -/
def writeHeads (v : Vault) (admitted : AdmittedOperation) (current : List StoredRecordHead) :
    MergeDecision → Except VaultError Vault
  | .noLiveChange => pure v
  | .replaceHeads remove | .resolveConflict remove => do
    let v ← insertRecordHead (removeHeads v admitted.operation remove) admitted.operation
      admitted.canonicalHash
    pure (deleteConflict v admitted.operation.recordId)
  | .addConflictHead remove => do
    let v ← insertRecordHead (removeHeads v admitted.operation remove) admitted.operation
      admitted.canonicalHash
    match conflictHeads admitted current remove with
    | left :: right :: _ =>
      pure { v with conflicts := v.conflicts.upsert admitted.operation.recordId ⟨left, right⟩ }
    | _ => throw (.validation "conflict head set is incomplete")

def incomingMeta (admitted : AdmittedOperation) (receivedAt : String) : OperationMeta where
  accountId := admitted.operation.accountId
  workspaceId := admitted.operation.workspaceId
  deviceId := admitted.operation.deviceId
  deviceSequence := admitted.operation.deviceSequence
  canonicalSha256 := admitted.canonicalHash
  direction := .incoming
  state := .applied
  receivedAt := some receivedAt

/-- The writes that record a fresh operation, after the record was claimed. -/
def recordIncoming (v : Vault) (admitted : AdmittedOperation) (current : List StoredRecordHead)
    (decision : MergeDecision) (appliedAtMs : Nat) (receivedAt : String) :
    Except VaultError Vault := do
  let v ← insertOperation v admitted.operation (incomingMeta admitted receivedAt)
  let v := noteCheckpointOperation v admitted.operation.accountId admitted.operation.workspaceId
    appliedAtMs
  let v ← insertNonce v admitted.operation
  let v := setDeviceHead v admitted.operation admitted.canonicalHash
  writeHeads v admitted current decision

/-- Claim the record and, for a candidate, restore its alias. -/
def claimRecord (v : Vault) (admitted : AdmittedOperation) (material : Option TrustedSyncMaterial) :
    Except VaultError Vault := do
  let v ← ensureSyncRecordOwner P v material admitted.operation.accountId
    admitted.operation.workspaceId admitted.operation.recordId admitted.operation.recordKind
  match admitted.mutation with
  | .upsertMemoryCandidate candidate =>
    restoreReceivedCandidateAlias P v candidate admitted.operation.accountId
      admitted.operation.workspaceId
  | _ => pure v

/-- Apply an operation that is not stored yet. -/
def applyFresh (v : Vault) (admitted : AdmittedOperation) (material : Option TrustedSyncMaterial)
    (rehydrate : SyncOperationV1 → Except VaultError RecordMutationV1)
    (resolver : RepresentativeEmbeddingResolver) (appliedAtMs : Nat) (receivedAt : String) :
    Except VaultError (MergeDecision × SyncCacheUpdate × Vault) := do
  let v ← claimRecord P v admitted material
  let current ← loadRecordHeads P v admitted.operation.workspaceId admitted.operation.recordId
  let decision ← renameFailure (decideMerge admitted current)
    (fun failure => .validation failure.display)
  validateDeviceChain v admitted.operation
  let chosen ← representative admitted current rehydrate decision
  let (v, cacheChange) ← materializeRepresentative v resolver chosen
  let v ← recordIncoming v admitted current decision appliedAtMs receivedAt
  pure (decision, cacheUpdate cacheChange, v)

def applyVerifiedInTransaction (v : Vault) (admitted : AdmittedOperation)
    (material : Option TrustedSyncMaterial)
    (rehydrate : SyncOperationV1 → Except VaultError RecordMutationV1)
    (resolver : RepresentativeEmbeddingResolver) (appliedAtMs : Nat) (receivedAt : String) :
    Except VaultError (MergeDecision × SyncCacheUpdate × Vault) := do
  validateAdmitted P admitted
  let replay ← exactIncomingReplay P v admitted
  if replay then pure (.noLiveChange, none, v)
  else applyFresh P v admitted material rehydrate resolver appliedAtMs receivedAt

/-! ## Entry points -/

/-- A receipt position: one to 128 graphic ASCII characters, none of them a quote. -/
def validateReceivedAt (receivedAt : String) : Except VaultError Unit :=
  require (receivedAt.toList ≠ [] ∧ receivedAt.utf8ByteSize ≤ 128 ∧
      receivedAt.toList.all fun character => 0x21 ≤ character.toNat ∧ character.toNat ≤ 0x7E ∧
        character.toNat ≠ 0x27 ∧ character.toNat ≠ 0x22)
    (.validation "invalid sync receipt cursor")

/-- The order of receipt positions: time text first, then operation id. -/
def SyncCursor.key (cursor : SyncCursor) : String ×ₗ OperationId :=
  toLex (cursor.receivedAt, cursor.operationId)

/-- Move the cursor of a workspace and provider forward, never back. -/
def upsertCursor (v : Vault) (workspace : WorkspaceId) (provider : SyncProvider)
    (cursor : SyncCursor) : Vault :=
  let place := toLex (workspace, provider)
  let moves := (v.cursors.find? place).all (fun stored => stored.key < cursor.key)
  { v with cursors := if moves then v.cursors.upsert place cursor else v.cursors }

def applyAdmittedOperationInner (v : Vault) (admitted : AdmittedOperation)
    (material : TrustedSyncMaterial) (receivedAt : String) (cursorProvider : Option SyncProvider)
    (resolver : RepresentativeEmbeddingResolver) (appliedAtMs : Nat) :
    Except VaultError (MergeDecision × Vault) := do
  validateAdmitted P admitted
  requireOperation P v admitted.operation material.membershipEndpoint
  requireOperation P v admitted.operation admitted.membershipEndpoint
  let (decision, update, v) ← applyVerifiedInTransaction P v admitted (some material)
    (rehydrateStoredMutation P material) resolver appliedAtMs receivedAt
  let v := match cursorProvider with
    | some provider => upsertCursor v admitted.operation.workspaceId provider
        ⟨receivedAt, admitted.operation.operationId⟩
    | none => v
  pure (decision, applySyncCacheUpdate v update)

def applyAdmittedOperationAt (v : Vault) (admitted : AdmittedOperation)
    (material : TrustedSyncMaterial) (provider : SyncProvider) (receivedAt : String)
    (resolver : RepresentativeEmbeddingResolver) (appliedAtMs : Nat) :
    Except VaultError (MergeDecision × Vault) := do
  validateReceivedAt receivedAt
  applyAdmittedOperationInner P v admitted material receivedAt (some provider) resolver appliedAtMs

/-- A fetched repair of a device chain; the pull cursor stays. -/
def applyRepairedOperationAt (v : Vault) (admitted : AdmittedOperation)
    (material : TrustedSyncMaterial) (receivedAt : String)
    (resolver : RepresentativeEmbeddingResolver) (appliedAtMs : Nat) :
    Except VaultError (MergeDecision × Vault) := do
  validateReceivedAt receivedAt
  applyAdmittedOperationInner P v admitted material receivedAt none resolver appliedAtMs

end ContextRelay
