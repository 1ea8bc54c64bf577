import ContextRelay.Apply

/-! Local commits: persisting one signed operation, the single commit with its request
binding, the candidate review that commits two operations, and the backfill that signs
records written before the workspace was synchronized. -/
namespace ContextRelay

open Library

variable (P : Primitives)

inductive CommitDisposition where
  | inserted
  | exactReplay
deriving DecidableEq

/-! ## Persisting one operation -/

def validateCommit (mutation : RecordMutationV1) (built : BuiltOperation) :
    Except VaultError Unit := do
  renameFailure (built.validateForPersistence P mutation) (fun failure => .validation failure.display)
  require (built.operation.recordId = mutation.recordId ∧
      built.operation.recordKind = mutation.recordKind ∧
      built.operation.mutationKind = mutation.mutationKind)
    (.validation "operation identity does not match mutation")

def exactReplay (v : Vault) (built : BuiltOperation) : Except VaultError Bool :=
  match v.operations.find? built.operation.operationId with
  | none => pure false
  | some row => do
    let canonical ← renameFailure (encodeSyncOperationV1 P row.operation)
      (fun failure => .validation failure.display)
    require (row.recordId = built.operation.recordId ∧ canonical = built.canonicalBytes)
      .operationConflict
    pure true

def outgoingMeta (built : BuiltOperation) : OperationMeta where
  accountId := built.operation.accountId
  workspaceId := built.operation.workspaceId
  deviceId := built.operation.deviceId
  deviceSequence := built.operation.deviceSequence
  canonicalSha256 := built.canonicalHash
  direction := .outgoing
  state := .queued
  receivedAt := none

/-- Queue an operation: a new outbox row is due at once. -/
def insertOutbox (v : Vault) (operationId : OperationId) (queuedAt : Nat) :
    Except VaultError Vault := do
  let outbox ← present (v.outbox.insert? operationId ⟨queuedAt, 0, 0, none⟩) .database
  pure { v with outbox }

/-- Delete every head of the operation's record. -/
def removeRecordHeads (v : Vault) (operation : SyncOperationV1) : Vault :=
  { v with recordHeads := v.recordHeads.select (fun key _ =>
      !decide ((ofLex key).1 = operation.workspaceId ∧ (ofLex (ofLex key).2).1 = operation.recordId)) }

/-- Materialize the mutation, or check that the record is already materialized as it says. -/
def materializeOutgoing (v : Vault) (mutation : RecordMutationV1) (built : BuiltOperation)
    (embedding : Option Embedding384) (materialize : Bool) :
    Except VaultError (Vault × CacheChange) :=
  if materialize then materializeMutation v mutation embedding
  else do
    require (loadMaterializedMutation v built.operation.recordId built.operation.recordKind =
      some mutation) .operationConflict
    pure (v, .none)

/-- The writes that record a fresh outgoing operation. -/
def recordOutgoing (v : Vault) (built : BuiltOperation) (committedAtMs queuedAt : Nat) :
    Except VaultError Vault := do
  let operation := built.operation
  let v ← insertOperation v operation (outgoingMeta built)
  let v := noteCheckpointOperation v operation.accountId operation.workspaceId committedAtMs
  let v ← insertOutbox v operation.operationId queuedAt
  let v := setDeviceHead v operation built.canonicalHash
  let v ← insertRecordHead (removeRecordHeads v operation) operation built.canonicalHash
  insertNonce (deleteConflict v operation.recordId) operation

/-- Persist an operation that is not stored yet. -/
def persistFresh (v : Vault) (mutation : RecordMutationV1) (built : BuiltOperation)
    (embedding : Option Embedding384) (committedAtMs queuedAt : Nat) (materialize : Bool) :
    Except VaultError (CommitDisposition × CacheChange × Vault) := do
  let v ← ensureSyncRecordOwner P v none built.operation.accountId built.operation.workspaceId
    built.operation.recordId built.operation.recordKind
  validateDeviceChain v built.operation
  let heads ← loadRecordHeads P v built.operation.workspaceId built.operation.recordId
  require (∀ head ∈ heads, compareOperations built.operation head.operation = .after)
    (.validation "outgoing operation must causally follow every current record head")
  let (v, cacheChange) ← materializeOutgoing v mutation built embedding materialize
  let v ← recordOutgoing v built committedAtMs queuedAt
  pure (.inserted, cacheChange, v)

/-- `queuedAt` is the clock second at which the outbox row is inserted. -/
def persistOutgoing (v : Vault) (mutation : RecordMutationV1) (built : BuiltOperation)
    (embedding : Option Embedding384) (committedAtMs queuedAt : Nat) (materialize : Bool) :
    Except VaultError (CommitDisposition × CacheChange × Vault) := do
  validateCommit P mutation built
  requireOperation P v built.operation built.membershipEndpoint
  let replay ← exactReplay P v built
  if replay then pure (.exactReplay, .none, v)
  else persistFresh P v mutation built embedding committedAtMs queuedAt materialize

/-! ## Request bindings -/

inductive LocalOperationReplay where
  | fresh
  | snapshot (response : Bytes)
  | legacy
deriving DecidableEq

def checkLocalOperationBinding (v : Vault) (binding : LocalOperationBinding) :
    Except VaultError LocalOperationReplay :=
  match v.localBindings.find? binding.operationId with
  | some row => do
    require (row.binding = binding) .operationConflict
    pure (row.canonicalResponse.elim .legacy .snapshot)
  | none => do
    require (v.operations.find? binding.operationId = none) .operationConflict
    pure .fresh

/-- Bind a fresh operation id to its request; a replayed binding is not inserted again. -/
def insertLocalOperationBinding (v : Vault) (binding : LocalOperationBinding) (response : Bytes) :
    Except VaultError (Option Vault) := do
  let replay ← checkLocalOperationBinding v binding
  let row : LocalBindingRow := ⟨binding, some response⟩
  if replay = .fresh then
    pure (some { v with localBindings := v.localBindings.upsert binding.operationId row })
  else pure none

/-- May this local update bind the offline record it replaces to the workspace? -/
def localUpdateMatches (current mutation : RecordMutationV1) (binding : LocalOperationBinding)
    (expectedRevision : OperationId) : Bool :=
  match current, mutation with
  | .upsertMemory old, .upsertMemory new =>
    (binding.operationKind = .update ∨ binding.operationKind = .archive) ∧ old.id = new.id ∧
      old.scope = new.scope ∧ old.revision = expectedRevision ∧ new.revision = binding.operationId
  | .upsertTask old, .upsertTask new =>
    (binding.operationKind = .taskUpsert ∨ binding.operationKind = .taskTransition ∨
        binding.operationKind = .taskComplete) ∧ old.id = new.id ∧
      old.projectId = new.projectId ∧ old.revision = expectedRevision ∧
      new.revision = binding.operationId
  | _, _ => false

def bindLocalUpdateOwner (v : Vault) (mutation : RecordMutationV1) (operation : SyncOperationV1)
    (binding : LocalOperationBinding) : Except VaultError Vault :=
  match binding.expectedRevision with
  | none => pure v
  | some expectedRevision =>
    if (storedSyncRecordOwner v operation.recordId).isSome then pure v
    else do
      let current ← present (loadMaterializedMutation v operation.recordId operation.recordKind)
        .operationConflict
      require (localUpdateMatches current mutation binding expectedRevision = true ∧
        materializedRecordKinds v operation.recordId = [operation.recordKind]) .operationConflict
      insertOrVerifySyncRecordOwner v operation.accountId operation.workspaceId operation.recordId
        operation.recordKind

/-- Insert the binding of a commit and claim an offline record it updates. -/
def bindCommit (v : Vault) (mutation : RecordMutationV1) (built : BuiltOperation) :
    Option (LocalOperationBinding × Bytes) → Except VaultError Vault
  | none => pure v
  | some (binding, response) => do
    require (binding.operationId = built.operation.operationId ∧
      binding.targetId = built.operation.recordId) .operationConflict
    let inserted ← insertLocalOperationBinding v binding response
    let v ← present inserted .operationConflict
    bindLocalUpdateOwner v mutation built.operation binding

def commitOutgoingOperationWithBindingAt (v : Vault) (mutation : RecordMutationV1)
    (built : BuiltOperation) (embedding : Option Embedding384) (committedAtMs queuedAt : Nat)
    (binding : Option (LocalOperationBinding × Bytes)) :
    Except VaultError (CommitDisposition × Vault) := do
  validateCommit P mutation built
  let v ← bindCommit v mutation built binding
  let (disposition, cacheChange, v) ← persistOutgoing P v mutation built embedding committedAtMs
    queuedAt true
  pure (disposition, applySyncCacheUpdate v (cacheUpdate cacheChange))

/-! ## Candidate review -/

/-- The checks a review makes on the stored candidate and the binding. -/
def validateReview (v : Vault) (candidate : MemoryCandidate) (decision : BuiltOperation)
    (accepted : Option (BuiltOperation × Embedding384)) (binding : LocalOperationBinding) :
    Except VaultError Unit := do
  let current ← present (v.candidates.find? candidate.id.retype) .database
  require (current.state = .pending ∧ binding.operationKind = .candidateReview ∧
    binding.operationId = decision.operation.operationId ∧
    resolveCandidateId v binding.targetId = candidate.id.retype ∧
    binding.expectedRevision = none) .operationConflict
  require ({ current with state := candidate.state } = candidate ∧
    ((candidate.state = .accepted ∧ accepted.isSome) ∨
      (candidate.state = .rejected ∧ accepted.isNone))) .operationConflict

/-- The two operations of an accepted review share everything but record and position. -/
def sameReview (first second : SyncOperationV1) : Bool :=
  first.accountId = second.accountId ∧ first.workspaceId = second.workspaceId ∧
    first.deviceId = second.deviceId ∧ first.keyEpoch = second.keyEpoch ∧
    first.controlEpoch = second.controlEpoch ∧ first.projectId = second.projectId

/-- `reviewResponse` is the stored response: the candidate under the requested id. -/
def commitSignedCandidateReview (v : Vault) (candidate : MemoryCandidate)
    (decision : BuiltOperation) (accepted : Option (BuiltOperation × Embedding384))
    (binding : LocalOperationBinding) (reviewResponse : Bytes) (now firstQueuedAt secondQueuedAt : Nat) :
    Except VaultError Vault := do
  validateReview v candidate decision accepted binding
  let inserted ← insertLocalOperationBinding v binding reviewResponse
  let v ← present inserted .operationConflict
  let (_, _, v) ← persistOutgoing P v (.upsertMemoryCandidate candidate) decision none now
    firstQueuedAt true
  match accepted with
  | none => pure v
  | some (built, embedding) => do
    require (sameReview decision.operation built.operation = true) .operationConflict
    let (_, cacheChange, v) ← persistOutgoing P v (.upsertMemory candidate.proposedMemory) built
      (some embedding) now secondQueuedAt true
    pure (applySyncCacheUpdate v (cacheUpdate cacheChange))

end ContextRelay
