import ContextRelay.Push

/-! The hosted log: the database function that appends a batch of one device's operations,
in one transaction. It takes a device's operations only in the order of its chain. -/
namespace ContextRelay

open Library

variable (P : Primitives)

inductive AppendError where
  | invalidRequest
  | authRequired
  | revoked
  | certificateChainInvalid
  | invalidEnvelope
  | duplicateOperationMismatch
  | deviceSequenceGap
  | deviceHashMismatch
  | quotaBlocked
  | uniqueViolation
deriving DecidableEq

/-- What the client's transport makes of the error, through the edge function. -/
def AppendError.transportError : AppendError → TransportError
  | .authRequired => .authRequired
  | .revoked => .revoked
  | .quotaBlocked => .quotaBlocked
  | .certificateChainInvalid | .invalidEnvelope | .duplicateOperationMismatch
  | .deviceSequenceGap | .deviceHashMismatch => .integrity
  | .invalidRequest | .uniqueViolation => .providerServer

/-- The batch does not continue its device's chain, or changes an operation of it. -/
def AppendError.isDisorder : AppendError → Bool
  | .deviceSequenceGap | .deviceHashMismatch | .duplicateOperationMismatch => true
  | _ => false

/-- Why a session has no identity in a workspace. -/
inductive IdentityError where
  | authRequired
  | revoked
  | certificateChainInvalid
deriving DecidableEq

def IdentityError.appendError : IdentityError → AppendError
  | .authRequired => .authRequired
  | .revoked => .revoked
  | .certificateChainInvalid => .certificateChainInvalid

/-- The session's device, as the certificates and the account say it is now. -/
structure IdentityContext where
  accountId : AccountId
  workspaceId : WorkspaceId
  deviceId : DeviceId
  controlEpoch : Nat
  keyEpoch : Nat
deriving DecidableEq

/-- A row of the operations table. -/
structure HostedOperation where
  operation : SyncOperationV1
  canonicalSha256 : Sha256Digest
deriving DecidableEq

/-- The operations table and the byte counts of the account. -/
structure HostedLog where
  operations : Table OperationId HostedOperation
  usedBytes : Nat
  reservedBytes : Nat
  quotaLimitBytes : Nat

/-- Is the row of the context's device? -/
def IdentityContext.owns (context : IdentityContext) (row : HostedOperation) : Bool :=
  row.operation.accountId = context.accountId ∧ row.operation.workspaceId = context.workspaceId ∧
    row.operation.deviceId = context.deviceId

/-- The row of the device with the greatest sequence. -/
def HostedLog.deviceHead (log : HostedLog) (context : IdentityContext) : Option HostedOperation :=
  (log.operations.values.filter context.owns).argmax (fun row => row.operation.deviceSequence)

/-- A batch being appended. -/
structure AppendState where
  log : HostedLog
  accepted : List OperationId
  duplicates : List OperationId

/-- The session is that of the device, workspace and epochs the operation was signed for. -/
def IdentityContext.Signs (context : IdentityContext) (operation : SyncOperationV1) : Prop :=
  operation.accountId = context.accountId ∧ operation.workspaceId = context.workspaceId ∧
    operation.deviceId = context.deviceId ∧ operation.controlEpoch = context.controlEpoch ∧
    operation.keyEpoch = context.keyEpoch

/-- The operation names the digest of its ciphertext, which is of a size that the log takes. -/
def SyncOperationV1.Sealed (operation : SyncOperationV1) : Prop :=
  operation.ciphertext.length ≤ 4194304 ∧ P.sha256 operation.ciphertext = operation.ciphertextHash

/-- The operation must be the next one of the device's chain. -/
def checkSuccessor (head : Option HostedOperation) (operation : SyncOperationV1) :
    Except AppendError Unit :=
  match head with
  | some head => do
    require (operation.deviceSequence = head.operation.deviceSequence + 1) .deviceSequenceGap
    require (operation.previousDeviceHash = head.canonicalSha256) .deviceHashMismatch
  | none => do
    require (operation.deviceSequence = 1) .deviceSequenceGap
    require (operation.previousDeviceHash = .zero) .deviceHashMismatch

/-- The operation as it is inserted, and its bytes charged. -/
def HostedLog.insert (log : HostedLog) (operation : SyncOperationV1) (canonicalSha256 : Sha256Digest) :
    HostedLog :=
  { log with
    operations := log.operations.upsert operation.operationId ⟨operation, canonicalSha256⟩
    usedBytes := log.usedBytes + operation.ciphertext.length }

def appendOperation (context : IdentityContext) (state : AppendState) (operation : SyncOperationV1) :
    Except AppendError AppendState := do
  require (operation.accountId = context.accountId ∧
      operation.workspaceId = context.workspaceId ∧ operation.deviceId = context.deviceId ∧
      operation.controlEpoch = context.controlEpoch ∧ operation.keyEpoch = context.keyEpoch ∧
      operation.schemaVersion = 1 ∧ operation.ciphertext.length ≤ 4194304 ∧
      P.sha256 operation.ciphertext = operation.ciphertextHash) .invalidEnvelope
  let canonicalSha256 := P.sha256 (P.writeOperation operation)
  match state.log.operations.find? operation.operationId with
  | some existing => do
    require (existing.operation.accountId = context.accountId ∧
      existing.operation.workspaceId = context.workspaceId ∧
      existing.canonicalSha256 = canonicalSha256) .duplicateOperationMismatch
    pure { state with duplicates := state.duplicates ++ [operation.operationId] }
  | none => do
    checkSuccessor (state.log.deviceHead context) operation
    require (state.log.usedBytes + state.log.reservedBytes + operation.ciphertext.length ≤
      state.log.quotaLimitBytes) .quotaBlocked
    -- A device numbers its operations once in a workspace.
    require (∀ row ∈ state.log.operations.values, ¬ (row.operation.accountId = context.accountId ∧
      row.operation.workspaceId = context.workspaceId ∧
      row.operation.deviceId = context.deviceId ∧
      row.operation.deviceSequence = operation.deviceSequence)) .uniqueViolation
    pure { state with
      log := state.log.insert operation canonicalSha256
      accepted := state.accepted ++ [operation.operationId] }

/-- `identityContext` is what the session's certificates give for a workspace and device. -/
def serviceAppendSyncOperations
    (identityContext : WorkspaceId → DeviceId → Except IdentityError IdentityContext)
    (log : HostedLog) (batch : List SyncOperationV1) :
    Except AppendError (PushReceipt × HostedLog) := do
  require (1 ≤ batch.length ∧ batch.length ≤ 256) .invalidRequest
  let first ← present batch.head? .invalidRequest
  let context ← renameFailure (identityContext first.workspaceId first.deviceId)
    IdentityError.appendError
  let final ← thread (appendOperation P context) ⟨log, [], []⟩ batch
  pure (⟨final.accepted, final.duplicates⟩, final.log)

end ContextRelay
