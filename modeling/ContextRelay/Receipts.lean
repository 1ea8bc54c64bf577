import ContextRelay.Apply

/-! What becomes of a received row that is not applied: quarantine of its bytes, rejection
of an oversized one, and the replay of a stored operation. Each may advance the pull
cursor to the row, in the same transaction. -/
namespace ContextRelay

open Library

variable (P : Primitives)

inductive ReceiptDisposition where
  | inserted
  | exactReplay
deriving DecidableEq

abbrev ReceiptKey := AccountId ×ₗ WorkspaceId ×ₗ SyncProvider ×ₗ String ×ₗ OperationId

def receiptKey (account : AccountId) (workspace : WorkspaceId) (provider : SyncProvider)
    (receivedAt : String) (operationId : OperationId) : ReceiptKey :=
  toLex (account, toLex (workspace, toLex (provider, toLex (receivedAt, operationId))))

structure SyncQuarantineWrite where
  accountId : AccountId
  workspaceId : WorkspaceId
  provider : SyncProvider
  receivedAt : String
  receiptOperationId : OperationId
  routedOperationId : OperationId
  deviceId : DeviceId
  deviceSequence : Nat
  safeErrorCode : SafeErrorCode
  envelope : Bytes
  quarantinedAtMs : Nat
  advanceCursor : Bool
deriving DecidableEq

def SyncQuarantineWrite.key (write : SyncQuarantineWrite) : ReceiptKey :=
  receiptKey write.accountId write.workspaceId write.provider write.receivedAt
    write.receiptOperationId

def SyncQuarantineWrite.row (write : SyncQuarantineWrite) : StoredSyncQuarantine :=
  ⟨write.routedOperationId, write.deviceId, write.deviceSequence, write.safeErrorCode,
    write.envelope, write.quarantinedAtMs⟩

def validateQuarantineWrite (write : SyncQuarantineWrite) : Except VaultError Unit := do
  validateReceivedAt write.receivedAt
  require (write.receiptOperationId = write.routedOperationId)
    (.validation "quarantine cursor does not match routed operation")
  require (write.safeErrorCode = .integrityQuarantined ∨ write.safeErrorCode = .gapPending)
    (.validation "invalid quarantine error code")
  require (write.envelope.length ≤ maxCborOperationBytes)
    (.validation "quarantine envelope exceeds the signed operation limit")

/-- Move the cursor to a receipt when its disposition is final. -/
def advanceTo (v : Vault) (advance : Bool) (workspace : WorkspaceId) (provider : SyncProvider)
    (cursor : SyncCursor) : Vault :=
  if advance then upsertCursor v workspace provider cursor else v

def quarantineSyncReceipt (v : Vault) (write : SyncQuarantineWrite) :
    Except VaultError (ReceiptDisposition × Vault) := do
  validateQuarantineWrite write
  require (write.quarantinedAtMs ≤ sqliteMax)
    (.validation "quarantine time exceeds SQLite integer range")
  let cursor : SyncCursor := ⟨write.receivedAt, write.receiptOperationId⟩
  match v.quarantine.find? write.key with
  | some stored => do
    require ({ stored with quarantinedAtMs := write.quarantinedAtMs } = write.row) .operationConflict
    pure (.exactReplay, advanceTo v write.advanceCursor write.workspaceId write.provider cursor)
  | none =>
    let v := { v with quarantine := v.quarantine.upsert write.key write.row }
    pure (.inserted, advanceTo v write.advanceCursor write.workspaceId write.provider cursor)

structure SyncRejectionWrite where
  accountId : AccountId
  workspaceId : WorkspaceId
  provider : SyncProvider
  receivedAt : String
  receiptOperationId : OperationId
  routedOperationId : OperationId
  deviceId : DeviceId
  deviceSequence : Nat
  safeErrorCode : SafeErrorCode
  receivedBytes : Bytes
  rejectedAtMs : Nat
  advanceCursor : Bool
deriving DecidableEq

def SyncRejectionWrite.key (write : SyncRejectionWrite) : ReceiptKey :=
  receiptKey write.accountId write.workspaceId write.provider write.receivedAt
    write.receiptOperationId

def SyncRejectionWrite.row (write : SyncRejectionWrite) : StoredSyncRejection :=
  ⟨write.routedOperationId, write.deviceId, write.deviceSequence, write.safeErrorCode,
    write.receivedBytes.length, P.sha256 write.receivedBytes, write.rejectedAtMs⟩

def validateRejectionWrite (write : SyncRejectionWrite) : Except VaultError Unit := do
  validateReceivedAt write.receivedAt
  require (write.receiptOperationId = write.routedOperationId)
    (.validation "rejection cursor does not match routed operation")
  require (write.safeErrorCode = .integrityQuarantined)
    (.validation "invalid oversized rejection error code")
  require (maxCborOperationBytes < write.receivedBytes.length)
    (.validation "oversized rejection requires bytes above the signed operation limit")
  require (write.receivedBytes.length ≤ sqliteMax)
    (.validation "rejected byte length exceeds SQLite integer range")

def rejectOversizedSyncReceipt (v : Vault) (write : SyncRejectionWrite) :
    Except VaultError (ReceiptDisposition × Vault) := do
  validateRejectionWrite write
  require (write.rejectedAtMs ≤ sqliteMax)
    (.validation "rejection time exceeds SQLite integer range")
  let cursor : SyncCursor := ⟨write.receivedAt, write.receiptOperationId⟩
  match v.rejections.find? write.key with
  | some stored => do
    require ({ stored with rejectedAtMs := write.rejectedAtMs } = write.row P) .operationConflict
    pure (.exactReplay, advanceTo v write.advanceCursor write.workspaceId write.provider cursor)
  | none =>
    let v := { v with rejections := v.rejections.upsert write.key (write.row P) }
    pure (.inserted, advanceTo v write.advanceCursor write.workspaceId write.provider cursor)

def quarantinedSyncReceipt (v : Vault) (account : AccountId) (workspace : WorkspaceId)
    (provider : SyncProvider) (receivedAt : String) (operationId : OperationId) :
    Except VaultError (Option StoredSyncQuarantine) := do
  validateReceivedAt receivedAt
  pure (v.quarantine.find? (receiptKey account workspace provider receivedAt operationId))

def rejectedSyncReceipt (v : Vault) (account : AccountId) (workspace : WorkspaceId)
    (provider : SyncProvider) (receivedAt : String) (operationId : OperationId) :
    Except VaultError (Option StoredSyncRejection) := do
  validateReceivedAt receivedAt
  pure (v.rejections.find? (receiptKey account workspace provider receivedAt operationId))

def Vault.syncCursor (v : Vault) (workspace : WorkspaceId) (provider : SyncProvider) :
    Option SyncCursor :=
  v.cursors.find? (toLex (workspace, provider))

/-- Pass a row whose operation is already stored. -/
def advanceReplayCursor (v : Vault) (workspace : WorkspaceId) (provider : SyncProvider)
    (receivedAt : String) (operationId : OperationId)
    (expectedMembership : Option MembershipEndpoint) : Except VaultError Vault := do
  validateReceivedAt receivedAt
  let stored ← present (v.operationMeta.find? operationId)
    (.validation "replay cursor requires an existing operation")
  require (stored.workspaceId = workspace)
    (.validation "replay cursor requires an existing operation")
  let row ← present (v.operations.find? operationId)
    (.validation "replay cursor requires an existing operation")
  require (row.operation.operationId = operationId ∧ row.operation.workspaceId = workspace)
    .operationConflict
  requireOperation P v row.operation expectedMembership
  pure (upsertCursor v workspace provider ⟨receivedAt, operationId⟩)

end ContextRelay
