import ContextRelay.Library.Session
import ContextRelay.Outbox

/-! The push half of the sync engine. A push is prepared from the vault, sent by the host,
and finished with the provider's response; the vault may change in between. What the
engine defers or acknowledges stays when it then reports an error. -/
namespace ContextRelay

open Library

variable (P : Primitives)

/-! ## The transport interface -/

structure CanonicalOperation where
  operationId : OperationId
  deviceId : DeviceId
  deviceSequence : Nat
  bytes : Bytes
deriving DecidableEq

structure PushReceipt where
  accepted : List OperationId
  duplicates : List OperationId
deriving DecidableEq

inductive TransportError where
  | offline
  | transient
  | providerServer
  | authRequired
  | revoked
  | quotaBlocked
  | integrity
  | checkpointVersionUnsupported
  | configuration
deriving DecidableEq

namespace TransportError

def safeCode : TransportError → SafeErrorCode
  | .offline => .offline
  | .transient | .providerServer => .transient
  | .authRequired => .authRequired
  | .revoked => .revoked
  | .quotaBlocked => .quotaBlocked
  | .integrity => .integrityQuarantined
  | .checkpointVersionUnsupported | .configuration => .configurationError

def isRetryable : TransportError → Bool
  | .offline | .transient | .providerServer => true
  | _ => false

end TransportError

/-! ## The engine -/

def maxBatch : Nat := 256
def maxRequestBytes : Nat := 8 * 1024 * 1024
def permanentRetryMs : Nat := 2 ^ 63 - 1

/-- An engine for one scope and provider. Its budgets are clamped when they are set: one
operation and one operation of the greatest size always fit. -/
structure SyncEngine where
  scope : SyncScope
  provider : SyncProvider
  maxOperations : Nat
  maxBytes : Nat
  backoffPolicy : BackoffPolicy
  oneOperation : 1 ≤ maxOperations
  oneEnvelope : maxCborOperationBytes ≤ maxBytes
  oneRequest : maxBytes ≤ maxRequestBytes

def SyncEngine.new (scope : SyncScope) (provider : SyncProvider) : SyncEngine where
  scope
  provider
  maxOperations := 1024
  maxBytes := maxRequestBytes
  backoffPolicy := .default
  oneOperation := by decide
  oneEnvelope := by decide
  oneRequest := by decide

structure SyncCycleReport where
  pushed : Nat
  duplicates : Nat
  pulled : Nat
  applied : Nat
  conflicts : Nat
  quarantined : Nat
  gapsRepaired : Nat
  checkpointed : Bool
  moreWork : Bool
deriving DecidableEq

def SyncCycleReport.empty : SyncCycleReport := ⟨0, 0, 0, 0, 0, 0, 0, false, false⟩

/-- A part of a sync cycle; it fails with the code that may be shown. -/
abbrev Cycle (α : Type) := Session Vault SafeErrorCode α

def localError (_ : VaultError) : SafeErrorCode := .transient

def defer (ids : List OperationId) (nextMs : Nat) (code : SafeErrorCode) : Cycle Unit :=
  Session.transact (fun v => deferOutbox v ids nextMs code) localError

/-! ## Preparing a push -/

structure PreparedPush where
  scope : SyncScope
  provider : SyncProvider
  due : List DueOutboxOperation
  operations : List CanonicalOperation
  moreWork : Bool
deriving DecidableEq

/-- A due row as an operation of the batch, after `total` bytes; the code says why not. -/
def SyncEngine.canonicalRow (engine : SyncEngine) (total : Nat) (row : DueOutboxOperation) :
    Except SafeErrorCode CanonicalOperation := do
  let nextTotal := total + row.canonicalBytes.length
  require (nextTotal ≤ engine.maxBytes ∧ nextTotal ≤ maxRequestBytes) .configurationError
  let operation ← orFail (decodeSyncOperationV1 P row.canonicalBytes) .integrityQuarantined
  let canonical ← orFail (encodeSyncOperationV1 P operation) .integrityQuarantined
  require (canonical = row.canonicalBytes ∧ operation.operationId = row.operationId ∧
    operation.accountId = engine.scope.accountId ∧
    operation.workspaceId = engine.scope.workspaceId) .integrityQuarantined
  pure ⟨operation.operationId, operation.deviceId, operation.deviceSequence, canonical⟩

/-- The batch up to the first row that does not fit, and why that row does not. -/
def SyncEngine.selectBatch (engine : SyncEngine) :
    Nat → List DueOutboxOperation → List CanonicalOperation × Option SafeErrorCode
  | _, [] => ([], none)
  | total, row :: rest =>
    match engine.canonicalRow P total row with
    | .error code => ([], some code)
    | .ok operation =>
      let (batch, stopped) := engine.selectBatch (total + row.canonicalBytes.length) rest
      (operation :: batch, stopped)

/-- A row that does not fit ends the batch; the first row is deferred for good instead. -/
def SyncEngine.preparePush (engine : SyncEngine) (nowMs : Nat) : Cycle (Option PreparedPush) := do
  let due ← Session.query (fun v => dueOutbox P v nowMs maxBatch) localError
  match due with
  | [] => pure none
  | first :: _ =>
    match engine.selectBatch P 0 due with
    | ([], some code) => do
      defer [first.operationId] permanentRetryMs code
      Session.fail code
    | (batch, stopped) =>
      pure (some {
        scope := engine.scope
        provider := engine.provider
        due := due.take batch.length
        operations := batch
        moreWork := due.length = maxBatch ∨ stopped.isSome })

/-! ## Finishing a push -/

/-- The accepted and the duplicate ids must partition the ids that were sent. -/
def validateReceipt (expected accepted duplicates : List OperationId) :
    Except SafeErrorCode (List OperationId) := do
  require expected.Nodup .configurationError
  require ((∀ id ∈ accepted ++ duplicates, id ∈ expected) ∧ (accepted ++ duplicates).Nodup)
    .configurationError
  require (∀ id ∈ expected, id ∈ accepted ++ duplicates) .configurationError
  pure (sortIds (accepted ++ duplicates))

/-- When each row is tried again. `random` is what the retry source draws for a row. -/
def SyncEngine.retryTimes (engine : SyncEngine) (due : List DueOutboxOperation) (nowMs : Nat)
    (random : OperationId → Nat → Nat) : List (OperationId × Nat) :=
  due.map (fun row =>
    let delay := engine.backoffPolicy.nextDelay row.attemptCount
      (random row.operationId row.attemptCount)
    (row.operationId, min (min (nowMs + delay) u64Max) permanentRetryMs))

def SyncEngine.deferTransportFailure (engine : SyncEngine) (due : List DueOutboxOperation)
    (nowMs : Nat) (error : TransportError) (random : OperationId → Nat → Nat) : Cycle Unit :=
  let ids := due.map DueOutboxOperation.operationId
  if error.isRetryable = false then defer ids permanentRetryMs error.safeCode
  else if succeeded engine.backoffPolicy.validate = false then do
    defer ids permanentRetryMs .configurationError
    Session.fail .configurationError
  else
    Session.transact (fun v => deferOutboxIndividual v (engine.retryTimes due nowMs random)
      error.safeCode) localError

/-- The vault must still hold what was prepared. -/
def checkPrepared (v : Vault) (operation : CanonicalOperation) : Except SafeErrorCode Unit := do
  let stored ← renameFailure (storedSyncOperation P v operation.operationId) localError
  require (stored = some operation.bytes) .integrityQuarantined

def SyncEngine.finishPush (engine : SyncEngine) (prepared : PreparedPush)
    (response : Except TransportError PushReceipt) (nowMs : Nat)
    (random : OperationId → Nat → Nat) : Cycle SyncCycleReport := do
  Session.lift (require (prepared.scope = engine.scope ∧ prepared.provider = engine.provider)
    .integrityQuarantined)
  let _ ← Session.query (fun v => collect (checkPrepared P v) prepared.operations) id
  let ids := prepared.operations.map CanonicalOperation.operationId
  match response with
  | .error error => do
    engine.deferTransportFailure prepared.due nowMs error random
    Session.fail error.safeCode
  | .ok receipt =>
    match validateReceipt ids receipt.accepted receipt.duplicates with
    | .error code => do
      defer ids permanentRetryMs code
      Session.fail code
    | .ok acknowledged => do
      Session.transact (fun v => pure (acknowledgeOutbox v acknowledged)) localError
      let next ← Session.query (fun v => dueOutbox P v nowMs 1) localError
      pure { SyncCycleReport.empty with
        pushed := receipt.accepted.length
        duplicates := receipt.duplicates.length
        moreWork := prepared.moreWork || !next.isEmpty }

end ContextRelay
