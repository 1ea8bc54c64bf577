import ContextRelay.Push
import ContextRelay.Receipts

/-! The pull half of the sync engine. A pull asks the provider for a page of rows after the
stored cursor and takes the rows in order. A row whose device chain has a gap before it
waits while the missing operations are fetched; the rows behind it wait with it, in a
continuation that the host finishes with the provider's response. -/
namespace ContextRelay

open Library

variable (P : Primitives)

/-! ## The transport interface -/

structure ReceivedOperation where
  operation : CanonicalOperation
  cursor : SyncCursor
deriving DecidableEq

structure PullPage where
  rows : List ReceivedOperation
  nextCursor : Option SyncCursor
deriving DecidableEq

inductive PullRequest where
  | operations (cursor : Option SyncCursor) (limit : Nat)
  | deviceRange (device : DeviceId) (first last : Nat)
deriving DecidableEq

inductive PullResponse where
  | operations (page : PullPage)
  | deviceRange (rows : List ReceivedOperation)
deriving DecidableEq

/-! ## Continuations -/

structure RepairState where
  device : DeviceId
  next : Nat
  last : Nat
  blocker : ReceivedOperation
deriving DecidableEq

structure PullState where
  scope : SyncScope
  provider : SyncProvider
  maxOperations : Nat
  maxBytes : Nat
  processed : Nat
  processedBytes : Nat
  report : SyncCycleReport
  rows : List ReceivedOperation
  repair : Option RepairState
  repairedBlocker : Bool
deriving DecidableEq

structure PreparedPull where
  state : PullState
  request : PullRequest
  expectedCursor : Option SyncCursor
deriving DecidableEq

inductive PullProgress where
  | request (prepared : PreparedPull)
  | complete (report : SyncCycleReport)
deriving DecidableEq

def complete (state : PullState) (moreWork : Bool) : PullProgress :=
  .complete { state.report with moreWork := state.report.moreWork || moreWork }

/-- A row was quarantined or rejected. -/
def PullState.setAside (state : PullState) : PullState :=
  { state with
    report := { state.report with quarantined := state.report.quarantined + 1 }
    processed := state.processed + 1 }

def recordApply (report : SyncCycleReport) (decision : MergeDecision) : SyncCycleReport :=
  { report with
    applied := report.applied + 1
    conflicts := match decision with
      | .addConflictHead _ => report.conflicts + 1
      | _ => report.conflicts }

/-! ## Checks on received rows -/

/-- Is the row after a cursor? Every row is when there is none. -/
def ReceivedOperation.after (row : ReceivedOperation) (cursor : Option SyncCursor) : Bool :=
  cursor.all (fun cursor => cursor.key < row.cursor.key)

def validatePage (after : Option SyncCursor) (page : PullPage) (limit : Nat) :
    Except SafeErrorCode Unit := do
  require (page.rows.length ≤ limit ∧ page.rows.length ≤ maxBatch) .configurationError
  if page.rows = [] then require (page.nextCursor = none) .configurationError
  else
    require (page.nextCursor = (page.rows.map ReceivedOperation.cursor).argmax SyncCursor.key ∧
      ∀ row ∈ page.rows, row.after after = true) .configurationError

def validateReceived (scope : SyncScope) (row : ReceivedOperation) : Except SafeErrorCode Unit := do
  let operation ← orFail (decodeSyncOperationV1 P row.operation.bytes) .integrityQuarantined
  let canonical ← orFail (encodeSyncOperationV1 P operation) .integrityQuarantined
  require (canonical = row.operation.bytes ∧ operation.operationId = row.operation.operationId ∧
    operation.deviceId = row.operation.deviceId ∧
    operation.deviceSequence = row.operation.deviceSequence ∧
    operation.accountId = scope.accountId ∧ operation.workspaceId = scope.workspaceId)
    .integrityQuarantined

def validateReceiptBinding (row : ReceivedOperation) : Except SafeErrorCode Unit := do
  require (row.cursor.operationId = row.operation.operationId) .integrityQuarantined
  orFail (validateReceivedAt row.cursor.receivedAt) .integrityQuarantined

def requireQuarantinable : SyncError → Except SafeErrorCode Unit
  | .invalidIdentity => .error .revoked
  | .persistenceFailed => .error .transient
  | _ => .ok ()

def validateExistingQuarantine (stored : StoredSyncQuarantine) (row : ReceivedOperation) :
    Except SafeErrorCode Unit :=
  require (stored.routedOperationId = row.operation.operationId ∧
    stored.deviceId = row.operation.deviceId ∧
    stored.deviceSequence = row.operation.deviceSequence ∧
    stored.envelope = row.operation.bytes) .integrityQuarantined

def validateExistingRejection (stored : StoredSyncRejection) (row : ReceivedOperation) :
    Except SafeErrorCode Unit :=
  require (stored.routedOperationId = row.operation.operationId ∧
    stored.deviceId = row.operation.deviceId ∧
    stored.deviceSequence = row.operation.deviceSequence ∧
    stored.safeErrorCode = .integrityQuarantined ∧
    stored.claimedByteLength = row.operation.bytes.length ∧
    stored.receivedSha256 = P.sha256 row.operation.bytes) .integrityQuarantined

def quarantineVaultError : VaultError → SafeErrorCode
  | .operationConflict | .validation _ => .integrityQuarantined
  | _ => .transient

def reserveBytes (total addition maximum : Nat) : Option Nat :=
  if total + addition ≤ maximum then some (total + addition) else none

namespace SyncEngine

variable (engine : SyncEngine)

/-! ## Setting rows aside -/

def existingQuarantine (row : ReceivedOperation) : Cycle (Option StoredSyncQuarantine) :=
  Session.query (fun v => quarantinedSyncReceipt v engine.scope.accountId engine.scope.workspaceId
    engine.provider row.cursor.receivedAt row.cursor.operationId) quarantineVaultError

def quarantineWrite (row : ReceivedOperation) (code : SafeErrorCode) (nowMs : Nat)
    (advanceCursor : Bool) : SyncQuarantineWrite where
  accountId := engine.scope.accountId
  workspaceId := engine.scope.workspaceId
  provider := engine.provider
  receivedAt := row.cursor.receivedAt
  receiptOperationId := row.cursor.operationId
  routedOperationId := row.operation.operationId
  deviceId := row.operation.deviceId
  deviceSequence := row.operation.deviceSequence
  safeErrorCode := code
  envelope := row.operation.bytes
  quarantinedAtMs := nowMs
  advanceCursor

def persistQuarantine (row : ReceivedOperation) (code : SafeErrorCode) (nowMs : Nat)
    (advanceCursor : Bool) : Cycle Unit := do
  let _ ← Session.perform
    (fun v => quarantineSyncReceipt v (engine.quarantineWrite row code nowMs advanceCursor))
    quarantineVaultError

def existingRejection (row : ReceivedOperation) : Cycle (Option StoredSyncRejection) :=
  Session.query (fun v => rejectedSyncReceipt v engine.scope.accountId engine.scope.workspaceId
    engine.provider row.cursor.receivedAt row.cursor.operationId) quarantineVaultError

def rejectionWrite (row : ReceivedOperation) (nowMs : Nat) (advanceCursor : Bool) :
    SyncRejectionWrite where
  accountId := engine.scope.accountId
  workspaceId := engine.scope.workspaceId
  provider := engine.provider
  receivedAt := row.cursor.receivedAt
  receiptOperationId := row.cursor.operationId
  routedOperationId := row.operation.operationId
  deviceId := row.operation.deviceId
  deviceSequence := row.operation.deviceSequence
  safeErrorCode := .integrityQuarantined
  receivedBytes := row.operation.bytes
  rejectedAtMs := nowMs
  advanceCursor

def persistRejection (row : ReceivedOperation) (nowMs : Nat) (advanceCursor : Bool) : Cycle Unit := do
  let _ ← Session.perform
    (fun v => rejectOversizedSyncReceipt P v (engine.rejectionWrite row nowMs advanceCursor))
    quarantineVaultError

/-! ## Requests -/

def cursor : Cycle (Option SyncCursor) :=
  Session.look (fun v => v.syncCursor engine.scope.workspaceId engine.provider)

def requestPull (state : PullState) (request : PullRequest) : Cycle PullProgress := do
  let expectedCursor ← engine.cursor
  pure (.request ⟨state, request, expectedCursor⟩)

def nextPage (state : PullState) : Cycle PullProgress :=
  if state.processed = engine.maxOperations then pure (complete state true)
  else do
    let cursor ← engine.cursor
    let limit := min (engine.maxOperations - state.processed) maxBatch
    engine.requestPull state (.operations cursor limit)

def nextRepair (state : PullState) : Cycle PullProgress :=
  if state.processed = engine.maxOperations then pure (complete state true)
  else do
    let repair ← Session.lift (present state.repair .configurationError)
    let capacity := min (engine.maxOperations - state.processed) maxBatch
    let last := min (min (repair.next + (capacity - 1)) u64Max) repair.last
    engine.requestPull state (.deviceRange repair.device repair.next last)

def preparePull : Cycle PullProgress :=
  engine.nextPage {
    scope := engine.scope
    provider := engine.provider
    maxOperations := engine.maxOperations
    maxBytes := engine.maxBytes
    processed := 0
    processedBytes := 0
    report := .empty
    rows := []
    repair := none
    repairedBlocker := false }

/-! ## Taking the rows of a page -/

/-- What taking one row leads to: the next row, or the end of this call. -/
inductive RowStep where
  | next (state : PullState)
  | stop (progress : PullProgress)

variable (material : TrustedSyncMaterial) (resolver : RepresentativeEmbeddingResolver) (nowMs : Nat)

/-- Admit a row whose bytes are reserved in the state. -/
def admitRow (row : ReceivedOperation) (wasRepaired : Bool) (state : PullState) : Cycle RowStep := do
  match ← Session.look (fun v => admitOperation P v row.operation.bytes material) with
  | .ok (.exactReplay operationId) => do
    Session.lift (require (operationId = row.operation.operationId) .integrityQuarantined)
    Session.transact (fun v => advanceReplayCursor P v engine.scope.workspaceId engine.provider
      row.cursor.receivedAt operationId material.membershipEndpoint) localError
    pure (.next { state with processed := state.processed + 1 })
  | .ok (.admitted admitted) => do
    let decision ← Session.perform (fun v => applyAdmittedOperationAt P v admitted material
      engine.provider row.cursor.receivedAt resolver nowMs) localError
    pure (.next { state with
      report := recordApply state.report decision
      processed := state.processed + 1 })
  | .ok (.gap first last) =>
    let state := { state with processedBytes := state.processedBytes - row.operation.bytes.length }
    if wasRepaired then pure (.stop (complete state true))
    else do
      let progress ← engine.nextRepair
        { state with repair := some ⟨row.operation.deviceId, first, last, row⟩ }
      pure (.stop progress)
  | .error error => do
    Session.lift (requireQuarantinable error)
    engine.persistQuarantine row .integrityQuarantined nowMs true
    pure (.next state.setAside)

/-- Take a row that is neither quarantined nor rejected yet. -/
def takeRow (row : ReceivedOperation) (wasRepaired : Bool) (state : PullState) : Cycle RowStep :=
  if maxCborOperationBytes < row.operation.bytes.length then do
    engine.persistRejection P row nowMs true
    pure (.next state.setAside)
  else
    match reserveBytes state.processedBytes row.operation.bytes.length engine.maxBytes with
    | none => pure (.stop (complete state true))
    | some processedBytes =>
      let state := { state with processedBytes }
      if succeeded (validateReceived P engine.scope row) = false then do
        engine.persistQuarantine row .integrityQuarantined nowMs true
        pure (.next state.setAside)
      else engine.admitRow P material resolver nowMs row wasRepaired state

def pullRow (row : ReceivedOperation) (rest : List ReceivedOperation) (state : PullState) :
    Cycle RowStep := do
  let wasRepaired := state.repairedBlocker
  let state := { state with rows := rest, repairedBlocker := false }
  Session.lift (validateReceiptBinding row)
  if state.processed = engine.maxOperations then pure (.stop (complete state true))
  else do
    match ← engine.existingQuarantine row with
    | some stored => do
      Session.lift (validateExistingQuarantine stored row)
      engine.persistQuarantine row stored.safeErrorCode nowMs true
      pure (.next state.setAside)
    | none => do
      match ← engine.existingRejection row with
      | some stored => do
        Session.lift (validateExistingRejection P stored row)
        engine.persistRejection P row nowMs true
        pure (.next state.setAside)
      | none => engine.takeRow P material resolver nowMs row wasRepaired state

def advancePull : List ReceivedOperation → PullState → Cycle PullProgress
  | [], state => engine.nextPage { state with rows := [] }
  | row :: rest, state => do
    match ← engine.pullRow P material resolver nowMs row rest state with
    | .next state => advancePull rest state
    | .stop progress => pure progress

/-! ## Repairing a gap -/

inductive GapRepairOutcome where
  | complete
  | pending
  | blockedByQuarantine
deriving DecidableEq

/-- A repair row was found set aside, or is set aside now. -/
def blocked (state : PullState) : GapRepairOutcome × PullState :=
  (.blockedByQuarantine,
    { state with report := { state.report with quarantined := state.report.quarantined + 1 } })

/-- A repair row is stored. -/
def repaired (state : PullState) : PullState :=
  { state with
    report := { state.report with gapsRepaired := state.report.gapsRepaired + 1 }
    processed := state.processed + 1 }

/-- Admit a repair row; the state says how the repair goes on, or how it ended. -/
def admitRepairRow (row : ReceivedOperation) (state : PullState) :
    Cycle (Option GapRepairOutcome × PullState) := do
  match ← Session.look (fun v => admitOperation P v row.operation.bytes material) with
  | .ok (.admitted admitted) => do
    let decision ← Session.perform (fun v => applyRepairedOperationAt P v admitted material
      row.cursor.receivedAt resolver nowMs) localError
    pure (none, repaired { state with report := recordApply state.report decision })
  | .ok (.exactReplay operationId) =>
    if operationId = row.operation.operationId then pure (none, repaired state)
    else Session.fail .integrityQuarantined
  | .ok (.gap _ _) => Session.fail .integrityQuarantined
  | .error error => do
    Session.lift (requireQuarantinable error)
    engine.persistQuarantine row .integrityQuarantined nowMs false
    pure (some (blocked state).1, (blocked state).2)

def takeRepairRow (row : ReceivedOperation) (state : PullState) :
    Cycle (Option GapRepairOutcome × PullState) :=
  if maxCborOperationBytes < row.operation.bytes.length then do
    engine.persistRejection P row nowMs false
    pure (some (blocked state).1, (blocked state).2)
  else
    match reserveBytes state.processedBytes row.operation.bytes.length engine.maxBytes with
    | none => pure (some .pending, state)
    | some processedBytes =>
      let state := { state with processedBytes }
      if succeeded (validateReceived P engine.scope row) = false then do
        engine.persistQuarantine row .integrityQuarantined nowMs false
        pure (some (blocked state).1, (blocked state).2)
      else engine.admitRepairRow P material resolver nowMs row state

def repairRow (row : ReceivedOperation) (state : PullState) :
    Cycle (Option GapRepairOutcome × PullState) := do
  match ← engine.existingQuarantine row with
  | some stored => do
    Session.lift (validateExistingQuarantine stored row)
    pure (some (blocked state).1, (blocked state).2)
  | none => do
    match ← engine.existingRejection row with
    | some stored => do
      Session.lift (validateExistingRejection P stored row)
      pure (some (blocked state).1, (blocked state).2)
    | none => engine.takeRepairRow P material resolver nowMs row state

def repairRows : List ReceivedOperation → PullState → Cycle (GapRepairOutcome × PullState)
  | [], state => pure (.complete, state)
  | row :: rest, state => do
    match ← engine.repairRow P material resolver nowMs row state with
    | (none, state) => repairRows rest state
    | (some outcome, state) => pure (outcome, state)

/-- The fetched rows must be the requested ones, one for each number. -/
def checkRepairRow (device : DeviceId) (numbered : ReceivedOperation × Nat) :
    Except SafeErrorCode Unit := do
  require (numbered.1.operation.deviceId = device ∧
    numbered.1.operation.deviceSequence = numbered.2) .integrityQuarantined
  validateReceiptBinding numbered.1

def applyRepairRows (state : PullState) (device : DeviceId) (first last : Nat)
    (rows : List ReceivedOperation) : Cycle (GapRepairOutcome × PullState) := do
  let rows := rows.insertionSort (fun left right =>
    left.operation.deviceSequence ≤ right.operation.deviceSequence)
  if rows.length ≠ last - first + 1 then pure (.pending, state)
  else do
    let _ ← Session.lift (collect (checkRepairRow device) (rows.zip (List.range' first rows.length)))
    engine.repairRows P material resolver nowMs rows state

/-! ## Finishing a pull -/

/-- The main page was received: its rows are taken in order. -/
def finishPage (state : PullState) (cursor : Option SyncCursor) (limit : Nat) (page : PullPage) :
    Cycle PullProgress := do
  Session.lift (validatePage cursor page limit)
  if page.rows = [] then pure (complete state false)
  else
    let rows := page.rows.insertionSort (fun left right => left.cursor.key ≤ right.cursor.key)
    engine.advancePull P material resolver nowMs rows
      { state with report := { state.report with pulled := state.report.pulled + rows.length } }

/-- The blocking row cannot be repaired: it is set aside, and the rows behind it are taken. -/
def giveUpRepair (state : PullState) : Cycle PullProgress := do
  let repair ← Session.lift (present state.repair .configurationError)
  let state := { state with repair := none }
  if state.processed = engine.maxOperations then pure (complete state true)
  else
    match reserveBytes state.processedBytes repair.blocker.operation.bytes.length engine.maxBytes with
    | none => pure (complete state true)
    | some processedBytes => do
      engine.persistQuarantine repair.blocker .gapPending nowMs true
      engine.advancePull P material resolver nowMs state.rows
        (PullState.setAside { state with processedBytes })

/-- The range is repaired: the next range is asked for, or the blocking row is tried again. -/
def continueRepair (state : PullState) (last : Nat) : Cycle PullProgress := do
  let repair ← Session.lift (present state.repair .configurationError)
  if last + 1 ≤ repair.last then
    engine.nextRepair { state with repair := some { repair with next := last + 1 } }
  else
    engine.advancePull P material resolver nowMs (repair.blocker :: state.rows)
      { state with repair := none, repairedBlocker := true }

def finishRange (state : PullState) (device : DeviceId) (first last : Nat)
    (rows : List ReceivedOperation) : Cycle PullProgress := do
  match ← engine.applyRepairRows P material resolver nowMs state device first last rows with
  | (.pending, state) => pure (complete state true)
  | (.blockedByQuarantine, state) => engine.giveUpRepair P material resolver nowMs state
  | (.complete, state) => engine.continueRepair P material resolver nowMs state last

/-- The continuation must be this engine's, and the cursor where it was. -/
def checkContinuation (prepared : PreparedPull) : Cycle Unit := do
  let cursor ← engine.cursor
  Session.lift (require (prepared.state.scope = engine.scope ∧
    prepared.state.provider = engine.provider ∧
    prepared.state.maxOperations = engine.maxOperations ∧
    prepared.state.maxBytes = engine.maxBytes ∧ cursor = prepared.expectedCursor)
    .integrityQuarantined)

def finishPull (prepared : PreparedPull) (response : PullResponse) : Cycle PullProgress := do
  engine.checkContinuation prepared
  match prepared.request, response with
  | .operations cursor limit, .operations page =>
    engine.finishPage P material resolver nowMs prepared.state cursor limit page
  | .deviceRange device first last, .deviceRange rows =>
    engine.finishRange P material resolver nowMs prepared.state device first last rows
  | _, _ => Session.fail .integrityQuarantined

end SyncEngine

end ContextRelay
