import ContextRelay.LocalVault

/-! The checkpoint view of a workspace: the causal frontier its device heads form, and the
summary of its record heads with the hash a checkpoint signs. -/
namespace ContextRelay

open Library

variable (P : Primitives)

/-! ## The frontier -/

/-- One joined row of the frontier query: the metadata of a device's last operation. -/
def frontierEntry (scope : SyncScope) (row : DeviceId × StoredDeviceHead × OperationMeta) :
    Except VaultError DeviceSequence := do
  require (row.2.2.accountId = scope.accountId ∧
    row.2.1.canonicalHash = row.2.2.canonicalSha256) (.validation "invalid stored checkpoint frontier")
  pure ⟨row.1, row.2.1.sequence⟩

/-- The device heads of a workspace, by device id. -/
def Vault.workspaceHeads (v : Vault) (workspace : WorkspaceId) : List (DeviceId × StoredDeviceHead) :=
  v.deviceHeads.rows.filterMap (fun row =>
    if (ofLex row.1).1 = workspace then some ((ofLex row.1).2, row.2) else none)

def loadCheckpointFrontier (v : Vault) (scope : SyncScope) :
    Except VaultError (List DeviceSequence) := do
  let heads := v.workspaceHeads scope.workspaceId
  let joined := heads.filterMap (fun head =>
    (v.metaAt scope.workspaceId head.1 head.2.sequence).map (fun found => (head.1, head.2, found.2)))
  let frontier ← collect (frontierEntry scope) joined
  require (devicesAscend frontier = true) (.validation "invalid stored checkpoint frontier order")
  require (frontier.length = heads.length)
    (.validation "checkpoint frontier contains an unbound device head")
  pure frontier

/-! ## The state summary -/

/-- The records of a workspace whose heads belong to an account, in id order. -/
def Vault.summarizedRecords (v : Vault) (scope : SyncScope) : List RecordId :=
  (v.recordHeads.rows.filterMap (fun row =>
    let key := ofLex row.1
    let rest := ofLex key.2
    if key.1 = scope.workspaceId ∧ (v.operationMeta.find? rest.2).any (fun found =>
        found.accountId = scope.accountId ∧ found.workspaceId = scope.workspaceId) then
      some rest.1
    else none)).dedup

/-- The number of head rows of a workspace. -/
def Vault.headCount (v : Vault) (workspace : WorkspaceId) : Nat :=
  (v.recordHeads.rows.filter (fun row => (ofLex row.1).1 = workspace)).length

def summaryEntry (v : Vault) (scope : SyncScope) (record : RecordId) :
    Except VaultError StateSummaryEntryV1 := do
  let heads ← loadRecordHeads P v scope.workspaceId record
  let first ← present heads.head? (.validation "checkpoint record has no durable heads")
  require (∀ head ∈ heads, head.recordKind = first.recordKind ∧
      head.operation.accountId = scope.accountId ∧
      head.operation.workspaceId = scope.workspaceId ∧ head.operation.recordId = record)
    (.validation "checkpoint record heads disagree on scope or kind")
  let headHashes := (heads.map StoredRecordHead.canonicalHash).insertionSort (· ≤ ·)
  require headHashes.Nodup (.validation "checkpoint record has duplicate head hashes")
  pure ⟨record, first.recordKind, headHashes, first.mutationKind = .tombstone, 1 < heads.length⟩

def loadStateSummary (v : Vault) (scope : SyncScope) : Except VaultError StateSummaryV1 := do
  let entries ← collect (summaryEntry P v scope) (v.summarizedRecords scope)
  require (v.headCount scope.workspaceId = (entries.map (fun entry => entry.headHashes.length)).sum)
    (.validation "checkpoint workspace contains unscoped heads")
  pure ⟨entries⟩

def normalizedEntry (entry : StateSummaryEntryV1) : Except SyncError StateSummaryEntryV1 := do
  require (entry.headHashes ≠ [] ∧ entry.conflicted = decide (1 < entry.headHashes.length))
    .invalidEnvelope
  let headHashes := entry.headHashes.insertionSort (· ≤ ·)
  require headHashes.Nodup .invalidEnvelope
  pure { entry with headHashes }

def normalizedEntries (entries : List StateSummaryEntryV1) :
    Except SyncError (List StateSummaryEntryV1) := do
  let sorted := entries.insertionSort (fun left right => left.recordId ≤ right.recordId)
  let normalized ← collect normalizedEntry sorted
  require (normalized.map StateSummaryEntryV1.recordId).Nodup .invalidEnvelope
  pure normalized

def StateSummaryV1.canonicalBytes (summary : StateSummaryV1) : Except SyncError Bytes := do
  let entries ← normalizedEntries summary.entries
  pure (P.writeStateSummary entries)

def StateSummaryV1.stateHash (summary : StateSummaryV1) : Except SyncError Sha256Digest := do
  let bytes ← summary.canonicalBytes P
  pure (P.sha256 bytes)

end ContextRelay
