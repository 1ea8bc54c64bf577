import ContextRelay.Library.Table
import ContextRelay.Operation

/-! The vault: the tables of the local database that synchronization reads and writes,
the embedding cache kept beside them, and the queries on them. A column holds a typed
value, so the failures of parsing a malformed column do not occur; a JSON column holds
the value itself. -/
namespace ContextRelay

open Library

inductive VaultError where
  | budgetExceeded
  | security (reason : String)
  | validation (reason : String)
  | operationConflict
  | database
deriving DecidableEq

/-! ## Rows -/

inductive SyncProvider where
  | memory
  | supabase
deriving DecidableEq

namespace SyncProvider

def rank : SyncProvider → Nat
  | .memory => 0
  | .supabase => 1

theorem rank_injective : Function.Injective rank := by
  intro left right same
  cases left <;> cases right <;> simp_all [rank]

instance : LinearOrder SyncProvider := LinearOrder.lift' rank rank_injective

end SyncProvider

structure OperationRow where
  recordId : RecordId
  operation : SyncOperationV1
deriving DecidableEq

inductive OperationDirection where
  | outgoing
  | incoming
deriving DecidableEq

inductive OperationState where
  | queued
  | admitted
  | applied
  | quarantined
deriving DecidableEq

structure OperationMeta where
  accountId : AccountId
  workspaceId : WorkspaceId
  deviceId : DeviceId
  deviceSequence : Nat
  canonicalSha256 : Sha256Digest
  direction : OperationDirection
  state : OperationState
  receivedAt : Option String
deriving DecidableEq

structure OutboxRow where
  queuedAt : Nat
  attemptCount : Nat
  nextAttemptMs : Nat
  safeErrorCode : Option SafeErrorCode
deriving DecidableEq

abbrev StoredDeviceHead := OperationChainHead

structure RecordHeadRow where
  recordKind : RecordKind
  mutationKind : MutationKind
  canonicalSha256 : Sha256Digest
deriving DecidableEq

structure SyncCursor where
  receivedAt : String
  operationId : OperationId
deriving DecidableEq

structure StoredSyncQuarantine where
  routedOperationId : OperationId
  deviceId : DeviceId
  deviceSequence : Nat
  safeErrorCode : SafeErrorCode
  envelope : Bytes
  quarantinedAtMs : Nat
deriving DecidableEq

structure StoredSyncRejection where
  routedOperationId : OperationId
  deviceId : DeviceId
  deviceSequence : Nat
  safeErrorCode : SafeErrorCode
  claimedByteLength : Nat
  receivedSha256 : Sha256Digest
  rejectedAtMs : Nat
deriving DecidableEq

inductive SyncRecordOwnerState where
  | verified
  | legacyPending
deriving DecidableEq

structure StoredSyncRecordOwner where
  accountId : AccountId
  workspaceId : WorkspaceId
  recordKind : RecordKind
  state : SyncRecordOwnerState
deriving DecidableEq

structure ConflictRow where
  leftOperation : SyncOperationV1
  rightOperation : SyncOperationV1
deriving DecidableEq

/-- A row of `records`: its `kind` column says which payload it holds. -/
inductive SearchableRecord where
  | memory (record : MemoryRecord)
  | instruction (record : InstructionRecord)
deriving DecidableEq

def SearchableRecord.kind : SearchableRecord → RecordKind
  | .memory _ => .memory
  | .instruction _ => .instruction

def SearchableRecord.scope : SearchableRecord → ScopeRef
  | .memory record => record.scope
  | .instruction record => record.scope

structure Embedding384 where
  components : List Nat
deriving DecidableEq

structure CachedEmbedding where
  approved : Bool
  archived : Bool
  scope : ScopeRef
  embedding : Embedding384
deriving DecidableEq

structure SyncCheckpointSchedule where
  appliedOperations : Nat
  firstUncheckpointedMs : Option Nat
  lastCheckpointMs : Option Nat
  requested : Bool
deriving DecidableEq

inductive LocalOperationKind where
  | create
  | proposal
  | update
  | archive
  | taskUpsert
  | taskComplete
  | taskTransition
  | candidateReview
deriving DecidableEq

/-- The request a local operation id is bound to. -/
structure LocalOperationBinding where
  operationId : OperationId
  operationKind : LocalOperationKind
  targetId : RecordId
  expectedRevision : Option OperationId
  canonicalPayload : Bytes
deriving DecidableEq

/-- A stored binding and the response recorded with it, absent for older bindings. -/
structure LocalBindingRow where
  binding : LocalOperationBinding
  canonicalResponse : Option Bytes
deriving DecidableEq

/-- A membership history that loaded and verified under the current budget. -/
structure AcceptedMembership where
  scope : SyncScope
  endpoint : MembershipEndpoint
  activeDevices : Table DeviceId DeviceCertificateV1
  /-- The verified activation row, if there is one; it may fail to verify. -/
  activeDevice : Except VaultError (Option DeviceId)
  /-- An active recovery enrollment whose record is the history's pairing parent. -/
  enrolledAtGenesis : Bool

/-- The membership tables as reads see them: loading may fail, and an anchor without a
history is refused. -/
structure MembershipTables where
  accepted : Except VaultError (Option AcceptedMembership)
  genesisAnchor : Bool

/-! ## The vault -/

structure Vault where
  operations : Table OperationId OperationRow
  operationMeta : Table OperationId OperationMeta
  outbox : Table OperationId OutboxRow
  deviceHeads : Table (WorkspaceId ×ₗ DeviceId) StoredDeviceHead
  recordHeads : Table (WorkspaceId ×ₗ RecordId ×ₗ OperationId) RecordHeadRow
  cursors : Table (WorkspaceId ×ₗ SyncProvider) SyncCursor
  nonces : Table (Nat ×ₗ XChaChaNonce) OperationId
  quarantine : Table (AccountId ×ₗ WorkspaceId ×ₗ SyncProvider ×ₗ String ×ₗ OperationId)
    StoredSyncQuarantine
  rejections : Table (AccountId ×ₗ WorkspaceId ×ₗ SyncProvider ×ₗ String ×ₗ OperationId)
    StoredSyncRejection
  recordOwners : Table RecordId StoredSyncRecordOwner
  candidateAliases : Table RecordId RecordId
  conflicts : Table RecordId ConflictRow
  records : Table RecordId SearchableRecord
  candidates : Table RecordId MemoryCandidate
  tasks : Table RecordId TaskRecord
  secretRefs : Table RecordId SecretRef
  components : Table RecordId ComponentRecord
  projects : Table RecordId ProjectIdentity
  checkpointSchedule : Table (AccountId ×ₗ WorkspaceId) SyncCheckpointSchedule
  localBindings : Table OperationId LocalBindingRow
  membership : MembershipTables
  embeddingCache : Table RecordId CachedEmbedding

/-- A database whose tables are all empty. -/
def Vault.empty : Vault where
  operations := .empty
  operationMeta := .empty
  outbox := .empty
  deviceHeads := .empty
  recordHeads := .empty
  cursors := .empty
  nonces := .empty
  quarantine := .empty
  rejections := .empty
  recordOwners := .empty
  candidateAliases := .empty
  conflicts := .empty
  records := .empty
  candidates := .empty
  tasks := .empty
  secretRefs := .empty
  components := .empty
  projects := .empty
  checkpointSchedule := .empty
  localBindings := .empty
  membership := ⟨.ok none, false⟩
  embeddingCache := .empty

/-! ## Membership gates -/

def membershipInvalid : VaultError := .validation "accepted membership authority unavailable"

/-- The accepted history, when there is one, must be current for the scope, carry the
caller's stamp and be activated on this device. -/
def requireCurrent (v : Vault) (scope : SyncScope) (stamp : Option MembershipEndpoint) :
    Except VaultError (Option AcceptedMembership) := do
  match ← v.membership.accepted with
  | none =>
    require (v.membership.genesisAnchor = false) membershipInvalid
    pure none
  | some history =>
    require (history.scope = scope ∧ stamp = some history.endpoint) .operationConflict
    match ← history.activeDevice with
    | some _ => pure (some history)
    | none =>
      -- An enrolled device at epoch one needs no activation row.
      require (history.endpoint.controlEpoch = 1 ∧ history.endpoint.keyEpoch = 1) membershipInvalid
      require (history.enrolledAtGenesis = true) membershipInvalid
      pure (some history)

variable (P : Primitives)

def requireOperation (v : Vault) (operation : SyncOperationV1) (stamp : Option MembershipEndpoint) :
    Except VaultError Unit := do
  match ← requireCurrent v ⟨operation.accountId, operation.workspaceId⟩ stamp with
  | none => pure ()
  | some history =>
    let certificate ← present (history.activeDevices.find? operation.deviceId) membershipInvalid
    require (operation.controlEpoch = history.endpoint.controlEpoch ∧
      operation.keyEpoch = history.endpoint.keyEpoch) membershipInvalid
    let preimage ← orFail (encodeSyncOperationSigningPreimageV1 P operation) membershipInvalid
    require (P.verifySignature certificate.signingPublicKey preimage operation.signature)
      membershipInvalid

/-! ## Operations and heads -/

def Vault.deviceHead (v : Vault) (workspace : WorkspaceId) (device : DeviceId) :
    Option StoredDeviceHead :=
  v.deviceHeads.find? (toLex (workspace, device))

def storedSyncOperation (v : Vault) (operationId : OperationId) :
    Except VaultError (Option Bytes) :=
  match v.operations.find? operationId with
  | none => pure none
  | some row => do
    let bytes ← orFail (encodeSyncOperationV1 P row.operation) (.validation "invalid stored operation")
    pure (some bytes)

/-- The metadata row at one place of a device's chain. -/
def Vault.metaAt (v : Vault) (workspace : WorkspaceId) (device : DeviceId) (sequence : Nat) :
    Option (OperationId × OperationMeta) :=
  v.operationMeta.rows.find? (fun row =>
    row.2.workspaceId = workspace ∧ row.2.deviceId = device ∧ row.2.deviceSequence = sequence)

def operationAtDeviceSequence (v : Vault) (workspace : WorkspaceId) (device : DeviceId)
    (sequence : Nat) : Option OperationId :=
  (v.metaAt workspace device sequence).map Prod.fst

structure StoredRecordHead where
  operationId : OperationId
  recordKind : RecordKind
  mutationKind : MutationKind
  canonicalHash : Sha256Digest
  operation : SyncOperationV1
deriving DecidableEq

/-- The head rows of one record, joined with their operations, by operation id. -/
def Vault.headRows (v : Vault) (workspace : WorkspaceId) (record : RecordId) :
    List (OperationId × RecordHeadRow × SyncOperationV1) :=
  v.recordHeads.rows.filterMap (fun row =>
    let key := ofLex row.1
    let rest := ofLex key.2
    if key.1 = workspace ∧ rest.1 = record then
      (v.operations.find? rest.2).map (fun stored => (rest.2, row.2, stored.operation))
    else none)

/-- Check one joined head row. -/
def storedRecordHead (row : OperationId × RecordHeadRow × SyncOperationV1) :
    Except VaultError StoredRecordHead := do
  let (operationId, head, operation) := row
  orFail operation.validate (.validation "invalid stored head operation")
  let bytes ← orFail (encodeSyncOperationV1 P operation) (.validation "invalid stored head operation")
  require (operation.operationId = operationId ∧ operation.recordKind = head.recordKind ∧
      operation.mutationKind = head.mutationKind ∧ P.sha256 bytes = head.canonicalSha256)
    (.validation "stored head metadata does not match operation")
  pure ⟨operationId, head.recordKind, head.mutationKind, head.canonicalSha256, operation⟩

def loadRecordHeads (v : Vault) (workspace : WorkspaceId) (record : RecordId) :
    Except VaultError (List StoredRecordHead) :=
  collect (storedRecordHead P) (v.headRows workspace record)

/-! ## Candidate aliases and record owners -/

def resolveCandidateId (v : Vault) (id : RecordId) : RecordId :=
  (v.candidateAliases.find? id).getD id

def storedSyncRecordOwner (v : Vault) (record : RecordId) : Option StoredSyncRecordOwner :=
  v.recordOwners.find? record

def candidateAliasAllowsScope (v : Vault) (account : AccountId) (workspace : WorkspaceId)
    (record : RecordId) (kind : RecordKind) : Bool :=
  let resolved := resolveCandidateId v record
  if resolved = record then true
  else decide (kind = .memory) && (storedSyncRecordOwner v resolved).any (fun owner =>
    owner = ⟨account, workspace, .memoryCandidate, .verified⟩)

/-! ## Materialized records -/

/-- The kinds a record id is materialized under, table by table. -/
def materializedRecordKinds (v : Vault) (record : RecordId) : List RecordKind :=
  ((v.records.find? record).map SearchableRecord.kind).toList ++
    ((v.candidates.find? record).map (fun _ => RecordKind.memoryCandidate)).toList ++
    ((v.tasks.find? record).map (fun _ => RecordKind.task)).toList ++
    ((v.secretRefs.find? record).map (fun _ => RecordKind.secretRef)).toList ++
    ((v.components.find? record).map (fun _ => RecordKind.component)).toList ++
    ((v.projects.find? record).map (fun _ => RecordKind.project)).toList

def loadMaterializedMutation (v : Vault) (record : RecordId) :
    RecordKind → Option RecordMutationV1
  | .memory =>
    match v.records.find? record with
    | some (.memory stored) => some (.upsertMemory stored)
    | _ => none
  | .memoryCandidate => (v.candidates.find? record).map .upsertMemoryCandidate
  | .task => (v.tasks.find? record).map .upsertTask
  | .secretRef => (v.secretRefs.find? record).map .upsertSecretRef
  | .instruction =>
    match v.records.find? record with
    | some (.instruction stored) => some (.upsertInstruction stored)
    | _ => none
  | .component => (v.components.find? record).map .upsertComponent
  | .project => (v.projects.find? record).map .upsertProject

def materializedScope (v : Vault) (record : RecordId) (kind : RecordKind) : Option ScopeRef :=
  match kind with
  | .memory | .instruction =>
    (v.records.find? record).bind (fun stored =>
      if stored.kind = kind then some stored.scope else none)
  | .memoryCandidate => (v.candidates.find? record).map (fun stored => stored.proposedMemory.scope)
  | .task => (v.tasks.find? record).map (fun stored => .project stored.projectId)
  | .secretRef => (v.secretRefs.find? record).map (fun _ => .global)
  | .component => (v.components.find? record).map (fun stored => stored.scope)
  | .project => (v.projects.find? record).map (fun _ => .project record.retype)

def operationScope (operation : SyncOperationV1) : Except VaultError ScopeRef :=
  match operation.recordKind with
  | .secretRef =>
    match operation.projectId with
    | none => pure .global
    | some _ => throw (.validation "secret reference head cannot have a project")
  | .task => do
    let projectId ← present operation.projectId (.validation "task head is missing its project")
    pure (.project projectId)
  | .project => do
    let projectId ← present
      (operation.projectId.filter (fun projectId => projectId.uuid == operation.recordId.uuid))
      (.validation "project head scope is invalid")
    pure (.project projectId)
  | _ => pure (operation.projectId.elim .global .project)

/-- The scope all heads agree on, read head by head. -/
def agreedScope (record : RecordId) (kind : RecordKind) :
    Option ScopeRef → List StoredRecordHead → Except VaultError (Option ScopeRef)
  | scope, [] => pure scope
  | scope, head :: rest => do
    require (head.recordKind = kind ∧ head.operation.recordId = record)
      (.validation "durable record head kind or identity mismatch")
    let headScope ← operationScope head.operation
    require (scope.all (fun earlier => earlier = headScope))
      (.validation "durable record heads disagree on scope")
    agreedScope record kind (some headScope) rest

def durableRecordScope (v : Vault) (workspace : WorkspaceId) (record : RecordId)
    (kind : RecordKind) : Except VaultError (Option ScopeRef) := do
  let heads ← loadRecordHeads P v workspace record
  agreedScope record kind none heads

def materializedRecordScope (v : Vault) (workspace : WorkspaceId) (record : RecordId)
    (kind : RecordKind) : Except VaultError (Option ScopeRef) :=
  match materializedScope v record kind with
  | some scope => pure (some scope)
  | none => durableRecordScope P v workspace record kind

end ContextRelay
