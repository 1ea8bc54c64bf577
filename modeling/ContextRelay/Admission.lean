import ContextRelay.LocalVault

/-! Admission of a received operation: the trusted material a sync cycle works with, the
ownership of record identifiers, and the complete check a canonical operation passes
before it may be applied. -/
namespace ContextRelay

open Library

structure TrustedDevice where
  certificate : DeviceCertificateV1
  activeControlEpoch : Nat
  activeKeyEpoch : Nat
deriving DecidableEq

def TrustedDevice.validateIdentity (trusted : TrustedDevice) (account : AccountId)
    (workspace : WorkspaceId) (device : DeviceId) (keyEpoch : Nat) : Except SyncError Unit :=
  require (trusted.certificate.accountId = account ∧ trusted.certificate.workspaceId = workspace ∧
      trusted.certificate.deviceId = device ∧ trusted.certificate.controlEpoch ≠ 0 ∧
      trusted.certificate.controlEpoch ≤ trusted.activeControlEpoch ∧
      trusted.activeKeyEpoch ≠ 0 ∧ keyEpoch = trusted.activeKeyEpoch)
    .invalidIdentity

/-- The capability to read stored representatives of earlier key epochs. Its endpoint,
activation and provenance checks belong to the membership history and are one function. -/
structure HistoricalReadMaterial where
  authenticate : SyncOperationV1 → Except VaultError Unit
  keys : Table Nat ContentKey

structure TrustedSyncMaterial where
  historicalReadMaterial : Option HistoricalReadMaterial
  membershipEndpoint : Option MembershipEndpoint
  trustedDevice : AccountId → WorkspaceId → DeviceId → Except SyncError TrustedDevice
  contentKey : WorkspaceId → Nat → Except SyncError ContentKey

/-- An operation that passed complete admission, with the mutation it carries. -/
structure AdmittedOperation where
  membershipEndpoint : Option MembershipEndpoint
  operation : SyncOperationV1
  mutation : RecordMutationV1
  canonicalBytes : Bytes
  canonicalHash : Sha256Digest
deriving DecidableEq

inductive AdmissionDecision where
  | exactReplay (operationId : OperationId)
  | gap (first last : Nat)
  | admitted (operation : AdmittedOperation)
deriving DecidableEq

variable (P : Primitives)

/-! ## Stored representatives -/

def rehydrateMutationWithKey (operation : SyncOperationV1) (key : ContentKey) :
    Except VaultError RecordMutationV1 := do
  let aad := encodeSyncOperationAadV1 P operation
  let plaintext ← present (P.decrypt key ⟨operation.nonce, operation.ciphertext⟩ aad)
    (.validation "stored representative decryption failed")
  let mutation ← orFail (decodeRecordMutationV1 P plaintext)
    (.validation "stored representative mutation is invalid")
  require (operation.recordId = mutation.recordId ∧ operation.recordKind = mutation.recordKind ∧
      operation.mutationKind = mutation.mutationKind ∧ scopeMatches operation.projectId mutation)
    (.validation "stored representative mutation does not match envelope")
  pure mutation

def HistoricalReadMaterial.rehydrate (historical : HistoricalReadMaterial)
    (operation : SyncOperationV1) : Except VaultError RecordMutationV1 := do
  historical.authenticate operation
  let key ← present (historical.keys.find? operation.keyEpoch) membershipInvalid
  rehydrateMutationWithKey P operation key

def rehydrateStoredMutation (material : TrustedSyncMaterial) (operation : SyncOperationV1) :
    Except VaultError RecordMutationV1 :=
  match material.contentKey operation.workspaceId operation.keyEpoch with
  | .ok key => rehydrateMutationWithKey P operation key
  | .error _ => do
    let historical ← present material.historicalReadMaterial
      (.validation "stored representative key is unavailable")
    historical.rehydrate P operation

/-! ## Record ownership -/

def legacyOwnerMatchesMaterialization (v : Vault) (material : TrustedSyncMaterial)
    (account : AccountId) (workspace : WorkspaceId) (record : RecordId) (kind : RecordKind) :
    Except VaultError Bool := do
  let heads ← loadRecordHeads P v workspace record
  let representative ← present heads.head?
    (.validation "legacy sync record owner has no durable head")
  require (∀ head ∈ heads, head.recordKind = kind ∧ head.operation.accountId = account ∧
      head.operation.workspaceId = workspace ∧ head.operation.recordId = record)
    (.validation "legacy sync record heads disagree on owner or kind")
  let mutation ← rehydrateStoredMutation P material representative.operation
  let kinds := materializedRecordKinds v record
  if mutation.mutationKind = .tombstone then pure kinds.isEmpty
  else if kinds ≠ [kind] then pure false
  else pure (loadMaterializedMutation v record kind == some mutation)

def recordBelongsToSyncScope (v : Vault) (material : TrustedSyncMaterial) (account : AccountId)
    (workspace : WorkspaceId) (record : RecordId) (kind : RecordKind) :
    Except VaultError Bool :=
  if candidateAliasAllowsScope v account workspace record kind = false then pure false
  else
    match storedSyncRecordOwner v record with
    | some owner =>
      if (owner.accountId, owner.workspaceId, owner.recordKind) ≠ (account, workspace, kind) then
        pure false
      else if owner.state = .verified then pure true
      else legacyOwnerMatchesMaterialization P v material account workspace record kind
    | none => pure (materializedRecordKinds v record).isEmpty

/-! ## Admission -/

def validateActiveIdentity (operation : SyncOperationV1) (trusted : TrustedDevice) :
    Except SyncError Unit := do
  trusted.validateIdentity operation.accountId operation.workspaceId operation.deviceId
    operation.keyEpoch
  require (operation.controlEpoch = trusted.activeControlEpoch) .invalidIdentity

def trustedContext (trusted : TrustedDevice) (previous : Option OperationChainHead)
    (existingScope : Option ScopeRef) : TrustedOperationContext :=
  ⟨trusted.certificate, trusted.activeControlEpoch, trusted.activeKeyEpoch, previous, existingScope⟩

/-- Every frontier entry is at most the stored head of its device. -/
def validateFrontierAgainstVault (v : Vault) (operation : SyncOperationV1) :
    Except SyncError Unit := do
  validateFrontier operation.causalFrontier operation.deviceId (some operation.deviceSequence)
  require (∀ entry ∈ operation.causalFrontier,
      (v.deviceHead operation.workspaceId entry.deviceId).any
        (fun head => entry.sequence ≤ head.sequence)) .invalidFrontier

/-- The scope a tombstone is checked against; upserts carry their own. -/
def existingRecordScope (v : Vault) (operation : SyncOperationV1) :
    Except SyncError (Option ScopeRef) :=
  if operation.mutationKind = .tombstone then do
    let stored ← orFail
      (materializedRecordScope P v operation.workspaceId operation.recordId operation.recordKind)
      .persistenceFailed
    let scope ← present stored .invalidScope
    pure (some scope)
  else pure none

/-- The checks on an operation that is neither stored nor ahead of its chain. -/
def admitSuccessor (v : Vault) (operation : SyncOperationV1) (canonicalBytes : Bytes)
    (trusted : TrustedDevice) (material : TrustedSyncMaterial) :
    Except SyncError AdmissionDecision := do
  let previous := v.deviceHead operation.workspaceId operation.deviceId
  require (operation.previousDeviceHash = (previous.map OperationChainHead.canonicalHash).getD .zero)
    .invalidChain
  validateFrontierAgainstVault v operation
  let belongs ← orFail (recordBelongsToSyncScope P v material operation.accountId
    operation.workspaceId operation.recordId operation.recordKind) .persistenceFailed
  require (belongs = true) .invalidScope
  let existingScope ← existingRecordScope P v operation
  let key ← material.contentKey operation.workspaceId operation.keyEpoch
  let mutation ← verifyOperationEnvelope P operation (trustedContext trusted previous existingScope) key
  pure (.admitted {
    membershipEndpoint := material.membershipEndpoint
    operation
    mutation
    canonicalBytes
    canonicalHash := P.sha256 canonicalBytes })

def admitOperation (v : Vault) (receivedBytes : Bytes) (material : TrustedSyncMaterial) :
    Except SyncError AdmissionDecision := do
  let operation ← orFail (decodeSyncOperationV1 P receivedBytes) .invalidEnvelope
  orFail (requireOperation P v operation material.membershipEndpoint) .invalidIdentity
  orFail operation.validate .invalidEnvelope
  let canonicalBytes ← orFail (encodeSyncOperationV1 P operation) .invalidEnvelope
  require (canonicalBytes = receivedBytes) .invalidEnvelope
  let trusted ← material.trustedDevice operation.accountId operation.workspaceId operation.deviceId
  validateActiveIdentity operation trusted
  let previous := v.deviceHead operation.workspaceId operation.deviceId
  verifyOperationPublicAuthenticity P operation (trustedContext trusted previous none)
  match ← orFail (storedSyncOperation P v operation.operationId) .persistenceFailed with
  | some stored =>
    require (stored = canonicalBytes) .operationConflict
    pure (.exactReplay operation.operationId)
  | none =>
    require (operationAtDeviceSequence v operation.workspaceId operation.deviceId
      operation.deviceSequence = none) .sequenceConflict
    match ← missingRange previous operation with
    | some range => pure (.gap range.1 range.2)
    | none => admitSuccessor P v operation canonicalBytes trusted material

/-- What admission established about an operation: each check it made, with the trusted
device, the scope and the key it used. -/
structure Admits (v : Vault) (bytes : Bytes) (material : TrustedSyncMaterial)
    (admitted : AdmittedOperation) (trusted : TrustedDevice) (scope : Option ScopeRef)
    (key : ContentKey) : Prop where
  decoded : decodeSyncOperationV1 P bytes = .ok admitted.operation
  member : requireOperation P v admitted.operation material.membershipEndpoint = .ok ()
  device : material.trustedDevice admitted.operation.accountId admitted.operation.workspaceId
    admitted.operation.deviceId = .ok trusted
  identity : validateActiveIdentity admitted.operation trusted = .ok ()
  authentic : verifyOperationPublicAuthenticity P admitted.operation (trustedContext trusted
    (v.deviceHead admitted.operation.workspaceId admitted.operation.deviceId) none) = .ok ()
  fresh : v.operations.find? admitted.operation.operationId = none
  unused : operationAtDeviceSequence v admitted.operation.workspaceId admitted.operation.deviceId
    admitted.operation.deviceSequence = none
  successor : missingRange (v.deviceHead admitted.operation.workspaceId
    admitted.operation.deviceId) admitted.operation = .ok none
  linked : admitted.operation.previousDeviceHash =
    ((v.deviceHead admitted.operation.workspaceId admitted.operation.deviceId).map
      OperationChainHead.canonicalHash).getD .zero
  frontier : validateFrontierAgainstVault v admitted.operation = .ok ()
  belongs : recordBelongsToSyncScope P v material admitted.operation.accountId
    admitted.operation.workspaceId admitted.operation.recordId admitted.operation.recordKind =
      .ok true
  inScope : existingRecordScope P v admitted.operation = .ok scope
  keyed : material.contentKey admitted.operation.workspaceId admitted.operation.keyEpoch = .ok key
  opened : verifyOperationEnvelope P admitted.operation (trustedContext trusted
    (v.deviceHead admitted.operation.workspaceId admitted.operation.deviceId) scope) key =
      .ok admitted.mutation
  canonicalBytes : admitted.canonicalBytes = bytes
  canonicalHash : admitted.canonicalHash = P.sha256 bytes
  endpoint : admitted.membershipEndpoint = material.membershipEndpoint

variable {P}

theorem rehydrateMutationWithKey_ok :
    rehydrateMutationWithKey P operation key = .ok mutation ↔
      openMutation P key operation = .ok mutation := by
  simp only [rehydrateMutationWithKey, openMutation, ok_iff]

theorem rehydrateStoredMutation_opens
    (rehydrated : rehydrateStoredMutation P material operation = .ok mutation) :
    ∃ key, openMutation P key operation = .ok mutation := by
  unfold rehydrateStoredMutation at rehydrated
  split at rehydrated
  · exact ⟨_, rehydrateMutationWithKey_ok.mp rehydrated⟩
  · simp only [ok_iff, HistoricalReadMaterial.rehydrate] at rehydrated
    obtain ⟨_, _, _, key, _, opened⟩ := rehydrated
    exact ⟨key, rehydrateMutationWithKey_ok.mp opened⟩

/-- A rehydrated mutation is one of the operation's own record and kind. -/
theorem rehydrateStoredMutation_isOf
    (rehydrated : rehydrateStoredMutation P material operation = .ok mutation) :
    IsOf mutation operation := by
  obtain ⟨key, opened⟩ := rehydrateStoredMutation_opens rehydrated
  obtain ⟨sameRecord, sameKind, _⟩ := openMutation_ok opened
  exact ⟨sameRecord, sameKind⟩

theorem storedSyncOperation_none :
    storedSyncOperation P v operationId = .ok none ↔ v.operations.find? operationId = none := by
  unfold storedSyncOperation
  split
  · rename_i absent
    simp [absent]
  · rename_i row found
    simp [found, bind_eq_ok]

theorem admitSuccessor_ok :
    admitSuccessor P v operation bytes trusted material = .ok decision ↔
      ∃ scope key mutation,
        operation.previousDeviceHash = ((v.deviceHead operation.workspaceId operation.deviceId).map
          OperationChainHead.canonicalHash).getD .zero ∧
        validateFrontierAgainstVault v operation = .ok () ∧
        recordBelongsToSyncScope P v material operation.accountId operation.workspaceId
          operation.recordId operation.recordKind = .ok true ∧
        existingRecordScope P v operation = .ok scope ∧
        material.contentKey operation.workspaceId operation.keyEpoch = .ok key ∧
        verifyOperationEnvelope P operation (trustedContext trusted
          (v.deviceHead operation.workspaceId operation.deviceId) scope) key = .ok mutation ∧
        decision = .admitted ⟨material.membershipEndpoint, operation, mutation, bytes,
          P.sha256 bytes⟩ := by
  simp only [admitSuccessor, ok_iff]
  constructor
  · rintro ⟨linked, frontier, belongs, owned, rfl, scope, inScope, key, keyed, mutation, opened, rfl⟩
    exact ⟨scope, key, mutation, linked, frontier, owned, inScope, keyed, opened, rfl⟩
  · rintro ⟨scope, key, mutation, linked, frontier, owned, inScope, keyed, opened, rfl⟩
    exact ⟨linked, frontier, true, owned, rfl, scope, inScope, key, keyed, mutation, opened, rfl⟩

/-- Admission succeeds exactly when each of its checks does. -/
theorem admitOperation_admitted :
    admitOperation P v bytes material = .ok (.admitted admitted) ↔
      ∃ trusted scope key, Admits P v bytes material admitted trusted scope key := by
  simp only [admitOperation, ok_iff]
  constructor
  · rintro ⟨operation, decoded, member, valid, canonical, encoded, rfl, trusted, device, identity,
      authentic, stored, storedAs, ran⟩
    split at ran
    · simp [bind_eq_ok] at ran
    · simp only [ok_iff] at ran
      obtain ⟨unused, range, successor, ran⟩ := ran
      split at ran
      · simp at ran
      · obtain ⟨scope, key, mutation, linked, frontier, belongs, inScope, keyed, opened, same⟩ :=
          admitSuccessor_ok.mp ran
        simp only [AdmissionDecision.admitted.injEq] at same
        subst same
        exact ⟨trusted, scope, key, decoded, member, device, identity, authentic,
          storedSyncOperation_none.mp storedAs, unused, successor, linked, frontier, belongs,
          inScope, keyed, opened, rfl, rfl, rfl⟩
  · rintro ⟨trusted, scope, key, admits⟩
    obtain ⟨valid, encoded⟩ := decodeSyncOperationV1_ok admits.decoded
    refine ⟨admitted.operation, admits.decoded, admits.member, valid, bytes, encoded, rfl, trusted,
      admits.device, admits.identity, admits.authentic, none,
      storedSyncOperation_none.mpr admits.fresh, ?_⟩
    simp only [ok_iff]
    refine ⟨admits.unused, none, admits.successor, admitSuccessor_ok.mpr ?_⟩
    refine ⟨scope, key, admitted.mutation, admits.linked, admits.frontier, admits.belongs,
      admits.inScope, admits.keyed, admits.opened, ?_⟩
    rw [← admits.endpoint, ← admits.canonicalHash]
    simp only [← admits.canonicalBytes]

end ContextRelay
