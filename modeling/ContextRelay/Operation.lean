import ContextRelay.Primitives

/-! Signed operations: building one from a mutation, the checks made on one from another
device, and the causal order two operations carry in their frontiers. -/
namespace ContextRelay

open Library

inductive SyncError where
  | invalidEnvelope
  | invalidIdentity
  | invalidChain
  | invalidFrontier
  | invalidScope
  | authenticationFailed
  | encryptionFailed
  | decryptionFailed
  | invalidMutation
  | sequenceExhausted
  | operationConflict
  | sequenceConflict
  | persistenceFailed
deriving DecidableEq

def SyncError.display : SyncError → String
  | .invalidEnvelope => "invalid sync operation envelope"
  | .invalidIdentity => "sync operation identity mismatch"
  | .invalidChain => "sync operation chain mismatch"
  | .invalidFrontier => "invalid sync operation frontier"
  | .invalidScope => "sync operation scope mismatch"
  | .authenticationFailed => "sync operation authentication failed"
  | .encryptionFailed => "sync operation encryption failed"
  | .decryptionFailed => "sync operation decryption failed"
  | .invalidMutation => "invalid sync operation mutation"
  | .sequenceExhausted => "sync operation sequence exhausted"
  | .operationConflict => "sync operation identifier conflict"
  | .sequenceConflict => "sync operation sequence conflict"
  | .persistenceFailed => "sync operation persistence failed"

/-- The error codes that may be stored or shown. -/
inductive SafeErrorCode where
  | offline
  | transient
  | authRequired
  | revoked
  | quotaBlocked
  | gapPending
  | integrityQuarantined
  | conflict
  | configurationError
deriving DecidableEq

/-- One exact accepted state of the device membership. -/
structure MembershipEndpoint where
  stateSha256 : Sha256Digest
  controlEpoch : Nat
  keyEpoch : Nat
deriving DecidableEq

inductive CertificateIssuerV1 where
  | recoveryRoot (signingPublicKey : Ed25519PublicKeyBytes)
  | device (deviceId : DeviceId) (signingPublicKey : Ed25519PublicKeyBytes)
deriving DecidableEq

structure DeviceCertificateV1 where
  issuer : CertificateIssuerV1
  accountId : AccountId
  workspaceId : WorkspaceId
  controlEpoch : Nat
  requestNonce : PairingRequestNonce
  deviceId : DeviceId
  signingPublicKey : Ed25519PublicKeyBytes
  wrappingPublicKey : X25519PublicKeyBytes
  signature : Ed25519SignatureBytes
deriving DecidableEq

structure OperationChainHead where
  sequence : Nat
  canonicalHash : Sha256Digest
deriving DecidableEq

structure SyncIdentity where
  membershipEndpoint : Option MembershipEndpoint
  accountId : AccountId
  workspaceId : WorkspaceId
  deviceId : DeviceId
  controlEpoch : Nat
  keyEpoch : Nat
  deviceKeys : DeviceKeys
  contentKey : ContentKey
deriving DecidableEq

structure BuiltOperation where
  membershipEndpoint : Option MembershipEndpoint
  operation : SyncOperationV1
  canonicalBytes : Bytes
  canonicalHash : Sha256Digest
  sealedMutationHash : Sha256Digest
  sealedOperationHash : Sha256Digest
deriving DecidableEq

structure OperationBuildRequest where
  operationId : OperationId
  projectId : Option ProjectId
  mutation : RecordMutationV1
  causalFrontier : List DeviceSequence
  previous : Option OperationChainHead
  blobRefs : List BlobRef
  createdHlc : HybridLogicalClock
deriving DecidableEq

/-- The successor of a 64-bit counter, absent at its end. -/
def checkedSucc (value : Nat) : Option Nat :=
  if value + 1 < 2 ^ 64 then some (value + 1) else none

theorem checkedSucc_eq_some : checkedSucc value = some next ↔ value + 1 < 2 ^ 64 ∧ next = value + 1 := by
  unfold checkedSucc
  split
  · rename_i fits
    simp only [Option.some.injEq, fits, true_and, eq_comm]
  · rename_i full
    simp only [reduceCtorEq, full, false_and]

def scopeProject : ScopeRef → Option ProjectId
  | .global => none
  | .project projectId => some projectId

def scopeMatches (projectId : Option ProjectId) : RecordMutationV1 → Bool
  | .upsertMemory record => scopeProject record.scope == projectId
  | .upsertMemoryCandidate record => scopeProject record.proposedMemory.scope == projectId
  | .upsertTask record => projectId == some record.projectId
  | .upsertSecretRef _ => projectId.isNone
  | .upsertInstruction record => scopeProject record.scope == projectId
  | .upsertComponent record => scopeProject record.scope == projectId
  | .upsertProject record => projectId == some record.projectId
  | .tombstone recordId recordKind =>
    match recordKind with
    | .project => projectId.any (fun projectId => projectId.uuid == recordId.uuid)
    | .task => projectId.isSome
    | .secretRef => projectId.isNone
    | _ => true

def validateFrontier (frontier : List DeviceSequence) (operationDevice : DeviceId)
    (operationSequence : Option Nat) : Except SyncError Unit :=
  require (devicesAscend frontier ∧ (∀ entry ∈ frontier, entry.sequence ≠ 0) ∧
      ∀ sequence ∈ operationSequence, ∀ entry ∈ frontier,
        ¬ (entry.deviceId = operationDevice ∧ sequence ≤ entry.sequence))
    .invalidFrontier

/-- The sequence and predecessor hash the next operation of a device must carry. -/
def expectedSuccessor (previous : Option OperationChainHead) :
    Except SyncError (Nat × Sha256Digest) :=
  match previous with
  | some head => do
    let sequence ← present (checkedSucc head.sequence) .sequenceExhausted
    pure (sequence, head.canonicalHash)
  | none => pure (1, .zero)

section Building

variable (P : Primitives)

def BuiltOperation.validateForPersistence (built : BuiltOperation) (mutation : RecordMutationV1) :
    Except SyncError Unit := do
  let mutationBytes ← orFail (encodeRecordMutationV1 P mutation) .invalidMutation
  require (P.sha256 mutationBytes = built.sealedMutationHash) .invalidMutation
  let operationBytes ← orFail (encodeSyncOperationV1 P built.operation) .invalidEnvelope
  let operationHash := P.sha256 operationBytes
  require (operationBytes = built.canonicalBytes ∧ operationHash = built.canonicalHash ∧
    operationHash = built.sealedOperationHash) .invalidEnvelope

/-- The operation before encryption and signature. -/
def unsealedOperation (identity : SyncIdentity) (request : OperationBuildRequest)
    (frontier : List DeviceSequence) (sequence : Nat) (previousHash : Sha256Digest) :
    SyncOperationV1 where
  schemaVersion := syncSchemaVersion
  operationId := request.operationId
  accountId := identity.accountId
  workspaceId := identity.workspaceId
  projectId := request.projectId
  recordId := request.mutation.recordId
  recordKind := request.mutation.recordKind
  mutationKind := request.mutation.mutationKind
  deviceId := identity.deviceId
  deviceSequence := sequence
  causalFrontier := frontier
  controlEpoch := identity.controlEpoch
  keyEpoch := identity.keyEpoch
  previousDeviceHash := previousHash
  nonce := ⟨.zero⟩
  ciphertext := []
  ciphertextHash := .zero
  blobRefs := request.blobRefs
  createdHlc := request.createdHlc
  signature := ⟨.zero⟩

/-- Build and seal an operation. The nonce is the one the cipher draws. -/
def OperationBuilder.build (identity : SyncIdentity) (nonce : XChaChaNonce)
    (request : OperationBuildRequest) : Except SyncError BuiltOperation := do
  orFail request.mutation.validate .invalidMutation
  require (scopeMatches request.projectId request.mutation) .invalidScope
  require (request.createdHlc.node = identity.deviceId) .invalidIdentity
  let frontier := request.causalFrontier.insertionSort (fun left right => left.deviceId ≤ right.deviceId)
  validateFrontier frontier identity.deviceId none
  let (sequence, previousHash) ← expectedSuccessor request.previous
  validateFrontier frontier identity.deviceId (some sequence)
  let operation := unsealedOperation identity request frontier sequence previousHash
  orFail operation.validate .invalidEnvelope
  let aad := encodeSyncOperationAadV1 P operation
  let plaintext ← orFail (encodeRecordMutationV1 P request.mutation) .invalidMutation
  let encrypted ← present (P.encryptWithNonce identity.contentKey plaintext aad nonce) .encryptionFailed
  require (encrypted.ciphertext.length ≤ maxCiphertextBytes) .invalidEnvelope
  let operation := { operation with
    nonce := encrypted.nonce
    ciphertext := encrypted.ciphertext
    ciphertextHash := P.sha256 encrypted.ciphertext }
  let preimage ← orFail (encodeSyncOperationSigningPreimageV1 P operation) .authenticationFailed
  let operation := { operation with signature := P.sign identity.deviceKeys preimage }
  let canonicalBytes ← orFail (encodeSyncOperationV1 P operation) .invalidEnvelope
  let canonicalHash := P.sha256 canonicalBytes
  pure {
    membershipEndpoint := identity.membershipEndpoint
    operation
    canonicalBytes
    canonicalHash
    sealedMutationHash := P.sha256 plaintext
    sealedOperationHash := canonicalHash }

end Building

/-! ## Verification -/

structure TrustedOperationContext where
  certificate : DeviceCertificateV1
  expectedControlEpoch : Nat
  expectedKeyEpoch : Nat
  previous : Option OperationChainHead
  existingRecordScope : Option ScopeRef
deriving DecidableEq

def validateTrustedFields (operation : SyncOperationV1) (trusted : TrustedOperationContext) :
    Except SyncError Unit :=
  require (operation.accountId = trusted.certificate.accountId ∧
      operation.workspaceId = trusted.certificate.workspaceId ∧
      operation.deviceId = trusted.certificate.deviceId ∧
      trusted.certificate.controlEpoch ≠ 0 ∧
      trusted.certificate.controlEpoch ≤ trusted.expectedControlEpoch ∧
      operation.controlEpoch = trusted.expectedControlEpoch ∧
      operation.keyEpoch = trusted.expectedKeyEpoch ∧
      operation.createdHlc.node = operation.deviceId)
    .invalidIdentity

def validateChain (operation : SyncOperationV1) (previous : Option OperationChainHead) :
    Except SyncError Unit := do
  let expected ← expectedSuccessor previous
  require ((operation.deviceSequence, operation.previousDeviceHash) = expected) .invalidChain

def validateTombstoneScope (operation : SyncOperationV1) (trusted : TrustedOperationContext) :
    Except SyncError Unit :=
  if operation.mutationKind ≠ .tombstone then pure ()
  else do
    let existingScope ← present trusted.existingRecordScope .invalidScope
    require (scopeProject existingScope = operation.projectId) .invalidScope
    require (operation.recordKind ≠ .project ∨
      operation.projectId.any (fun projectId => projectId.uuid == operation.recordId.uuid)) .invalidScope

section Verification

variable (P : Primitives)

/-- The signature and the ciphertext digest, which need no key to check. -/
def validateSignature (operation : SyncOperationV1) (trusted : TrustedOperationContext) :
    Except SyncError Unit := do
  let preimage ← orFail (encodeSyncOperationSigningPreimageV1 P operation) .invalidEnvelope
  require (P.verifySignature trusted.certificate.signingPublicKey preimage operation.signature)
    .authenticationFailed
  require (P.sha256 operation.ciphertext = operation.ciphertextHash) .authenticationFailed

/-- Decrypt and decode the sealed mutation and compare it with the signed fields. -/
def openMutation (key : ContentKey) (operation : SyncOperationV1) :
    Except SyncError RecordMutationV1 := do
  let aad := encodeSyncOperationAadV1 P operation
  let plaintext ← present (P.decrypt key ⟨operation.nonce, operation.ciphertext⟩ aad) .decryptionFailed
  let mutation ← orFail (decodeRecordMutationV1 P plaintext) .invalidMutation
  require (operation.recordId = mutation.recordId ∧ operation.recordKind = mutation.recordKind ∧
    operation.mutationKind = mutation.mutationKind ∧ scopeMatches operation.projectId mutation)
    .invalidMutation
  pure mutation

def verifyOperationEnvelope (operation : SyncOperationV1) (trusted : TrustedOperationContext)
    (key : ContentKey) : Except SyncError RecordMutationV1 := do
  orFail operation.validate .invalidEnvelope
  validateTrustedFields operation trusted
  validateTombstoneScope operation trusted
  validateSignature P operation trusted
  validateChain operation trusted.previous
  validateFrontier operation.causalFrontier operation.deviceId (some operation.deviceSequence)
  openMutation P key operation

def verifyOperationPublicAuthenticity (operation : SyncOperationV1)
    (trusted : TrustedOperationContext) : Except SyncError Unit := do
  orFail operation.validate .invalidEnvelope
  validateTrustedFields operation trusted
  validateSignature P operation trusted

end Verification

/-- A mutation of the operation's own record and kind. -/
def IsOf (mutation : RecordMutationV1) (operation : SyncOperationV1) : Prop :=
  operation.recordId = mutation.recordId ∧ operation.recordKind = mutation.recordKind

/-- An opened mutation has the identity and scope the operation signs. -/
theorem openMutation_ok {P : Primitives} (opened : openMutation P key operation = .ok mutation) :
    operation.recordId = mutation.recordId ∧ operation.recordKind = mutation.recordKind ∧
      operation.mutationKind = mutation.mutationKind ∧
      scopeMatches operation.projectId mutation = true ∧ mutation.validate = .ok () := by
  simp only [openMutation, ok_iff] at opened
  obtain ⟨_, _, _, decoded, ⟨sameRecord, sameKind, sameMutation, inScope⟩, rfl⟩ := opened
  exact ⟨sameRecord, sameKind, sameMutation, inScope, (decodeRecordMutationV1_ok decoded).1⟩

/-! ## Causal order -/

inductive CausalOrder where
  | before
  | equal
  | after
  | concurrent
deriving DecidableEq

/-- The highest sequence of a device that an operation's author had seen. -/
def knownSequence (operation : SyncOperationV1) (device : DeviceId) : Nat :=
  ((operation.causalFrontier.filter (fun entry => entry.deviceId = device)).map
    DeviceSequence.sequence).foldl max 0

def compareOperations (left right : SyncOperationV1) : CausalOrder :=
  if left.deviceId = right.deviceId then
    if left.deviceSequence < right.deviceSequence then .before
    else if left.deviceSequence = right.deviceSequence then .equal
    else .after
  else
    match decide (right.deviceSequence ≤ knownSequence left right.deviceId),
      decide (left.deviceSequence ≤ knownSequence right left.deviceId) with
    | true, false => .after
    | false, true => .before
    | true, true => .equal
    | false, false => .concurrent

/-- The sequences a device's chain is missing before an operation, or none. -/
def missingRange (known : Option OperationChainHead) (incoming : SyncOperationV1) :
    Except SyncError (Option (Nat × Nat)) := do
  require (incoming.deviceSequence ≠ 0) .invalidChain
  let expected ← match known with
    | some head => present (checkedSucc head.sequence) .sequenceExhausted
    | none => pure 1
  require (expected ≤ incoming.deviceSequence) .sequenceConflict
  pure (if incoming.deviceSequence = expected then none
    else some (expected, incoming.deviceSequence - 1))

end ContextRelay
