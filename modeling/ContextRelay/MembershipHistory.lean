import ContextRelay.ControlStatements

/-! The membership history: the replay of a log of additions and revocations from the enrollment
of the workspace to an endpoint the caller trusts. The replay accounts for all input before it
decodes any of it, checks each event against the state before it, and shows every state it
reaches to a visitor. -/
namespace ContextRelay.Membership

open Library Library.Cbor

/-- The evidence of one change of the membership, in the order of the log. -/
inductive MembershipHistoryEvent where
  | recoveryAdd (canonicalClaim : Bytes)
  | pairingAdd (statement : Bytes) (signature : Ed25519SignatureBytes)
      (request : SignedPairingRequest) (approvedPayload : Bytes)
  | revocation (statement : Bytes) (signature : Ed25519SignatureBytes) (transition : Bytes)
deriving DecidableEq

structure MembershipHistoryBudget where
  maxEvents : Nat
  maxBytes : Nat
deriving DecidableEq

/-- What the replay of a history has established. -/
structure VerifiedMembershipHistory where
  state : RevocationControlState
  enrollmentRecordSha256 : Sha256Digest
  admissions : Table DeviceId DeviceCertificateId
  certificates : Finset DeviceCertificateId
  operations : Finset OperationId
  latestRotation : Option (VerifiedRevocationControl × RevocationTransitionV1 × RevocationControlState)

namespace VerifiedMembershipHistory

def endpoint (history : VerifiedMembershipHistory) : MembershipEndpoint := history.state.endpoint

def currentRotatedKeyCommitment (history : VerifiedMembershipHistory) : Option Sha256Digest :=
  history.latestRotation.map fun rotation => rotation.2.1.keyMaterialSha256

/-- Neither the operation, the device nor the certificate was seen before. -/
def ensureNewAdmission (history : VerifiedMembershipHistory) (operation : OperationId)
    (device : DeviceId) (certificate : DeviceCertificateId) : Except CryptoError Unit :=
  require (operation ∉ history.operations ∧ history.admissions.find? device = none ∧
    certificate ∉ history.certificates) .authenticationFailed

def pairingParent (history : VerifiedMembershipHistory) (issuer : DeviceId) :
    Except CryptoError PairingParentV2 := do
  require ((history.state.activeDevices.find? issuer).isSome) .authenticationFailed
  let issuerCertificateId ← present (history.admissions.find? issuer) .authenticationFailed
  pure {
    state := history.state
    issuerCertificateId
    enrollmentRecordSha256 := history.enrollmentRecordSha256
    latestRotation := history.latestRotation.map fun rotation => (rotation.1, rotation.2.1) }

end VerifiedMembershipHistory

/-- The sizes of the byte strings an event carries. -/
def MembershipHistoryEvent.sizes : MembershipHistoryEvent → List Nat
  | .recoveryAdd canonicalClaim => [canonicalClaim.length, 0, 0, 0]
  | .pairingAdd statement _ request approvedPayload =>
    [statement.length, 64, request.canonicalBytes.length, approvedPayload.length]
  | .revocation statement _ transition => [statement.length, 64, transition.length, 0]

/-- Take sizes from what remains of a budget. -/
def spend : Nat → List Nat → Option Nat
  | remaining, [] => some remaining
  | remaining, size :: sizes => if size ≤ remaining then spend (remaining - size) sizes else none

section
variable (P : ControlPrimitives)

/-! ## Additions by recovery -/

def recoveryMembershipSuccessor (claim : RecoveryDeviceClaimV2) :
    Except RecoveryRestoreCryptoError Sha256Digest := do
  let canonical ← encodeRecoveryDeviceClaimV2 P claim
  pure (P.sha256 (utf8 "context-relay/recovery-membership-add/v1\x00" ++ canonical))

/-- The identifiers that a claim and its enrollment use, each of which must be another one. -/
def claimIdentifiers (record : RecoveryEnrollmentRecordV1) (claim : RecoveryDeviceClaimV2) :
    List Nat :=
  [claim.restoreId.uuid, claim.certificateId.uuid, claim.certificate.deviceId.uuid,
    record.enrollmentId.uuid, record.recoveryRootId.uuid, record.genesisCertificateId.uuid,
    record.genesisCertificate.deviceId.uuid]

def verifyRecoveryDeviceClaimV2 (record : RecoveryEnrollmentRecordV1)
    (claim : RecoveryDeviceClaimV2) (parent : VerifiedMembershipHistory) :
    Except RecoveryRestoreCryptoError Unit := do
  validateClaimShape P claim
  let canonical ← orFail (encodeRecoveryEnrollmentRecordV1 P record) .invalidRecovery
  let pin := P.sha256 canonical
  let state := parent.state
  require (claim.enrollmentId = record.enrollmentId ∧
    claim.recoveryRootId = record.recoveryRootId ∧ claim.accountId = record.accountId ∧
    claim.workspaceId = record.workspaceId ∧ state.scope.accountId = record.accountId ∧
    state.scope.workspaceId = record.workspaceId ∧
    state.recoveryRootId = record.recoveryRootId ∧
    state.recoveryWrappingPublicKey = record.recoveryWrappingPublicKey ∧
    parent.enrollmentRecordSha256 = pin ∧ claim.canonicalRecordSha256 = pin ∧
    claim.certificate.issuer = .recoveryRoot record.recoverySigningPublicKey ∧
    claim.previousStateSha256 = parent.endpoint.stateSha256 ∧
    claim.certificate.controlEpoch = state.controlEpoch ∧ claim.keyEpoch = state.keyEpoch)
    .invalidRecovery
  require (claimIdentifiers record claim).Nodup .invalidRecovery
  orFail (parent.ensureNewAdmission claim.restoreId.retype claim.certificate.deviceId
    claim.certificateId) .invalidRecovery

/-! ## Replay -/

/-- The history of an enrollment before any event: one device, issued by the recovery root. -/
def genesisHistory (record : RecoveryEnrollmentRecordV1) (pin : Sha256Digest) (scope : SyncScope) :
    Except CryptoError VerifiedMembershipHistory := do
  let genesis := Table.empty.upsert record.genesisCertificate.deviceId record.genesisCertificate
  let initial ← initialRevocationControlState P record pin scope genesis
  pure {
    state := initial
    enrollmentRecordSha256 := pin
    admissions := Table.empty.upsert record.genesisCertificate.deviceId record.genesisCertificateId
    certificates := {record.genesisCertificateId}
    operations := ∅
    latestRotation := none }

/-- The history with one more event. -/
def advance (record : RecoveryEnrollmentRecordV1) (history : VerifiedMembershipHistory) :
    MembershipHistoryEvent → Except CryptoError VerifiedMembershipHistory
  | .recoveryAdd canonicalClaim => do
    let claim ← orFail (decodeRecoveryDeviceClaimV2 P canonicalClaim) .authenticationFailed
    orFail (verifyRecoveryDeviceClaimV2 P record claim history) .authenticationFailed
    let stateSha256 ← orFail (recoveryMembershipSuccessor P claim) .authenticationFailed
    pure { history with
      operations := insert claim.restoreId.retype history.operations
      certificates := insert claim.certificateId history.certificates
      admissions := history.admissions.upsert claim.certificate.deviceId claim.certificateId
      state := { history.state with
        stateSha256
        activeDevices :=
          history.state.activeDevices.upsert claim.certificate.deviceId claim.certificate } }
  | .pairingAdd statement signature request approvedPayload => do
    let s ← DeviceMembershipAddStatementV1.fromSigningPreimage statement
    let payload ← decodePairingApprovedPayloadV2 approvedPayload
    history.ensureNewAdmission s.membershipId payload.grant.certificate.deviceId s.certificateId
    let parent ← history.pairingParent s.issuerDeviceId
    let next ← s.verifyAndAdvance P signature request approvedPayload parent
    pure { history with
      operations := insert s.membershipId history.operations
      certificates := insert s.certificateId history.certificates
      admissions :=
        history.admissions.upsert payload.grant.certificate.deviceId s.certificateId
      state := next.state }
  | .revocation statement signature transition => do
    let s ← DeviceRevocationStatementV1.fromSigningPreimage statement
    require (s.revocationId ∉ history.operations) .authenticationFailed
    let t ← RevocationTransitionV1.fromCanonicalBytes P transition
    let next ← t.verifyAndAdvance P s signature history.state
    pure { history with
      operations := insert s.revocationId history.operations
      state := next.state
      latestRotation := some (next, t, history.state) }

/-- Replay a log from its enrollment to the endpoint, with a visitor that keeps notes. -/
def replayMembershipHistory (canonicalEnrollment : Bytes) (independentEnrollmentPin : Sha256Digest)
    (scope : SyncScope) (events : List MembershipHistoryEvent)
    (independentEndpoint : MembershipEndpoint) (budget : MembershipHistoryBudget)
    (visit : ν → VerifiedMembershipHistory → Option MembershipHistoryEvent → Except CryptoError ν)
    (notes : ν) : Except CryptoError (VerifiedMembershipHistory × ν) := do
  require (events.length ≤ budget.maxEvents) .invalidProtocolValue
  let remaining ← present (spend budget.maxBytes [canonicalEnrollment.length]) .invalidProtocolValue
  let _ ← present (spend remaining (events.flatMap (·.sizes))) .invalidProtocolValue
  require (independentEnrollmentPin ≠ .zero ∧
    P.sha256 canonicalEnrollment = independentEnrollmentPin) .authenticationFailed
  let record ← orFail (decodeRecoveryEnrollmentRecordV1 P canonicalEnrollment) .authenticationFailed
  let history ← genesisHistory P record independentEnrollmentPin scope
  let notes ← visit notes history none
  let (history, notes) ← thread (noting (advance P record) fun notes history event =>
    visit notes history (some event)) (history, notes) events
  require (history.endpoint = independentEndpoint) .authenticationFailed
  pure (history, notes)

def verifyMembershipHistory (canonicalEnrollment : Bytes) (independentEnrollmentPin : Sha256Digest)
    (scope : SyncScope) (events : List MembershipHistoryEvent)
    (independentEndpoint : MembershipEndpoint) (budget : MembershipHistoryBudget) :
    Except CryptoError VerifiedMembershipHistory := do
  let (history, _) ← replayMembershipHistory P canonicalEnrollment independentEnrollmentPin scope
    events independentEndpoint budget (fun _ _ _ => pure ()) ()
  pure history

/-- The commitment of one verified rotation to the keys it distributes. -/
structure VerifiedRotatedKeyCommitment where
  controlEpoch : Nat
  keyEpoch : Nat
  keyMaterialSha256 : Sha256Digest
deriving DecidableEq

structure VerifiedMembershipLineage where
  history : VerifiedMembershipHistory
  anchor : MembershipEndpoint
  rotatedKeyCommitments : List VerifiedRotatedKeyCommitment

/-- What the lineage visitor has seen: whether the anchor occurred, and the rotations. -/
structure LineageNotes where
  anchorSeen : Bool
  rotatedKeyCommitments : List VerifiedRotatedKeyCommitment

/-- The commitment of the history's latest rotation, for an event that is a revocation. -/
def rotationOf (history : VerifiedMembershipHistory) :
    Option MembershipHistoryEvent → List VerifiedRotatedKeyCommitment
  | some (.revocation _ _ _) => history.latestRotation.toList.map fun rotation =>
    ⟨rotation.2.1.controlEpoch, rotation.2.1.keyEpoch, rotation.2.1.keyMaterialSha256⟩
  | _ => []

def lineageVisit (anchor : MembershipEndpoint) (notes : LineageNotes)
    (history : VerifiedMembershipHistory) (event : Option MembershipHistoryEvent) :
    Except CryptoError LineageNotes :=
  .ok ⟨notes.anchorSeen || decide (history.endpoint = anchor),
    notes.rotatedKeyCommitments ++ rotationOf history event⟩

/-- An anchor on the path from the enrollment to the endpoint. -/
def verifyMembershipLineage (canonicalEnrollment : Bytes) (independentEnrollmentPin : Sha256Digest)
    (scope : SyncScope) (events : List MembershipHistoryEvent)
    (independentAnchor independentEndpoint : MembershipEndpoint)
    (budget : MembershipHistoryBudget) : Except CryptoError VerifiedMembershipLineage := do
  let (history, notes) ← replayMembershipHistory P canonicalEnrollment independentEnrollmentPin
    scope events independentEndpoint budget (lineageVisit independentAnchor) ⟨false, []⟩
  require (notes.anchorSeen = true) .authenticationFailed
  pure ⟨history, independentAnchor, notes.rotatedKeyCommitments⟩

end

end ContextRelay.Membership
