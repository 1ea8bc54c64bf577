import ContextRelay.ControlRoundTrip
import ContextRelay.Library.Table

/-! The signed statements of the membership log: an addition of a device by pairing, and a
revocation with the key rotation it commits to. A statement is a fixed sequence of fields
behind a domain; each verifies against the control state it extends and yields the next one. -/
namespace ContextRelay.Membership

open Library Library.Cbor

/-- The authenticated control state: who is active at which epochs, and the recovery root. -/
structure RevocationControlState where
  scope : SyncScope
  controlEpoch : Nat
  keyEpoch : Nat
  stateSha256 : Sha256Digest
  activeDevices : Table DeviceId DeviceCertificateV1
  recoveryRootId : RecoveryRootId
  recoveryWrappingPublicKey : X25519PublicKeyBytes

def RevocationControlState.endpoint (state : RevocationControlState) : MembershipEndpoint :=
  ⟨state.stateSha256, state.controlEpoch, state.keyEpoch⟩

def maxRotationDevices : Nat := 4096
def maxRotationCiphertextBytes : Nat := 1024
def maxRotationCertificateBytes : Nat := 512
def maxRotationBytes : Nat := 8 * 1024 * 1024

/-- An identifier as its sixteen raw bytes. -/
def readRawId {kind : IdKind} : Reader CryptoError (Id kind) := do
  let bytes ← Reader.take 16 CryptoError.invalidProtocolValue
  Reader.lift (present (Id.ofBytes? bytes) .invalidProtocolValue)

/-- The row of a roster names the device of its certificate, and the certificate belongs to the
scope and to an epoch the state has reached. -/
def RosterRow (state : RevocationControlState) (row : DeviceId × DeviceCertificateV1) : Prop :=
  row.1 = row.2.deviceId ∧ row.2.accountId = state.scope.accountId ∧
    row.2.workspaceId = state.scope.workspaceId ∧ row.2.controlEpoch ≠ 0 ∧
    row.2.controlEpoch ≤ state.controlEpoch

instance (state : RevocationControlState) (row : DeviceId × DeviceCertificateV1) :
    Decidable (RosterRow state row) := by
  unfold RosterRow
  infer_instance

/-! ## Additions by pairing -/

structure DeviceMembershipAddStatementV1 where
  schemaVersion : Nat
  membershipId : OperationId
  accountId : AccountId
  workspaceId : WorkspaceId
  previousStateSha256 : Sha256Digest
  controlEpoch : Nat
  keyEpoch : Nat
  issuerDeviceId : DeviceId
  certificateId : DeviceCertificateId
  certificateSha256 : Sha256Digest
  authorizationArtifactSha256 : Sha256Digest
deriving DecidableEq

def addDomain : Bytes := utf8 "context-relay/device-membership-add/v1\x00"

namespace DeviceMembershipAddStatementV1

@[irreducible] def write (statement : DeviceMembershipAddStatementV1) : Bytes :=
  addDomain ++ (bigEndian 2 statement.schemaVersion ++ (statement.membershipId.bytes ++
    (statement.accountId.bytes ++ (statement.workspaceId.bytes ++
    (statement.previousStateSha256.bytes ++ (bigEndian 4 statement.controlEpoch ++
    (bigEndian 4 statement.keyEpoch ++ (statement.issuerDeviceId.bytes ++
    (statement.certificateId.bytes ++ (statement.certificateSha256.bytes ++
    statement.authorizationArtifactSha256.bytes))))))))))

def signingPreimage (statement : DeviceMembershipAddStatementV1) : Except CryptoError Bytes := do
  require (statement.schemaVersion = 1 ∧ statement.controlEpoch ≠ 0 ∧ statement.keyEpoch ≠ 0 ∧
    statement.previousStateSha256 ≠ .zero ∧ statement.certificateSha256 ≠ .zero ∧
    statement.authorizationArtifactSha256 ≠ .zero) .invalidProtocolValue
  pure statement.write

/-- The fields of a statement, in their order. -/
def read : Reader CryptoError DeviceMembershipAddStatementV1 := do
  let invalid := CryptoError.invalidProtocolValue
  Reader.literal addDomain invalid
  let schemaVersion ← Reader.number 2 invalid
  let membershipId ← readRawId
  let accountId ← readRawId
  let workspaceId ← readRawId
  let previousStateSha256 ← Reader.fixed 32 invalid
  let controlEpoch ← Reader.number 4 invalid
  let keyEpoch ← Reader.number 4 invalid
  let issuerDeviceId ← readRawId
  let certificateId ← readRawId
  let certificateSha256 ← Reader.fixed 32 invalid
  let authorizationArtifactSha256 ← Reader.fixed 32 invalid
  pure {
    schemaVersion, membershipId, accountId, workspaceId
    previousStateSha256 := ⟨previousStateSha256⟩
    controlEpoch, keyEpoch, issuerDeviceId, certificateId
    certificateSha256 := ⟨certificateSha256⟩
    authorizationArtifactSha256 := ⟨authorizationArtifactSha256⟩ }

def fromSigningPreimage (bytes : Bytes) : Except CryptoError DeviceMembershipAddStatementV1 := do
  require (bytes.length = addDomain.length + 186) .invalidProtocolValue
  let (statement, rest) ← read bytes
  require (rest = []) .invalidProtocolValue
  let preimage ← statement.signingPreimage
  require (preimage = bytes) .invalidProtocolValue
  pure statement

variable (P : ControlPrimitives)

/-- The statement a payload stands for. It grants no authority. -/
def fromApprovedPayloadV2 (canonical : Bytes) :
    Except CryptoError DeviceMembershipAddStatementV1 := do
  let payload ← decodePairingApprovedPayloadV2 canonical
  pure {
    schemaVersion := 1
    membershipId := payload.grant.pairingId.retype
    accountId := payload.grant.certificate.accountId
    workspaceId := payload.grant.certificate.workspaceId
    previousStateSha256 := payload.previousStateSha256
    controlEpoch := payload.grant.certificate.controlEpoch
    keyEpoch := payload.grant.keyEpoch
    issuerDeviceId := payload.issuerCertificate.deviceId
    certificateId := payload.grant.certificateId
    certificateSha256 := certificateDigest P payload.grant.certificate
    authorizationArtifactSha256 := P.sha256 canonical }

def controlStateSha256 (statement : DeviceMembershipAddStatementV1)
    (signature : Ed25519SignatureBytes) : Except CryptoError Sha256Digest := do
  let preimage ← statement.signingPreimage
  pure (P.sha256 (utf8 "context-relay/membership-control-state/v1\x00" ++
    (preimage ++ signature.bytes)))

end DeviceMembershipAddStatementV1

/-! ## Revocations -/

structure DeviceRevocationStatementV1 where
  schemaVersion : Nat
  revocationId : OperationId
  accountId : AccountId
  workspaceId : WorkspaceId
  issuerDeviceId : DeviceId
  targetDeviceId : DeviceId
  controlEpoch : Nat
  keyEpoch : Nat
  cutoffSequence : Nat
  cutoffHash : Sha256Digest
  transitionSha256 : Sha256Digest
deriving DecidableEq

def revocationDomain : Bytes := utf8 "context-relay/device-revocation/v1\x00"

namespace DeviceRevocationStatementV1

@[irreducible] def writeContext (statement : DeviceRevocationStatementV1) : Bytes :=
  revocationDomain ++ (bigEndian 2 statement.schemaVersion ++ (statement.revocationId.bytes ++
    (statement.accountId.bytes ++ (statement.workspaceId.bytes ++ (statement.issuerDeviceId.bytes ++
    (statement.targetDeviceId.bytes ++ (bigEndian 4 statement.controlEpoch ++
    (bigEndian 4 statement.keyEpoch ++ (bigEndian 8 statement.cutoffSequence ++
    statement.cutoffHash.bytes)))))))))

/-- Everything but the commitment to the transition. -/
def contextPreimage (statement : DeviceRevocationStatementV1) : Except CryptoError Bytes := do
  require (statement.schemaVersion = 1 ∧
    (1 ≤ statement.controlEpoch ∧ statement.controlEpoch < 2 ^ 32 - 1) ∧
    (1 ≤ statement.keyEpoch ∧ statement.keyEpoch < 2 ^ 32 - 1) ∧
    statement.cutoffSequence ≤ 2 ^ 63 - 1 ∧
    (statement.cutoffSequence = 0 ↔ statement.cutoffHash = .zero)) .invalidProtocolValue
  pure statement.writeContext

def signingPreimage (statement : DeviceRevocationStatementV1) : Except CryptoError Bytes := do
  require (statement.transitionSha256 ≠ .zero) .invalidProtocolValue
  let context ← statement.contextPreimage
  pure (context ++ statement.transitionSha256.bytes)

/-- The fields of a statement, in their order. -/
def read : Reader CryptoError DeviceRevocationStatementV1 := do
  let invalid := CryptoError.invalidProtocolValue
  Reader.literal revocationDomain invalid
  let schemaVersion ← Reader.number 2 invalid
  let revocationId ← readRawId
  let accountId ← readRawId
  let workspaceId ← readRawId
  let issuerDeviceId ← readRawId
  let targetDeviceId ← readRawId
  let controlEpoch ← Reader.number 4 invalid
  let keyEpoch ← Reader.number 4 invalid
  let cutoffSequence ← Reader.number 8 invalid
  let cutoffHash ← Reader.fixed 32 invalid
  let transitionSha256 ← Reader.fixed 32 invalid
  pure {
    schemaVersion, revocationId, accountId, workspaceId, issuerDeviceId, targetDeviceId
    controlEpoch, keyEpoch, cutoffSequence
    cutoffHash := ⟨cutoffHash⟩
    transitionSha256 := ⟨transitionSha256⟩ }

def fromSigningPreimage (bytes : Bytes) : Except CryptoError DeviceRevocationStatementV1 := do
  require (bytes.length = revocationDomain.length + 2 + 5 * 16 + 2 * 4 + 8 + 2 * 32)
    .invalidProtocolValue
  let (statement, rest) ← read bytes
  require (rest = []) .invalidProtocolValue
  let preimage ← statement.signingPreimage
  require (preimage = bytes) .invalidProtocolValue
  pure statement

variable (P : ControlPrimitives)

def controlStateSha256 (statement : DeviceRevocationStatementV1)
    (signature : Ed25519SignatureBytes) : Except CryptoError Sha256Digest := do
  let preimage ← statement.signingPreimage
  pure (P.sha256 (utf8 "context-relay/revocation-control-state/v1\x00" ++
    (preimage ++ signature.bytes)))

def checkIssuer (statement : DeviceRevocationStatementV1) (certificate : DeviceCertificateV1) :
    Except CryptoError Unit :=
  require (certificate.accountId = statement.accountId ∧
    certificate.workspaceId = statement.workspaceId ∧
    certificate.deviceId = statement.issuerDeviceId ∧
    certificate.controlEpoch ≠ 0 ∧ certificate.controlEpoch ≤ statement.controlEpoch)
    .authenticationFailed

def checkSigner (statement : DeviceRevocationStatementV1) (certificate : DeviceCertificateV1)
    (device : DeviceKeys) : Except CryptoError Unit := do
  statement.checkIssuer certificate
  require (certificate.signingPublicKey = P.signingPublicKey device ∧
    certificate.wrappingPublicKey = P.wrappingPublicKey device) .invalidKey

def sign (statement : DeviceRevocationStatementV1) (certificate : DeviceCertificateV1)
    (device : DeviceKeys) : Except CryptoError Ed25519SignatureBytes := do
  statement.checkSigner P certificate device
  let preimage ← statement.signingPreimage
  pure (P.sign device preimage)

def verify (statement : DeviceRevocationStatementV1) (certificate : DeviceCertificateV1)
    (signature : Ed25519SignatureBytes) : Except CryptoError Unit := do
  let preimage ← statement.signingPreimage
  statement.checkIssuer certificate
  verifySignature P certificate.signingPublicKey preimage signature

end DeviceRevocationStatementV1

/-! ## Key rotations -/

structure DeviceRotationEnvelopeV1 where
  certificate : DeviceCertificateV1
  envelope : WrappedKeyEnvelope
deriving DecidableEq

/-- The encrypted rotation a revocation commits to: new keys for every remaining device and for
the recovery root. -/
structure RevocationTransitionV1 where
  previousStateSha256 : Sha256Digest
  controlEpoch : Nat
  keyEpoch : Nat
  keyMaterialSha256 : Sha256Digest
  devices : List DeviceRotationEnvelopeV1
  recoveryRootId : RecoveryRootId
  recoveryWrappingPublicKey : X25519PublicKeyBytes
  recoveryEnvelope : WrappedKeyEnvelope
deriving DecidableEq

/-- Authenticated public control state after one revocation. -/
structure VerifiedRevocationControl where
  statement : DeviceRevocationStatementV1
  stateSha256 : Sha256Digest
  activeDevices : Table DeviceId DeviceCertificateV1
  recoveryRootId : RecoveryRootId
  recoveryWrappingPublicKey : X25519PublicKeyBytes

def VerifiedRevocationControl.state (control : VerifiedRevocationControl) :
    RevocationControlState where
  scope := ⟨control.statement.accountId, control.statement.workspaceId⟩
  controlEpoch := control.statement.controlEpoch + 1
  keyEpoch := control.statement.keyEpoch + 1
  stateSha256 := control.stateSha256
  activeDevices := control.activeDevices
  recoveryRootId := control.recoveryRootId
  recoveryWrappingPublicKey := control.recoveryWrappingPublicKey

def rotationDomain : Bytes := utf8 "context-relay/device-revocation-transition/v1\x00"

@[irreducible] def writeRotationEnvelope (envelope : WrappedKeyEnvelope) : Bytes :=
  envelope.ephemeralPublicKey.bytes ++ (envelope.nonce.bytes ++
    (bigEndian 4 envelope.ciphertext.length ++ envelope.ciphertext))

@[irreducible] def writeRotationDevice (recipient : DeviceRotationEnvelopeV1) : Bytes :=
  bigEndian 4 (encodeCertificateV1 recipient.certificate).length ++
    (encodeCertificateV1 recipient.certificate ++ writeRotationEnvelope recipient.envelope)

def readSized (maximum : Nat) : Reader CryptoError Bytes := do
  let size ← Reader.number 4 CryptoError.invalidProtocolValue
  Reader.lift (require (size ≤ maximum) .invalidProtocolValue)
  Reader.take size .invalidProtocolValue

def readRotationEnvelope : Reader CryptoError WrappedKeyEnvelope := do
  let ephemeralPublicKey ← Reader.fixed 32 CryptoError.invalidProtocolValue
  let nonce ← Reader.fixed 24 .invalidProtocolValue
  let ciphertext ← readSized maxRotationCiphertextBytes
  Reader.lift (require (16 ≤ ciphertext.length) .invalidProtocolValue)
  pure ⟨⟨ephemeralPublicKey⟩, ⟨nonce⟩, ciphertext⟩

def readRotationDevice : Reader CryptoError DeviceRotationEnvelopeV1 := do
  let certificateBytes ← readSized maxRotationCertificateBytes
  let (certificate, rest) ←
    Reader.lift (decodeCertificateV1 CryptoError.invalidProtocolValue certificateBytes)
  Reader.lift (require (rest = []) .invalidProtocolValue)
  let envelope ← readRotationEnvelope
  pure ⟨certificate, envelope⟩

namespace RevocationTransitionV1

variable (P : ControlPrimitives)

@[irreducible] def write (transition : RevocationTransitionV1) : Bytes :=
  rotationDomain ++ (transition.previousStateSha256.bytes ++
    (bigEndian 4 transition.controlEpoch ++ (bigEndian 4 transition.keyEpoch ++
    (transition.keyMaterialSha256.bytes ++ (bigEndian 4 transition.devices.length ++
    (transition.devices.flatMap writeRotationDevice ++ (transition.recoveryRootId.bytes ++
    (transition.recoveryWrappingPublicKey.bytes ++
    writeRotationEnvelope transition.recoveryEnvelope))))))))

/-- The check `append_rotation_envelope` makes before it writes. -/
def checkRotationEnvelope (envelope : WrappedKeyEnvelope) : Except CryptoError Unit := do
  require (16 ≤ envelope.ciphertext.length ∧
    envelope.ciphertext.length ≤ maxRotationCiphertextBytes) .invalidProtocolValue
  validateX25519PublicKey P envelope.ephemeralPublicKey

def canonicalBytes (transition : RevocationTransitionV1) : Except CryptoError Bytes := do
  require (transition.previousStateSha256 ≠ .zero ∧ transition.keyMaterialSha256 ≠ .zero ∧
    2 ≤ transition.controlEpoch ∧ 2 ≤ transition.keyEpoch ∧
    transition.devices.length ≤ maxRotationDevices ∧
    (transition.devices.map fun recipient => recipient.certificate.deviceId).IsChain (· < ·))
    .invalidProtocolValue
  validateX25519PublicKey P transition.recoveryWrappingPublicKey
  transition.devices.forM fun recipient => checkRotationEnvelope P recipient.envelope
  checkRotationEnvelope P transition.recoveryEnvelope
  pure transition.write

def read : Reader CryptoError RevocationTransitionV1 := do
  let invalid := CryptoError.invalidProtocolValue
  Reader.literal rotationDomain invalid
  let previousStateSha256 ← Reader.fixed 32 invalid
  let controlEpoch ← Reader.number 4 invalid
  let keyEpoch ← Reader.number 4 invalid
  let keyMaterialSha256 ← Reader.fixed 32 invalid
  let count ← Reader.number 4 invalid
  Reader.lift (require (count ≤ maxRotationDevices) invalid)
  let devices ← Reader.repeated readRotationDevice count
  let recoveryRootId ← readRawId
  let recoveryWrappingPublicKey ← Reader.fixed 32 invalid
  let recoveryEnvelope ← readRotationEnvelope
  pure {
    previousStateSha256 := ⟨previousStateSha256⟩
    controlEpoch, keyEpoch
    keyMaterialSha256 := ⟨keyMaterialSha256⟩
    devices, recoveryRootId
    recoveryWrappingPublicKey := ⟨recoveryWrappingPublicKey⟩
    recoveryEnvelope }

def fromCanonicalBytes (bytes : Bytes) : Except CryptoError RevocationTransitionV1 := do
  require (bytes.length ≤ maxRotationBytes) .invalidProtocolValue
  let (transition, rest) ← read bytes
  require (rest = []) .invalidProtocolValue
  let canonical ← transition.canonicalBytes P
  require (canonical = bytes) .invalidProtocolValue
  pure transition

def digest (transition : RevocationTransitionV1) : Except CryptoError Sha256Digest := do
  let canonical ← transition.canonicalBytes P
  pure (P.sha256 canonical)

/-- The certificates of the active devices that a revocation leaves, by device. -/
def remaining (statement : DeviceRevocationStatementV1) (current : RevocationControlState) :
    List DeviceCertificateV1 :=
  current.activeDevices.values.filter fun certificate =>
    decide (certificate.deviceId ≠ statement.targetDeviceId)

/-- The roster is small enough to rotate. -/
def RosterWithinLimit (current : RevocationControlState) : Prop :=
  current.activeDevices.size ≤ maxRotationDevices

instance (current : RevocationControlState) : Decidable (RosterWithinLimit current) :=
  inferInstanceAs (Decidable (current.activeDevices.size ≤ maxRotationDevices))

def verify (transition : RevocationTransitionV1) (statement : DeviceRevocationStatementV1)
    (signature : Ed25519SignatureBytes) (current : RevocationControlState) :
    Except CryptoError Unit := do
  let issuer ← present (current.activeDevices.find? statement.issuerDeviceId) .authenticationFailed
  statement.verify P issuer signature
  require (statement.accountId = current.scope.accountId ∧
    statement.workspaceId = current.scope.workspaceId ∧
    statement.controlEpoch = current.controlEpoch ∧ statement.keyEpoch = current.keyEpoch ∧
    transition.previousStateSha256 = current.stateSha256 ∧
    (current.controlEpoch + 1 < 2 ^ 32 ∧ current.controlEpoch + 1 = transition.controlEpoch) ∧
    (current.keyEpoch + 1 < 2 ^ 32 ∧ current.keyEpoch + 1 = transition.keyEpoch) ∧
    transition.recoveryRootId = current.recoveryRootId ∧
    transition.recoveryWrappingPublicKey = current.recoveryWrappingPublicKey ∧
    RosterWithinLimit current ∧
    (current.activeDevices.find? statement.targetDeviceId).isSome ∧
    transition.devices.length + 1 = current.activeDevices.size) .authenticationFailed
  require (∀ row ∈ current.activeDevices.rows, RosterRow current row) .authenticationFailed
  require (∀ pair ∈ transition.devices.zip (remaining statement current),
    pair.1.certificate = pair.2) .authenticationFailed
  let digest ← transition.digest P
  require (digest = statement.transitionSha256) .authenticationFailed

def verifyAndAdvance (transition : RevocationTransitionV1) (statement : DeviceRevocationStatementV1)
    (signature : Ed25519SignatureBytes) (current : RevocationControlState) :
    Except CryptoError VerifiedRevocationControl := do
  transition.verify P statement signature current
  let stateSha256 ← statement.controlStateSha256 P signature
  pure {
    statement, stateSha256
    activeDevices := Table.ofValues (fun certificate => certificate.deviceId)
      (transition.devices.map fun entry => entry.certificate)
    recoveryRootId := transition.recoveryRootId
    recoveryWrappingPublicKey := transition.recoveryWrappingPublicKey }

def deviceMaterialDomain : Bytes := utf8 "context-relay/revocation-device-material/v1\x00"
def recoveryMaterialDomain : Bytes := utf8 "context-relay/revocation-recovery-material/v1\x00"

/-- What sealing the new keys authenticates: the statement without its commitment, the state it
extends, the commitment to the plaintext and the recipient. -/
def rotationMaterialAad (statement : DeviceRevocationStatementV1)
    (previous commitment : Sha256Digest) (domain recipientId recipientBinding : Bytes) :
    Except CryptoError Bytes := do
  let context ← statement.contextPreimage
  pure (domain ++ context ++ previous.bytes ++ commitment.bytes ++ recipientId ++ recipientBinding)

/-- Seal new keys for every remaining device and the recovery root, and sign the revocation.
The new keys and what each sealing draws come from the random generator. -/
def build (newKeys : Except CryptoError (Fixed 32 × Fixed 32)) (draw : DeviceId → Nat)
    (recoveryDraw : Nat) (statement : DeviceRevocationStatementV1) (device : DeviceKeys)
    (current : RevocationControlState) :
    Except CryptoError
      (DeviceRevocationStatementV1 × RevocationTransitionV1 × Ed25519SignatureBytes) := do
  let _ ← statement.contextPreimage
  let issuer ← present (current.activeDevices.find? statement.issuerDeviceId) .authenticationFailed
  statement.checkSigner P issuer device
  require (RosterWithinLimit current ∧ statement.accountId = current.scope.accountId ∧
    statement.workspaceId = current.scope.workspaceId ∧
    statement.controlEpoch = current.controlEpoch ∧ statement.keyEpoch = current.keyEpoch ∧
    (current.activeDevices.find? statement.targetDeviceId).isSome ∧
    current.stateSha256 ≠ .zero) .authenticationFailed
  let (rootKey, epochKey) ← newKeys
  let material ← PairingKeyBundle.new current.scope (current.controlEpoch + 1)
    (current.keyEpoch + 1) rootKey epochKey
  let plaintext := encodePairingKeyBundle material
  let commitment := P.sha256 plaintext
  let devices ← collect (fun certificate : DeviceCertificateV1 => do
    let aad ← rotationMaterialAad statement current.stateSha256 commitment deviceMaterialDomain
      certificate.deviceId.bytes (certificateDigest P certificate).bytes
    let envelope ← P.wrapSecret (draw certificate.deviceId) certificate.wrappingPublicKey
      plaintext aad
    pure ⟨certificate, envelope⟩) (remaining statement current)
  let aad ← rotationMaterialAad statement current.stateSha256 commitment recoveryMaterialDomain
    current.recoveryRootId.bytes current.recoveryWrappingPublicKey.bytes
  let recoveryEnvelope ← P.wrapSecret recoveryDraw current.recoveryWrappingPublicKey plaintext aad
  let transition : RevocationTransitionV1 := {
    previousStateSha256 := current.stateSha256
    controlEpoch := material.controlEpoch
    keyEpoch := material.keyEpoch
    keyMaterialSha256 := commitment
    devices
    recoveryRootId := current.recoveryRootId
    recoveryWrappingPublicKey := current.recoveryWrappingPublicKey
    recoveryEnvelope }
  let digest ← transition.digest P
  let statement := { statement with transitionSha256 := digest }
  let signature ← statement.sign P issuer device
  transition.verify P statement signature current
  pure (statement, transition, signature)

end RevocationTransitionV1

/-! ## Checking a pairing approval -/

/-- The authenticated parent of a pairing: its state, the issuer's certificate id, the
enrollment pin and the latest rotation. -/
structure PairingParentV2 where
  state : RevocationControlState
  issuerCertificateId : DeviceCertificateId
  enrollmentRecordSha256 : Sha256Digest
  latestRotation : Option (VerifiedRevocationControl × RevocationTransitionV1)

section
variable (P : ControlPrimitives)

def validateRequestBindingsV2 (payload : PairingApprovedPayloadV2) (request : SignedPairingRequest) :
    Except CryptoError Unit := do
  requireExactSignedRequest P request
  let r := request.request
  let child := payload.grant.certificate
  let issuer := payload.issuerCertificate
  require (payload.issuerCertificateId ≠ payload.grant.certificateId ∧
    issuer.deviceId ≠ child.deviceId ∧ payload.grant.pairingId = r.pairingId ∧
    payload.grant.requestDigest = request.digest ∧ child.requestNonce = r.requestNonce ∧
    child.deviceId = r.deviceId ∧ child.signingPublicKey = r.signingPublicKey ∧
    child.wrappingPublicKey = r.wrappingPublicKey ∧ issuer.accountId = child.accountId ∧
    issuer.workspaceId = child.workspaceId ∧ issuer.controlEpoch ≠ 0 ∧
    issuer.controlEpoch ≤ child.controlEpoch) .authenticationFailed
  validateX25519PublicKey P issuer.wrappingPublicKey
  verifyIssuedBy P child (.device issuer.deviceId issuer.signingPublicKey)

def inspectPairingApprovalV2 (payloadBytes : Bytes) (request : SignedPairingRequest)
    (parent : PairingParentV2) : Except CryptoError PairingApprovedPayloadV2 := do
  let payload ← decodePairingApprovedPayloadV2 payloadBytes
  validateRequestBindingsV2 P payload request
  let s := parent.state
  let issuer := payload.issuerCertificate
  let child := payload.grant.certificate
  require (s.controlEpoch ≠ 0 ∧ s.keyEpoch ≠ 0 ∧ s.stateSha256 ≠ .zero ∧
    s.activeDevices.size ≠ 0 ∧ s.activeDevices.size < 4096 ∧
    payload.previousStateSha256 = s.stateSha256 ∧
    payload.enrollmentRecordSha256 = parent.enrollmentRecordSha256 ∧
    payload.issuerCertificateId = parent.issuerCertificateId ∧
    s.activeDevices.find? issuer.deviceId = some issuer ∧
    s.activeDevices.find? child.deviceId = none ∧
    child.accountId = s.scope.accountId ∧ child.workspaceId = s.scope.workspaceId ∧
    child.controlEpoch = s.controlEpoch ∧ payload.grant.keyEpoch = s.keyEpoch)
    .authenticationFailed
  s.activeDevices.rows.forM fun row => do
    require (RosterRow s row) .authenticationFailed
    validateEd25519PublicKey P row.2.signingPublicKey
    validateX25519PublicKey P row.2.wrappingPublicKey
  pure payload

/-- An addition that was checked against its parent, with the state it leads to. -/
structure VerifiedMembershipControl where
  statement : DeviceMembershipAddStatementV1
  state : RevocationControlState

def DeviceMembershipAddStatementV1.verifyAndAdvance (statement : DeviceMembershipAddStatementV1)
    (signature : Ed25519SignatureBytes) (request : SignedPairingRequest) (canonicalPayload : Bytes)
    (parent : PairingParentV2) : Except CryptoError VerifiedMembershipControl := do
  let preimage ← statement.signingPreimage
  let payload ← inspectPairingApprovalV2 P canonicalPayload request parent
  let s := parent.state
  require (statement.accountId = s.scope.accountId ∧ statement.workspaceId = s.scope.workspaceId ∧
    statement.previousStateSha256 = s.stateSha256 ∧ statement.controlEpoch = s.controlEpoch ∧
    statement.keyEpoch = s.keyEpoch ∧
    statement.issuerDeviceId = payload.issuerCertificate.deviceId ∧
    statement.membershipId = payload.grant.pairingId.retype ∧
    statement.certificateId = payload.grant.certificateId ∧
    statement.certificateSha256 = certificateDigest P payload.grant.certificate ∧
    statement.authorizationArtifactSha256 = P.sha256 canonicalPayload) .authenticationFailed
  verifySignature P payload.issuerCertificate.signingPublicKey preimage signature
  let stateSha256 ← statement.controlStateSha256 P signature
  pure ⟨statement, { s with
    stateSha256
    activeDevices :=
      s.activeDevices.upsert payload.grant.certificate.deviceId payload.grant.certificate }⟩

end

/-! ## The state an enrollment starts from -/

section
variable (P : ControlPrimitives)

/-- One pass over the roster: a certificate is authenticated by the recovery root's key or by a
device that already is. -/
def authenticatePass (rootKey : Ed25519PublicKeyBytes) (roster : Table DeviceId DeviceCertificateV1)
    (authenticated : List DeviceId) : Except CryptoError (List DeviceId) :=
  thread (fun authenticated (row : DeviceId × DeviceCertificateV1) =>
    if row.1 ∈ authenticated then .ok authenticated
    else
      let anchored : Bool := match row.2.issuer with
        | .recoveryRoot signingPublicKey => decide (signingPublicKey = rootKey)
        | .device deviceId signingPublicKey => decide (deviceId ∈ authenticated) &&
          (roster.find? deviceId).any fun issuer => decide (issuer.signingPublicKey = signingPublicKey)
      if anchored then do
        verifyIssuedBy P row.2 row.2.issuer
        pure (row.1 :: authenticated)
      else .ok authenticated) authenticated roster.rows

/-- Passes until all are authenticated. Every pass but a failing one authenticates a device, so
as many passes as the roster has devices are enough. -/
def authenticateRoster (rootKey : Ed25519PublicKeyBytes)
    (roster : Table DeviceId DeviceCertificateV1) : Nat → List DeviceId → Except CryptoError Unit
  | 0, _ => .error .authenticationFailed
  | passes + 1, authenticated => do
    let now ← authenticatePass P rootKey roster authenticated
    if now.length = roster.size then pure ()
    else do
      require (now.length ≠ authenticated.length) .authenticationFailed
      authenticateRoster rootKey roster passes now

@[irreducible] def anchorPreimage (pin : Sha256Digest) (roster : Table DeviceId DeviceCertificateV1) :
    Bytes :=
  utf8 "context-relay/revocation-anchor/v1\x00" ++ (pin.bytes ++ (bigEndian 4 roster.size ++
    roster.rows.flatMap fun row => row.1.bytes ++ (certificateDigest P row.2).bytes))

def initialRevocationControlState (record : RecoveryEnrollmentRecordV1)
    (pinnedRecordSha256 : Sha256Digest) (scope : SyncScope)
    (activeDevices : Table DeviceId DeviceCertificateV1) :
    Except CryptoError RevocationControlState := do
  require (activeDevices.size ≠ 0 ∧ activeDevices.size ≤ maxRotationDevices ∧
    record.accountId = scope.accountId ∧ record.workspaceId = scope.workspaceId ∧
    activeDevices.find? record.genesisCertificate.deviceId = some record.genesisCertificate)
    .authenticationFailed
  let canonical ← orFail (encodeRecoveryEnrollmentRecordV1 P record) .authenticationFailed
  require (P.sha256 canonical = pinnedRecordSha256) .authenticationFailed
  activeDevices.rows.forM fun row => do
    require (row.1 = row.2.deviceId ∧ row.2.accountId = scope.accountId ∧
      row.2.workspaceId = scope.workspaceId ∧ row.2.controlEpoch = 1) .authenticationFailed
    validateEd25519PublicKey P row.2.signingPublicKey
    validateX25519PublicKey P row.2.wrappingPublicKey
  authenticateRoster P record.recoverySigningPublicKey activeDevices activeDevices.size []
  pure {
    scope
    controlEpoch := 1
    keyEpoch := 1
    stateSha256 := P.sha256 (anchorPreimage P pinnedRecordSha256 activeDevices)
    activeDevices
    recoveryRootId := record.recoveryRootId
    recoveryWrappingPublicKey := record.recoveryWrappingPublicKey }

end

end ContextRelay.Membership
