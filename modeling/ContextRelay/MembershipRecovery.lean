import ContextRelay.MembershipStaging

/-! How a device comes back through the recovery root. Its preparation is kept until the provider
has published the admission: the enrollment record, the claim, the events before it, and the keys
of earlier epochs, each sealed and signed by the device. Accepting the admission writes the whole
log at once and keeps the keys that the claim seals; the keys of earlier epochs are kept later, when
a history is reconstructed. -/
namespace ContextRelay.Membership

open Library Library.Cbor

def recoveryV2Invalid : VaultError := .validation "recovery_v2_invalid"

section
variable (P : ControlPrimitives)

/-! ## Keys sealed in a claim -/

def recoveredDeviceMaterialAad (claim : RecoveryDeviceClaimV2) : Bytes :=
  utf8 "context-relay/recovered-device-material/v2\x00" ++ claim.restoreId.bytes ++
    claim.enrollmentId.bytes ++ claim.recoveryRootId.bytes ++ claim.accountId.bytes ++
    claim.workspaceId.bytes ++ claim.canonicalRecordSha256.bytes ++
    bigEndian 8 claim.expectedRecoveryGeneration ++ claim.certificateId.bytes ++
    (certificateDigest P claim.certificate).bytes ++
    bigEndian 4 claim.certificate.controlEpoch ++ bigEndian 4 claim.keyEpoch ++
    claim.certificate.deviceId.bytes ++ claim.certificate.signingPublicKey.bytes ++
    claim.certificate.wrappingPublicKey.bytes ++ claim.previousStateSha256.bytes

/-- The recipient of a claim is the device whose keys these are. -/
def requireRecipient (claim : RecoveryDeviceClaimV2) (keys : DeviceKeys) :
    Except RecoveryRestoreCryptoError Unit :=
  require (P.signingPublicKey keys = claim.certificate.signingPublicKey ∧
    P.wrappingPublicKey keys = claim.certificate.wrappingPublicKey) .invalidRecovery

/-- The keys that a claim seals, as they were sealed. -/
def openClaimMaterial (record : RecoveryEnrollmentRecordV1) (claim : RecoveryDeviceClaimV2)
    (parent : VerifiedMembershipHistory) (keys : DeviceKeys) :
    Except RecoveryRestoreCryptoError PairingKeyBundle := do
  verifyRecoveryDeviceClaimV2 P record claim parent
  requireRecipient P claim keys
  let plaintext ← orFail (P.unwrapSecret keys claim.deviceMaterialEnvelope
    (recoveredDeviceMaterialAad P claim)) .invalidRecovery
  let material ← orFail (decodePairingKeyBundle plaintext) .invalidRecovery
  require (material.accountId = claim.accountId ∧ material.workspaceId = claim.workspaceId ∧
    material.controlEpoch = claim.certificate.controlEpoch ∧ material.keyEpoch = claim.keyEpoch ∧
    ∀ commitment ∈ parent.currentRotatedKeyCommitment, commitment = P.sha256 plaintext)
    .invalidRecovery
  pure material

def openRecoveredDeviceMaterialV2 (record : RecoveryEnrollmentRecordV1)
    (claim : RecoveryDeviceClaimV2) (parent : VerifiedMembershipHistory) (keys : DeviceKeys) :
    Except RecoveryRestoreCryptoError PairingKeyBundle := do
  let material ← openClaimMaterial P record claim parent keys
  orFail (material.withEnrollmentRecordSha256 claim.canonicalRecordSha256) .invalidRecovery

/-! ## Keys of earlier epochs -/

structure RecoveryHistoryKeyV1 where
  keyEpoch : Nat
  originalBundleSha256 : Sha256Digest
  envelope : WrappedKeyEnvelope
  signature : Ed25519SignatureBytes
deriving DecidableEq

def historyKeyAad (claim : Sha256Digest) (epoch : Nat) (commitment : Sha256Digest) : Bytes :=
  utf8 "context-relay/recovery-history-key/v1\x00" ++ claim.bytes ++ bigEndian 4 epoch ++
    commitment.bytes

/-- The keys that a retained history key seals, as they were sealed. -/
def openHistoryMaterial (record : RecoveryEnrollmentRecordV1) (claim : RecoveryDeviceClaimV2)
    (originalParent : VerifiedMembershipHistory) (lineage : VerifiedMembershipLineage)
    (retained : RecoveryHistoryKeyV1) (recipient : DeviceKeys) :
    Except RecoveryRestoreCryptoError PairingKeyBundle := do
  verifyRecoveryDeviceClaimV2 P record claim originalParent
  requireRecipient P claim recipient
  let successor ← recoveryMembershipSuccessor P claim
  let history := lineage.history
  require (lineage.anchor = ⟨successor, claim.certificate.controlEpoch, claim.keyEpoch⟩ ∧
    history.enrollmentRecordSha256 = claim.canonicalRecordSha256 ∧
    history.state.scope = ⟨claim.accountId, claim.workspaceId⟩ ∧
    history.state.activeDevices.find? claim.certificate.deviceId = some claim.certificate ∧
    history.admissions.find? claim.certificate.deviceId = some claim.certificateId ∧
    retained.keyEpoch ≠ 0 ∧ retained.keyEpoch < history.endpoint.keyEpoch ∧
    retained.originalBundleSha256 ≠ .zero ∧ retained.envelope.ciphertext.length ≤ 512)
    .invalidRecovery
  let canonical ← encodeRecoveryDeviceClaimV2 P claim
  let aad := historyKeyAad (P.sha256 canonical) retained.keyEpoch retained.originalBundleSha256
  let envelope ← orFail (encodeRecoveryDeviceEnvelopeV1 P retained.envelope) .invalidRecovery
  orFail (verifySignature P (P.signingPublicKey recipient) (aad ++ envelope) retained.signature)
    .invalidRecovery
  let plaintext ← orFail (P.unwrapSecret recipient retained.envelope aad) .invalidRecovery
  require (P.sha256 plaintext = retained.originalBundleSha256) .invalidRecovery
  let material ← orFail (decodePairingKeyBundle plaintext) .invalidRecovery
  require (material.accountId = claim.accountId ∧ material.workspaceId = claim.workspaceId ∧
    material.keyEpoch = retained.keyEpoch ∧
    ∀ pin ∈ material.enrollmentRecordSha256, pin = claim.canonicalRecordSha256) .invalidRecovery
  if retained.keyEpoch = 1 then do
    require (material.controlEpoch = 1) .invalidRecovery
    pure material
  else do
    let commitment ← present (lineage.rotatedKeyCommitments.find? fun entry =>
      decide (entry.keyEpoch = retained.keyEpoch)) .invalidRecovery
    require (commitment.controlEpoch = material.controlEpoch ∧
      commitment.keyMaterialSha256 = retained.originalBundleSha256) .invalidRecovery
    pure material

def openRecoveryHistoryKey (record : RecoveryEnrollmentRecordV1) (claim : RecoveryDeviceClaimV2)
    (originalParent : VerifiedMembershipHistory) (lineage : VerifiedMembershipLineage)
    (retained : RecoveryHistoryKeyV1) (recipient : DeviceKeys) :
    Except RecoveryRestoreCryptoError PairingKeyBundle := do
  let material ← openHistoryMaterial P record claim originalParent lineage retained recipient
  orFail (material.withEnrollmentRecordSha256 claim.canonicalRecordSha256) .invalidRecovery

end

/-! ## Preparation -/

structure RecoveryRestoreReceipt where
  restoreId : RecoveryRestoreId
  enrollmentId : RecoveryEnrollmentId
  recoveryRootId : RecoveryRootId
  accountId : AccountId
  workspaceId : WorkspaceId
  certificateId : DeviceCertificateId
  canonicalRecordSha256 : Sha256Digest
  canonicalClaimSha256 : Sha256Digest
  acceptedGeneration : Nat
  acceptedAtMs : Nat
deriving DecidableEq

structure RecoveryRestoreProjection where
  canonicalClaim : Bytes
  receipt : RecoveryRestoreReceipt
deriving DecidableEq

structure PreparedRow where
  canonicalRecord : Bytes
  canonicalClaim : Bytes
  hostedIntent : Bytes
  preparationSignature : Ed25519SignatureBytes
deriving DecidableEq

structure HistoryKeyRow where
  originalBundleSha256 : Sha256Digest
  canonicalEnvelope : Bytes
  signature : Ed25519SignatureBytes
deriving DecidableEq

/-- The tables of a recovery, with the intent and the older restores that are read beside them. The
objects before the claim are kept by ordinal, the keys by epoch. -/
structure RecoveryTables where
  prepared : Option PreparedRow
  parentObjects : Table Nat MembershipHistoryEvent
  historyKeys : Table Nat HistoryKeyRow
  supplementalKeys : Table Nat HistoryKeyRow
  conflict : Option (Nat × Ed25519SignatureBytes)
  admission : Option (RecoveryRestoreReceipt × Ed25519SignatureBytes)
  hostedIntent : Bytes
  restoring : Bool

/-- How values are written that no signature of the control plane covers: a receipt as JSON, an
event as an object. -/
structure RecoveryFormat where
  receiptBytes : RecoveryRestoreReceipt → Bytes
  objectBytes : MembershipHistoryEvent → Bytes

structure PreparedRecoveryV2 where
  publicationConflict : Bool
  canonicalRecord : Bytes
  canonicalClaim : Bytes
  claim : RecoveryDeviceClaimV2
  parent : VerifiedMembershipHistory
  parentObjects : List MembershipHistoryEvent
  historyKeys : List RecoveryHistoryKeyV1

def preparationBudget : MembershipHistoryBudget := ⟨4096, 64 * 1024 * 1024⟩

section
variable (P : ControlPrimitives)

def RecoveryRestoreReceipt.validateV2 (receipt : RecoveryRestoreReceipt)
    (claim : RecoveryDeviceClaimV2) : Except VaultError Unit := do
  let canonical ← orFail (encodeRecoveryDeviceClaimV2 P claim) membershipInvalid
  require (receipt.restoreId = claim.restoreId ∧ receipt.enrollmentId = claim.enrollmentId ∧
    receipt.recoveryRootId = claim.recoveryRootId ∧ receipt.accountId = claim.accountId ∧
    receipt.workspaceId = claim.workspaceId ∧ receipt.certificateId = claim.certificateId ∧
    receipt.canonicalRecordSha256 = claim.canonicalRecordSha256 ∧
    receipt.canonicalClaimSha256 = P.sha256 canonical ∧
    claim.expectedRecoveryGeneration + 1 < 2 ^ 64 ∧
    receipt.acceptedGeneration = claim.expectedRecoveryGeneration + 1) membershipInvalid

/-- The parent and the successor that an event object names. -/
def objectEndpoints : MembershipHistoryEvent → Except CryptoError (Sha256Digest × Sha256Digest)
  | .recoveryAdd canonicalClaim => do
    let claim ← orFail (decodeRecoveryDeviceClaimV2 P canonicalClaim) .authenticationFailed
    let successor ← orFail (recoveryMembershipSuccessor P claim) .authenticationFailed
    pure (claim.previousStateSha256, successor)
  | .pairingAdd statement signature _ approvedPayload => do
    let s ← DeviceMembershipAddStatementV1.fromSigningPreimage statement
    let approved ← DeviceMembershipAddStatementV1.fromApprovedPayloadV2 P approvedPayload
    require (s = approved) .authenticationFailed
    let successor ← s.controlStateSha256 P signature
    pure (s.previousStateSha256, successor)
  | .revocation statement signature transition => do
    let s ← DeviceRevocationStatementV1.fromSigningPreimage statement
    let t ← RevocationTransitionV1.fromCanonicalBytes P transition
    let successor ← s.controlStateSha256 P signature
    pure (t.previousStateSha256, successor)

/-- The state that a claim's admission leads to. -/
def admissionEndpoint (claim : RecoveryDeviceClaimV2) :
    Except RecoveryRestoreCryptoError MembershipEndpoint := do
  let successor ← recoveryMembershipSuccessor P claim
  pure ⟨successor, claim.certificate.controlEpoch, claim.keyEpoch⟩

def claimScope (claim : RecoveryDeviceClaimV2) : SyncScope := ⟨claim.accountId, claim.workspaceId⟩

/-- Check a preparation: the events before the claim, the keys it seals, and every retained key
against the log with the claim at its end. -/
def validatePreparedRecovery (record canonical : Bytes) (objects : List MembershipHistoryEvent)
    (retained : List RecoveryHistoryKeyV1) (keys : DeviceKeys) :
    Except VaultError PreparedRecoveryV2 := do
  require (record.length ≤ 32768 ∧ canonical.length ≤ 32768 ∧
    objects.length ≤ preparationBudget.maxEvents ∧
    retained.length ≤ preparationBudget.maxEvents) recoveryV2Invalid
  let claim ← orFail (decodeRecoveryDeviceClaimV2 P canonical) recoveryV2Invalid
  let root ← orFail (decodeRecoveryEnrollmentRecordV1 P record) recoveryV2Invalid
  let endpoint : MembershipEndpoint :=
    ⟨claim.previousStateSha256, claim.certificate.controlEpoch, claim.keyEpoch⟩
  let parent ← orFail (verifyMembershipHistory P record claim.canonicalRecordSha256
    (claimScope claim) objects endpoint preparationBudget) recoveryV2Invalid
  let _ ← orFail (openRecoveredDeviceMaterialV2 P root claim parent keys) recoveryV2Invalid
  let admitted ← orFail (admissionEndpoint P claim) recoveryV2Invalid
  let lineage ← orFail (verifyMembershipLineage P record claim.canonicalRecordSha256
    (claimScope claim) (objects ++ [.recoveryAdd canonical]) admitted admitted preparationBudget)
    recoveryV2Invalid
  require (retained.map RecoveryHistoryKeyV1.keyEpoch).Nodup recoveryV2Invalid
  retained.forM fun key => do
    let _ ← orFail (openRecoveryHistoryKey P root claim parent lineage key keys) recoveryV2Invalid
    pure ()
  pure {
    publicationConflict := false
    canonicalRecord := record
    canonicalClaim := canonical
    claim, parent
    parentObjects := objects
    historyKeys := retained }

def preparationPreimage (record claim intent : Bytes) : Bytes :=
  utf8 "context-relay/recovery-preparation/v1\x00" ++ (P.sha256 record).bytes ++
    (P.sha256 claim).bytes ++ bigEndian 4 intent.length ++ intent

def conflictPreimage (claim intent : Bytes) : Bytes :=
  utf8 "context-relay/recovery-conflict-receipt/v1\x00" ++ (P.sha256 claim).bytes ++
    (P.sha256 intent).bytes ++ [1]

/-- A retained key as its row spells it. -/
def readHistoryKey (failure : VaultError) (found : Nat × HistoryKeyRow) :
    Except VaultError RecoveryHistoryKeyV1 := do
  let row := found.2
  require (1 ≤ row.canonicalEnvelope.length ∧ row.canonicalEnvelope.length ≤ 1024) .database
  let envelope ← orFail (decodeRecoveryDeviceEnvelopeV1 P row.canonicalEnvelope) failure
  pure ⟨found.1, row.originalBundleSha256, envelope, row.signature⟩

variable (format : RecoveryFormat)

/-- The objects before the claim, in order and without a gap. -/
def loadParentObjects (tables : RecoveryTables) :
    Except VaultError (List MembershipHistoryEvent) := do
  let sizes := tables.parentObjects.values.map fun object => (format.objectBytes object).length
  require (tables.parentObjects.size ≤ preparationBudget.maxEvents ∧
    sizes.sum ≤ preparationBudget.maxBytes) recoveryV2Invalid
  require (∀ size ∈ sizes, 1 ≤ size ∧ size ≤ 16777216) .database
  collect (fun (found : (Nat × MembershipHistoryEvent) × Nat) => do
    require (found.1.1 = found.2) recoveryV2Invalid
    let _ ← orFail (objectEndpoints P found.1.2) recoveryV2Invalid
    pure found.1.2) tables.parentObjects.rows.zipIdx

/-- What is kept of a preparation, once it is checked again. -/
def loadPreparedRecovery (tables : RecoveryTables) (keys : DeviceKeys) :
    Except VaultError (Option PreparedRecoveryV2) :=
  match tables.prepared with
  | none => do
    require (tables.conflict = none ∧ tables.supplementalKeys.rows = []) recoveryV2Invalid
    pure none
  | some row => do
    require ((1 ≤ row.canonicalRecord.length ∧ row.canonicalRecord.length ≤ 32768) ∧
      (1 ≤ row.canonicalClaim.length ∧ row.canonicalClaim.length ≤ 32768) ∧
      row.hostedIntent.length ≤ 8192) .database
    require (tables.supplementalKeys.rows ≠ [] → tables.admission.isSome = true) recoveryV2Invalid
    require (tables.restoring = false) recoveryV2Invalid
    require (tables.hostedIntent = row.hostedIntent) .operationConflict
    orFail (verifySignature P (P.signingPublicKey keys)
      (preparationPreimage P row.canonicalRecord row.canonicalClaim row.hostedIntent)
      row.preparationSignature) recoveryV2Invalid
    let objects ← loadParentObjects P format tables
    require (tables.historyKeys.size ≤ preparationBudget.maxEvents) recoveryV2Invalid
    let retained ← collect (readHistoryKey P recoveryV2Invalid) tables.historyKeys.rows
    let prepared ← validatePreparedRecovery P row.canonicalRecord row.canonicalClaim objects
      retained keys
    match tables.conflict with
    | none => pure (some prepared)
    | some (reason, signature) => do
      require (reason = 1 ∧ row.hostedIntent ≠ [] ∧ tables.admission = none) recoveryV2Invalid
      orFail (verifySignature P prepared.claim.certificate.signingPublicKey
        (conflictPreimage P prepared.canonicalClaim row.hostedIntent) signature) recoveryV2Invalid
      pure (some { prepared with publicationConflict := true })

def receiptPreimage (claim receipt : Bytes) : Bytes :=
  utf8 "context-relay/recovery-admission-receipt/v1\x00" ++ (P.sha256 claim).bytes ++
    bigEndian 4 receipt.length ++ receipt

/-- The receipt of the admission that this device accepted. -/
def acceptedReceipt (tables : RecoveryTables) (prepared : PreparedRecoveryV2) (keys : DeviceKeys) :
    Except VaultError (Option RecoveryRestoreReceipt) :=
  match tables.admission with
  | none => pure none
  | some (receipt, signature) => do
    let bytes := format.receiptBytes receipt
    require (1 ≤ bytes.length ∧ bytes.length ≤ 8192) .database
    orFail (verifySignature P (P.signingPublicKey keys)
      (receiptPreimage P prepared.canonicalClaim bytes) signature) membershipInvalid
    receipt.validateV2 P prepared.claim
    pure (some receipt)

/-! ## Admission -/

/-- The log that a prepared recovery establishes. -/
def preparedLog (prepared : PreparedRecoveryV2) (endpoint : MembershipEndpoint) :
    Except VaultError Stored := do
  let events ← collect (Event.fromEvidence P)
    (prepared.parentObjects ++ [.recoveryAdd prepared.canonicalClaim])
  pure ⟨claimScope prepared.claim, prepared.claim.canonicalRecordSha256, prepared.canonicalRecord,
    endpoint, events⟩

/-- Accept the exact published admission. Whether the vault holds nothing else is read from its
other tables. -/
def acceptRecoveryMembership (pristine : Except VaultError Unit) (draw : Nat)
    (tables : RecoveryTables) (store : MembershipStore) (ack : RecoveryRestoreReceipt)
    (projection : RecoveryRestoreProjection) (published : MembershipHistoryEvent)
    (keys : DeviceKeys) :
    Except VaultError (CommitDisposition × RecoveryTables × MembershipStore) := do
  let found ← loadPreparedRecovery P format tables keys
  let prepared ← present found membershipInvalid
  require (prepared.publicationConflict = false) .operationConflict
  ack.validateV2 P prepared.claim
  let expected : MembershipHistoryEvent := .recoveryAdd prepared.canonicalClaim
  let _ ← orFail (objectEndpoints P expected) membershipInvalid
  require (projection.canonicalClaim = prepared.canonicalClaim ∧ projection.receipt = ack ∧
    format.objectBytes published = format.objectBytes expected) .operationConflict
  let endpoint ← orFail (admissionEndpoint P prepared.claim) membershipInvalid
  let saved ← acceptedReceipt P format tables prepared keys
  match ← load P store currentBudget with
  | some stored => do
    let _ ← endpointCheck P stored stored.endpoint prepared.claim.certificate.deviceId keys
      currentBudget
    let _ ← lineage P stored endpoint currentBudget
    require (saved = some ack) .operationConflict
    pure (.exactReplay, tables, store)
  | none => do
    require (saved = none ∧ tables.restoring = false) .operationConflict
    pristine
    let stored ← preparedLog P prepared endpoint
    let _ ← stored.verify P currentBudget
    let root ← orFail (decodeRecoveryEnrollmentRecordV1 P prepared.canonicalRecord) membershipInvalid
    let bundle ← orFail (openRecoveredDeviceMaterialV2 P root prepared.claim prepared.parent keys)
      membershipInvalid
    let store ← bootstrap store stored.enrollment stored.pin stored.scope endpoint
    let store ← insertEvents store stored.events 0
    let store ← retain P draw store stored prepared.claim.certificate.deviceId bundle true
      (P.sha256 prepared.canonicalClaim) keys currentBudget
    let bytes := format.receiptBytes ack
    require (1 ≤ bytes.length ∧ bytes.length ≤ 8192) .database
    pure (.inserted, { tables with admission := some (ack,
      P.sign keys (receiptPreimage P prepared.canonicalClaim bytes)) }, store)

/-! ## Keeping the keys of earlier epochs -/

/-- Keys of earlier epochs that were sealed after the preparation, each checked. -/
def supplementalKeys (tables : RecoveryTables) (stored : Stored) (prepared : PreparedRecoveryV2)
    (keys : DeviceKeys) (budget : HistoricalTransferBudget) :
    Except VaultError (List RecoveryHistoryKeyV1) := do
  let rows := tables.historyKeys.values ++ tables.supplementalKeys.values
  require (rows.length ≤ 4096 ∧
    (rows.map fun row => row.originalBundleSha256.bytes.length + row.canonicalEnvelope.length +
      row.signature.bytes.length + 4).sum ≤ budget.maxBytes) .budgetExceeded
  let root ← orFail (decodeRecoveryEnrollmentRecordV1 P prepared.canonicalRecord) membershipInvalid
  let anchor ← orFail (admissionEndpoint P prepared.claim) membershipInvalid
  let lineage ← lineage P stored anchor budget.history
  collect (fun (found : Nat × HistoryKeyRow) => do
    require (found.1 ∉ prepared.historyKeys.map RecoveryHistoryKeyV1.keyEpoch) membershipInvalid
    let retained ← readHistoryKey P membershipInvalid found
    let _ ← orFail (openRecoveryHistoryKey P root prepared.claim prepared.parent lineage retained
      keys) membershipInvalid
    pure retained) tables.supplementalKeys.rows

/-- Open every retained key of an earlier epoch against the lineage from the admission, and keep
it. -/
def retainHistoryKeys (draw : Nat → Nat) (tables : RecoveryTables) (store : MembershipStore)
    (stored : Stored) (recipient : DeviceId) (claimSha256 admission : Sha256Digest)
    (keys : DeviceKeys) (budget : HistoricalTransferBudget) : Except VaultError MembershipStore := do
  let found ← loadPreparedRecovery P format tables keys
  let prepared ← present found membershipInvalid
  let receipt ← acceptedReceipt P format tables prepared keys
  let _ ← present receipt membershipInvalid
  require (P.sha256 prepared.canonicalClaim = claimSha256) membershipInvalid
  let lineage ← lineage P stored
    ⟨admission, prepared.claim.certificate.controlEpoch, prepared.claim.keyEpoch⟩ budget.history
  let root ← orFail (decodeRecoveryEnrollmentRecordV1 P prepared.canonicalRecord) membershipInvalid
  let supplemental ← supplementalKeys P tables stored prepared keys budget
  thread (fun store (retained : RecoveryHistoryKeyV1) => do
    let bundle ← orFail (openRecoveryHistoryKey P root prepared.claim prepared.parent lineage
      retained keys) membershipInvalid
    retain P (draw bundle.keyEpoch) store stored recipient bundle false claimSha256 keys
      budget.history) store (prepared.historyKeys ++ supplemental)

end

end ContextRelay.Membership
