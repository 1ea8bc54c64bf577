import ContextRelay.MembershipStore

/-! The private side of the accepted membership: keys of an epoch, sealed for this device and bound
to the state they came with; the activation of the current keys; the gates that every write passes;
and the admission that a joining device accepts as its first membership. -/
namespace ContextRelay.Membership

open Library Library.Cbor

/-- The budget of every read that is not given one. -/
def currentBudget : MembershipHistoryBudget := ⟨4096, 64 * 1024 * 1024⟩

section
variable (P : ControlPrimitives)

def endpointCheck (stored : Stored) (expected : MembershipEndpoint) (device : DeviceId)
    (keys : DeviceKeys) (budget : MembershipHistoryBudget) :
    Except VaultError VerifiedMembershipHistory := do
  let history ← stored.verify P budget
  let certificate ← present (history.state.activeDevices.find? device) membershipInvalid
  require (stored.endpoint = expected ∧ certificate.signingPublicKey = P.signingPublicKey keys ∧
    certificate.wrappingPublicKey = P.wrappingPublicKey keys) .operationConflict
  pure history

def lineage (stored : Stored) (anchor : MembershipEndpoint) (budget : MembershipHistoryBudget) :
    Except VaultError VerifiedMembershipLineage :=
  orFail (verifyMembershipLineage P stored.enrollment stored.pin stored.scope stored.log anchor
    stored.endpoint budget) membershipInvalid

/-! ## Sealed keys -/

def encodeRecoveryDeviceEnvelopeV1 (envelope : WrappedKeyEnvelope) :
    Except RecoveryEnrollmentCryptoError Bytes := do
  validateEnvelopeShape P envelope
  pure (encodeWrappedEnvelope envelope)

def decodeRecoveryDeviceEnvelopeV1 (input : Bytes) :
    Except RecoveryEnrollmentCryptoError WrappedKeyEnvelope := do
  require (input.length ≤ maxRecoveryEnrollmentRecordBytes) .invalidRecord
  let (envelope, rest) ← decodeWrappedEnvelopeWithLimit
    (RecoveryEnrollmentCryptoError.crypto .invalidProtocolValue) maxRecoveryEnrollmentRecordBytes
    input
  require (rest = []) .invalidRecord
  let canonical ← encodeRecoveryDeviceEnvelopeV1 P envelope
  require (canonical = input) .invalidRecord
  pure envelope

def endpointBytes (endpoint : MembershipEndpoint) : Bytes :=
  endpoint.stateSha256.bytes ++ bigEndian 4 endpoint.controlEpoch ++ bigEndian 4 endpoint.keyEpoch

def secretAad (stored : Stored) (device : DeviceId) (epoch : Nat) (independent : Bool)
    (source : MembershipEndpoint) (provenance : Sha256Digest) : Bytes :=
  utf8 "context-relay/staged-membership-secret/v1\x00" ++ stored.scope.accountId.bytes ++
    stored.scope.workspaceId.bytes ++ stored.pin.bytes ++ device.bytes ++ bigEndian 4 epoch ++
    [if independent then 1 else 0] ++ endpointBytes source ++ provenance.bytes

/-- The epochs that an event's own evidence gives its successor. -/
def eventEpochs (event : Event) : Except VaultError (Nat × Nat) :=
  if event.request.isSome then do
    let s ← orFail (DeviceMembershipAddStatementV1.fromSigningPreimage event.statement)
      membershipInvalid
    pure (s.controlEpoch, s.keyEpoch)
  else if event.statement = [] then do
    let claim ← orFail (decodeRecoveryDeviceClaimV2 P event.artifact) membershipInvalid
    pure (claim.certificate.controlEpoch, claim.keyEpoch)
  else do
    let t ← orFail (RevocationTransitionV1.fromCanonicalBytes P event.artifact) membershipInvalid
    pure (t.controlEpoch, t.keyEpoch)

/-- The state a secret came with lies on the log. -/
def checkSource (stored : Stored) (source : MembershipEndpoint) (budget : MembershipHistoryBudget) :
    Except VaultError Unit :=
  if source = stored.endpoint then pure ()
  else match stored.events.find? fun event => decide (event.successor = source.stateSha256) with
    | some event => do
      let epochs ← eventEpochs P event
      require (epochs = (source.controlEpoch, source.keyEpoch)) membershipInvalid
    | none => do
      let _ ← orFail (verifyMembershipHistory P stored.enrollment stored.pin stored.scope [] source
        budget) membershipInvalid
      pure ()

/-- The transition of the first revocation that leads to an epoch. -/
def rotationAt (epoch : Nat) : List Event → Except VaultError (Option RevocationTransitionV1)
  | [] => pure none
  | event :: events => do
    if event.request = none ∧ event.statement ≠ [] then do
      let t ← orFail (RevocationTransitionV1.fromCanonicalBytes P event.artifact) membershipInvalid
      if t.keyEpoch = epoch then pure (some t) else rotationAt epoch events
    else rotationAt epoch events

def checkCommitment (stored : Stored) (bundle : PairingKeyBundle) (epoch : Nat) :
    Except VaultError Unit :=
  if epoch = 1 then require (bundle.controlEpoch = 1) membershipInvalid
  else do
    let found ← rotationAt P epoch stored.events
    let commitment ← present found membershipInvalid
    let original ← orFail (PairingKeyBundle.new stored.scope bundle.controlEpoch epoch
      bundle.workspaceRootKey bundle.activeEpochKey) membershipInvalid
    require (commitment.controlEpoch = bundle.controlEpoch ∧
      (P.sha256 (encodePairingKeyBundle bundle) = commitment.keyMaterialSha256 ∨
        P.sha256 (encodePairingKeyBundle original) = commitment.keyMaterialSha256)) membershipInvalid

/-- A device's row for an epoch: the independent one before the other. -/
def secretRow (store : MembershipStore) (device : DeviceId) (epoch : Nat) (independentOnly : Bool) :
    Option (Bool × SecretRow) :=
  match store.secrets.find? (toLex (device, toLex (epoch, true))) with
  | some row => some (true, row)
  | none =>
    if independentOnly then none
    else (store.secrets.find? (toLex (device, toLex (epoch, false)))).map fun row => (false, row)

def loadSecret (store : MembershipStore) (stored : Stored) (device : DeviceId) (epoch : Nat)
    (independentOnly : Bool) (keys : DeviceKeys) (budget : MembershipHistoryBudget) :
    Except VaultError (Option PairingKeyBundle) :=
  match secretRow store device epoch independentOnly with
  | none => pure none
  | some (independent, row) => do
    require (1 ≤ row.envelope.length ∧ row.envelope.length ≤ 512) .database
    checkSource P stored row.source budget
    let aad := secretAad stored device epoch independent row.source row.provenance
    orFail (verifySignature P (P.signingPublicKey keys) (aad ++ row.envelope) row.signature)
      membershipInvalid
    let envelope ← orFail (decodeRecoveryDeviceEnvelopeV1 P row.envelope) membershipInvalid
    let plain ← orFail (P.unwrapSecret keys envelope aad) membershipInvalid
    let bundle ← orFail (decodePairingKeyBundle plain) membershipInvalid
    require (bundle.accountId = stored.scope.accountId ∧
      bundle.workspaceId = stored.scope.workspaceId ∧ bundle.keyEpoch = epoch ∧
      bundle.enrollmentRecordSha256 = some stored.pin ∧ encodePairingKeyBundle bundle = plain)
      membershipInvalid
    checkCommitment P stored bundle epoch
    pure (some bundle)

def insertSecret (store : MembershipStore) (device : DeviceId) (epoch : Nat) (independent : Bool)
    (row : SecretRow) : Except VaultError MembershipStore := do
  require ((1 ≤ epoch ∧ epoch ≤ 4294967295) ∧ EpochsAllowed row.source ∧
    1 ≤ row.envelope.length ∧ row.envelope.length ≤ 512) .database
  let secrets ← present (store.secrets.insert? (toLex (device, toLex (epoch, independent))) row)
    .database
  pure { store with secrets }

/-- Keep keys for a device and an epoch, unless they are kept already. What sealing draws is an
argument. -/
def retain (draw : Nat) (store : MembershipStore) (stored : Stored) (device : DeviceId)
    (bundle : PairingKeyBundle) (independent : Bool) (provenance : Sha256Digest) (keys : DeviceKeys)
    (budget : MembershipHistoryBudget) : Except VaultError MembershipStore := do
  let plain := encodePairingKeyBundle bundle
  let write : Except VaultError MembershipStore := do
    let aad := secretAad stored device bundle.keyEpoch independent stored.endpoint provenance
    let envelope ← orFail (P.wrapSecret draw (P.wrappingPublicKey keys) plain aad) membershipInvalid
    let envelope ← orFail (encodeRecoveryDeviceEnvelopeV1 P envelope) membershipInvalid
    insertSecret store device bundle.keyEpoch independent
      ⟨stored.endpoint, provenance, envelope, P.sign keys (aad ++ envelope)⟩
  match ← loadSecret P store stored device bundle.keyEpoch false keys budget with
  | none => write
  | some previous => do
    require (encodePairingKeyBundle previous = plain) .operationConflict
    if independent = false then pure store
    else do
      let kept ← loadSecret P store stored device bundle.keyEpoch true keys budget
      if kept.isSome then pure store else write

/-! ## Activation -/

/-- What an activation signs: the state it was made at and the exact independent seal. -/
def activationPreimage (store : MembershipStore) (stored : Stored) (device : DeviceId)
    (source : MembershipEndpoint) : Except VaultError Bytes := do
  let row ← present (store.secrets.find? (toLex (device, toLex (source.keyEpoch, true)))) .database
  require (1 ≤ row.envelope.length ∧ row.envelope.length ≤ 512) .database
  pure (utf8 "context-relay/current-membership-activation/v1\x00" ++ stored.scope.accountId.bytes ++
    stored.scope.workspaceId.bytes ++ stored.pin.bytes ++ device.bytes ++ endpointBytes source ++
    endpointBytes row.source ++ row.provenance.bytes ++ row.envelope ++ row.signature.bytes)

def activeDevice (store : MembershipStore) (stored : Stored) (history : VerifiedMembershipHistory) :
    Except VaultError (Option DeviceId) :=
  match store.activation with
  | none => pure none
  | some row => do
    require ((row.source.controlEpoch, row.source.keyEpoch) =
      (stored.endpoint.controlEpoch, stored.endpoint.keyEpoch)) membershipInvalid
    let _ ← lineage P stored row.source currentBudget
    let certificate ← present (history.state.activeDevices.find? row.device) membershipInvalid
    let preimage ← activationPreimage store stored row.device row.source
    orFail (verifySignature P certificate.signingPublicKey preimage row.signature) membershipInvalid
    pure (some row.device)

def activate (store : MembershipStore) (expected : MembershipEndpoint) (device : DeviceId)
    (keys : DeviceKeys) (budget : MembershipHistoryBudget) : Except VaultError MembershipStore := do
  let loaded ← load P store budget
  let stored ← present loaded membershipInvalid
  let _ ← endpointCheck P stored expected device keys budget
  let secret ← loadSecret P store stored device expected.keyEpoch true keys budget
  let _ ← present secret membershipInvalid
  let preimage ← activationPreimage store stored device expected
  require (EpochsAllowed expected) .database
  pure { store with activation := some ⟨device, expected, P.sign keys preimage⟩ }

/-! ## Gates -/

/-- The accepted history, current for the scope and the stamp, and activated on this device. -/
def requireCurrentRows (store : MembershipStore) (scope : SyncScope)
    (stamp : Option MembershipEndpoint) : Except VaultError (Option VerifiedMembershipHistory) := do
  match ← load P store currentBudget with
  | none =>
    require (store.genesisAnchor = false) membershipInvalid
    pure none
  | some stored =>
    let history ← stored.verify P currentBudget
    require (history.state.scope = scope ∧ stamp = some history.endpoint) .operationConflict
    match ← activeDevice P store stored history with
    | some _ => pure (some history)
    | none =>
      -- An enrolled device at epoch one needs no activation.
      require (history.endpoint.controlEpoch = 1 ∧ history.endpoint.keyEpoch = 1) membershipInvalid
      let enrollment ← present store.enrollment membershipInvalid
      require (enrollment.active = true) membershipInvalid
      let parent ← orFail (history.pairingParent enrollment.genesisDevice) membershipInvalid
      require (parent.enrollmentRecordSha256 = enrollment.canonicalRecordSha256) membershipInvalid
      pure (some history)

def requireOperationRows (store : MembershipStore) (operation : SyncOperationV1)
    (stamp : Option MembershipEndpoint) : Except VaultError Unit := do
  match ← requireCurrentRows P store ⟨operation.accountId, operation.workspaceId⟩ stamp with
  | none => pure ()
  | some history =>
    let certificate ← present (history.state.activeDevices.find? operation.deviceId)
      membershipInvalid
    require (operation.controlEpoch = history.state.controlEpoch ∧
      operation.keyEpoch = history.state.keyEpoch) membershipInvalid
    let preimage ← orFail (encodeSyncOperationSigningPreimageV1 P.toPrimitives operation)
      membershipInvalid
    orFail (verifySignature P certificate.signingPublicKey preimage operation.signature)
      membershipInvalid

/-! ## Opening a pairing approval -/

/-- An approval whose safety number was confirmed: its bytes and what they decode to. -/
structure ConfirmedV2Transcript where
  canonicalBytes : Bytes
  payload : PairingApprovedPayloadV2
  decoded : decodePairingApprovedPayloadV2 canonicalBytes = .ok payload

def grantAadV2 (payload : PairingApprovedPayloadV2) : Bytes :=
  utf8 "context-relay/pairing-grant-aad/v2\x00" ++ payload.grant.pairingId.bytes ++
    payload.grant.requestDigest.bytes ++ payload.grant.certificateId.bytes ++
    (certificateDigest P payload.grant.certificate).bytes ++
    payload.grant.certificate.accountId.bytes ++ payload.grant.certificate.workspaceId.bytes ++
    bigEndian 4 payload.grant.certificate.controlEpoch ++ bigEndian 4 payload.grant.keyEpoch ++
    payload.previousStateSha256.bytes ++ payload.enrollmentRecordSha256.bytes ++
    payload.issuerCertificateId.bytes ++ (certificateDigest P payload.issuerCertificate).bytes

def keyMaterialMatches (bundle : PairingKeyBundle) (commitment : Sha256Digest) :
    Except CryptoError Bool := do
  let unpinned ← PairingKeyBundle.new ⟨bundle.accountId, bundle.workspaceId⟩ bundle.controlEpoch
    bundle.keyEpoch bundle.workspaceRootKey bundle.activeEpochKey
  pure (decide (P.sha256 (encodePairingKeyBundle bundle) = commitment) ||
    decide (P.sha256 (encodePairingKeyBundle unpinned) = commitment))

def checkBundle (bundle : PairingKeyBundle) (parent : PairingParentV2) : Except CryptoError Unit := do
  let s := parent.state
  require (bundle.accountId = s.scope.accountId ∧ bundle.workspaceId = s.scope.workspaceId ∧
    bundle.controlEpoch = s.controlEpoch ∧ bundle.keyEpoch = s.keyEpoch ∧
    bundle.enrollmentRecordSha256 = some parent.enrollmentRecordSha256 ∧
    parent.enrollmentRecordSha256 ≠ .zero) .authenticationFailed
  match parent.latestRotation with
  | none => require (s.controlEpoch = 1 ∧ s.keyEpoch = 1) .authenticationFailed
  | some (verified, transition) => do
    let rotation := verified.state
    let digest ← transition.digest P
    require (rotation.scope = s.scope ∧ rotation.controlEpoch = s.controlEpoch ∧
      rotation.keyEpoch = s.keyEpoch ∧ rotation.recoveryRootId = s.recoveryRootId ∧
      rotation.recoveryWrappingPublicKey = s.recoveryWrappingPublicKey ∧
      verified.statement.transitionSha256 = digest ∧ transition.controlEpoch = s.controlEpoch ∧
      transition.keyEpoch = s.keyEpoch) .authenticationFailed
    let same ← keyMaterialMatches P bundle transition.keyMaterialSha256
    require (same = true) .authenticationFailed

def openPairingPayloadV2 (payload : PairingApprovedPayloadV2) (request : SignedPairingRequest)
    (keys : DeviceKeys) (parent : PairingParentV2) : Except CryptoError PairingKeyBundle := do
  require (P.signingPublicKey keys = request.request.signingPublicKey ∧
    P.wrappingPublicKey keys = request.request.wrappingPublicKey) .authenticationFailed
  let plaintext ← P.unwrapSecret keys payload.grant.wrappedKeyBundle (grantAadV2 P payload)
  let bundle ← decodePairingKeyBundle plaintext
  checkBundle P bundle parent
  pure bundle

/-- Open the keys of an approval, once its history and its membership event are verified. -/
def openConfirmedPairingApprovalV2 (confirmed : ConfirmedV2Transcript)
    (request : SignedPairingRequest) (keys : DeviceKeys) (history : VerifiedMembershipHistory)
    (membership : VerifiedMembershipControl) : Except CryptoError PairingKeyBundle := do
  let parent ← history.pairingParent confirmed.payload.issuerCertificate.deviceId
  let payload ← inspectPairingApprovalV2 P confirmed.canonicalBytes request parent
  let expected ← DeviceMembershipAddStatementV1.fromApprovedPayloadV2 P confirmed.canonicalBytes
  history.ensureNewAdmission expected.membershipId payload.grant.certificate.deviceId
    expected.certificateId
  let next := membership.state
  let current := parent.state
  require (membership.statement = expected ∧ next.scope = current.scope ∧
    next.controlEpoch = current.controlEpoch ∧ next.keyEpoch = current.keyEpoch ∧
    next.recoveryRootId = current.recoveryRootId ∧
    next.recoveryWrappingPublicKey = current.recoveryWrappingPublicKey ∧
    next.activeDevices.size = current.activeDevices.size + 1 ∧
    next.activeDevices.find? payload.grant.certificate.deviceId = some payload.grant.certificate ∧
    ∀ row ∈ current.activeDevices.rows, next.activeDevices.find? row.1 = some row.2)
    .authenticationFailed
  openPairingPayloadV2 P payload request keys parent

/-! ## Admission -/

def admissionPreimage (stored : Stored) (device : DeviceId) (successor transcript : Sha256Digest) :
    Bytes :=
  utf8 "context-relay/confirmed-membership-admission/v1\x00" ++ stored.scope.accountId.bytes ++
    stored.scope.workspaceId.bytes ++ stored.pin.bytes ++ device.bytes ++ successor.bytes ++
    transcript.bytes

def retainAdmission (draw : Nat) (store : MembershipStore) (stored : Stored)
    (confirmed : ConfirmedV2Transcript) (bundle : PairingKeyBundle) (keys : DeviceKeys)
    (budget : MembershipHistoryBudget) : Except VaultError MembershipStore := do
  let device := confirmed.payload.grant.certificate.deviceId
  let hash := P.sha256 confirmed.canonicalBytes
  let preimage := admissionPreimage stored device stored.endpoint.stateSha256 hash
  let store ← match store.confirmedAdmissions.find? device with
    | some row => do
      require (row.successor = stored.endpoint.stateSha256 ∧ row.transcriptHash = hash)
        .operationConflict
      orFail (verifySignature P (P.signingPublicKey keys) preimage row.signature) membershipInvalid
      pure store
    | none => pure { store with
        confirmedAdmissions := store.confirmedAdmissions.upsert device
          ⟨stored.endpoint.stateSha256, hash, P.sign keys preimage⟩ }
  retain P draw store stored device bundle true hash keys budget

/-- What an admission reads of the other tables of the vault: the receipt of the pairing, whether a
restore was begun, and the check that nothing else is in the vault. -/
structure AdmissionSetting where
  receipt : Except VaultError Unit
  restoring : Bool
  pristine : Except VaultError Unit

/-- The log that an admission establishes, fully verified before the vault is touched, with the
keys that came with it. -/
def prepareAdmission (enrollment : Bytes) (parentEvents : List MembershipHistoryEvent)
    (confirmed : ConfirmedV2Transcript) (request : SignedPairingRequest)
    (signature : Ed25519SignatureBytes) (keys : DeviceKeys) (budget : MembershipHistoryBudget) :
    Except VaultError (Stored × PairingKeyBundle) := do
  let p := confirmed.payload
  let scope : SyncScope := ⟨p.grant.certificate.accountId, p.grant.certificate.workspaceId⟩
  let parent : MembershipEndpoint :=
    ⟨p.previousStateSha256, p.grant.certificate.controlEpoch, p.grant.keyEpoch⟩
  let statement ← orFail (DeviceMembershipAddStatementV1.fromApprovedPayloadV2 P
    confirmed.canonicalBytes) membershipInvalid
  let bytes ← orFail statement.signingPreimage membershipInvalid
  let admissionBytes := bytes.length + 64 + request.canonicalBytes.length +
    confirmed.canonicalBytes.length
  require (1 ≤ budget.maxEvents ∧ admissionBytes ≤ budget.maxBytes) .budgetExceeded
  let proof ← orFail (verifyMembershipHistory P enrollment p.enrollmentRecordSha256 scope
    parentEvents parent ⟨budget.maxEvents - 1, budget.maxBytes - admissionBytes⟩) membershipInvalid
  let issuer ← orFail (proof.pairingParent p.issuerCertificate.deviceId) membershipInvalid
  let membership ← orFail (statement.verifyAndAdvance P signature request confirmed.canonicalBytes
    issuer) membershipInvalid
  let bundle ← orFail (openConfirmedPairingApprovalV2 P confirmed request keys proof membership)
    membershipInvalid
  let earlier ← collect (Event.fromEvidence P) parentEvents
  let last ← Event.fromEvidence P
    (.pairingAdd bytes signature request confirmed.canonicalBytes)
  let stored : Stored := {
    scope
    pin := p.enrollmentRecordSha256
    enrollment
    endpoint := { parent with stateSha256 := membership.state.stateSha256 }
    events := earlier ++ [last] }
  let _ ← stored.verify P budget
  pure (stored, bundle)

def acceptConfirmedMembershipAdmission (setting : AdmissionSetting) (draw : Nat)
    (store : MembershipStore) (enrollment : Bytes) (parentEvents : List MembershipHistoryEvent)
    (confirmed : ConfirmedV2Transcript) (request : SignedPairingRequest)
    (signature : Ed25519SignatureBytes) (keys : DeviceKeys) (budget : MembershipHistoryBudget) :
    Except VaultError (CommitDisposition × MembershipStore) := do
  let (stored, bundle) ← prepareAdmission P enrollment parentEvents confirmed request signature keys
    budget
  setting.receipt
  match ← load P store budget with
  | some existing => do
    let _ ← existing.verify P budget
    require (existing.scope = stored.scope ∧ existing.pin = stored.pin ∧
      existing.enrollment = stored.enrollment ∧ existing.endpoint = stored.endpoint ∧
      existing.events = stored.events) .operationConflict
    let store ← retainAdmission P draw store stored confirmed bundle keys budget
    pure (.exactReplay, store)
  | none => do
    require (setting.restoring = false) .operationConflict
    setting.pristine
    let store ← bootstrap store enrollment stored.pin stored.scope stored.endpoint
    let store ← insertEvents store stored.events 0
    let store ← retainAdmission P draw store stored confirmed bundle keys budget
    pure (.inserted, store)

end

end ContextRelay.Membership
