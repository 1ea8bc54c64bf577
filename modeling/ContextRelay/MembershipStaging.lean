import ContextRelay.HistoricalTransfer

/-! How the keys of an epoch reach a device that is a member already: from the enrollment that
created the workspace, from the envelope of a rotation, and page by page from a transfer of
historical keys. Every way ends in `retain`; what differs is who vouches for the keys and at which
state of the log. -/
namespace ContextRelay.Membership

open Library Library.Cbor

section
variable (P : ControlPrimitives)

/-! ## Keys of a rotation -/

namespace RevocationTransitionV1

def openedMaterial (transition : RevocationTransitionV1) (statement : DeviceRevocationStatementV1)
    (plaintext : Bytes) : Except CryptoError PairingKeyBundle := do
  require (P.sha256 plaintext = transition.keyMaterialSha256) .authenticationFailed
  let material ← decodePairingKeyBundle plaintext
  require (material.accountId = statement.accountId ∧
    material.workspaceId = statement.workspaceId ∧
    material.controlEpoch = transition.controlEpoch ∧ material.keyEpoch = transition.keyEpoch)
    .authenticationFailed
  pure material

def openDeviceMaterial (transition : RevocationTransitionV1)
    (statement : DeviceRevocationStatementV1) (signature : Ed25519SignatureBytes)
    (current : RevocationControlState) (device : DeviceId) (keys : DeviceKeys) :
    Except CryptoError PairingKeyBundle := do
  transition.verify P statement signature current
  let recipient ← present
    (transition.devices.find? fun entry => decide (entry.certificate.deviceId = device))
    .authenticationFailed
  require (recipient.certificate.signingPublicKey = P.signingPublicKey keys ∧
    recipient.certificate.wrappingPublicKey = P.wrappingPublicKey keys) .invalidKey
  let aad ← rotationMaterialAad statement transition.previousStateSha256
    transition.keyMaterialSha256 deviceMaterialDomain device.bytes
    (certificateDigest P recipient.certificate).bytes
  let plaintext ← P.unwrapSecret keys recipient.envelope aad
  transition.openedMaterial P statement plaintext

end RevocationTransitionV1

def VerifiedMembershipHistory.latestRotationPredecessor (history : VerifiedMembershipHistory) :
    Option RevocationControlState :=
  history.latestRotation.map fun rotation => rotation.2.2

/-! ## Keys of the enrollment -/

def deviceWorkspaceMaterialAad (record : RecoveryEnrollmentRecordV1) (device : DeviceId)
    (keys : DeviceKeys) : Bytes :=
  utf8 "context-relay/device-workspace-material/v1\x00" ++ record.enrollmentId.bytes ++
    record.recoveryRootId.bytes ++ record.accountId.bytes ++ record.workspaceId.bytes ++
    record.recoverySigningPublicKey.bytes ++ record.recoveryWrappingPublicKey.bytes ++
    record.genesisCertificateId.bytes ++ (certificateDigest P record.genesisCertificate).bytes ++
    bigEndian 4 record.genesisCertificate.controlEpoch ++ bigEndian 4 record.keyEpoch ++
    device.bytes ++ (P.signingPublicKey keys).bytes ++ (P.wrappingPublicKey keys).bytes

def openDeviceWorkspaceMaterial (record : RecoveryEnrollmentRecordV1)
    (envelope : WrappedKeyEnvelope) (device : DeviceId) (keys : DeviceKeys) :
    Except RecoveryEnrollmentCryptoError PairingKeyBundle := do
  validateRecord P record
  validateEnvelopeShape P envelope
  let certificate := record.genesisCertificate
  require (device = certificate.deviceId ∧ P.signingPublicKey keys = certificate.signingPublicKey ∧
    P.wrappingPublicKey keys = certificate.wrappingPublicKey) .invalidRecord
  let plaintext ← renameFailure
    (P.unwrapSecret keys envelope (deviceWorkspaceMaterialAad P record device keys)) .crypto
  let material ← renameFailure (decodePairingKeyBundle plaintext) .crypto
  require (material.accountId = record.accountId ∧ material.workspaceId = record.workspaceId ∧
    material.controlEpoch = certificate.controlEpoch ∧ material.keyEpoch = record.keyEpoch)
    .invalidRecord
  pure material

/-- Keep the keys that the enrollment made, pinned to it. What a sealing draws is given for each
key epoch. -/
def retainEnrollment (draw : Nat → Nat) (store : MembershipStore) (stored : Stored)
    (device : DeviceId) (bundle : PairingKeyBundle) (keys : DeviceKeys)
    (budget : MembershipHistoryBudget) : Except VaultError MembershipStore := do
  let unpinned ← orFail (PairingKeyBundle.new stored.scope 1 1 bundle.workspaceRootKey
    bundle.activeEpochKey) membershipInvalid
  let pinned ← orFail (unpinned.withEnrollmentRecordSha256 stored.pin) membershipInvalid
  require (bundle.accountId = stored.scope.accountId ∧
    bundle.workspaceId = stored.scope.workspaceId ∧ bundle.controlEpoch = 1 ∧
    bundle.keyEpoch = 1 ∧ ∀ pin ∈ bundle.enrollmentRecordSha256, pin = stored.pin)
    membershipInvalid
  let store ← retain P (draw 1) store stored device pinned true stored.pin keys budget
  pure { store with rootMaterialSeeds := store.rootMaterialSeeds.insert device }

def recoveryEnrollmentInvalid : VaultError := .validation "invalid stored recovery enrollment"

/-- The first accepted state of an enrollment, and the keys that came with it. -/
def establishEnrollment (draw : Nat → Nat) (store : MembershipStore) (row : EnrollmentRow)
    (opened : PairingKeyBundle) (keys : DeviceKeys) : Except VaultError MembershipStore := do
  let scope : SyncScope := ⟨row.record.accountId, row.record.workspaceId⟩
  let anchor ← orFail (initialRevocationControlState P row.record row.canonicalRecordSha256 scope
    (Table.empty.upsert row.genesisDevice row.record.genesisCertificate)) recoveryEnrollmentInvalid
  let store ← bootstrap store row.canonicalRecord row.canonicalRecordSha256 scope
    ⟨anchor.stateSha256, 1, 1⟩
  let loaded ← load P store currentBudget
  let stored ← present loaded membershipInvalid
  let _ ← stored.verify P currentBudget
  let store ← retainEnrollment P draw store stored row.genesisDevice opened keys currentBudget
  pure { store with genesisAnchor := true }

/-- Activate the prepared enrollment, as far as it writes the membership tables. Only in a vault
without certificates, restores and revocations does it establish the membership; whether those
tables are vacant is an argument. -/
def activateRecoveryEnrollment (draw : Nat → Nat) (vacant : Bool) (store : MembershipStore)
    (keys : DeviceKeys) : Except VaultError MembershipStore := do
  let row ← present store.enrollment recoveryEnrollmentInvalid
  let opened ← orFail (openDeviceWorkspaceMaterial P row.record row.deviceMaterialEnvelope
    row.genesisDevice keys) recoveryEnrollmentInvalid
  if row.active = true then pure store
  else do
    require (store.genesisAnchor = false) .operationConflict
    if vacant = true ∧ store.accepted = none ∧ store.events.rows = [] then do
      let store ← establishEnrollment P draw store row opened keys
      pure { store with enrollment := some { row with active := true } }
    else pure { store with enrollment := some { row with active := true } }

/-! ## Staging the keys of every rotation -/

/-- Keep the enrollment's keys of this device, if they are not kept yet. Keys that were kept once
are never read from the enrollment again. -/
def stageEnrollment (draw : Nat → Nat) (store : MembershipStore) (stored : Stored)
    (device : DeviceId) (keys : DeviceKeys) (budget : MembershipHistoryBudget) :
    Except VaultError MembershipStore := do
  let first ← loadSecret P store stored device 1 true keys budget
  if first.isSome then pure store
  else do
    require (device ∉ store.rootMaterialSeeds) membershipInvalid
    match store.enrollment with
    | none => pure store
    | some enrollment =>
      if enrollment.active = true ∧ enrollment.genesisDevice = device ∧
          enrollment.canonicalRecordSha256 = stored.pin then do
        let original ← orFail (openDeviceWorkspaceMaterial P enrollment.record
          enrollment.deviceMaterialEnvelope device keys) membershipInvalid
        retainEnrollment P draw store stored device original keys budget
      else pure store

/-- Keys that a rotation sealed for this device: as they were sealed, and pinned. -/
structure OpenedRotation where
  original : PairingKeyBundle
  pinned : PairingKeyBundle
  provenance : Sha256Digest
deriving DecidableEq

/-- Open the envelope of a rotation whose keys are not kept yet. Rotations before this device was
admitted have no envelope for it. -/
def openRotation (store : MembershipStore) (stored : Stored) (device : DeviceId)
    (keys : DeviceKeys) (budget : MembershipHistoryBudget) (pending : List OpenedRotation)
    (history : VerifiedMembershipHistory) :
    Option MembershipHistoryEvent → Except CryptoError (List OpenedRotation)
  | some (.revocation statement signature transition) =>
    if (history.state.activeDevices.find? device).isNone then pure pending
    else do
      let kept ← orFail (loadSecret P store stored device history.endpoint.keyEpoch true keys budget)
        .authenticationFailed
      if kept.isSome then pure pending
      else do
        let statement ← DeviceRevocationStatementV1.fromSigningPreimage statement
        let transition ← RevocationTransitionV1.fromCanonicalBytes P transition
        let predecessor ← present history.latestRotationPredecessor .authenticationFailed
        let original ← transition.openDeviceMaterial P statement signature predecessor device keys
        require (∀ pin ∈ original.enrollmentRecordSha256, pin = stored.pin) .authenticationFailed
        let pinned ← original.withEnrollmentRecordSha256 stored.pin
        pure (pending ++ [⟨original, pinned, transition.keyMaterialSha256⟩])
  | _ => pure pending

def stageCurrentMembershipMaterial (draw : Nat → Nat) (store : MembershipStore)
    (expected : MembershipEndpoint) (device : DeviceId) (keys : DeviceKeys)
    (budget : MembershipHistoryBudget) : Except VaultError MembershipStore := do
  let loaded ← load P store budget
  let stored ← present loaded membershipInvalid
  let _ ← endpointCheck P stored expected device keys budget
  let store ← stageEnrollment P draw store stored device keys budget
  let (_, pending) ← orFail (replayMembershipHistory P stored.enrollment stored.pin stored.scope
    stored.log expected budget (openRotation P store stored device keys budget) []) membershipInvalid
  let store ← thread (fun store (rotation : OpenedRotation) =>
    retain P (draw rotation.pinned.keyEpoch) store stored device rotation.pinned true
      rotation.provenance keys budget) store pending
  let current ← loadSecret P store stored device expected.keyEpoch true keys budget
  let _ ← present current membershipInvalid
  pure store

end

/-! ## Pages of a transfer -/

structure HistoricalTransferBudget where
  history : MembershipHistoryBudget
  maxPages : Nat
  maxBytes : Nat
deriving DecidableEq

structure HistoricalTransferSelection where
  transferId : OperationId
  headerSha256 : Sha256Digest
  checkpointSha256 : Sha256Digest
  authorizingEndpoint : MembershipEndpoint
  revision : Int
deriving DecidableEq

structure HistoricalTransferProgress where
  selection : HistoricalTransferSelection
  nextPage : Option (Nat × Sha256Digest)
  inventoryVerified : Bool
deriving DecidableEq

structure TransferRow where
  header : Bytes
  checkpoint : Bytes
  nextIndex : Nat
  nextHash : Sha256Digest
deriving DecidableEq

/-- The tables of the transfers: what each one is and how far it came, which one a device has
selected at which revision, and the pages that were accepted. -/
structure TransferTables where
  transfers : Table OperationId TransferRow
  selections : Table DeviceId (OperationId × Int)
  pages : Table (OperationId ×ₗ Nat) Bytes

/-- A transfer as it is loaded, with its header decoded. -/
structure Transfer where
  header : HistoricalTransferHeader
  raw : Bytes
  checkpoint : Bytes
  index : Nat
  hash : Sha256Digest

section
variable (P : ControlPrimitives)

def loadTransfer (tables : TransferTables) (id : OperationId) (budget : HistoricalTransferBudget) :
    Except VaultError (Option Transfer) := do
  require (387 ≤ budget.maxBytes) .budgetExceeded
  match tables.transfers.find? id with
  | none => pure none
  | some row => do
    require (row.header.length = 387 ∧ 1 ≤ row.checkpoint.length ∧
      row.checkpoint.length ≤ min (budget.maxBytes - 387) (8 * 1024 * 1024)) .database
    let header ← orFail (HistoricalTransferHeader.decode row.header) membershipInvalid
    require (header.context.transferId = id ∧ header.context.pageCount ≤ budget.maxPages ∧
      row.nextIndex ≤ header.context.pageCount ∧
      P.sha256 row.checkpoint = header.context.checkpointSha256) .budgetExceeded
    pure (some ⟨header, row.header, row.checkpoint, row.nextIndex, row.nextHash⟩)

/-- The transfer a device has selected. Rotations increment both epochs and additions keep both, so
the epoch of the header is the control epoch as well. -/
def selection (tables : TransferTables) (device : DeviceId) (budget : HistoricalTransferBudget) :
    Except VaultError (Option HistoricalTransferSelection) :=
  match tables.selections.find? device with
  | none => pure none
  | some (id, revision) => do
    require (0 < revision) membershipInvalid
    let loaded ← loadTransfer P tables id budget
    let t ← present loaded membershipInvalid
    require (t.header.context.recipientDeviceId = device) membershipInvalid
    let epoch := t.header.context.lastHistoricalKeyEpoch + 1
    require (epoch < 2 ^ 32) membershipInvalid
    pure (some {
      transferId := id
      headerSha256 := P.sha256 t.raw
      checkpointSha256 := P.sha256 t.checkpoint
      authorizingEndpoint := ⟨t.header.context.authorizingControlStateSha256, epoch, epoch⟩
      revision })

/-- The lineage from the admission that this device confirmed. -/
def admissionLineage (store : MembershipStore) (stored : Stored) (confirmed : ConfirmedV2Transcript)
    (signature : Ed25519SignatureBytes) (budget : MembershipHistoryBudget) :
    Except VaultError VerifiedMembershipLineage := do
  let certificate := confirmed.payload.grant.certificate
  let statement ← orFail (DeviceMembershipAddStatementV1.fromApprovedPayloadV2 P
    confirmed.canonicalBytes) membershipInvalid
  let successor ← orFail (statement.controlStateSha256 P signature) membershipInvalid
  let hash := P.sha256 confirmed.canonicalBytes
  let saved ← present (store.confirmedAdmissions.find? certificate.deviceId) .database
  require (saved.successor = successor ∧ saved.transcriptHash = hash) .database
  orFail (verifySignature P certificate.signingPublicKey
    (admissionPreimage stored certificate.deviceId successor hash) saved.signature)
    membershipInvalid
  lineage P stored ⟨successor, statement.controlEpoch, statement.keyEpoch⟩ budget

/-- One accepted page, opened again: its keys must be the ones that are kept. A page that is
submitted again must be the accepted one. -/
def replayPage (tables : TransferTables) (store : MembershipStore) (stored : Stored)
    (device : DeviceId) (id : OperationId) (page : Option ((Nat × Sha256Digest) × Bytes))
    (trust : EpochOneTrust) (keys : DeviceKeys) (budget : MembershipHistoryBudget)
    (reached : VerifiedHistoricalTransfer × CommitDisposition) (index : Nat) :
    Except VaultError (VerifiedHistoricalTransfer × CommitDisposition) := do
  let raw ← present (tables.pages.find? (toLex (id, index))) .database
  require (1 ≤ raw.length ∧ raw.length ≤ 16384) .database
  let again := page.filter fun submitted => decide (submitted.1.1 = index)
  require (∀ submitted ∈ again, reached.1.nextPage = some submitted.1 ∧ submitted.2 = raw)
    .operationConflict
  let (bundles, verified) ← orFail (reached.1.openNextPage P raw keys trust) membershipInvalid
  bundles.forM fun bundle => do
    let kept ← loadSecret P store stored device bundle.keyEpoch false keys budget
    let kept ← present kept membershipInvalid
    require (encodePairingKeyBundle kept = encodePairingKeyBundle bundle) membershipInvalid
  pure (verified, if again.isSome then .exactReplay else reached.2)

/-- A new page: keep its keys, the page itself, and the cursor behind it. -/
def commitPage (draw : Nat → Nat) (tables : TransferTables) (store : MembershipStore)
    (stored : Stored) (device : DeviceId) (id : OperationId) (t : Transfer)
    (page : (Nat × Sha256Digest) × Bytes) (trust : EpochOneTrust) (keys : DeviceKeys)
    (budget : MembershipHistoryBudget) (verified : VerifiedHistoricalTransfer) :
    Except VaultError (VerifiedHistoricalTransfer × TransferTables × MembershipStore) := do
  require (verified.nextPage = some page.1) .operationConflict
  let (bundles, verified) ← orFail (verified.openNextPage P page.2 keys trust) membershipInvalid
  let store ← thread (fun store (bundle : PairingKeyBundle) =>
    retain P (draw bundle.keyEpoch) store stored device bundle false (P.sha256 t.raw) keys budget)
    store bundles
  let pages ← present (tables.pages.insert? (toLex (id, page.1.1)) page.2) .database
  let row ← present (tables.transfers.find? id) .operationConflict
  require ((row.nextIndex, row.nextHash) = page.1) .operationConflict
  let next := verified.nextPage.getD (t.header.context.pageCount, .zero)
  pure (verified, { tables with
    pages
    transfers := tables.transfers.upsert id
      { row with nextIndex := next.1, nextHash := next.2 } }, store)

/-- Replay the accepted pages of the selected transfer, and accept one more if one is given. -/
def replayHistoricalTransfer (draw : Nat → Nat) (tables : TransferTables) (store : MembershipStore)
    (selected : HistoricalTransferSelection) (confirmed : ConfirmedV2Transcript)
    (signature : Ed25519SignatureBytes) (page : Option ((Nat × Sha256Digest) × Bytes))
    (keys : DeviceKeys) (budget : HistoricalTransferBudget) :
    Except VaultError (HistoricalTransferProgress × CommitDisposition × TransferTables ×
      MembershipStore) := do
  let device := confirmed.payload.grant.certificate.deviceId
  let loaded ← load P store budget.history
  let stored ← present loaded membershipInvalid
  let _ ← endpointCheck P stored selected.authorizingEndpoint device keys budget.history
  let current ← selection P tables device budget
  require (current = some selected) .operationConflict
  let found ← loadTransfer P tables selected.transferId budget
  let t ← present found membershipInvalid
  let proof ← admissionLineage P store stored confirmed signature budget.history
  let authority ← orFail (HistoricalTransferAuthority.new P proof confirmed signature
    selected.transferId t.header.context.exporterDeviceId t.checkpoint) membershipInvalid
  let verified ← orFail (authority.verifyHeader P t.raw) membershipInvalid
  let genesis ← loadSecret P store stored device 1 false keys budget.history
  -- An admission at epoch one brought these keys; their loss does not let an exporter replace them.
  require (¬ (genesis = none ∧ confirmed.payload.grant.keyEpoch = 1 ∧
    0 < t.header.context.pageCount)) membershipInvalid
  let trust := genesis.elim .activeExporterAssertion .previouslyTrusted
  let accepted := tables.pages.rows.filter fun row =>
    decide ((ofLex row.1).1 = selected.transferId)
  require (accepted.length = t.index ∧ accepted.length ≤ budget.maxPages ∧
    (accepted.map fun row => row.2.length).sum + t.raw.length + t.checkpoint.length +
      (page.map fun submitted => submitted.2.length).getD 0 ≤ budget.maxBytes) .budgetExceeded
  let (verified, disposition) ← thread (replayPage P tables store stored device selected.transferId
    page trust keys budget.history) (verified, .inserted) (List.range t.index)
  let cursor := if t.index = t.header.context.pageCount ∧ t.hash = .zero then none
    else some (t.index, t.hash)
  require (verified.nextPage = cursor ∧ (verified.inventoryVerified → t.hash = .zero))
    membershipInvalid
  match page with
  | some submitted =>
    if disposition = .exactReplay then
      pure (⟨selected, verified.nextPage, decide verified.inventoryVerified⟩, disposition, tables,
        store)
    else do
      let (verified, tables, store) ← commitPage P draw tables store stored device
        selected.transferId t submitted trust keys budget.history verified
      pure (⟨selected, verified.nextPage, decide verified.inventoryVerified⟩, disposition, tables,
        store)
  | none =>
    pure (⟨selected, verified.nextPage, decide verified.inventoryVerified⟩, disposition, tables,
      store)

def commitHistoricalTransferPage (draw : Nat → Nat) (tables : TransferTables)
    (store : MembershipStore) (selected : HistoricalTransferSelection)
    (confirmed : ConfirmedV2Transcript) (signature : Ed25519SignatureBytes)
    (expectedPage : Nat × Sha256Digest) (ciphertext : Bytes) (keys : DeviceKeys)
    (budget : HistoricalTransferBudget) :
    Except VaultError (CommitDisposition × TransferTables × MembershipStore) := do
  require (ciphertext.length ≤ maxPageBytes) .budgetExceeded
  let (_, disposition, tables, store) ← replayHistoricalTransfer P draw tables store selected
    confirmed signature (some (expectedPage, ciphertext)) keys budget
  pure (disposition, tables, store)

end

end ContextRelay.Membership
