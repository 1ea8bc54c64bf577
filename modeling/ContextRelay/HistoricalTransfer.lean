import ContextRelay.MembershipMaterial

/-! The transfer of historical keys: an exporter hands a new device the key bundle of every epoch
before the current one. The bundles travel in encrypted pages of at most thirty-two; the pages are
built from the last one backwards, because each commits to the hash of its successor, and the
exporter signs a header that commits to the first. The recipient opens them forwards, and checks
each bundle against the scope, the enrollment and the rotation that created its epoch. -/
namespace ContextRelay.Membership

open Library Library.Cbor
open CanonicalCbor (key)

def headerDomain : Bytes := utf8 "context-relay/historical-key-transfer/v1\x00"
def pageDomain : Bytes := utf8 "context-relay/historical-key-page/v1\x00"
def maxPageBytes : Nat := 16 * 1024
def bundlesPerPage : Nat := 32
def maxBundleBytes : Nat := 160
def maxEpoch : Nat := 2 ^ 32 - 1

def pageCount (last : Nat) : Nat := (last + (bundlesPerPage - 1)) / bundlesPerPage

/-- The first epoch of a page and how many it holds. The product and the sum are checked. -/
def pageInventory (last index : Nat) : Except CryptoError (Nat × Nat) := do
  require (index < pageCount last) .invalidProtocolValue
  require (index * bundlesPerPage ≤ maxEpoch ∧ index * bundlesPerPage + 1 ≤ maxEpoch)
    .invalidProtocolValue
  let first := index * bundlesPerPage + 1
  pure (first, min (last - first + 1) bundlesPerPage)

/-! ## Header -/

structure TransferContext where
  transferId : OperationId
  accountId : AccountId
  workspaceId : WorkspaceId
  pairingMembershipSuccessorSha256 : Sha256Digest
  authorizingControlStateSha256 : Sha256Digest
  recipientDeviceId : DeviceId
  recipientCertificateSha256 : Sha256Digest
  enrollmentRecordSha256 : Sha256Digest
  exporterDeviceId : DeviceId
  checkpointSha256 : Sha256Digest
  lastHistoricalKeyEpoch : Nat
  pageCount : Nat
deriving DecidableEq

/-- The fields of a context, each at its fixed width. -/
@[irreducible] def TransferContext.write (context : TransferContext) : Bytes :=
  bigEndian 2 1 ++ (context.transferId.bytes ++ (context.accountId.bytes ++
    (context.workspaceId.bytes ++ (context.pairingMembershipSuccessorSha256.bytes ++
    (context.authorizingControlStateSha256.bytes ++ (context.recipientDeviceId.bytes ++
    (context.recipientCertificateSha256.bytes ++ (context.enrollmentRecordSha256.bytes ++
    (context.exporterDeviceId.bytes ++ (context.checkpointSha256.bytes ++
    (bigEndian 4 context.lastHistoricalKeyEpoch ++ bigEndian 4 context.pageCount)))))))))))

def TransferContext.bytes (context : TransferContext) : Except CryptoError Bytes := do
  require (context.lastHistoricalKeyEpoch ≠ maxEpoch ∧
    context.pageCount = Membership.pageCount context.lastHistoricalKeyEpoch ∧
    Sha256Digest.zero ∉ [context.pairingMembershipSuccessorSha256,
      context.authorizingControlStateSha256, context.recipientCertificateSha256,
      context.enrollmentRecordSha256, context.checkpointSha256]) .invalidProtocolValue
  pure context.write

structure HistoricalTransferHeader where
  context : TransferContext
  firstPageSha256 : Sha256Digest
  signature : Ed25519SignatureBytes
deriving DecidableEq

namespace HistoricalTransferHeader

def preimage (header : HistoricalTransferHeader) : Except CryptoError Bytes := do
  require (header.context.pageCount = 0 ↔ header.firstPageSha256 = .zero) .invalidProtocolValue
  let context ← header.context.bytes
  pure (headerDomain ++ context ++ header.firstPageSha256.bytes)

def canonicalBytes (header : HistoricalTransferHeader) : Except CryptoError Bytes := do
  let preimage ← header.preimage
  pure (preimage ++ header.signature.bytes)

/-- An identifier in sixteen plain bytes. -/
def takeId {kind : IdKind} : Reader CryptoError (Id kind) := do
  let bytes ← Reader.take 16 .invalidProtocolValue
  Reader.lift (present (Id.ofBytes? bytes) .invalidProtocolValue)

def read : Reader CryptoError HistoricalTransferHeader := do
  Reader.literal headerDomain .invalidProtocolValue
  let version ← Reader.number 2 .invalidProtocolValue
  Reader.lift (require (version = 1) .invalidProtocolValue)
  let transferId ← takeId
  let accountId ← takeId
  let workspaceId ← takeId
  let successor ← Reader.fixed 32 .invalidProtocolValue
  let authorizing ← Reader.fixed 32 .invalidProtocolValue
  let recipientDeviceId ← takeId
  let recipientCertificate ← Reader.fixed 32 .invalidProtocolValue
  let enrollmentRecord ← Reader.fixed 32 .invalidProtocolValue
  let exporterDeviceId ← takeId
  let checkpoint ← Reader.fixed 32 .invalidProtocolValue
  let lastHistoricalKeyEpoch ← Reader.number 4 .invalidProtocolValue
  let pageCount ← Reader.number 4 .invalidProtocolValue
  let firstPage ← Reader.fixed 32 .invalidProtocolValue
  let signature ← Reader.fixed 64 .invalidProtocolValue
  pure {
    context := {
      transferId, accountId, workspaceId
      pairingMembershipSuccessorSha256 := ⟨successor⟩
      authorizingControlStateSha256 := ⟨authorizing⟩
      recipientDeviceId
      recipientCertificateSha256 := ⟨recipientCertificate⟩
      enrollmentRecordSha256 := ⟨enrollmentRecord⟩
      exporterDeviceId
      checkpointSha256 := ⟨checkpoint⟩
      lastHistoricalKeyEpoch, pageCount }
    firstPageSha256 := ⟨firstPage⟩
    signature := ⟨signature⟩ }

def decode (input : Bytes) : Except CryptoError HistoricalTransferHeader := do
  require (input.length = headerDomain.length + 346) .invalidProtocolValue
  let (header, _) ← read input
  let canonical ← header.canonicalBytes
  require (canonical = input) .invalidProtocolValue
  pure header

end HistoricalTransferHeader

/-! ## Pages -/

structure TransferPage where
  index : Nat
  firstKeyEpoch : Nat
  bundleCount : Nat
  nextPageSha256 : Sha256Digest
  envelope : WrappedKeyEnvelope
deriving DecidableEq

namespace TransferPage

@[irreducible] def write (page : TransferPage) : Bytes :=
  head .map 5 ++
    (key 0 ++ unsigned page.index) ++
    (key 1 ++ unsigned page.firstKeyEpoch) ++
    (key 2 ++ unsigned page.bundleCount) ++
    (key 3 ++ byteString page.nextPageSha256.bytes) ++
    (key 4 ++ encodeWrappedEnvelope page.envelope)

section
variable (P : ControlPrimitives)

def canonicalBytes (page : TransferPage) : Except CryptoError Bytes := do
  require (page.firstKeyEpoch ≠ 0 ∧ (1 ≤ page.bundleCount ∧ page.bundleCount ≤ bundlesPerPage) ∧
    16 ≤ page.envelope.ciphertext.length ∧ page.envelope.ciphertext.length ≤ maxPageBytes)
    .invalidProtocolValue
  validateX25519PublicKey P page.envelope.ephemeralPublicKey
  require (page.write.length ≤ maxPageBytes) .invalidProtocolValue
  pure page.write

def read : Reader CryptoError TransferPage := do
  requireMap .invalidProtocolValue 5
  let index ← field .invalidProtocolValue 0 (readUnsigned .invalidProtocolValue (2 ^ 32))
  let firstKeyEpoch ← field .invalidProtocolValue 1 (readUnsigned .invalidProtocolValue (2 ^ 32))
  let bundleCount ← field .invalidProtocolValue 2 (readUnsigned .invalidProtocolValue (2 ^ 32))
  let next ← field .invalidProtocolValue 3 (readFixed .invalidProtocolValue)
  let envelope ← field .invalidProtocolValue 4
    (decodeWrappedEnvelopeWithLimit .invalidProtocolValue maxPageBytes)
  pure ⟨index, firstKeyEpoch, bundleCount, ⟨next⟩, envelope⟩

def decode (raw : Bytes) : Except CryptoError TransferPage := do
  require (raw.length ≤ maxPageBytes) .invalidProtocolValue
  let (page, rest) ← read raw
  require (rest = []) .invalidProtocolValue
  let canonical ← page.canonicalBytes P
  require (canonical = raw) .invalidProtocolValue
  pure page

end

/-- What the page's cipher authenticates besides its contents. -/
def aad (page : TransferPage) (context : TransferContext) : Except CryptoError Bytes := do
  let context ← context.bytes
  pure (pageDomain ++ context ++ bigEndian 4 page.index ++ bigEndian 4 page.firstKeyEpoch ++
    bigEndian 4 page.bundleCount ++ page.nextPageSha256.bytes)

end TransferPage

/-! ## Authority -/

/-- How the keys of the first epoch are trusted, which no rotation commits to. -/
inductive EpochOneTrust where
  | activeExporterAssertion
  | previouslyTrusted (bundle : PairingKeyBundle)
deriving DecidableEq

structure HistoricalTransferAuthority where
  context : TransferContext
  lineage : VerifiedMembershipLineage

namespace HistoricalTransferAuthority

section
variable (P : ControlPrimitives)

/-- The authority of a transfer, from a lineage that the confirmed admission anchors and an
exporter that is active at its end and signed the checkpoint. -/
def new (lineage : VerifiedMembershipLineage) (confirmed : ConfirmedV2Transcript)
    (membershipSignature : Ed25519SignatureBytes) (transferId : OperationId) (exporter : DeviceId)
    (checkpointBytes : Bytes) : Except CryptoError HistoricalTransferAuthority := do
  let s := lineage.history.state
  let p := confirmed.payload
  let certificate := p.grant.certificate
  let statement ← DeviceMembershipAddStatementV1.fromApprovedPayloadV2 P confirmed.canonicalBytes
  let anchor := lineage.anchor
  let successor ← statement.controlStateSha256 P membershipSignature
  require (successor = anchor.stateSha256 ∧ statement.controlEpoch = anchor.controlEpoch ∧
    statement.keyEpoch = anchor.keyEpoch ∧ certificate.accountId = s.scope.accountId ∧
    certificate.workspaceId = s.scope.workspaceId ∧
    s.activeDevices.find? certificate.deviceId = some certificate ∧
    lineage.history.admissions.find? certificate.deviceId = some p.grant.certificateId)
    .authenticationFailed
  let parent ← lineage.history.pairingParent exporter
  require (parent.enrollmentRecordSha256 = p.enrollmentRecordSha256) .authenticationFailed
  let preimage ← statement.signingPreimage
  verifySignature P p.issuerCertificate.signingPublicKey preimage membershipSignature
  let exporterCertificate ← present (s.activeDevices.find? exporter) .authenticationFailed
  let checkpoint ← orFail (decodeCheckpointV1 P.toPrimitives checkpointBytes) .invalidProtocolValue
  require (checkpoint.accountId = s.scope.accountId ∧
    checkpoint.workspaceId = s.scope.workspaceId ∧ checkpoint.keyEpoch = s.keyEpoch ∧
    checkpoint.creatorDevice = exporter ∧ checkpoint.createdHlc.node = exporter)
    .authenticationFailed
  let signed ← orFail (encodeCheckpointSigningPreimageV1 P.toPrimitives checkpoint)
    .invalidProtocolValue
  verifySignature P exporterCertificate.signingPublicKey signed checkpoint.signature
  require (s.keyEpoch ≠ 0) .authenticationFailed
  let last := s.keyEpoch - 1
  let context : TransferContext := {
    transferId
    accountId := s.scope.accountId
    workspaceId := s.scope.workspaceId
    pairingMembershipSuccessorSha256 := anchor.stateSha256
    authorizingControlStateSha256 := s.stateSha256
    recipientDeviceId := certificate.deviceId
    recipientCertificateSha256 := certificateDigest P certificate
    enrollmentRecordSha256 := p.enrollmentRecordSha256
    exporterDeviceId := exporter
    checkpointSha256 := P.sha256 checkpointBytes
    lastHistoricalKeyEpoch := last
    pageCount := pageCount last }
  let _ ← context.bytes
  pure ⟨context, lineage⟩

/-- The certificate of a device at the end of the lineage. The recipient and the exporter of an
authority are active there. -/
def certificateOf (authority : HistoricalTransferAuthority) (device : DeviceId) :
    Except CryptoError DeviceCertificateV1 :=
  present (authority.lineage.history.state.activeDevices.find? device) .authenticationFailed

def checkKeys (authority : HistoricalTransferAuthority) (device : DeviceId) (keys : DeviceKeys) :
    Except CryptoError Unit := do
  let certificate ← authority.certificateOf device
  require (certificate.signingPublicKey = P.signingPublicKey keys ∧
    certificate.wrappingPublicKey = P.wrappingPublicKey keys) .invalidKey

def checkBundle (authority : HistoricalTransferAuthority) (bundle : PairingKeyBundle) (epoch : Nat)
    (genesis : EpochOneTrust) : Except CryptoError Unit := do
  let c := authority.context
  require (bundle.accountId = c.accountId ∧ bundle.workspaceId = c.workspaceId ∧
    bundle.keyEpoch = epoch ∧
    bundle.enrollmentRecordSha256 = some c.enrollmentRecordSha256) .authenticationFailed
  if epoch = 1 then do
    require (bundle.controlEpoch = 1) .authenticationFailed
    match genesis with
    | .activeExporterAssertion => pure ()
    | .previouslyTrusted trusted =>
      require (encodePairingKeyBundle bundle = encodePairingKeyBundle trusted)
        .authenticationFailed
  else do
    let commitment ← present authority.lineage.rotatedKeyCommitments[epoch - 2]?
      .authenticationFailed
    require (commitment.keyEpoch = epoch ∧ commitment.controlEpoch = bundle.controlEpoch)
      .authenticationFailed
    let same ← keyMaterialMatches P bundle commitment.keyMaterialSha256
    require (same = true) .authenticationFailed

/-- The bundles from an epoch on, each in a byte string, each checked. -/
def writeBundles (authority : HistoricalTransferAuthority) (genesis : EpochOneTrust) :
    Nat → List PairingKeyBundle → Except CryptoError Bytes
  | _, [] => pure []
  | epoch, bundle :: bundles => do
    checkBundle P authority bundle epoch genesis
    let rest ← writeBundles authority genesis (epoch + 1) bundles
    pure (byteString (encodePairingKeyBundle bundle) ++ rest)

def buildPage (authority : HistoricalTransferAuthority) (draw index : Nat) (next : Sha256Digest)
    (bundles : List PairingKeyBundle) (genesis : EpochOneTrust) : Except CryptoError Bytes := do
  let (first, count) ← pageInventory authority.context.lastHistoricalKeyEpoch index
  require (bundles.length = count ∧ (index + 1 = authority.context.pageCount ↔ next = .zero))
    .invalidProtocolValue
  let written ← authority.writeBundles P genesis first bundles
  let recipient ← authority.certificateOf authority.context.recipientDeviceId
  let page : TransferPage :=
    ⟨index, first, count, next, ⟨recipient.wrappingPublicKey, ⟨.zero⟩, []⟩⟩
  let aad ← page.aad authority.context
  let envelope ← P.wrapSecret draw recipient.wrappingPublicKey (head .array count ++ written) aad
  TransferPage.canonicalBytes P { page with envelope }

def signHeader (authority : HistoricalTransferAuthority) (firstPageSha256 : Sha256Digest)
    (keys : DeviceKeys) : Except CryptoError HistoricalTransferHeader := do
  authority.checkKeys P authority.context.exporterDeviceId keys
  let header : HistoricalTransferHeader := ⟨authority.context, firstPageSha256, ⟨.zero⟩⟩
  let preimage ← header.preimage
  pure { header with signature := P.sign keys preimage }

end

end HistoricalTransferAuthority

/-! ## Opening -/

/-- How far the pages of a transfer are verified. -/
structure VerifiedHistoricalTransfer where
  authority : HistoricalTransferAuthority
  nextIndex : Nat
  nextHash : Sha256Digest

namespace VerifiedHistoricalTransfer

def inventoryVerified (transfer : VerifiedHistoricalTransfer) : Prop :=
  transfer.nextIndex = transfer.authority.context.pageCount ∧ transfer.nextHash = .zero

instance (transfer : VerifiedHistoricalTransfer) : Decidable transfer.inventoryVerified :=
  inferInstanceAs (Decidable (_ ∧ _))

def nextPage (transfer : VerifiedHistoricalTransfer) : Option (Nat × Sha256Digest) :=
  if transfer.inventoryVerified then none else some (transfer.nextIndex, transfer.nextHash)

section
variable (P : ControlPrimitives)

/-- Read and check the bundles from an epoch on; each is kept with the bytes it was read from. -/
def readBundles (authority : HistoricalTransferAuthority) (genesis : EpochOneTrust) :
    Nat → Nat → Reader CryptoError (List (Bytes × PairingKeyBundle))
  | _, 0 => pure []
  | epoch, count + 1 => do
    let raw ← readString .invalidProtocolValue .bytes
    Reader.lift (require (raw.length ≤ maxBundleBytes) .invalidProtocolValue)
    let bundle ← Reader.lift (decodePairingKeyBundle raw)
    Reader.lift (authority.checkBundle P bundle epoch genesis)
    let rest ← readBundles authority genesis (epoch + 1) count
    pure ((raw, bundle) :: rest)

/-- The plaintext that a list of bundle encodings is written as. -/
def canonicalPlaintext (count : Nat) (raws : List Bytes) : Bytes :=
  head .array count ++ raws.flatMap byteString

def openPlaintext (authority : HistoricalTransferAuthority) (genesis : EpochOneTrust)
    (first count : Nat) (plaintext : Bytes) : Except CryptoError (List PairingKeyBundle) := do
  let (found, rest) ← readHead CryptoError.invalidProtocolValue .array plaintext
  require (found = some count) .invalidProtocolValue
  let (items, rest) ← readBundles P authority genesis first count rest
  require (rest = [] ∧ canonicalPlaintext count (items.map Prod.fst) = plaintext)
    .invalidProtocolValue
  pure (items.map Prod.snd)

/-- Open the page the cursor waits for. The cursor moves only when the page is accepted. -/
def openNextPage (transfer : VerifiedHistoricalTransfer) (raw : Bytes) (keys : DeviceKeys)
    (genesis : EpochOneTrust) :
    Except CryptoError (List PairingKeyBundle × VerifiedHistoricalTransfer) := do
  let a := transfer.authority
  a.checkKeys P a.context.recipientDeviceId keys
  require (raw.length ≤ maxPageBytes ∧ ¬ transfer.inventoryVerified ∧
    P.sha256 raw = transfer.nextHash) .authenticationFailed
  let page ← TransferPage.decode P raw
  let (first, count) ← pageInventory a.context.lastHistoricalKeyEpoch transfer.nextIndex
  require (page.index = transfer.nextIndex ∧ page.firstKeyEpoch = first ∧
    page.bundleCount = count ∧
    (page.index + 1 = a.context.pageCount ↔ page.nextPageSha256 = .zero)) .authenticationFailed
  let aad ← page.aad a.context
  let plaintext ← P.unwrapSecret keys page.envelope aad
  let bundles ← openPlaintext P a genesis first count plaintext
  pure (bundles, { transfer with
    nextIndex := transfer.nextIndex + 1
    nextHash := page.nextPageSha256 })

end

end VerifiedHistoricalTransfer

/-- A signed header of the authority's context starts the cursor at its first page. -/
def HistoricalTransferAuthority.verifyHeader (P : ControlPrimitives)
    (authority : HistoricalTransferAuthority) (raw : Bytes) :
    Except CryptoError VerifiedHistoricalTransfer := do
  let header ← HistoricalTransferHeader.decode raw
  require (header.context = authority.context) .authenticationFailed
  let exporter ← authority.certificateOf authority.context.exporterDeviceId
  let preimage ← header.preimage
  verifySignature P exporter.signingPublicKey preimage header.signature
  pure ⟨authority, 0, header.firstPageSha256⟩

end ContextRelay.Membership
