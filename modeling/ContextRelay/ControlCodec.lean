import ContextRelay.CanonicalCbor
import ContextRelay.Operation

/-! The signed objects of the device control plane and their canonical encodings: device
certificates, wrapped keys, pairing requests, pairing approvals, recovery enrollments and
recovery claims. As for operations, a decoder takes what the CBOR library reads, checks the
object it got and compares the object's own encoding with its input. -/
namespace ContextRelay.Membership

open Library Library.Cbor
open CanonicalCbor (key)

inductive CryptoError where
  | invalidPhrase
  | invalidKey
  | authenticationFailed
  | nonceReuse
  | randomnessUnavailable
  | invalidProtocolValue
deriving DecidableEq

inductive RecoveryEnrollmentCryptoError where
  | invalidRecord
  | crypto (source : CryptoError)
deriving DecidableEq

inductive RecoveryRestoreCryptoError where
  | invalidRecovery
deriving DecidableEq

structure WrappedKeyEnvelope where
  ephemeralPublicKey : X25519PublicKeyBytes
  nonce : XChaChaNonce
  ciphertext : Bytes
deriving DecidableEq

/-- The sync layer's primitives with what the control plane needs besides: which byte strings
are usable public keys, and the sealing of keys for a recipient. Sealing draws from the random
generator; what it draws is an argument. -/
structure ControlPrimitives extends Primitives where
  validEd25519PublicKey : Ed25519PublicKeyBytes → Bool
  validX25519PublicKey : X25519PublicKeyBytes → Bool
  wrapSecret : Nat → X25519PublicKeyBytes → Bytes → Bytes → Except CryptoError WrappedKeyEnvelope
  unwrapSecret : DeviceKeys → WrappedKeyEnvelope → Bytes → Except CryptoError Bytes

def maxPairingRequestBytes : Nat := 8 * 1024
def maxPairingGrantBytes : Nat := 16 * 1024
def maxPairingApprovedPayloadBytes : Nat := 32 * 1024
def maxPairingIssuerDeviceNameBytes : Nat := 256
def maxRecoveryEnrollmentRecordBytes : Nat := 32 * 1024
def maxRecoveryDeviceClaimBytes : Nat := 32 * 1024
def maxRecoveryDeviceNameBytes : Nat := 256
def minWrappedCiphertextBytes : Nat := 16
def pairingSchemaVersion : Nat := 1
def recoveryEnrollmentSchemaVersion : Nat := 1
def recoveryDeviceClaimSchemaVersion : Nat := 2

/-- Nothing is left of the text once it is trimmed. -/
def blank (value : String) : Bool := value.toList.all isWhitespace

/-! ## Keys and signatures -/

section
variable (P : ControlPrimitives)

def validateEd25519PublicKey (key : Ed25519PublicKeyBytes) : Except CryptoError Unit :=
  require (P.validEd25519PublicKey key) .invalidKey

def validateX25519PublicKey (key : X25519PublicKeyBytes) : Except CryptoError Unit :=
  require (P.validX25519PublicKey key) .invalidKey

def verifySignature (key : Ed25519PublicKeyBytes) (message : Bytes)
    (signature : Ed25519SignatureBytes) : Except CryptoError Unit := do
  validateEd25519PublicKey P key
  require (P.verifySignature key message signature) .authenticationFailed

end

/-! ## Parts

The helpers stand once for each error type in the source; every failure of one of them is the
error given here. -/

section
variable {ε : Type} (failure : ε)

def expectKey (number : Nat) : Reader ε Unit := do
  let found ← readUnsigned failure (2 ^ 8)
  Reader.lift (require (found = number) failure)

/-- The entry of a map: its key, then its value. -/
def field (number : Nat) (value : Reader ε α) : Reader ε α := do
  expectKey failure number
  value

def requireMap (size : Nat) : Reader ε Unit := do
  let found ← readHead failure .map
  Reader.lift (require (found = some size) failure)

def readFixed {width : Nat} : Reader ε (Fixed width) := do
  let bytes ← readString failure .bytes
  Reader.lift (present (Fixed.ofBytes? bytes) failure)

def decodeId {kind : IdKind} : Reader ε (Id kind) := do
  let bytes ← readString failure .bytes
  Reader.lift (present (Id.ofBytes? bytes) failure)

def encodeNativePlatform : NativePlatform → Nat
  | .windows => 0
  | .macos => 1

def decodeNativePlatform : Nat → Except ε NativePlatform
  | 0 => .ok .windows
  | 1 => .ok .macos
  | _ => .error failure

/-! ## Certificates and envelopes -/

def encodeIssuer : CertificateIssuerV1 → Bytes
  | .recoveryRoot signingPublicKey =>
    head .map 2 ++ (key 0 ++ unsigned 0) ++ (key 1 ++ byteString signingPublicKey.bytes)
  | .device deviceId signingPublicKey =>
    head .map 3 ++ (key 0 ++ unsigned 1) ++ (key 1 ++ byteString deviceId.bytes) ++
      (key 2 ++ byteString signingPublicKey.bytes)

def decodeIssuer : Reader ε CertificateIssuerV1 := do
  let found ← readHead failure .map
  let size ← Reader.lift (present found failure)
  let tag ← field failure 0 (readUnsigned failure (2 ^ 8))
  if tag = 0 ∧ size = 2 then do
    let signingPublicKey ← field failure 1 (readFixed failure)
    pure (.recoveryRoot ⟨signingPublicKey⟩)
  else if tag = 1 ∧ size = 3 then do
    let deviceId ← field failure 1 (decodeId failure)
    let signingPublicKey ← field failure 2 (readFixed failure)
    pure (.device deviceId ⟨signingPublicKey⟩)
  else Reader.fail failure

@[irreducible] def encodeCertificateV1 (certificate : DeviceCertificateV1) : Bytes :=
  head .map 9 ++
    (key 0 ++ encodeIssuer certificate.issuer) ++
    (key 1 ++ byteString certificate.accountId.bytes) ++
    (key 2 ++ byteString certificate.workspaceId.bytes) ++
    (key 3 ++ unsigned certificate.controlEpoch) ++
    (key 4 ++ byteString certificate.requestNonce.bytes) ++
    (key 5 ++ byteString certificate.deviceId.bytes) ++
    (key 6 ++ byteString certificate.signingPublicKey.bytes) ++
    (key 7 ++ byteString certificate.wrappingPublicKey.bytes) ++
    (key 8 ++ byteString certificate.signature.bytes)

def decodeCertificateV1 : Reader ε DeviceCertificateV1 := do
  requireMap failure 9
  let issuer ← field failure 0 (decodeIssuer failure)
  let accountId ← field failure 1 (decodeId failure)
  let workspaceId ← field failure 2 (decodeId failure)
  let controlEpoch ← field failure 3 (readUnsigned failure (2 ^ 32))
  let requestNonce ← field failure 4 (readFixed failure)
  let deviceId ← field failure 5 (decodeId failure)
  let signingPublicKey ← field failure 6 (readFixed failure)
  let wrappingPublicKey ← field failure 7 (readFixed failure)
  let signature ← field failure 8 (readFixed failure)
  pure {
    issuer, accountId, workspaceId, controlEpoch
    requestNonce := ⟨requestNonce⟩
    deviceId
    signingPublicKey := ⟨signingPublicKey⟩
    wrappingPublicKey := ⟨wrappingPublicKey⟩
    signature := ⟨signature⟩ }

@[irreducible] def encodeWrappedEnvelope (envelope : WrappedKeyEnvelope) : Bytes :=
  head .map 3 ++
    (key 0 ++ byteString envelope.ephemeralPublicKey.bytes) ++
    (key 1 ++ byteString envelope.nonce.bytes) ++
    (key 2 ++ byteString envelope.ciphertext)

def decodeWrappedEnvelopeWithLimit (maxCiphertextBytes : Nat) : Reader ε WrappedKeyEnvelope := do
  requireMap failure 3
  let ephemeralPublicKey ← field failure 0 (readFixed failure)
  let nonce ← field failure 1 (readFixed failure)
  let ciphertext ← field failure 2 (readString failure .bytes)
  Reader.lift (require (minWrappedCiphertextBytes ≤ ciphertext.length ∧
    ciphertext.length ≤ maxCiphertextBytes) failure)
  pure ⟨⟨ephemeralPublicKey⟩, ⟨nonce⟩, ciphertext⟩

end

def CertificateIssuerV1.signingPublicKey : CertificateIssuerV1 → Ed25519PublicKeyBytes
  | .recoveryRoot signingPublicKey => signingPublicKey
  | .device _ signingPublicKey => signingPublicKey

def CertificateIssuerV1.preimage : CertificateIssuerV1 → Bytes
  | .recoveryRoot signingPublicKey => 0 :: signingPublicKey.bytes
  | .device deviceId signingPublicKey => 1 :: (deviceId.bytes ++ signingPublicKey.bytes)

@[irreducible] def certificateSigningPreimage (certificate : DeviceCertificateV1) : Bytes :=
  utf8 "context-relay/device-certificate/v1\x00" ++
    CertificateIssuerV1.preimage certificate.issuer ++
    certificate.accountId.bytes ++ certificate.workspaceId.bytes ++
    bigEndian 4 certificate.controlEpoch ++ certificate.requestNonce.bytes ++
    certificate.deviceId.bytes ++ certificate.signingPublicKey.bytes ++
    certificate.wrappingPublicKey.bytes

section
variable (P : ControlPrimitives)

def certificateDigest (certificate : DeviceCertificateV1) : Sha256Digest :=
  P.sha256 (encodeCertificateV1 certificate)

def verifyIssuedBy (certificate : DeviceCertificateV1) (issuer : CertificateIssuerV1) :
    Except CryptoError Unit := do
  require (certificate.issuer = issuer) .authenticationFailed
  verifySignature P (CertificateIssuerV1.signingPublicKey issuer)
    (certificateSigningPreimage certificate) certificate.signature

def verifyGenesis (certificate : DeviceCertificateV1) (recoveryPublicKey : Ed25519PublicKeyBytes) :
    Except CryptoError Unit :=
  verifyIssuedBy P certificate (.recoveryRoot recoveryPublicKey)

end

/-! ## Pairing requests -/

structure PairingRequestV1 where
  schemaVersion : Nat
  pairingId : PairingId
  requestNonce : PairingRequestNonce
  deviceId : DeviceId
  deviceName : String
  platform : NativePlatform
  signingPublicKey : Ed25519PublicKeyBytes
  wrappingPublicKey : X25519PublicKeyBytes
  signature : Ed25519SignatureBytes
deriving DecidableEq

def PairingRequestV1.validate (request : PairingRequestV1) : Except ValidationError Unit := do
  require (request.schemaVersion = pairingSchemaVersion) (.invalid "schemaVersion")
  requiredText request.deviceName "deviceName" maxTitleBytes

@[irreducible] def encodeRequestMap (request : PairingRequestV1) (includeSignature : Bool) : Bytes :=
  head .map (if includeSignature then 9 else 8) ++
    (key 0 ++ unsigned request.schemaVersion) ++
    (key 1 ++ byteString request.pairingId.bytes) ++
    (key 2 ++ byteString request.requestNonce.bytes) ++
    (key 3 ++ byteString request.deviceId.bytes) ++
    (key 4 ++ text request.deviceName) ++
    (key 5 ++ unsigned (encodeNativePlatform request.platform)) ++
    (key 6 ++ byteString request.signingPublicKey.bytes) ++
    (key 7 ++ byteString request.wrappingPublicKey.bytes) ++
    (if includeSignature then key 8 ++ byteString request.signature.bytes else [])

section
open CanonicalCbor (bad dec)

def validateRequest (request : PairingRequestV1) : Except ProtocolError Unit :=
  orFail request.validate (bad "invalid pairing request")

def encodePairingRequestV1 (request : PairingRequestV1) : Except ProtocolError Bytes := do
  validateRequest request
  require ((encodeRequestMap request true).length ≤ maxPairingRequestBytes)
    (bad "pairing request too large")
  pure (encodeRequestMap request true)

def encodePairingRequestSigningPreimageV1 (request : PairingRequestV1) :
    Except ProtocolError Bytes := do
  validateRequest request
  pure (utf8 "context-relay/pairing-request/v1\x00" ++ encodeRequestMap request false)

/-- The fields of a pairing request, in their order. -/
def decodeRequest : CanonicalCbor.Decoder PairingRequestV1 := do
  CanonicalCbor.requireMap 9
  let schemaVersion ← CanonicalCbor.field 0 (readUnsigned dec (2 ^ 16))
  Reader.lift (require (schemaVersion = pairingSchemaVersion) (bad "unsupported schema"))
  let pairingId ← CanonicalCbor.field 1 (CanonicalCbor.readId "pairing id")
  let requestNonce ← CanonicalCbor.field 2 CanonicalCbor.readFixed
  let deviceId ← CanonicalCbor.field 3 (CanonicalCbor.readId "device id")
  let deviceName ← CanonicalCbor.field 4 (readText dec)
  Reader.lift (require (deviceName.utf8ByteSize ≤ maxTitleBytes) (bad "device name"))
  let platformCode ← CanonicalCbor.field 5 (readUnsigned dec (2 ^ 8))
  let platform ← Reader.lift (decodeNativePlatform (bad "platform") platformCode)
  let signingPublicKey ← CanonicalCbor.field 6 CanonicalCbor.readFixed
  let wrappingPublicKey ← CanonicalCbor.field 7 CanonicalCbor.readFixed
  let signature ← CanonicalCbor.field 8 CanonicalCbor.readFixed
  pure {
    schemaVersion, pairingId
    requestNonce := ⟨requestNonce⟩
    deviceId, deviceName, platform
    signingPublicKey := ⟨signingPublicKey⟩
    wrappingPublicKey := ⟨wrappingPublicKey⟩
    signature := ⟨signature⟩ }

def decodePairingRequestV1 (input : Bytes) : Except ProtocolError PairingRequestV1 := do
  require (input.length ≤ maxPairingRequestBytes) (bad "pairing request too large")
  let read ← decodeRequest input
  require (read.2 = []) (bad "trailing bytes")
  validateRequest read.1
  let canonical ← encodePairingRequestV1 read.1
  require (canonical = input) (bad "noncanonical encoding")
  pure read.1

end

/-- A pairing request whose signature was verified, with its canonical encoding and digest. -/
structure SignedPairingRequest where
  request : PairingRequestV1
  canonicalBytes : Bytes
  digest : Sha256Digest
deriving DecidableEq

section
variable (P : ControlPrimitives)

def validatePairingAlgorithmKeys (request : PairingRequestV1) : Except CryptoError Unit := do
  require (request.signingPublicKey.value ≠ request.wrappingPublicKey.value) .invalidKey
  validateEd25519PublicKey P request.signingPublicKey
  validateX25519PublicKey P request.wrappingPublicKey

def verifyPairingRequestSignature (request : PairingRequestV1) : Except CryptoError Unit := do
  validatePairingAlgorithmKeys P request
  let preimage ← orFail (encodePairingRequestSigningPreimageV1 request) .invalidProtocolValue
  verifySignature P request.signingPublicKey preimage request.signature

def verifyPairingRequest (request : PairingRequestV1) : Except CryptoError SignedPairingRequest := do
  verifyPairingRequestSignature P request
  let canonicalBytes ← orFail (encodePairingRequestV1 request) .invalidProtocolValue
  pure ⟨request, canonicalBytes, P.sha256 canonicalBytes⟩

def requireExactSignedRequest (request : SignedPairingRequest) : Except CryptoError Unit := do
  let verified ← verifyPairingRequest P request.request
  require (verified.digest = request.digest ∧ verified.canonicalBytes = request.canonicalBytes)
    .authenticationFailed

end

/-! ## Key bundles -/

structure PairingKeyBundle where
  accountId : AccountId
  workspaceId : WorkspaceId
  controlEpoch : Nat
  keyEpoch : Nat
  workspaceRootKey : Fixed 32
  activeEpochKey : Fixed 32
  enrollmentRecordSha256 : Option Sha256Digest
deriving DecidableEq

def PairingKeyBundle.new (scope : SyncScope) (controlEpoch keyEpoch : Nat)
    (workspaceRootKey activeEpochKey : Fixed 32) : Except CryptoError PairingKeyBundle := do
  require (controlEpoch ≠ 0 ∧ keyEpoch ≠ 0) .invalidProtocolValue
  pure ⟨scope.accountId, scope.workspaceId, controlEpoch, keyEpoch, workspaceRootKey,
    activeEpochKey, none⟩

def PairingKeyBundle.withEnrollmentRecordSha256 (bundle : PairingKeyBundle) (pin : Sha256Digest) :
    Except CryptoError PairingKeyBundle := do
  require (pin ≠ .zero) .invalidProtocolValue
  pure { bundle with enrollmentRecordSha256 := some pin }

def encodePin : Option Sha256Digest → Bytes
  | some pin => key 7 ++ byteString pin.bytes
  | none => []

@[irreducible] def encodePairingKeyBundle (bundle : PairingKeyBundle) : Bytes :=
  head .map (if bundle.enrollmentRecordSha256.isSome then 8 else 7) ++
    (key 0 ++ unsigned (if bundle.enrollmentRecordSha256.isSome then 2 else 1)) ++
    (key 1 ++ byteString bundle.accountId.bytes) ++
    (key 2 ++ byteString bundle.workspaceId.bytes) ++
    (key 3 ++ unsigned bundle.controlEpoch) ++
    (key 4 ++ unsigned bundle.keyEpoch) ++
    (key 5 ++ byteString bundle.workspaceRootKey.bytes) ++
    (key 6 ++ byteString bundle.activeEpochKey.bytes) ++
    encodePin bundle.enrollmentRecordSha256

section
variable {ε : Type} (failure : ε)

/-- The fields of a bundle: version two has a pin, version one has none. -/
def readKeyBundle : Reader ε (SyncScope × Nat × Nat × Fixed 32 × Fixed 32 × Option Sha256Digest) := do
  let fields ← readHead failure .map
  let version ← field failure 0 (readUnsigned failure (2 ^ 16))
  Reader.lift (require ((fields = some 7 ∧ version = 1) ∨ (fields = some 8 ∧ version = 2)) failure)
  let accountId ← field failure 1 (decodeId failure)
  let workspaceId ← field failure 2 (decodeId failure)
  let controlEpoch ← field failure 3 (readUnsigned failure (2 ^ 32))
  let keyEpoch ← field failure 4 (readUnsigned failure (2 ^ 32))
  let workspaceRootKey ← field failure 5 (readFixed failure)
  let activeEpochKey ← field failure 6 (readFixed failure)
  if version = 2 then do
    let pin ← field failure 7 (readFixed failure)
    pure (⟨accountId, workspaceId⟩, controlEpoch, keyEpoch, workspaceRootKey, activeEpochKey,
      some ⟨pin⟩)
  else
    pure (⟨accountId, workspaceId⟩, controlEpoch, keyEpoch, workspaceRootKey, activeEpochKey, none)

end

def decodePairingKeyBundle (input : Bytes) : Except CryptoError PairingKeyBundle := do
  let ((scope, controlEpoch, keyEpoch, rootKey, epochKey, pin), rest) ←
    readKeyBundle CryptoError.invalidProtocolValue input
  require (rest = []) .invalidProtocolValue
  let bundle ← PairingKeyBundle.new scope controlEpoch keyEpoch rootKey epochKey
  let bundle ← match pin with
    | some pin => bundle.withEnrollmentRecordSha256 pin
    | none => pure bundle
  require (encodePairingKeyBundle bundle = input) .invalidProtocolValue
  pure bundle

/-! ## Pairing approvals -/

structure PairingGrantV2 where
  schemaVersion : Nat
  pairingId : PairingId
  requestDigest : Sha256Digest
  certificateId : DeviceCertificateId
  certificate : DeviceCertificateV1
  keyEpoch : Nat
  wrappedKeyBundle : WrappedKeyEnvelope
deriving DecidableEq

def validateGrantV2Shape (grant : PairingGrantV2) : Except CryptoError Unit :=
  require (grant.schemaVersion = 2 ∧ grant.keyEpoch ≠ 0 ∧ grant.certificate.controlEpoch ≠ 0 ∧
    minWrappedCiphertextBytes ≤ grant.wrappedKeyBundle.ciphertext.length ∧
    grant.wrappedKeyBundle.ciphertext.length ≤ maxPairingGrantBytes) .invalidProtocolValue

@[irreducible] def encodePairingGrant (grant : PairingGrantV2) : Bytes :=
  head .map 7 ++
    (key 0 ++ unsigned grant.schemaVersion) ++
    (key 1 ++ byteString grant.pairingId.bytes) ++
    (key 2 ++ byteString grant.requestDigest.bytes) ++
    (key 3 ++ byteString grant.certificateId.bytes) ++
    (key 4 ++ encodeCertificateV1 grant.certificate) ++
    (key 5 ++ unsigned grant.keyEpoch) ++
    (key 6 ++ encodeWrappedEnvelope grant.wrappedKeyBundle)

def encodePairingGrantV2 (grant : PairingGrantV2) : Except CryptoError Bytes := do
  validateGrantV2Shape grant
  require ((encodePairingGrant grant).length ≤ maxPairingGrantBytes) .invalidProtocolValue
  pure (encodePairingGrant grant)

def decodePairingGrant : Reader CryptoError PairingGrantV2 := do
  requireMap CryptoError.invalidProtocolValue 7
  let schemaVersion ← field CryptoError.invalidProtocolValue 0
    (readUnsigned CryptoError.invalidProtocolValue (2 ^ 16))
  Reader.lift (require (schemaVersion = 2) .invalidProtocolValue)
  let pairingId ← field CryptoError.invalidProtocolValue 1 (decodeId .invalidProtocolValue)
  let requestDigest ← field CryptoError.invalidProtocolValue 2 (readFixed .invalidProtocolValue)
  let certificateId ← field CryptoError.invalidProtocolValue 3 (decodeId .invalidProtocolValue)
  let certificate ← field CryptoError.invalidProtocolValue 4
    (decodeCertificateV1 .invalidProtocolValue)
  let keyEpoch ← field CryptoError.invalidProtocolValue 5
    (readUnsigned .invalidProtocolValue (2 ^ 32))
  let wrappedKeyBundle ← field CryptoError.invalidProtocolValue 6
    (decodeWrappedEnvelopeWithLimit .invalidProtocolValue maxPairingGrantBytes)
  let grant : PairingGrantV2 := {
    schemaVersion, pairingId
    requestDigest := ⟨requestDigest⟩
    certificateId, certificate, keyEpoch, wrappedKeyBundle }
  Reader.lift (validateGrantV2Shape grant)
  pure grant

structure PairingApprovedPayloadV2 where
  schemaVersion : Nat
  grant : PairingGrantV2
  issuerCertificateId : DeviceCertificateId
  issuerCertificate : DeviceCertificateV1
  issuerDeviceName : String
  issuerPlatform : NativePlatform
  previousStateSha256 : Sha256Digest
  enrollmentRecordSha256 : Sha256Digest
deriving DecidableEq

/-- The version written is always two. -/
@[irreducible] def writeApprovedPayload (payload : PairingApprovedPayloadV2) : Bytes :=
  head .map 8 ++
    (key 0 ++ unsigned 2) ++
    (key 1 ++ encodePairingGrant payload.grant) ++
    (key 2 ++ byteString payload.issuerCertificateId.bytes) ++
    (key 3 ++ encodeCertificateV1 payload.issuerCertificate) ++
    (key 4 ++ text payload.issuerDeviceName) ++
    (key 5 ++ unsigned (encodeNativePlatform payload.issuerPlatform)) ++
    (key 6 ++ byteString payload.previousStateSha256.bytes) ++
    (key 7 ++ byteString payload.enrollmentRecordSha256.bytes)

def encodePairingApprovedPayloadV2 (payload : PairingApprovedPayloadV2) :
    Except CryptoError Bytes := do
  require (payload.schemaVersion = 2 ∧ payload.previousStateSha256 ≠ .zero ∧
    payload.enrollmentRecordSha256 ≠ .zero ∧ blank payload.issuerDeviceName = false ∧
    payload.issuerDeviceName.utf8ByteSize ≤ maxPairingIssuerDeviceNameBytes) .invalidProtocolValue
  -- The nested limit holds as well as the limit on the whole payload.
  let _ ← encodePairingGrantV2 payload.grant
  require ((writeApprovedPayload payload).length ≤ maxPairingApprovedPayloadBytes)
    .invalidProtocolValue
  pure (writeApprovedPayload payload)

/-- The fields of a payload. The grant inside it has its own size limit. -/
def decodeApprovedPayload : Reader CryptoError PairingApprovedPayloadV2 := do
  requireMap CryptoError.invalidProtocolValue 8
  let schemaVersion ← field CryptoError.invalidProtocolValue 0
    (readUnsigned CryptoError.invalidProtocolValue (2 ^ 16))
  Reader.lift (require (schemaVersion = 2) .invalidProtocolValue)
  expectKey CryptoError.invalidProtocolValue 1
  let before ← Reader.remaining
  let grant ← decodePairingGrant
  let after ← Reader.remaining
  Reader.lift (require (before.length - after.length ≤ maxPairingGrantBytes) .invalidProtocolValue)
  let issuerCertificateId ← field CryptoError.invalidProtocolValue 2
    (decodeId .invalidProtocolValue)
  let issuerCertificate ← field CryptoError.invalidProtocolValue 3
    (decodeCertificateV1 .invalidProtocolValue)
  let issuerDeviceName ← field CryptoError.invalidProtocolValue 4 (readText .invalidProtocolValue)
  let platformCode ← field CryptoError.invalidProtocolValue 5
    (readUnsigned .invalidProtocolValue (2 ^ 8))
  let issuerPlatform ← Reader.lift (decodeNativePlatform .invalidProtocolValue platformCode)
  let previousStateSha256 ← field CryptoError.invalidProtocolValue 6
    (readFixed .invalidProtocolValue)
  let enrollmentRecordSha256 ← field CryptoError.invalidProtocolValue 7
    (readFixed .invalidProtocolValue)
  pure {
    schemaVersion, grant, issuerCertificateId, issuerCertificate, issuerDeviceName, issuerPlatform
    previousStateSha256 := ⟨previousStateSha256⟩
    enrollmentRecordSha256 := ⟨enrollmentRecordSha256⟩ }

def decodePairingApprovedPayloadV2 (input : Bytes) :
    Except CryptoError PairingApprovedPayloadV2 := do
  require (input.length ≤ maxPairingApprovedPayloadBytes) .invalidProtocolValue
  let (payload, rest) ← decodeApprovedPayload input
  require (rest = []) .invalidProtocolValue
  let canonical ← encodePairingApprovedPayloadV2 payload
  require (canonical = input) .invalidProtocolValue
  pure payload

/-! ## Recovery enrollments -/

structure RecoveryEnrollmentRecordV1 where
  schemaVersion : Nat
  enrollmentId : RecoveryEnrollmentId
  recoveryRootId : RecoveryRootId
  accountId : AccountId
  workspaceId : WorkspaceId
  recoverySigningPublicKey : Ed25519PublicKeyBytes
  recoveryWrappingPublicKey : X25519PublicKeyBytes
  genesisCertificateId : DeviceCertificateId
  genesisCertificate : DeviceCertificateV1
  deviceName : String
  devicePlatform : NativePlatform
  keyEpoch : Nat
  encryptedRecoveryMetadata : WrappedKeyEnvelope
  recoveryRootSignature : Ed25519SignatureBytes
deriving DecidableEq

@[irreducible] def encodeRecordMap (record : RecoveryEnrollmentRecordV1) (includeSignature : Bool) :
    Bytes :=
  head .map (if includeSignature then 14 else 13) ++
    (key 0 ++ unsigned record.schemaVersion) ++
    (key 1 ++ byteString record.enrollmentId.bytes) ++
    (key 2 ++ byteString record.recoveryRootId.bytes) ++
    (key 3 ++ byteString record.accountId.bytes) ++
    (key 4 ++ byteString record.workspaceId.bytes) ++
    (key 5 ++ byteString record.recoverySigningPublicKey.bytes) ++
    (key 6 ++ byteString record.recoveryWrappingPublicKey.bytes) ++
    (key 7 ++ byteString record.genesisCertificateId.bytes) ++
    (key 8 ++ encodeCertificateV1 record.genesisCertificate) ++
    (key 9 ++ text record.deviceName) ++
    (key 10 ++ unsigned (encodeNativePlatform record.devicePlatform)) ++
    (key 11 ++ unsigned record.keyEpoch) ++
    (key 12 ++ encodeWrappedEnvelope record.encryptedRecoveryMetadata) ++
    (if includeSignature then key 13 ++ byteString record.recoveryRootSignature.bytes else [])

section
variable (P : ControlPrimitives)

def validateEnvelopeShape (envelope : WrappedKeyEnvelope) :
    Except RecoveryEnrollmentCryptoError Unit := do
  require (minWrappedCiphertextBytes ≤ envelope.ciphertext.length ∧
    envelope.ciphertext.length ≤ maxRecoveryEnrollmentRecordBytes) .invalidRecord
  renameFailure (validateX25519PublicKey P envelope.ephemeralPublicKey) .crypto

/-- The checks of a record before its signature. -/
def validateRecordShape (record : RecoveryEnrollmentRecordV1) :
    Except RecoveryEnrollmentCryptoError Unit := do
  require (record.schemaVersion = recoveryEnrollmentSchemaVersion ∧
    record.genesisCertificate.controlEpoch = 1 ∧ record.keyEpoch = 1 ∧
    blank record.deviceName = false ∧
    record.deviceName.utf8ByteSize ≤ maxRecoveryDeviceNameBytes ∧
    record.accountId = record.genesisCertificate.accountId ∧
    record.workspaceId = record.genesisCertificate.workspaceId ∧
    record.recoverySigningPublicKey.value ≠ record.recoveryWrappingPublicKey.value ∧
    record.genesisCertificate.signingPublicKey.value ≠
      record.genesisCertificate.wrappingPublicKey.value) .invalidRecord
  require (record.genesisCertificate.issuer = .recoveryRoot record.recoverySigningPublicKey)
    .invalidRecord
  renameFailure (validateEd25519PublicKey P record.recoverySigningPublicKey) .crypto
  renameFailure (validateX25519PublicKey P record.recoveryWrappingPublicKey) .crypto
  renameFailure (validateEd25519PublicKey P record.genesisCertificate.signingPublicKey) .crypto
  renameFailure (validateX25519PublicKey P record.genesisCertificate.wrappingPublicKey) .crypto
  renameFailure (verifyGenesis P record.genesisCertificate record.recoverySigningPublicKey) .crypto
  validateEnvelopeShape P record.encryptedRecoveryMetadata

def encodeRecoveryEnrollmentSigningPreimageV1 (record : RecoveryEnrollmentRecordV1) :
    Except RecoveryEnrollmentCryptoError Bytes := do
  validateRecordShape P record
  let preimage := utf8 "context-relay/recovery-enrollment-record/v1\x00" ++
    encodeRecordMap record false
  require (preimage.length ≤ maxRecoveryEnrollmentRecordBytes) .invalidRecord
  pure preimage

def validateRecord (record : RecoveryEnrollmentRecordV1) :
    Except RecoveryEnrollmentCryptoError Unit := do
  validateRecordShape P record
  let preimage ← encodeRecoveryEnrollmentSigningPreimageV1 P record
  renameFailure (verifySignature P record.recoverySigningPublicKey preimage
    record.recoveryRootSignature) .crypto

def encodeRecoveryEnrollmentRecordV1 (record : RecoveryEnrollmentRecordV1) :
    Except RecoveryEnrollmentCryptoError Bytes := do
  validateRecord P record
  require ((encodeRecordMap record true).length ≤ maxRecoveryEnrollmentRecordBytes) .invalidRecord
  pure (encodeRecordMap record true)

/-- The fields of a record. A part that the pairing code reads fails with that code's error. -/
def decodeRecord : Reader RecoveryEnrollmentCryptoError RecoveryEnrollmentRecordV1 := do
  let failure := RecoveryEnrollmentCryptoError.invalidRecord
  let inner := RecoveryEnrollmentCryptoError.crypto .invalidProtocolValue
  requireMap failure 14
  let schemaVersion ← field failure 0 (readUnsigned failure (2 ^ 16))
  let enrollmentId ← field failure 1 (decodeId failure)
  let recoveryRootId ← field failure 2 (decodeId failure)
  let accountId ← field failure 3 (decodeId failure)
  let workspaceId ← field failure 4 (decodeId failure)
  let recoverySigningPublicKey ← field failure 5 (readFixed failure)
  let recoveryWrappingPublicKey ← field failure 6 (readFixed failure)
  let genesisCertificateId ← field failure 7 (decodeId failure)
  let genesisCertificate ← field failure 8 (decodeCertificateV1 inner)
  let deviceName ← field failure 9 (readText failure)
  let platformCode ← field failure 10 (readUnsigned failure (2 ^ 8))
  let devicePlatform ← Reader.lift (decodeNativePlatform inner platformCode)
  let keyEpoch ← field failure 11 (readUnsigned failure (2 ^ 32))
  let encryptedRecoveryMetadata ← field failure 12
    (decodeWrappedEnvelopeWithLimit inner maxRecoveryEnrollmentRecordBytes)
  let recoveryRootSignature ← field failure 13 (readFixed failure)
  pure {
    schemaVersion, enrollmentId, recoveryRootId, accountId, workspaceId
    recoverySigningPublicKey := ⟨recoverySigningPublicKey⟩
    recoveryWrappingPublicKey := ⟨recoveryWrappingPublicKey⟩
    genesisCertificateId, genesisCertificate, deviceName, devicePlatform, keyEpoch
    encryptedRecoveryMetadata
    recoveryRootSignature := ⟨recoveryRootSignature⟩ }

def decodeRecoveryEnrollmentRecordV1 (input : Bytes) :
    Except RecoveryEnrollmentCryptoError RecoveryEnrollmentRecordV1 := do
  require (input.length ≤ maxRecoveryEnrollmentRecordBytes) .invalidRecord
  let (record, rest) ← decodeRecord input
  require (rest = []) .invalidRecord
  validateRecord P record
  let canonical ← encodeRecoveryEnrollmentRecordV1 P record
  require (canonical = input) .invalidRecord
  pure record

end

/-! ## Recovery claims -/

structure RecoveryDeviceClaimV2 where
  schemaVersion : Nat
  restoreId : RecoveryRestoreId
  enrollmentId : RecoveryEnrollmentId
  recoveryRootId : RecoveryRootId
  accountId : AccountId
  workspaceId : WorkspaceId
  canonicalRecordSha256 : Sha256Digest
  expectedRecoveryGeneration : Nat
  certificateId : DeviceCertificateId
  certificate : DeviceCertificateV1
  deviceName : String
  devicePlatform : NativePlatform
  keyEpoch : Nat
  deviceMaterialEnvelope : WrappedKeyEnvelope
  previousStateSha256 : Sha256Digest
  recoveryRootSignature : Ed25519SignatureBytes
deriving DecidableEq

@[irreducible] def encodeClaimMap (claim : RecoveryDeviceClaimV2) (includeSignature : Bool) : Bytes :=
  head .map (if includeSignature then 16 else 15) ++
    (key 0 ++ unsigned claim.schemaVersion) ++
    (key 1 ++ byteString claim.restoreId.bytes) ++
    (key 2 ++ byteString claim.enrollmentId.bytes) ++
    (key 3 ++ byteString claim.recoveryRootId.bytes) ++
    (key 4 ++ byteString claim.accountId.bytes) ++
    (key 5 ++ byteString claim.workspaceId.bytes) ++
    (key 6 ++ byteString claim.canonicalRecordSha256.bytes) ++
    (key 7 ++ unsigned claim.expectedRecoveryGeneration) ++
    (key 8 ++ byteString claim.certificateId.bytes) ++
    (key 9 ++ encodeCertificateV1 claim.certificate) ++
    (key 10 ++ text claim.deviceName) ++
    (key 11 ++ unsigned (encodeNativePlatform claim.devicePlatform)) ++
    (key 12 ++ unsigned claim.keyEpoch) ++
    (key 13 ++ encodeWrappedEnvelope claim.deviceMaterialEnvelope) ++
    (key 14 ++ byteString claim.previousStateSha256.bytes) ++
    (if includeSignature then key 15 ++ byteString claim.recoveryRootSignature.bytes else [])

section
variable (P : ControlPrimitives)

/-- The key of the recovery root that issued the claim's certificate. -/
def claimRootKey (claim : RecoveryDeviceClaimV2) : Option Ed25519PublicKeyBytes :=
  match claim.certificate.issuer with
  | .recoveryRoot rootKey => some rootKey
  | .device _ _ => none

/-- The checks of a claim before its signature; they find the root's key. -/
def validateUnsignedClaim (claim : RecoveryDeviceClaimV2) :
    Except RecoveryRestoreCryptoError Ed25519PublicKeyBytes := do
  require (claim.schemaVersion = recoveryDeviceClaimSchemaVersion ∧
    claim.previousStateSha256 ≠ .zero ∧ claim.canonicalRecordSha256 ≠ .zero ∧
    claim.expectedRecoveryGeneration < 2 ^ 63 - 1 ∧
    claim.certificate.controlEpoch ≠ 0 ∧ claim.keyEpoch ≠ 0 ∧
    blank claim.deviceName = false ∧
    claim.deviceName.utf8ByteSize ≤ maxRecoveryDeviceNameBytes ∧
    claim.accountId = claim.certificate.accountId ∧
    claim.workspaceId = claim.certificate.workspaceId ∧
    claim.certificate.signingPublicKey.value ≠ claim.certificate.wrappingPublicKey.value ∧
    minWrappedCiphertextBytes ≤ claim.deviceMaterialEnvelope.ciphertext.length ∧
    claim.deviceMaterialEnvelope.ciphertext.length ≤ maxRecoveryDeviceClaimBytes) .invalidRecovery
  let rootKey ← present (claimRootKey claim) .invalidRecovery
  orFail (validateEd25519PublicKey P rootKey) .invalidRecovery
  orFail (validateEd25519PublicKey P claim.certificate.signingPublicKey) .invalidRecovery
  orFail (validateX25519PublicKey P claim.certificate.wrappingPublicKey) .invalidRecovery
  orFail (validateX25519PublicKey P claim.deviceMaterialEnvelope.ephemeralPublicKey)
    .invalidRecovery
  orFail (verifyGenesis P claim.certificate rootKey) .invalidRecovery
  pure rootKey

def encodeRecoveryDeviceClaimSigningPreimageV2 (claim : RecoveryDeviceClaimV2) :
    Except RecoveryRestoreCryptoError Bytes := do
  let _ ← validateUnsignedClaim P claim
  let preimage := utf8 "context-relay/recovery-device-claim/v2\x00" ++ encodeClaimMap claim false
  require (preimage.length ≤ maxRecoveryDeviceClaimBytes) .invalidRecovery
  pure preimage

def validateClaimShape (claim : RecoveryDeviceClaimV2) :
    Except RecoveryRestoreCryptoError Unit := do
  let rootKey ← validateUnsignedClaim P claim
  let preimage ← encodeRecoveryDeviceClaimSigningPreimageV2 P claim
  orFail (verifySignature P rootKey preimage claim.recoveryRootSignature) .invalidRecovery

def encodeRecoveryDeviceClaimV2 (claim : RecoveryDeviceClaimV2) :
    Except RecoveryRestoreCryptoError Bytes := do
  validateClaimShape P claim
  require ((encodeClaimMap claim true).length ≤ maxRecoveryDeviceClaimBytes) .invalidRecovery
  pure (encodeClaimMap claim true)

def decodeClaim : Reader RecoveryRestoreCryptoError RecoveryDeviceClaimV2 := do
  let failure := RecoveryRestoreCryptoError.invalidRecovery
  requireMap failure 16
  let schemaVersion ← field failure 0 (readUnsigned failure (2 ^ 16))
  let restoreId ← field failure 1 (decodeId failure)
  let enrollmentId ← field failure 2 (decodeId failure)
  let recoveryRootId ← field failure 3 (decodeId failure)
  let accountId ← field failure 4 (decodeId failure)
  let workspaceId ← field failure 5 (decodeId failure)
  let canonicalRecordSha256 ← field failure 6 (readFixed failure)
  let expectedRecoveryGeneration ← field failure 7 (readUnsigned failure (2 ^ 64))
  let certificateId ← field failure 8 (decodeId failure)
  let certificate ← field failure 9 (decodeCertificateV1 failure)
  let deviceName ← field failure 10 (readText failure)
  let platformCode ← field failure 11 (readUnsigned failure (2 ^ 8))
  let devicePlatform ← Reader.lift (decodeNativePlatform failure platformCode)
  let keyEpoch ← field failure 12 (readUnsigned failure (2 ^ 32))
  let deviceMaterialEnvelope ← field failure 13
    (decodeWrappedEnvelopeWithLimit failure maxRecoveryDeviceClaimBytes)
  let previousStateSha256 ← field failure 14 (readFixed failure)
  let recoveryRootSignature ← field failure 15 (readFixed failure)
  pure {
    schemaVersion, restoreId, enrollmentId, recoveryRootId, accountId, workspaceId
    canonicalRecordSha256 := ⟨canonicalRecordSha256⟩
    expectedRecoveryGeneration, certificateId, certificate, deviceName, devicePlatform, keyEpoch
    deviceMaterialEnvelope
    previousStateSha256 := ⟨previousStateSha256⟩
    recoveryRootSignature := ⟨recoveryRootSignature⟩ }

def decodeRecoveryDeviceClaimV2 (input : Bytes) :
    Except RecoveryRestoreCryptoError RecoveryDeviceClaimV2 := do
  require (input.length ≤ maxRecoveryDeviceClaimBytes) .invalidRecovery
  let (claim, rest) ← decodeClaim input
  require (rest = []) .invalidRecovery
  validateClaimShape P claim
  let canonical ← encodeRecoveryDeviceClaimV2 P claim
  require (canonical = input) .invalidRecovery
  pure claim

end

end ContextRelay.Membership
