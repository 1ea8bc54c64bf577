import ContextRelay.Protocol

/-! What the sync layer takes from outside it: SHA-256, Ed25519, XChaCha20-Poly1305 and
the field-by-field CBOR writers and readers. They are parameters, and nothing is
assumed of them here; the codec entry points of the protocol crate, which add the
validation, the size limit and the canonical re-encoding check, are definitions. -/
namespace ContextRelay

open Library

structure ContentKey where
  value : Nat
deriving DecidableEq

structure DeviceKeys where
  signingSeed : Nat
  wrappingSeed : Nat
deriving DecidableEq

structure EncryptedPayload where
  nonce : XChaChaNonce
  ciphertext : Bytes
deriving DecidableEq

/-- The cryptographic functions and the raw field writers and readers of the codec. -/
structure Primitives where
  sha256 : Bytes → Sha256Digest
  signingPublicKey : DeviceKeys → Ed25519PublicKeyBytes
  wrappingPublicKey : DeviceKeys → X25519PublicKeyBytes
  sign : DeviceKeys → Bytes → Ed25519SignatureBytes
  verifySignature : Ed25519PublicKeyBytes → Bytes → Ed25519SignatureBytes → Bool
  encryptWithNonce : ContentKey → Bytes → Bytes → XChaChaNonce → Option EncryptedPayload
  decrypt : ContentKey → EncryptedPayload → Bytes → Option Bytes
  writeOperation : SyncOperationV1 → Bytes
  writeOperationPreimage : SyncOperationV1 → Bytes
  writeOperationAad : SyncOperationV1 → Bytes
  readOperation : Bytes → Option SyncOperationV1
  writeMutation : RecordMutationV1 → Bytes
  readMutation : Bytes → Option RecordMutationV1
  writeCheckpoint : CheckpointV1 → Bytes
  writeCheckpointPreimage : CheckpointV1 → Bytes
  readCheckpoint : Bytes → Option CheckpointV1
  writeStateSummary : List StateSummaryEntryV1 → Bytes

inductive ProtocolError where
  | checkpointVersionUnsupported
  | invalidCbor (reason : String)
deriving DecidableEq

def ProtocolError.display : ProtocolError → String
  | .checkpointVersionUnsupported => "checkpoint version unsupported"
  | .invalidCbor reason => "invalid canonical CBOR: " ++ reason

variable (P : Primitives)

/-- What the signature covers: every field but the signature. -/
def SyncOperationV1.unsigned (operation : SyncOperationV1) : SyncOperationV1 :=
  { operation with signature := ⟨.zero⟩ }

/-- What the cipher authenticates: every field that sealing does not fill in. -/
def SyncOperationV1.unsealed (operation : SyncOperationV1) : SyncOperationV1 :=
  { operation with
    nonce := ⟨.zero⟩
    ciphertext := []
    ciphertextHash := .zero
    signature := ⟨.zero⟩ }

def CheckpointV1.unsigned (checkpoint : CheckpointV1) : CheckpointV1 :=
  { checkpoint with signature := ⟨.zero⟩ }

/-- A writer's output, refused above the limit every signed message has. -/
def boundedCbor (output : Bytes) (reason : String) : Except ProtocolError Bytes := do
  require (output.length ≤ maxCborOperationBytes) (.invalidCbor reason)
  pure output

def encodeSyncOperationSigningPreimageV1 (operation : SyncOperationV1) :
    Except ProtocolError Bytes := do
  orFail operation.validate (.invalidCbor "invalid operation")
  boundedCbor (P.writeOperationPreimage operation.unsigned) "operation too large"

def encodeSyncOperationV1 (operation : SyncOperationV1) : Except ProtocolError Bytes := do
  orFail operation.validate (.invalidCbor "invalid operation")
  boundedCbor (P.writeOperation operation) "operation too large"

def encodeSyncOperationAadV1 (operation : SyncOperationV1) : Bytes :=
  P.writeOperationAad operation.unsealed

def decodeSyncOperationV1 (input : Bytes) : Except ProtocolError SyncOperationV1 := do
  require (input.length ≤ maxCborOperationBytes) (.invalidCbor "operation too large")
  let operation ← present (P.readOperation input) (.invalidCbor "decode")
  orFail operation.validate (.invalidCbor "invalid operation")
  let canonical ← encodeSyncOperationV1 P operation
  require (canonical = input) (.invalidCbor "noncanonical encoding")
  pure operation

def encodeRecordMutationV1 (mutation : RecordMutationV1) : Except ProtocolError Bytes := do
  orFail mutation.validate (.invalidCbor "invalid mutation")
  boundedCbor (P.writeMutation mutation) "mutation too large"

def decodeRecordMutationV1 (input : Bytes) : Except ProtocolError RecordMutationV1 := do
  require (input.length ≤ maxCborOperationBytes) (.invalidCbor "mutation too large")
  let mutation ← present (P.readMutation input) (.invalidCbor "decode")
  orFail mutation.validate (.invalidCbor "invalid mutation")
  let canonical ← encodeRecordMutationV1 P mutation
  require (canonical = input) (.invalidCbor "noncanonical encoding")
  pure mutation

def encodeCheckpointSigningPreimageV1 (checkpoint : CheckpointV1) :
    Except ProtocolError Bytes := do
  orFail checkpoint.validate (.invalidCbor "invalid checkpoint")
  boundedCbor (P.writeCheckpointPreimage checkpoint.unsigned) "checkpoint too large"

def encodeCheckpointV1 (checkpoint : CheckpointV1) : Except ProtocolError Bytes := do
  orFail checkpoint.validate (.invalidCbor "invalid checkpoint")
  boundedCbor (P.writeCheckpoint checkpoint) "checkpoint too large"

def decodeCheckpointV1 (input : Bytes) : Except ProtocolError CheckpointV1 := do
  require (input.length ≤ maxCborOperationBytes) (.invalidCbor "checkpoint too large")
  let checkpoint ← present (P.readCheckpoint input) (.invalidCbor "decode")
  orFail checkpoint.validate (.invalidCbor "invalid checkpoint")
  let canonical ← encodeCheckpointV1 P checkpoint
  require (canonical = input) (.invalidCbor "noncanonical encoding")
  pure checkpoint

variable {P}

/-- What decodes is valid and is the canonical encoding of what it decodes to. -/
theorem decodeSyncOperationV1_ok (decoded : decodeSyncOperationV1 P input = .ok operation) :
    operation.validate = .ok () ∧ encodeSyncOperationV1 P operation = .ok input := by
  unfold decodeSyncOperationV1 at decoded
  simp only [ok_iff] at decoded
  obtain ⟨_, found, _, valid, canonical, encoded, same, rfl⟩ := decoded
  exact ⟨valid, same ▸ encoded⟩

theorem encodeSyncOperationV1_valid (encoded : encodeSyncOperationV1 P operation = .ok bytes) :
    operation.validate = .ok () := by
  unfold encodeSyncOperationV1 at encoded
  simp only [ok_iff] at encoded
  obtain ⟨valid, _⟩ := encoded
  exact valid

theorem decodeRecordMutationV1_ok (decoded : decodeRecordMutationV1 P input = .ok mutation) :
    mutation.validate = .ok () ∧ encodeRecordMutationV1 P mutation = .ok input := by
  unfold decodeRecordMutationV1 at decoded
  simp only [ok_iff] at decoded
  obtain ⟨_, found, _, valid, canonical, encoded, same, rfl⟩ := decoded
  exact ⟨valid, same ▸ encoded⟩

end ContextRelay
