import ContextRelay.Library.Cbor
import ContextRelay.Primitives

/-! The canonical encoding of operations and checkpoints: the writers and the decoders of the
protocol crate, field by field. A decoder takes every encoding that the CBOR library reads,
checks the message it got, and compares the message's own encoding with its input. -/
namespace ContextRelay.CanonicalCbor

open Library Library.Cbor

abbrev Decoder := Reader ProtocolError

def bad (message : String) : ProtocolError := .invalidCbor message

/-- What a failure of the CBOR library becomes. -/
def dec : ProtocolError := bad "decode"

/-! ## Parts -/

def key (value : Nat) : Bytes := unsigned value

def expectKey (value : Nat) : Decoder Unit := do
  let found ← readUnsigned dec (2 ^ 8)
  Reader.lift (require (found = value) (bad "map key"))

/-- The entry of a map: its key, then its value. -/
def field (number : Nat) (value : Decoder α) : Decoder α := do
  expectKey number
  value

def requireMap (size : Nat) : Decoder Unit := do
  let found ← readHead dec .map
  Reader.lift (require (found = some size) (bad "map size"))

def readFixed {width : Nat} : Decoder (Fixed width) := do
  let bytes ← readString dec .bytes
  Reader.lift (present (Fixed.ofBytes? bytes) (bad "byte length"))

def readId {kind : IdKind} (field : String) : Decoder (Id kind) := do
  let bytes ← readString dec .bytes
  Reader.lift (present (Id.ofBytes? bytes) (bad field))

/-- The length of a definite array, with a limit. -/
def readLength (limit : Nat) (tooLarge : String) : Decoder Nat := do
  let found ← readHead dec .array
  let length ← Reader.lift (present found (bad "indefinite array"))
  Reader.lift (require (length ≤ limit) (bad tooLarge))
  pure length

def recordKind : RecordKind → Nat
  | .memory => 0
  | .memoryCandidate => 1
  | .task => 2
  | .secretRef => 3
  | .instruction => 4
  | .component => 5
  | .project => 6

def decodeRecordKind : Nat → Except ProtocolError RecordKind
  | 0 => .ok .memory
  | 1 => .ok .memoryCandidate
  | 2 => .ok .task
  | 3 => .ok .secretRef
  | 4 => .ok .instruction
  | 5 => .ok .component
  | 6 => .ok .project
  | _ => .error (bad "record kind")

def mutationKind : MutationKind → Nat
  | .upsert => 0
  | .tombstone => 1

def decodeMutationKind : Nat → Except ProtocolError MutationKind
  | 0 => .ok .upsert
  | 1 => .ok .tombstone
  | _ => .error (bad "mutation kind")

def encodeFrontierEntry (entry : DeviceSequence) : Bytes :=
  head .array 2 ++ byteString entry.deviceId.bytes ++ unsigned entry.sequence

def encodeFrontier (frontier : List DeviceSequence) : Bytes :=
  head .array frontier.length ++ frontier.flatMap encodeFrontierEntry

def decodeFrontierEntry : Decoder DeviceSequence := do
  let size ← readHead dec .array
  Reader.lift (require (size = some 2) (bad "frontier entry"))
  let deviceId ← readId "frontier device"
  let sequence ← readUnsigned dec (2 ^ 64)
  pure ⟨deviceId, sequence⟩

def decodeFrontier : Decoder (List DeviceSequence) := do
  let length ← readLength maxBatchOperations "frontier too large"
  Reader.repeated decodeFrontierEntry length

def encodeBlob (blob : BlobRef) : Bytes :=
  head .map 3 ++ key 0 ++ byteString blob.digest.bytes ++ key 1 ++ unsigned blob.ciphertextBytes ++
    key 2 ++ text blob.storageId

def encodeBlobs (blobs : List BlobRef) : Bytes :=
  head .array blobs.length ++ blobs.flatMap encodeBlob

def decodeBlob : Decoder BlobRef := do
  requireMap 3
  let digest ← field 0 readFixed
  let ciphertextBytes ← field 1 (readUnsigned dec (2 ^ 64))
  let storageId ← field 2 (readText dec)
  Reader.lift (require (storageId.utf8ByteSize ≤ maxTitleBytes) (bad "blob storage id too large"))
  pure ⟨⟨digest⟩, ciphertextBytes, storageId⟩

def decodeBlobs : Decoder (List BlobRef) := do
  let length ← readLength maxBatchOperations "blob list too large"
  Reader.repeated decodeBlob length

def encodeHlc (hlc : HybridLogicalClock) : Bytes :=
  head .map 3 ++ key 0 ++ unsigned hlc.physicalMs ++ key 1 ++ unsigned hlc.logical ++
    key 2 ++ byteString hlc.node.bytes

def decodeHlc : Decoder HybridLogicalClock := do
  requireMap 3
  let physicalMs ← field 0 (readUnsigned dec (2 ^ 64))
  let logical ← field 1 (readUnsigned dec (2 ^ 32))
  let node ← field 2 (readId "HLC node")
  pure ⟨physicalMs, logical, node⟩

def encodeProject : Option ProjectId → Bytes
  | some id => byteString id.bytes
  | none => null

def decodeProject : Decoder (Option ProjectId) := do
  if ← atNull dec then
    let _ ← Reader.byte dec
    pure none
  else
    let id ← readId "project id"
    pure (some id)

/-! ## Operations -/

@[irreducible] def writeOperation (operation : SyncOperationV1) (signed : Bool) : Bytes :=
  head .map (if signed then 20 else 19) ++
    (key 0 ++ unsigned operation.schemaVersion) ++
    (key 1 ++ byteString operation.operationId.bytes) ++
    (key 2 ++ byteString operation.accountId.bytes) ++
    (key 3 ++ byteString operation.workspaceId.bytes) ++
    (key 4 ++ encodeProject operation.projectId) ++
    (key 5 ++ byteString operation.recordId.bytes) ++
    (key 6 ++ unsigned (recordKind operation.recordKind)) ++
    (key 7 ++ unsigned (mutationKind operation.mutationKind)) ++
    (key 8 ++ byteString operation.deviceId.bytes) ++
    (key 9 ++ unsigned operation.deviceSequence) ++
    (key 10 ++ encodeFrontier operation.causalFrontier) ++
    (key 11 ++ unsigned operation.controlEpoch) ++
    (key 12 ++ unsigned operation.keyEpoch) ++
    (key 13 ++ byteString operation.previousDeviceHash.bytes) ++
    (key 14 ++ byteString operation.nonce.bytes) ++
    (key 15 ++ byteString operation.ciphertext) ++
    (key 16 ++ byteString operation.ciphertextHash.bytes) ++
    (key 17 ++ encodeBlobs operation.blobRefs) ++
    (key 18 ++ encodeHlc operation.createdHlc) ++
    (if signed then key 19 ++ byteString operation.signature.bytes else [])

def encodeOperation (operation : SyncOperationV1) (signed : Bool) : Except ProtocolError Bytes :=
  boundedCbor (writeOperation operation signed) "operation too large"

def encodeSyncOperationSigningPreimageV1 (operation : SyncOperationV1) :
    Except ProtocolError Bytes := do
  orFail operation.validate (bad "invalid operation")
  encodeOperation operation false

def encodeSyncOperationV1 (operation : SyncOperationV1) : Except ProtocolError Bytes := do
  orFail operation.validate (bad "invalid operation")
  encodeOperation operation true

@[irreducible] def encodeSyncOperationAadV1 (operation : SyncOperationV1) : Bytes :=
  head .map 16 ++
    (key 0 ++ unsigned operation.schemaVersion) ++
    (key 1 ++ byteString operation.operationId.bytes) ++
    (key 2 ++ byteString operation.accountId.bytes) ++
    (key 3 ++ byteString operation.workspaceId.bytes) ++
    (key 4 ++ encodeProject operation.projectId) ++
    (key 5 ++ byteString operation.recordId.bytes) ++
    (key 6 ++ unsigned (recordKind operation.recordKind)) ++
    (key 7 ++ unsigned (mutationKind operation.mutationKind)) ++
    (key 8 ++ byteString operation.deviceId.bytes) ++
    (key 9 ++ unsigned operation.deviceSequence) ++
    (key 10 ++ encodeFrontier operation.causalFrontier) ++
    (key 11 ++ unsigned operation.controlEpoch) ++
    (key 12 ++ unsigned operation.keyEpoch) ++
    (key 13 ++ byteString operation.previousDeviceHash.bytes) ++
    (key 17 ++ encodeBlobs operation.blobRefs) ++
    (key 18 ++ encodeHlc operation.createdHlc)

/-- The fields of an operation, in their order. -/
def decodeOperation : Decoder SyncOperationV1 := do
  requireMap 20
  let schemaVersion ← field 0 (readUnsigned dec (2 ^ 16))
  Reader.lift (require (schemaVersion = syncSchemaVersion) (bad "unsupported schema"))
  let operationId ← field 1 (readId "operation id")
  let accountId ← field 2 (readId "account id")
  let workspaceId ← field 3 (readId "workspace id")
  let projectId ← field 4 decodeProject
  let recordId ← field 5 (readId "record id")
  let recordKindCode ← field 6 (readUnsigned dec (2 ^ 8))
  let recordKind ← Reader.lift (decodeRecordKind recordKindCode)
  let mutationKindCode ← field 7 (readUnsigned dec (2 ^ 8))
  let mutationKind ← Reader.lift (decodeMutationKind mutationKindCode)
  let deviceId ← field 8 (readId "device id")
  let deviceSequence ← field 9 (readUnsigned dec (2 ^ 64))
  let causalFrontier ← field 10 decodeFrontier
  let controlEpoch ← field 11 (readUnsigned dec (2 ^ 32))
  let keyEpoch ← field 12 (readUnsigned dec (2 ^ 32))
  let previousDeviceHash ← field 13 readFixed
  let nonce ← field 14 readFixed
  let ciphertext ← field 15 (readString dec .bytes)
  Reader.lift (require (ciphertext.length ≤ maxCiphertextBytes) (bad "ciphertext"))
  let ciphertextHash ← field 16 readFixed
  let blobRefs ← field 17 decodeBlobs
  let createdHlc ← field 18 decodeHlc
  let signature ← field 19 readFixed
  pure {
    schemaVersion, operationId, accountId, workspaceId, projectId, recordId, recordKind
    mutationKind, deviceId, deviceSequence, causalFrontier, controlEpoch, keyEpoch
    previousDeviceHash := ⟨previousDeviceHash⟩
    nonce := ⟨nonce⟩
    ciphertext
    ciphertextHash := ⟨ciphertextHash⟩
    blobRefs, createdHlc
    signature := ⟨signature⟩ }

def decodeSyncOperationV1 (input : Bytes) : Except ProtocolError SyncOperationV1 := do
  require (input.length ≤ maxCborOperationBytes) (bad "operation too large")
  let read ← decodeOperation input
  require (read.2 = []) (bad "trailing bytes")
  orFail read.1.validate (bad "invalid operation")
  let canonical ← encodeSyncOperationV1 read.1
  require (canonical = input) (bad "noncanonical encoding")
  pure read.1

/-! ## Checkpoints -/

@[irreducible] def writeCheckpoint (checkpoint : CheckpointV1) (signed : Bool) : Bytes :=
  head .map (if signed then 10 else 9) ++
    (key 0 ++ unsigned checkpoint.schemaVersion) ++
    (key 1 ++ byteString checkpoint.accountId.bytes) ++
    (key 2 ++ byteString checkpoint.workspaceId.bytes) ++
    (key 3 ++ byteString checkpoint.previousCheckpointHash.bytes) ++
    (key 4 ++ encodeFrontier checkpoint.causalFrontier) ++
    (key 5 ++ byteString checkpoint.stateHash.bytes) ++
    (key 6 ++ unsigned checkpoint.keyEpoch) ++
    (key 7 ++ byteString checkpoint.creatorDevice.bytes) ++
    (key 8 ++ encodeHlc checkpoint.createdHlc) ++
    (if signed then key 9 ++ byteString checkpoint.signature.bytes else [])

def encodeCheckpoint (checkpoint : CheckpointV1) (signed : Bool) : Except ProtocolError Bytes := do
  orFail checkpoint.validate (bad "invalid checkpoint")
  boundedCbor (writeCheckpoint checkpoint signed) "checkpoint too large"

def encodeCheckpointSigningPreimageV1 (checkpoint : CheckpointV1) : Except ProtocolError Bytes :=
  encodeCheckpoint checkpoint false

def encodeCheckpointV1 (checkpoint : CheckpointV1) : Except ProtocolError Bytes :=
  encodeCheckpoint checkpoint true

/-- The fields of a checkpoint. The version is looked at before the size of the map. -/
def decodeCheckpoint : Decoder CheckpointV1 := do
  let mapSize ← readHead dec .map
  let schemaVersion ← field 0 (readUnsigned dec (2 ^ 16))
  Reader.lift (require (schemaVersion = checkpointSchemaVersion) .checkpointVersionUnsupported)
  Reader.lift (require (mapSize = some 10) (bad "map size"))
  let accountId ← field 1 (readId "account")
  let workspaceId ← field 2 (readId "workspace")
  let previousCheckpointHash ← field 3 readFixed
  let causalFrontier ← field 4 decodeFrontier
  let stateHash ← field 5 readFixed
  let keyEpoch ← field 6 (readUnsigned dec (2 ^ 32))
  let creatorDevice ← field 7 (readId "creator device")
  let createdHlc ← field 8 decodeHlc
  let signature ← field 9 readFixed
  pure {
    schemaVersion, accountId, workspaceId
    previousCheckpointHash := ⟨previousCheckpointHash⟩
    causalFrontier
    stateHash := ⟨stateHash⟩
    keyEpoch, creatorDevice, createdHlc
    signature := ⟨signature⟩ }

def decodeCheckpointV1 (input : Bytes) : Except ProtocolError CheckpointV1 := do
  require (input.length ≤ maxCborOperationBytes) (bad "checkpoint too large")
  let read ← decodeCheckpoint input
  require (read.2 = []) (bad "trailing bytes")
  orFail read.1.validate (bad "invalid checkpoint")
  let canonical ← encodeCheckpointV1 read.1
  require (canonical = input) (bad "noncanonical encoding")
  pure read.1

/-! ## What the encodings leave out

A preimage does not depend on the signature, nor associated data on what sealing fills in. So
the codec is an instance of the codec the sync layer takes as a parameter. -/

theorem writeOperation_unsigned (operation : SyncOperationV1) :
    writeOperation operation.unsigned false = writeOperation operation false := by
  unfold writeOperation
  rfl

theorem encodeSyncOperationAadV1_unsealed (operation : SyncOperationV1) :
    encodeSyncOperationAadV1 operation.unsealed = encodeSyncOperationAadV1 operation := by
  unfold encodeSyncOperationAadV1
  rfl

theorem writeCheckpoint_unsigned (checkpoint : CheckpointV1) :
    writeCheckpoint checkpoint.unsigned false = writeCheckpoint checkpoint false := by
  unfold writeCheckpoint
  rfl

/-- What a decoder returns when it reads its whole input. -/
def readWhole (decoder : Decoder α) (input : Bytes) : Option α :=
  match decoder input with
  | .ok (value, []) => some value
  | _ => none

section

variable {input : Bytes} {operation : SyncOperationV1} {checkpoint : CheckpointV1}

theorem readWhole_eq_some :
    readWhole decoder input = some value ↔ decoder input = .ok (value, []) := by
  unfold readWhole
  split <;> simp_all

/-- The primitives with this codec for operations and checkpoints. -/
def withCodec (P : Primitives) : Primitives :=
  { P with
    writeOperation := fun operation => writeOperation operation true
    writeOperationPreimage := fun operation => writeOperation operation false
    writeOperationAad := encodeSyncOperationAadV1
    readOperation := readWhole decodeOperation
    writeCheckpoint := fun checkpoint => writeCheckpoint checkpoint true
    writeCheckpointPreimage := fun checkpoint => writeCheckpoint checkpoint false
    readCheckpoint := readWhole decodeCheckpoint }

theorem withCodec_decodes_operation (P : Primitives) :
    ContextRelay.decodeSyncOperationV1 (withCodec P) input = .ok operation ↔
      decodeSyncOperationV1 input = .ok operation := by
  have encodes (found : SyncOperationV1) :
      ContextRelay.encodeSyncOperationV1 (withCodec P) found = encodeSyncOperationV1 found := rfl
  have reads : (withCodec P).readOperation = readWhole decodeOperation := rfl
  simp only [ContextRelay.decodeSyncOperationV1, decodeSyncOperationV1, ok_iff, reads,
    readWhole_eq_some, encodes, Prod.exists]
  grind

/-! ## Values of the source's types

The numbers of the model are unbounded. A message the programs can hold has its numbers in the
ranges of the machine integers they are stored in, and its ciphertext within the limit that the
ciphertext type enforces. -/

structure HlcTyped (hlc : HybridLogicalClock) : Prop where
  physicalMs : hlc.physicalMs < 2 ^ 64
  logical : hlc.logical < 2 ^ 32

def FrontierTyped (frontier : List DeviceSequence) : Prop :=
  ∀ entry ∈ frontier, entry.sequence < 2 ^ 64

structure OperationTyped (operation : SyncOperationV1) : Prop where
  schemaVersion : operation.schemaVersion < 2 ^ 16
  deviceSequence : operation.deviceSequence < 2 ^ 64
  causalFrontier : FrontierTyped operation.causalFrontier
  controlEpoch : operation.controlEpoch < 2 ^ 32
  keyEpoch : operation.keyEpoch < 2 ^ 32
  ciphertext : operation.ciphertext.length ≤ maxCiphertextBytes
  blobRefs : ∀ blob ∈ operation.blobRefs, blob.ciphertextBytes < 2 ^ 64
  createdHlc : HlcTyped operation.createdHlc

structure CheckpointTyped (checkpoint : CheckpointV1) : Prop where
  schemaVersion : checkpoint.schemaVersion < 2 ^ 16
  causalFrontier : FrontierTyped checkpoint.causalFrontier
  keyEpoch : checkpoint.keyEpoch < 2 ^ 32
  createdHlc : HlcTyped checkpoint.createdHlc

/-! ## What the decoders make of what the writers wrote -/

theorem expectKey_key (small : value < 2 ^ 8) (rest : Bytes) :
    expectKey value (key value ++ rest) = .ok ((), rest) := by
  have read : readUnsigned dec (2 ^ 8) (unsigned value ++ rest) = .ok (value, rest) :=
    readUnsigned_unsigned small (by omega) rest
  simp only [expectKey, key, Reader.bind_apply, read, ok_bind, require_true, Reader.lift_ok_apply]

theorem readFixed_bytes (small : width < 2 ^ 64) (fixed : Fixed width) (rest : Bytes) : readFixed (byteString fixed.bytes ++ rest) = .ok (fixed, rest) := by
  have fits : fixed.bytes.length < 2 ^ 64 := by simpa using small
  simp only [readFixed, Reader.bind_apply, readString_byteString fits, ok_bind,
    Fixed.ofBytes?_bytes,
    present_some, Reader.lift_ok_apply]

theorem readId_bytes (field : String) (id : Id kind) (rest : Bytes) :
    readId field (byteString id.bytes ++ rest) = .ok (id, rest) := by
  have fits : id.bytes.length < 2 ^ 64 := by simp
  simp only [readId, Reader.bind_apply, readString_byteString fits, ok_bind, Id.ofBytes?_bytes,
    present_some, Reader.lift_ok_apply]

theorem wider (narrow : value < 2 ^ width) (most : width ≤ 64) : value < 2 ^ 64 :=
  lt_of_lt_of_le narrow (Nat.pow_le_pow_right (by decide) most)

section

variable {number : Nat} {next : α → Decoder β} {rest : Bytes}

theorem read_map {next : Unit → Decoder β} (small : size < 2 ^ 64 := by decide) :
    (requireMap size >>= next) (head .map size ++ rest) = next () rest := by
  refine Reader.bind_ok ?_
  rw [requireMap, read_head small, require_pos rfl, Reader.lift_ok_apply]

/-- An entry of a map is read when its value is. -/
theorem read_field (read : value rest = .ok (found, left)) (small : number < 2 ^ 8 := by decide) :
    (field number value >>= next) (key number ++ rest) = next found left := by
  refine Reader.bind_ok ?_
  rw [field, Reader.bind_ok (expectKey_key small rest), read]

theorem read_id {id : Id kind} {text : String} {next : Id kind → Decoder β}
    (small : number < 2 ^ 8 := by decide) :
    (field number (readId text) >>= next) (key number ++ (byteString id.bytes ++ rest)) =
      next id rest :=
  read_field (readId_bytes text id rest) small

theorem read_fixed {fixed : Fixed width} {next : Fixed width → Decoder β}
    (fits : width < 2 ^ 64 := by decide) (small : number < 2 ^ 8 := by decide) :
    (field number readFixed >>= next) (key number ++ (byteString fixed.bytes ++ rest)) =
      next fixed rest :=
  read_field (readFixed_bytes fits fixed rest) small

theorem read_number {next : Nat → Decoder β} (narrow : value < 2 ^ width)
    (most : width ≤ 64 := by decide) (small : number < 2 ^ 8 := by decide) :
    (field number (readUnsigned dec (2 ^ width)) >>= next) (key number ++ (unsigned value ++ rest)) =
      next value rest :=
  read_field (readUnsigned_unsigned narrow (wider narrow most) rest) small

end

theorem readLength_head (within : length ≤ limit) (small : limit < 2 ^ 64) (tooLarge : String)
    (rest : Bytes) :
    readLength limit tooLarge (head .array length ++ rest) = .ok (length, rest) := by
  simp only [readLength, Reader.bind_apply, readHead_head .array (show length < 2 ^ 64 by omega),
    ok_bind, present_some, require_pos within, Reader.lift_ok_apply, Reader.pure_apply]

theorem decodeRecordKind_recordKind (kind : RecordKind) :
    decodeRecordKind (recordKind kind) = .ok kind := by cases kind <;> rfl

theorem recordKind_lt (kind : RecordKind) : recordKind kind < 2 ^ 8 := by cases kind <;> decide

theorem decodeMutationKind_mutationKind (kind : MutationKind) :
    decodeMutationKind (mutationKind kind) = .ok kind := by cases kind <;> rfl

theorem mutationKind_lt (kind : MutationKind) : mutationKind kind < 2 ^ 8 := by
  cases kind <;> decide

theorem decodeFrontierEntry_encode (typed : entry.sequence < 2 ^ 64) (rest : Bytes) :
    decodeFrontierEntry (encodeFrontierEntry entry ++ rest) = .ok (entry, rest) := by
  simp only [decodeFrontierEntry, encodeFrontierEntry, List.append_assoc, Reader.bind_apply,
    readHead_head .array (show 2 < 2 ^ 64 by decide), ok_bind, require_true, Reader.lift_ok_apply,
    readId_bytes, readUnsigned_unsigned typed typed, Reader.pure_apply]

theorem decodeFrontier_encode {frontier : List DeviceSequence} (typed : FrontierTyped frontier)
    (within : frontier.length ≤ maxBatchOperations) (rest : Bytes) :
    decodeFrontier (encodeFrontier frontier ++ rest) = .ok (frontier, rest) := by
  have items := Reader.repeated_flatMap frontier
    (fun entry member => decodeFrontierEntry_encode (typed entry member)) rest
  simp only [decodeFrontier, encodeFrontier, List.append_assoc, Reader.bind_apply,
    readLength_head within (by decide), ok_bind, items]

theorem decodeBlob_encode (typed : blob.ciphertextBytes < 2 ^ 64)
    (short : blob.storageId.utf8ByteSize ≤ maxTitleBytes) (rest : Bytes) :
    decodeBlob (encodeBlob blob ++ rest) = .ok (blob, rest) := by
  have fits : blob.storageId.utf8ByteSize < 2 ^ 64 := lt_of_le_of_lt short (by decide)
  unfold decodeBlob encodeBlob
  simp only [List.append_assoc]
  rw [read_map, read_fixed, read_number typed, read_field (readText_text fits _),
    read_check short, Reader.pure_apply]

theorem decodeBlobs_encode (typed : ∀ blob ∈ blobs, blob.ciphertextBytes < 2 ^ 64)
    (short : ∀ blob ∈ blobs, blob.storageId.utf8ByteSize ≤ maxTitleBytes)
    (within : blobs.length ≤ maxBatchOperations) (rest : Bytes) :
    decodeBlobs (encodeBlobs blobs ++ rest) = .ok (blobs, rest) := by
  have items := Reader.repeated_flatMap blobs
    (fun blob member => decodeBlob_encode (typed blob member) (short blob member)) rest
  simp only [decodeBlobs, encodeBlobs, List.append_assoc, Reader.bind_apply,
    readLength_head within (by decide), ok_bind, items]

theorem decodeHlc_encode (typed : HlcTyped hlc) (rest : Bytes) :
    decodeHlc (encodeHlc hlc ++ rest) = .ok (hlc, rest) := by
  have logical : hlc.logical < 2 ^ 64 := lt_trans typed.logical (by decide)
  unfold decodeHlc encodeHlc
  simp only [List.append_assoc]
  rw [read_map, read_number typed.physicalMs, read_number typed.logical, read_id, Reader.pure_apply]

theorem decodeProject_encode (project : Option ProjectId) (rest : Bytes) :
    decodeProject (encodeProject project ++ rest) = .ok (project, rest) := by
  cases project with
  | none => rfl
  | some id =>
    have next : atNull dec (byteString id.bytes ++ rest) = .ok (false, byteString id.bytes ++ rest) := by
      have lead : byteString id.bytes = 0x50 :: id.bytes := by
        simp [byteString, head, lead, Major.code]
      rw [lead]
      rfl
    simp only [decodeProject, encodeProject, Reader.bind_apply, next, ok_bind, Bool.false_eq_true,
      if_false, readId_bytes, Reader.pure_apply]

theorem requiredText_eq_ok {value field : String} :
    requiredText value field limit = .ok () ↔
      value.toList.all isWhitespace = false ∧ value.utf8ByteSize ≤ limit := by
  unfold requiredText
  by_cases blank : value.toList.all isWhitespace = true
  · simp [blank]
  · by_cases long : limit < value.utf8ByteSize
    · simp [blank, long, Nat.not_le.mpr long]
    · simp [blank, long, Nat.le_of_not_lt long]

theorem blobValidate_eq_ok {blob : BlobRef} :
    blob.validate = .ok () ↔
      blob.storageId.toList.all isWhitespace = false ∧
        blob.storageId.utf8ByteSize ≤ maxTitleBytes ∧
        0 < blob.ciphertextBytes ∧ blob.ciphertextBytes ≤ maxBlobBytes := by
  simp only [BlobRef.validate, ok_iff, requiredText_eq_ok, and_assoc]

theorem operationValidate_eq_ok :
    operation.validate = .ok () ↔
      operation.schemaVersion = syncSchemaVersion ∧
        operation.causalFrontier.length ≤ maxBatchOperations ∧
        operation.blobRefs.length ≤ maxBatchOperations ∧
        devicesAscend operation.causalFrontier = true ∧
        ∀ blob ∈ operation.blobRefs, blob.validate = .ok () := by
  simp only [SyncOperationV1.validate, ok_iff, forM_eq_ok]

theorem checkpointValidate_eq_ok :
    checkpoint.validate = .ok () ↔
      checkpoint.schemaVersion = checkpointSchemaVersion ∧
        checkpoint.causalFrontier.length ≤ maxBatchOperations ∧
        devicesAscend checkpoint.causalFrontier = true := by
  simp only [CheckpointV1.validate, ok_iff]

theorem decodeBlobs_valid (typed : OperationTyped operation) (valid : operation.validate = .ok ())
    (rest : Bytes) :
    decodeBlobs (encodeBlobs operation.blobRefs ++ rest) = .ok (operation.blobRefs, rest) := by
  obtain ⟨_, _, within, _, each⟩ := operationValidate_eq_ok.mp valid
  exact decodeBlobs_encode typed.blobRefs
    (fun blob member => (blobValidate_eq_ok.mp (each blob member)).2.1) within rest

theorem decodeOperation_write (typed : OperationTyped operation)
    (valid : operation.validate = .ok ()) (rest : Bytes) :
    decodeOperation (writeOperation operation true ++ rest) = .ok (operation, rest) := by
  obtain ⟨version, frontier, _⟩ := operationValidate_eq_ok.mp valid
  have schema := typed.schemaVersion
  have recordSmall := recordKind_lt operation.recordKind
  have mutationSmall := mutationKind_lt operation.mutationKind
  have sealed : operation.ciphertext.length < 2 ^ 64 := lt_of_le_of_lt typed.ciphertext (by decide)
  unfold decodeOperation writeOperation
  simp only [List.append_assoc, if_true]
  rw [read_map, read_number schema, read_check version, read_id, read_id, read_id,
    read_field (decodeProject_encode _ _), read_id, read_number recordSmall,
    decodeRecordKind_recordKind, read_done, read_number mutationSmall,
    decodeMutationKind_mutationKind, read_done, read_id, read_number typed.deviceSequence,
    read_field (decodeFrontier_encode typed.causalFrontier frontier _),
    read_number typed.controlEpoch, read_number typed.keyEpoch, read_fixed, read_fixed,
    read_field (readString_byteString sealed _), read_check typed.ciphertext, read_fixed,
    read_field (decodeBlobs_valid typed valid _), read_field (decodeHlc_encode typed.createdHlc _),
    read_fixed, Reader.pure_apply]

theorem decodeCheckpoint_write (typed : CheckpointTyped checkpoint)
    (valid : checkpoint.validate = .ok ()) (rest : Bytes) :
    decodeCheckpoint (writeCheckpoint checkpoint true ++ rest) = .ok (checkpoint, rest) := by
  obtain ⟨version, frontier, _⟩ := checkpointValidate_eq_ok.mp valid
  have schema := typed.schemaVersion
  unfold decodeCheckpoint writeCheckpoint
  simp only [List.append_assoc, if_true]
  rw [read_head, read_number schema, read_check version, read_check rfl, read_id, read_id,
    read_fixed, read_field (decodeFrontier_encode typed.causalFrontier frontier _), read_fixed,
    read_number typed.keyEpoch, read_id, read_field (decodeHlc_encode typed.createdHlc _),
    read_fixed, Reader.pure_apply]

/-! ## What the decoders return has the source's types -/

theorem readUnsigned_ensures (bound : Nat) :
    Reader.Ensures (readUnsigned dec bound) fun value => value < bound :=
  .skip fun _ => .skip fun _ => .bind .require fun _ small => .pure small

theorem field_ensures {holds : α → Prop} (ensured : Reader.Ensures value holds) (number : Nat) : Reader.Ensures (field number value) holds :=
  .skip fun _ => ensured

theorem decodeFrontier_ensures : Reader.Ensures decodeFrontier FrontierTyped := by
  refine .skip fun length => .repeated ?_ length
  exact .skip fun _ => .skip fun _ => .skip fun _ =>
    .bind (readUnsigned_ensures _) fun _ small => .pure small

theorem decodeBlobs_ensures :
    Reader.Ensures decodeBlobs fun blobs => ∀ blob ∈ blobs, blob.ciphertextBytes < 2 ^ 64 := by
  refine .skip fun length => .repeated ?_ length
  exact .skip fun _ => .skip fun _ => .bind (field_ensures (readUnsigned_ensures _) 1)
    fun _ small => .skip fun _ => .skip fun _ => .pure small

theorem decodeHlc_ensures : Reader.Ensures decodeHlc HlcTyped :=
  .skip fun _ => .bind (field_ensures (readUnsigned_ensures _) 0) fun _ physical =>
    .bind (field_ensures (readUnsigned_ensures _) 1) fun _ logical =>
      .skip fun _ => .pure ⟨physical, logical⟩

theorem decodeOperation_ensures : Reader.Ensures decodeOperation OperationTyped := by
  refine .skip fun _ => .bind (field_ensures (readUnsigned_ensures _) 0) fun _ schemaVersion => ?_
  refine .skip fun _ => .skip fun _ => .skip fun _ => .skip fun _ => .skip fun _ => .skip fun _ => ?_
  refine .skip fun _ => .skip fun _ => .skip fun _ => .skip fun _ => .skip fun _ => ?_
  refine .bind (field_ensures (readUnsigned_ensures _) 9) fun _ deviceSequence => ?_
  refine .bind (field_ensures decodeFrontier_ensures 10) fun _ causalFrontier => ?_
  refine .bind (field_ensures (readUnsigned_ensures _) 11) fun _ controlEpoch => ?_
  refine .bind (field_ensures (readUnsigned_ensures _) 12) fun _ keyEpoch => ?_
  refine .skip fun _ => .skip fun _ => .skip fun _ => .bind .require fun _ ciphertext => ?_
  refine .skip fun _ => .bind (field_ensures decodeBlobs_ensures 17) fun _ blobRefs => ?_
  refine .bind (field_ensures decodeHlc_ensures 18) fun _ createdHlc => .skip fun _ => .pure ?_
  exact {
    schemaVersion, deviceSequence, causalFrontier, controlEpoch, keyEpoch, ciphertext, blobRefs
    createdHlc }

theorem decodeCheckpoint_ensures : Reader.Ensures decodeCheckpoint CheckpointTyped := by
  refine .skip fun _ => .bind (field_ensures (readUnsigned_ensures _) 0) fun _ schemaVersion => ?_
  refine .skip fun _ => .skip fun _ => .skip fun _ => .skip fun _ => .skip fun _ => ?_
  refine .bind (field_ensures decodeFrontier_ensures 4) fun _ causalFrontier => .skip fun _ => ?_
  refine .bind (field_ensures (readUnsigned_ensures _) 6) fun _ keyEpoch => .skip fun _ => ?_
  refine .bind (field_ensures decodeHlc_ensures 8) fun _ createdHlc => .skip fun _ => .pure ?_
  exact { schemaVersion, causalFrontier, keyEpoch, createdHlc }

/-! ## The codec -/

theorem encodeSyncOperationV1_eq_ok :
    encodeSyncOperationV1 operation = .ok bytes ↔
      operation.validate = .ok () ∧ (writeOperation operation true).length ≤ maxCborOperationBytes ∧
        writeOperation operation true = bytes := by
  simp only [encodeSyncOperationV1, encodeOperation, boundedCbor, ok_iff]

theorem encodeCheckpointV1_eq_ok :
    encodeCheckpointV1 checkpoint = .ok bytes ↔
      checkpoint.validate = .ok () ∧
        (writeCheckpoint checkpoint true).length ≤ maxCborOperationBytes ∧
        writeCheckpoint checkpoint true = bytes := by
  simp only [encodeCheckpointV1, encodeCheckpoint, boundedCbor, ok_iff]

/-- The decoder accepts exactly the encodings of the operations the source's types can hold. -/
theorem decodeSyncOperationV1_eq_ok :
    decodeSyncOperationV1 input = .ok operation ↔
      OperationTyped operation ∧ encodeSyncOperationV1 operation = .ok input := by
  constructor
  · intro decoded
    simp only [decodeSyncOperationV1, ok_iff] at decoded
    obtain ⟨_, ⟨found, rest⟩, read, _, _, canonical, encoded, same, rfl⟩ := decoded
    exact ⟨decodeOperation_ensures _ _ _ read, same ▸ encoded⟩
  · rintro ⟨typed, encoded⟩
    obtain ⟨valid, within, rfl⟩ := encodeSyncOperationV1_eq_ok.mp encoded
    have read := decodeOperation_write typed valid []
    rw [List.append_nil] at read
    simp only [decodeSyncOperationV1, require_pos within, read, ok_bind, require_true, valid,
      orFail,
      encoded, pure_eq_ok]

theorem decodeCheckpointV1_eq_ok :
    decodeCheckpointV1 input = .ok checkpoint ↔
      CheckpointTyped checkpoint ∧ encodeCheckpointV1 checkpoint = .ok input := by
  constructor
  · intro decoded
    simp only [decodeCheckpointV1, ok_iff] at decoded
    obtain ⟨_, ⟨found, rest⟩, read, _, _, canonical, encoded, same, rfl⟩ := decoded
    exact ⟨decodeCheckpoint_ensures _ _ _ read, same ▸ encoded⟩
  · rintro ⟨typed, encoded⟩
    obtain ⟨valid, within, rfl⟩ := encodeCheckpointV1_eq_ok.mp encoded
    have read := decodeCheckpoint_write typed valid []
    rw [List.append_nil] at read
    simp only [decodeCheckpointV1, require_pos within, read, ok_bind, require_true, valid, orFail,
      encoded, pure_eq_ok]

end

/-- The codec is exact: a valid message within the size limit is read back from its encoding,
and what a decoder accepts is the encoding of the message it returns and of no other. -/
theorem canonical_codec_is_exact :
    (∀ operation : SyncOperationV1, OperationTyped operation → operation.validate = .ok () →
      (writeOperation operation true).length ≤ maxCborOperationBytes →
      ∃ bytes, encodeSyncOperationV1 operation = .ok bytes ∧
        decodeSyncOperationV1 bytes = .ok operation) ∧
    (∀ (input : Bytes) (operation : SyncOperationV1),
      decodeSyncOperationV1 input = .ok operation →
      OperationTyped operation ∧ encodeSyncOperationV1 operation = .ok input ∧
        ∀ other, OperationTyped other → encodeSyncOperationV1 other = .ok input →
          other = operation) ∧
    (∀ checkpoint : CheckpointV1, CheckpointTyped checkpoint → checkpoint.validate = .ok () →
      (writeCheckpoint checkpoint true).length ≤ maxCborOperationBytes →
      ∃ bytes, encodeCheckpointV1 checkpoint = .ok bytes ∧
        decodeCheckpointV1 bytes = .ok checkpoint) ∧
    ∀ (input : Bytes) (checkpoint : CheckpointV1),
      decodeCheckpointV1 input = .ok checkpoint →
      CheckpointTyped checkpoint ∧ encodeCheckpointV1 checkpoint = .ok input ∧
        ∀ other, CheckpointTyped other → encodeCheckpointV1 other = .ok input →
          other = checkpoint := by
  refine ⟨?_, ?_, ?_, ?_⟩
  · intro operation typed valid within
    have encoded := encodeSyncOperationV1_eq_ok.mpr ⟨valid, within, rfl⟩
    exact ⟨_, encoded, decodeSyncOperationV1_eq_ok.mpr ⟨typed, encoded⟩⟩
  · intro input operation decoded
    obtain ⟨typed, encoded⟩ := decodeSyncOperationV1_eq_ok.mp decoded
    refine ⟨typed, encoded, fun other otherTyped otherEncoded => ?_⟩
    have again := decodeSyncOperationV1_eq_ok.mpr ⟨otherTyped, otherEncoded⟩
    exact Except.ok.inj (again.symm.trans decoded)
  · intro checkpoint typed valid within
    have encoded := encodeCheckpointV1_eq_ok.mpr ⟨valid, within, rfl⟩
    exact ⟨_, encoded, decodeCheckpointV1_eq_ok.mpr ⟨typed, encoded⟩⟩
  · intro input checkpoint decoded
    obtain ⟨typed, encoded⟩ := decodeCheckpointV1_eq_ok.mp decoded
    refine ⟨typed, encoded, fun other otherTyped otherEncoded => ?_⟩
    have again := decodeCheckpointV1_eq_ok.mpr ⟨otherTyped, otherEncoded⟩
    exact Except.ok.inj (again.symm.trans decoded)

/-! ## A message of each kind -/

namespace Sample

def id : Id kind := ⟨7 * 2 ^ 76 + 2 * 2 ^ 62, by decide⟩

def hlc : HybridLogicalClock := ⟨1000, 1, id⟩

/-- An operation with an entry in every list. -/
def operation : SyncOperationV1 where
  schemaVersion := syncSchemaVersion
  operationId := id
  accountId := id
  workspaceId := id
  projectId := some id
  recordId := id
  recordKind := .task
  mutationKind := .upsert
  deviceId := id
  deviceSequence := 300
  causalFrontier := [⟨id, 299⟩]
  controlEpoch := 1
  keyEpoch := 1
  previousDeviceHash := .zero
  nonce := ⟨.ofNat 7⟩
  ciphertext := [1, 2, 3]
  ciphertextHash := ⟨.ofNat 9⟩
  blobRefs := [⟨⟨.ofNat 8⟩, 70000, "blob"⟩]
  createdHlc := hlc
  signature := ⟨.ofNat 11⟩

def checkpoint : CheckpointV1 where
  schemaVersion := checkpointSchemaVersion
  accountId := id
  workspaceId := id
  previousCheckpointHash := .zero
  causalFrontier := [⟨id, 300⟩]
  stateHash := ⟨.ofNat 12⟩
  keyEpoch := 1
  creatorDevice := id
  createdHlc := hlc
  signature := ⟨.ofNat 13⟩

theorem operation_typed : OperationTyped operation where
  schemaVersion := by decide
  deviceSequence := by decide
  causalFrontier := by unfold FrontierTyped; decide
  controlEpoch := by decide
  keyEpoch := by decide
  ciphertext := by decide
  blobRefs := by decide
  createdHlc := ⟨by decide, by decide⟩

theorem checkpoint_typed : CheckpointTyped checkpoint where
  schemaVersion := by decide
  causalFrontier := by unfold FrontierTyped; decide
  keyEpoch := by decide
  createdHlc := ⟨by decide, by decide⟩

theorem operation_valid : operation.validate = .ok () := by decide

theorem checkpoint_valid : checkpoint.validate = .ok () := by decide

theorem sample_short : ∀ signed, (writeOperation operation signed).length ≤ maxCborOperationBytes ∧
    (writeCheckpoint checkpoint signed).length ≤ maxCborOperationBytes := by
  decide +kernel

end Sample

theorem canonical_codec_is_exact_on_sample :
    ∃ bytes, encodeSyncOperationV1 Sample.operation = .ok bytes ∧
      decodeSyncOperationV1 bytes = .ok Sample.operation ∧
      (∀ other, OperationTyped other → encodeSyncOperationV1 other = .ok bytes →
        other = Sample.operation) ∧
      ∃ checkpointBytes, encodeCheckpointV1 Sample.checkpoint = .ok checkpointBytes ∧
        decodeCheckpointV1 checkpointBytes = .ok Sample.checkpoint ∧
        ∀ other, CheckpointTyped other → encodeCheckpointV1 other = .ok checkpointBytes →
          other = Sample.checkpoint := by
  obtain ⟨roundTrip, unique, checkpointRoundTrip, checkpointUnique⟩ := canonical_codec_is_exact
  obtain ⟨bytes, encoded, decoded⟩ := roundTrip Sample.operation Sample.operation_typed
    Sample.operation_valid (Sample.sample_short true).1
  obtain ⟨checkpointBytes, checkpointEncoded, checkpointDecoded⟩ := checkpointRoundTrip
    Sample.checkpoint Sample.checkpoint_typed Sample.checkpoint_valid (Sample.sample_short true).2
  exact ⟨bytes, encoded, decoded, (unique _ _ decoded).2.2, checkpointBytes, checkpointEncoded,
    checkpointDecoded, (checkpointUnique _ _ checkpointDecoded).2.2⟩

end ContextRelay.CanonicalCbor
