import ContextRelay.CanonicalCbor

/-! What signatures and the cipher's associated data bind. The encodings that are signed and
authenticated leave fields out, so no decoder reads them; each of their parts is still read
back from its own spelling, and splitting the parts off one by one shows that equal encodings
have equal fields. -/
namespace ContextRelay.CanonicalCbor

open Library Library.Cbor

/-! ## Parts split off -/

section

variable {left right : SyncOperationV1} {rest other : Bytes}

theorem unsigned_append_iff {left right : Nat} (small : left < 2 ^ 64)
    (otherSmall : right < 2 ^ 64) :
    unsigned left ++ rest = unsigned right ++ other ↔ left = right ∧ rest = other :=
  Reader.written_append_iff (readUnsigned dec (2 ^ 64)) unsigned
    (readUnsigned_unsigned small small) (readUnsigned_unsigned otherSmall otherSmall)

theorem recordKind_append_iff {left right : RecordKind} :
    unsigned (recordKind left) ++ rest = unsigned (recordKind right) ++ other ↔
      left = right ∧ rest = other := by
  rw [unsigned_append_iff (lt_trans (recordKind_lt left) (by decide))
    (lt_trans (recordKind_lt right) (by decide))]
  refine and_congr_left fun _ => ⟨fun same => ?_, congrArg recordKind⟩
  have read := decodeRecordKind_recordKind left
  rw [same, decodeRecordKind_recordKind] at read
  exact (Except.ok.inj read).symm

theorem mutationKind_append_iff {left right : MutationKind} :
    unsigned (mutationKind left) ++ rest = unsigned (mutationKind right) ++ other ↔
      left = right ∧ rest = other := by
  rw [unsigned_append_iff (lt_trans (mutationKind_lt left) (by decide))
    (lt_trans (mutationKind_lt right) (by decide))]
  refine and_congr_left fun _ => ⟨fun same => ?_, congrArg mutationKind⟩
  have read := decodeMutationKind_mutationKind left
  rw [same, decodeMutationKind_mutationKind] at read
  exact (Except.ok.inj read).symm

theorem id_append_iff {left right : Id kind} :
    byteString left.bytes ++ rest = byteString right.bytes ++ other ↔
      left = right ∧ rest = other :=
  Reader.written_append_iff (readId "") (fun id => byteString id.bytes) (readId_bytes "" left)
    (readId_bytes "" right)

theorem fixed_append_iff {width : Nat} (small : width < 2 ^ 64) {left right : Fixed width} :
    byteString left.bytes ++ rest = byteString right.bytes ++ other ↔
      left = right ∧ rest = other :=
  Reader.written_append_iff readFixed (fun fixed => byteString fixed.bytes)
    (readFixed_bytes small left) (readFixed_bytes small right)

theorem digest_append_iff {left right : Sha256Digest} :
    byteString left.bytes ++ rest = byteString right.bytes ++ other ↔
      left = right ∧ rest = other := by
  rw [fixed_append_iff (by decide), Sha256Digest.toFixed_injective.eq_iff]

theorem nonce_append_iff {left right : XChaChaNonce} :
    byteString left.bytes ++ rest = byteString right.bytes ++ other ↔
      left = right ∧ rest = other := by
  rw [fixed_append_iff (by decide), XChaChaNonce.toFixed_injective.eq_iff]

theorem bytes_append_iff {left right : Bytes} (short : left.length ≤ maxCiphertextBytes)
    (otherShort : right.length ≤ maxCiphertextBytes) :
    byteString left ++ rest = byteString right ++ other ↔ left = right ∧ rest = other :=
  Reader.written_append_iff (readString dec .bytes) byteString
    (readString_byteString (lt_of_le_of_lt short (by decide)))
    (readString_byteString (lt_of_le_of_lt otherShort (by decide)))

theorem project_append_iff {left right : Option ProjectId} :
    encodeProject left ++ rest = encodeProject right ++ other ↔ left = right ∧ rest = other :=
  Reader.written_append_iff decodeProject encodeProject (decodeProject_encode left)
    (decodeProject_encode right)

theorem frontier_append_iff {left right : List DeviceSequence} (typed : FrontierTyped left)
    (otherTyped : FrontierTyped right) (within : left.length ≤ maxBatchOperations)
    (otherWithin : right.length ≤ maxBatchOperations) :
    encodeFrontier left ++ rest = encodeFrontier right ++ other ↔ left = right ∧ rest = other :=
  Reader.written_append_iff decodeFrontier encodeFrontier (decodeFrontier_encode typed within)
    (decodeFrontier_encode otherTyped otherWithin)

theorem hlc_append_iff {left right : HybridLogicalClock} (typed : HlcTyped left)
    (otherTyped : HlcTyped right) :
    encodeHlc left ++ rest = encodeHlc right ++ other ↔ left = right ∧ rest = other :=
  Reader.written_append_iff decodeHlc encodeHlc (decodeHlc_encode typed)
    (decodeHlc_encode otherTyped)

theorem blobs_append_iff (typed : OperationTyped left) (otherTyped : OperationTyped right)
    (valid : left.validate = .ok ()) (otherValid : right.validate = .ok ()) :
    encodeBlobs left.blobRefs ++ rest = encodeBlobs right.blobRefs ++ other ↔
      left.blobRefs = right.blobRefs ∧ rest = other :=
  Reader.written_append_iff decodeBlobs encodeBlobs (decodeBlobs_valid typed valid)
    (decodeBlobs_valid otherTyped otherValid)

/-! ## The fields both encodings of an operation start with -/

/-- The entries up to the hash of the device's previous operation. -/
def writeHeader (operation : SyncOperationV1) : Bytes :=
  (key 0 ++ unsigned operation.schemaVersion) ++
    (key 1 ++ byteString operation.operationId.bytes) ++
    (key 2 ++ byteString operation.accountId.bytes) ++
    (key 3 ++ byteString operation.workspaceId.bytes) ++
    (key 4 ++ encodeProject operation.projectId) ++
    (key 5 ++ byteString operation.recordId.bytes) ++
    (key 6 ++ unsigned (recordKind operation.recordKind)) ++
    (key 7 ++ unsigned (mutationKind operation.mutationKind)) ++
    (key 8 ++ byteString operation.deviceId.bytes) ++
    (key 9 ++ unsigned operation.deviceSequence) ++
    (key 10 ++ encodeFrontier operation.causalFrontier) ++
    (key 11 ++ unsigned operation.controlEpoch) ++
    (key 12 ++ unsigned operation.keyEpoch) ++
    (key 13 ++ byteString operation.previousDeviceHash.bytes)

theorem writeOperation_preimage (operation : SyncOperationV1) :
    writeOperation operation false =
      head .map 19 ++ (writeHeader operation ++
        (key 14 ++ (byteString operation.nonce.bytes ++
        (key 15 ++ (byteString operation.ciphertext ++
        (key 16 ++ (byteString operation.ciphertextHash.bytes ++
        (key 17 ++ (encodeBlobs operation.blobRefs ++
        (key 18 ++ (encodeHlc operation.createdHlc ++ []))))))))))) := by
  unfold writeOperation writeHeader
  simp only [List.append_assoc, Bool.false_eq_true, if_false]

theorem encodeSyncOperationAadV1_header (operation : SyncOperationV1) :
    encodeSyncOperationAadV1 operation =
      head .map 16 ++ (writeHeader operation ++
        (key 17 ++ (encodeBlobs operation.blobRefs ++
        (key 18 ++ (encodeHlc operation.createdHlc ++ []))))) := by
  unfold encodeSyncOperationAadV1 writeHeader
  simp only [List.append_assoc, List.append_nil]

structure SameHeader (left right : SyncOperationV1) : Prop where
  schemaVersion : left.schemaVersion = right.schemaVersion
  operationId : left.operationId = right.operationId
  accountId : left.accountId = right.accountId
  workspaceId : left.workspaceId = right.workspaceId
  projectId : left.projectId = right.projectId
  recordId : left.recordId = right.recordId
  recordKind : left.recordKind = right.recordKind
  mutationKind : left.mutationKind = right.mutationKind
  deviceId : left.deviceId = right.deviceId
  deviceSequence : left.deviceSequence = right.deviceSequence
  causalFrontier : left.causalFrontier = right.causalFrontier
  controlEpoch : left.controlEpoch = right.controlEpoch
  keyEpoch : left.keyEpoch = right.keyEpoch
  previousDeviceHash : left.previousDeviceHash = right.previousDeviceHash

section

variable (typed : OperationTyped left) (otherTyped : OperationTyped right)
  (valid : left.validate = .ok ()) (otherValid : right.validate = .ok ())

include typed otherTyped valid otherValid

theorem writeHeader_append (same : writeHeader left ++ rest = writeHeader right ++ other) :
    SameHeader left right ∧ rest = other := by
  obtain ⟨_, frontier, _⟩ := operationValidate_eq_ok.mp valid
  obtain ⟨_, otherFrontier, _⟩ := operationValidate_eq_ok.mp otherValid
  unfold writeHeader at same
  simp only [List.append_assoc] at same
  obtain ⟨schemaVersion, same⟩ := (unsigned_append_iff (wider typed.schemaVersion (by decide))
    (wider otherTyped.schemaVersion (by decide))).mp (List.append_cancel_left same)
  obtain ⟨operationId, same⟩ := id_append_iff.mp (List.append_cancel_left same)
  obtain ⟨accountId, same⟩ := id_append_iff.mp (List.append_cancel_left same)
  obtain ⟨workspaceId, same⟩ := id_append_iff.mp (List.append_cancel_left same)
  obtain ⟨projectId, same⟩ := project_append_iff.mp (List.append_cancel_left same)
  obtain ⟨recordId, same⟩ := id_append_iff.mp (List.append_cancel_left same)
  obtain ⟨recordKind, same⟩ := recordKind_append_iff.mp (List.append_cancel_left same)
  obtain ⟨mutationKind, same⟩ := mutationKind_append_iff.mp (List.append_cancel_left same)
  obtain ⟨deviceId, same⟩ := id_append_iff.mp (List.append_cancel_left same)
  obtain ⟨deviceSequence, same⟩ := (unsigned_append_iff typed.deviceSequence
    otherTyped.deviceSequence).mp (List.append_cancel_left same)
  obtain ⟨causalFrontier, same⟩ := (frontier_append_iff typed.causalFrontier
    otherTyped.causalFrontier frontier otherFrontier).mp (List.append_cancel_left same)
  obtain ⟨controlEpoch, same⟩ := (unsigned_append_iff (wider typed.controlEpoch (by decide))
    (wider otherTyped.controlEpoch (by decide))).mp (List.append_cancel_left same)
  obtain ⟨keyEpoch, same⟩ := (unsigned_append_iff (wider typed.keyEpoch (by decide))
    (wider otherTyped.keyEpoch (by decide))).mp (List.append_cancel_left same)
  obtain ⟨previousDeviceHash, same⟩ := digest_append_iff.mp (List.append_cancel_left same)
  exact ⟨{
    schemaVersion, operationId, accountId, workspaceId, projectId, recordId, recordKind
    mutationKind, deviceId, deviceSequence, causalFrontier, controlEpoch, keyEpoch
    previousDeviceHash }, same⟩

/-! ## Whole encodings -/

/-- An operation's preimage determines every field but the signature. -/
theorem writeOperation_preimage_inj
    (same : writeOperation left false = writeOperation right false) :
    left.unsigned = right.unsigned := by
  rw [writeOperation_preimage, writeOperation_preimage] at same
  obtain ⟨header, same⟩ := writeHeader_append typed otherTyped valid otherValid
    (List.append_cancel_left same)
  obtain ⟨nonce, same⟩ := nonce_append_iff.mp (List.append_cancel_left same)
  obtain ⟨ciphertext, same⟩ := (bytes_append_iff typed.ciphertext otherTyped.ciphertext).mp
    (List.append_cancel_left same)
  obtain ⟨ciphertextHash, same⟩ := digest_append_iff.mp (List.append_cancel_left same)
  obtain ⟨blobRefs, same⟩ := (blobs_append_iff typed otherTyped valid otherValid).mp
    (List.append_cancel_left same)
  obtain ⟨createdHlc, _⟩ := (hlc_append_iff typed.createdHlc otherTyped.createdHlc).mp
    (List.append_cancel_left same)
  obtain ⟨⟩ := header
  cases left
  cases right
  simp_all [SyncOperationV1.unsigned]

/-- An operation's associated data determine every field that sealing does not fill in. -/
theorem encodeSyncOperationAadV1_inj
    (same : encodeSyncOperationAadV1 left = encodeSyncOperationAadV1 right) :
    left.unsealed = right.unsealed := by
  rw [encodeSyncOperationAadV1_header, encodeSyncOperationAadV1_header] at same
  obtain ⟨header, same⟩ := writeHeader_append typed otherTyped valid otherValid
    (List.append_cancel_left same)
  obtain ⟨blobRefs, same⟩ := (blobs_append_iff typed otherTyped valid otherValid).mp
    (List.append_cancel_left same)
  obtain ⟨createdHlc, _⟩ := (hlc_append_iff typed.createdHlc otherTyped.createdHlc).mp
    (List.append_cancel_left same)
  obtain ⟨⟩ := header
  cases left
  cases right
  simp_all [SyncOperationV1.unsealed]

end

end

/-- A checkpoint's preimage determines every field but the signature. -/
theorem writeCheckpoint_preimage_inj {left right : CheckpointV1} (typed : CheckpointTyped left)
    (otherTyped : CheckpointTyped right) (valid : left.validate = .ok ())
    (otherValid : right.validate = .ok ())
    (same : writeCheckpoint left false = writeCheckpoint right false) :
    left.unsigned = right.unsigned := by
  obtain ⟨_, frontier, _⟩ := checkpointValidate_eq_ok.mp valid
  obtain ⟨_, otherFrontier, _⟩ := checkpointValidate_eq_ok.mp otherValid
  unfold writeCheckpoint at same
  simp only [List.append_assoc, Bool.false_eq_true, if_false] at same
  replace same := List.append_cancel_left same
  obtain ⟨schemaVersion, same⟩ := (unsigned_append_iff (wider typed.schemaVersion (by decide))
    (wider otherTyped.schemaVersion (by decide))).mp (List.append_cancel_left same)
  obtain ⟨accountId, same⟩ := id_append_iff.mp (List.append_cancel_left same)
  obtain ⟨workspaceId, same⟩ := id_append_iff.mp (List.append_cancel_left same)
  obtain ⟨previous, same⟩ := digest_append_iff.mp (List.append_cancel_left same)
  obtain ⟨causalFrontier, same⟩ := (frontier_append_iff typed.causalFrontier
    otherTyped.causalFrontier frontier otherFrontier).mp (List.append_cancel_left same)
  obtain ⟨stateHash, same⟩ := digest_append_iff.mp (List.append_cancel_left same)
  obtain ⟨keyEpoch, same⟩ := (unsigned_append_iff (wider typed.keyEpoch (by decide))
    (wider otherTyped.keyEpoch (by decide))).mp (List.append_cancel_left same)
  obtain ⟨creatorDevice, same⟩ := id_append_iff.mp (List.append_cancel_left same)
  obtain ⟨createdHlc, _⟩ := (hlc_append_iff typed.createdHlc otherTyped.createdHlc).mp
    (List.append_cancel_left same)
  cases left
  cases right
  simp_all [CheckpointV1.unsigned]

theorem encodeSyncOperationSigningPreimageV1_eq_ok {operation : SyncOperationV1} {bytes : Bytes} :
    encodeSyncOperationSigningPreimageV1 operation = .ok bytes ↔
      operation.validate = .ok () ∧
        (writeOperation operation false).length ≤ maxCborOperationBytes ∧
        writeOperation operation false = bytes := by
  simp only [encodeSyncOperationSigningPreimageV1, encodeOperation, boundedCbor, ok_iff]

theorem encodeCheckpointSigningPreimageV1_eq_ok {checkpoint : CheckpointV1} {bytes : Bytes} :
    encodeCheckpointSigningPreimageV1 checkpoint = .ok bytes ↔
      checkpoint.validate = .ok () ∧
        (writeCheckpoint checkpoint false).length ≤ maxCborOperationBytes ∧
        writeCheckpoint checkpoint false = bytes := by
  simp only [encodeCheckpointSigningPreimageV1, encodeCheckpoint, boundedCbor, ok_iff]

/-! The three encodings are maps of different sizes, which their first byte tells. -/

theorem writeOperation_preimage_head (operation : SyncOperationV1) :
    (writeOperation operation false).head? = some 0xb3 := by
  rw [writeOperation_preimage, head_inline .map (by decide)]
  rfl

theorem encodeSyncOperationAadV1_head (operation : SyncOperationV1) :
    (encodeSyncOperationAadV1 operation).head? = some 0xb0 := by
  rw [encodeSyncOperationAadV1_header, head_inline .map (by decide)]
  rfl

theorem writeCheckpoint_preimage_head (checkpoint : CheckpointV1) :
    (writeCheckpoint checkpoint false).head? = some 0xa9 := by
  have opened : head .map 9 = [0xa9] := head_inline .map (by decide)
  unfold writeCheckpoint
  simp only [List.append_assoc, Bool.false_eq_true, if_false, opened]
  rfl

/-- What is signed or authenticated binds what it was made from: a preimage every field but
the signature, associated data every field that sealing does not fill in. And no two of the
three kinds of encodings are ever the same bytes. -/
theorem signed_encodings_bind :
    (∀ (left right : SyncOperationV1) (bytes : Bytes), OperationTyped left → OperationTyped right →
      encodeSyncOperationSigningPreimageV1 left = .ok bytes →
      encodeSyncOperationSigningPreimageV1 right = .ok bytes → left.unsigned = right.unsigned) ∧
    (∀ left right : SyncOperationV1, OperationTyped left → OperationTyped right →
      left.validate = .ok () → right.validate = .ok () →
      encodeSyncOperationAadV1 left = encodeSyncOperationAadV1 right →
      left.unsealed = right.unsealed) ∧
    (∀ (left right : CheckpointV1) (bytes : Bytes), CheckpointTyped left → CheckpointTyped right →
      encodeCheckpointSigningPreimageV1 left = .ok bytes →
      encodeCheckpointSigningPreimageV1 right = .ok bytes → left.unsigned = right.unsigned) ∧
    ∀ (signed sealed : SyncOperationV1) (checkpoint : CheckpointV1) (preimage checkpointPreimage : Bytes),
      encodeSyncOperationSigningPreimageV1 signed = .ok preimage →
      encodeCheckpointSigningPreimageV1 checkpoint = .ok checkpointPreimage →
      preimage ≠ encodeSyncOperationAadV1 sealed ∧ preimage ≠ checkpointPreimage ∧
        encodeSyncOperationAadV1 sealed ≠ checkpointPreimage := by
  refine ⟨?_, ?_, ?_, ?_⟩
  · intro left right bytes typed otherTyped encoded otherEncoded
    obtain ⟨valid, _, spelled⟩ := encodeSyncOperationSigningPreimageV1_eq_ok.mp encoded
    obtain ⟨otherValid, _, otherSpelled⟩ := encodeSyncOperationSigningPreimageV1_eq_ok.mp otherEncoded
    exact writeOperation_preimage_inj typed otherTyped valid otherValid
      (spelled.trans otherSpelled.symm)
  · intro left right typed otherTyped valid otherValid same
    exact encodeSyncOperationAadV1_inj typed otherTyped valid otherValid same
  · intro left right bytes typed otherTyped encoded otherEncoded
    obtain ⟨valid, _, spelled⟩ := encodeCheckpointSigningPreimageV1_eq_ok.mp encoded
    obtain ⟨otherValid, _, otherSpelled⟩ := encodeCheckpointSigningPreimageV1_eq_ok.mp otherEncoded
    exact writeCheckpoint_preimage_inj typed otherTyped valid otherValid
      (spelled.trans otherSpelled.symm)
  · intro signed sealed checkpoint preimage checkpointPreimage encoded checkpointEncoded
    obtain ⟨_, _, rfl⟩ := encodeSyncOperationSigningPreimageV1_eq_ok.mp encoded
    obtain ⟨_, _, rfl⟩ := encodeCheckpointSigningPreimageV1_eq_ok.mp checkpointEncoded
    have first := writeOperation_preimage_head signed
    have second := encodeSyncOperationAadV1_head sealed
    have third := writeCheckpoint_preimage_head checkpoint
    refine ⟨?_, ?_, ?_⟩
    · intro same
      rw [same, second] at first
      exact absurd first (by decide)
    · intro same
      rw [same, third] at first
      exact absurd first (by decide)
    · intro same
      rw [same, third] at second
      exact absurd second (by decide)

open CanonicalCbor.Sample (operation checkpoint operation_valid checkpoint_valid operation_typed
  checkpoint_typed sample_short)

/-- The bindings on messages and the same messages without their signatures. -/
theorem signed_encodings_bind_sample :
    operation ≠ operation.unsigned ∧
      operation.unsigned = operation.unsigned.unsigned ∧
      operation.unsealed = operation.unsigned.unsealed ∧
      checkpoint.unsigned = checkpoint.unsigned.unsigned ∧
      writeOperation operation false ≠ encodeSyncOperationAadV1 operation := by
  obtain ⟨preimage, associated, checkpointPreimage, distinct⟩ := signed_encodings_bind
  obtain ⟨short, checkpointShort⟩ := sample_short false
  have encoded : encodeSyncOperationSigningPreimageV1 operation =
      .ok (writeOperation operation false) :=
    encodeSyncOperationSigningPreimageV1_eq_ok.mpr ⟨operation_valid, short, rfl⟩
  have encodedAgain : encodeSyncOperationSigningPreimageV1 operation.unsigned =
      .ok (writeOperation operation false) :=
    encodeSyncOperationSigningPreimageV1_eq_ok.mpr
      ⟨operation_valid, by rw [writeOperation_unsigned]; exact short,
        writeOperation_unsigned _⟩
  have checkpointEncoded : encodeCheckpointSigningPreimageV1 checkpoint =
      .ok (writeCheckpoint checkpoint false) :=
    encodeCheckpointSigningPreimageV1_eq_ok.mpr ⟨checkpoint_valid, checkpointShort, rfl⟩
  have checkpointEncodedAgain : encodeCheckpointSigningPreimageV1 checkpoint.unsigned =
      .ok (writeCheckpoint checkpoint false) :=
    encodeCheckpointSigningPreimageV1_eq_ok.mpr
      ⟨checkpoint_valid, by rw [writeCheckpoint_unsigned]; exact checkpointShort,
        writeCheckpoint_unsigned _⟩
  have unsignedTyped : OperationTyped operation.unsigned :=
    { operation_typed with }
  have unsignedCheckpointTyped : CheckpointTyped checkpoint.unsigned :=
    { checkpoint_typed with }
  have sameAad : encodeSyncOperationAadV1 operation =
      encodeSyncOperationAadV1 operation.unsigned := by
    rw [← encodeSyncOperationAadV1_unsealed, ← encodeSyncOperationAadV1_unsealed
      operation.unsigned]
    rfl
  exact ⟨by decide, preimage _ _ _ operation_typed unsignedTyped encoded encodedAgain,
    associated _ _ operation_typed unsignedTyped operation_valid
      operation_valid sameAad,
    checkpointPreimage _ _ _ checkpoint_typed unsignedCheckpointTyped checkpointEncoded
      checkpointEncodedAgain,
    (distinct _ operation _ _ _ encoded checkpointEncoded).1⟩

end ContextRelay.CanonicalCbor
