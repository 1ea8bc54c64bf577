import ContextRelay.EdgeDecoder

/-! The edge function's decoder agrees with the protocol crate's: it accepts the same inputs
and returns the same message, in the edge function's forms, with the preimage the signature
was made over. -/
namespace ContextRelay.Edge

open Library Library.Cbor CanonicalCbor

/-! ## Cutting out the preimage -/

theorem cutPreimage_append (first other : UInt8) (body left : Bytes) :
    cutPreimage first (other :: body ++ left) left = first :: body := by
  have before : (other :: body ++ left).length - left.length = (other :: body).length := by
    rw [List.length_append, Nat.add_sub_cancel]
  rw [cutPreimage, before, List.take_left, List.drop_one, List.tail_cons]

/-- A signed operation is its preimage with another first byte, followed by the signature. -/
theorem writeOperation_signed (operation : SyncOperationV1) :
    ∃ body, writeOperation operation false = 0xb3 :: body ∧
      writeOperation operation true = 0xb4 :: body ++
        (key 19 ++ Cbor.byteString operation.signature.bytes) := by
  have opened : head .map 19 = [0xb3] := head_inline .map (by decide)
  have openedSigned : head .map 20 = [0xb4] := head_inline .map (by decide)
  unfold writeOperation
  simp only [List.append_assoc, Bool.false_eq_true, if_false, if_true, opened, openedSigned,
    List.cons_append, List.nil_append, List.append_nil]
  exact ⟨_, rfl, by simp only [List.append_assoc]⟩

theorem writeCheckpoint_signed (checkpoint : CheckpointV1) :
    ∃ body, writeCheckpoint checkpoint false = 0xa9 :: body ∧
      writeCheckpoint checkpoint true = 0xaa :: body ++
        (key 9 ++ Cbor.byteString checkpoint.signature.bytes) := by
  have opened : head .map 9 = [0xa9] := head_inline .map (by decide)
  have openedSigned : head .map 10 = [0xaa] := head_inline .map (by decide)
  unfold writeCheckpoint
  simp only [List.append_assoc, Bool.false_eq_true, if_false, if_true, opened, openedSigned,
    List.cons_append, List.nil_append, List.append_nil]
  exact ⟨_, rfl, by simp only [List.append_assoc]⟩

/-! ## Views of whole messages -/

def checkpointView (checkpoint : CheckpointV1) : Checkpoint where
  schemaVersion := checkpoint.schemaVersion
  accountId := uuidText checkpoint.accountId.bytes
  workspaceId := uuidText checkpoint.workspaceId.bytes
  previousCheckpointHash := checkpoint.previousCheckpointHash.bytes
  causalFrontier := checkpoint.causalFrontier.map frontierView
  stateHash := checkpoint.stateHash.bytes
  keyEpoch := checkpoint.keyEpoch
  creatorDeviceId := uuidText checkpoint.creatorDevice.bytes
  createdHlc := hlcView checkpoint.createdHlc
  signature := checkpoint.signature.bytes
  signingPreimage := writeCheckpoint checkpoint false
  canonicalBytes := writeCheckpoint checkpoint true

def operationView (operation : SyncOperationV1) : Operation where
  schemaVersion := operation.schemaVersion
  operationId := uuidText operation.operationId.bytes
  accountId := uuidText operation.accountId.bytes
  workspaceId := uuidText operation.workspaceId.bytes
  projectId := operation.projectId.map fun id => uuidText id.bytes
  recordId := uuidText operation.recordId.bytes
  recordKind := operation.recordKind
  mutationKind := operation.mutationKind
  deviceId := uuidText operation.deviceId.bytes
  deviceSequence := toString operation.deviceSequence
  causalFrontier := operation.causalFrontier.map frontierView
  controlEpoch := operation.controlEpoch
  keyEpoch := operation.keyEpoch
  previousDeviceHash := operation.previousDeviceHash.bytes
  nonce := operation.nonce.bytes
  ciphertext := operation.ciphertext
  ciphertextHash := operation.ciphertextHash.bytes
  blobRefs := operation.blobRefs.map blobView
  createdHlc := hlcView operation.createdHlc
  signature := operation.signature.bytes
  signingPreimage := writeOperation operation false
  canonicalBytes := writeOperation operation true

section

variable {canonicalBytes : Bytes}

theorem readCheckpoint_iff :
    readCheckpoint canonicalBytes input = .ok (found, rest) ↔
      ∃ checkpoint, CheckpointTyped checkpoint ∧ checkpoint.validate = .ok () ∧
        found = { checkpointView checkpoint with
          signingPreimage := cutPreimage 0xa9 canonicalBytes
            (key 9 ++ (Cbor.byteString checkpoint.signature.bytes ++ rest))
          canonicalBytes } ∧
        input = writeCheckpoint checkpoint true ++ rest := by
  have opening := expectMap_spells 10
  have version := entry_spells (unsigned_below (2 ^ 16)) 0
  have account := entry_spells (readUuid_spells .account) 1
  have workspace := entry_spells (readUuid_spells .workspace) 2
  have previous := entry_spells (fixedBytes_spells 32) 3
  have frontier := entry_spells readFrontier_spells 4
  have state := entry_spells (fixedBytes_spells 32) 5
  have epoch := entry_spells (unsigned_below (2 ^ 32)) 6
  have creator := entry_spells (readUuid_spells .device) 7
  have created := entry_spells readHlc_spells 8
  have signature := entry_spells (fixedBytes_spells 64) 9
  unfold readCheckpoint writeCheckpoint
  simp only [List.append_assoc, checkpointValidate_eq_ok, if_true]
  constructor
  · intro read
    obtain ⟨_, _, _, at0, read⟩ := opening.bind_iff.mp read
    obtain ⟨schemaVersion, schema, _, at1, read⟩ := version.bind_iff.mp read
    obtain ⟨_, _, checked, read⟩ := Reader.bind_eq_ok.mp read
    obtain ⟨known, at2⟩ := Reader.lift_eq_ok.mp checked
    obtain ⟨accountId, _, _, at3, read⟩ := account.bind_iff.mp read
    obtain ⟨workspaceId, _, _, at4, read⟩ := workspace.bind_iff.mp read
    obtain ⟨previousHash, _, _, at5, read⟩ := previous.bind_iff.mp read
    obtain ⟨causalFrontier, ⟨within, typed, ascend⟩, _, at6, read⟩ := frontier.bind_iff.mp read
    obtain ⟨stateHash, _, _, at7, read⟩ := state.bind_iff.mp read
    obtain ⟨keyEpoch, small, _, at8, read⟩ := epoch.bind_iff.mp read
    obtain ⟨creatorDevice, _, _, at9, read⟩ := creator.bind_iff.mp read
    obtain ⟨createdHlc, clock, _, at10, read⟩ := created.bind_iff.mp read
    obtain ⟨_, _, looked, read⟩ := Reader.bind_eq_ok.mp read
    obtain ⟨at11, at12⟩ := Reader.remaining_eq_ok.mp looked
    obtain ⟨signature, _, _, at13, read⟩ := signature.bind_iff.mp read
    obtain ⟨shown, ended⟩ := Reader.pure_eq_ok.mp read
    simp only [List.append_assoc] at at1 at3 at4 at5 at6 at7 at8 at9 at10 at13
    refine ⟨⟨schemaVersion, accountId, workspaceId, ⟨previousHash⟩, causalFrontier, ⟨stateHash⟩,
      keyEpoch, creatorDevice, createdHlc, ⟨signature⟩⟩, ⟨schema, typed, small, clock⟩,
      ⟨require_eq_ok.mp known, within, ascend⟩, ?_, ?_⟩
    · rw [← shown, ← at11, at12, at13, ended]
      rfl
    · rw [at0, at1, at2, at3, at4, at5, at6, at7, at8, at9, at10, at12, at13, ended]
  · rintro ⟨checkpoint, typed, ⟨known, within, ascend⟩, shown, spelled⟩
    simp only [opening.bind_iff, version.bind_iff, account.bind_iff, workspace.bind_iff,
      previous.bind_iff, frontier.bind_iff, state.bind_iff, epoch.bind_iff, creator.bind_iff,
      created.bind_iff, signature.bind_iff, read_iff, Reader.remaining_eq_ok, List.append_assoc]
    exact ⟨(), True.intro, _, spelled, _, typed.schemaVersion, _, rfl, (), _, ⟨known, rfl⟩, _,
      True.intro, _, rfl, _, True.intro, _, rfl, _, True.intro, _, rfl, _,
      ⟨within, typed.causalFrontier, ascend⟩, _, rfl, _, True.intro, _, rfl, _, typed.keyEpoch, _,
      rfl, _, True.intro, _, rfl, _, typed.createdHlc, _, rfl, _, _, ⟨rfl, rfl⟩, _, True.intro, _,
      rfl, shown.symm, rfl⟩

theorem readOperation_iff :
    readOperation canonicalBytes input = .ok (found, rest) ↔
      ∃ operation, OperationTyped operation ∧ operation.validate = .ok () ∧
        found = { operationView operation with
          signingPreimage := cutPreimage 0xb3 canonicalBytes
            (key 19 ++ (Cbor.byteString operation.signature.bytes ++ rest))
          canonicalBytes } ∧
        input = writeOperation operation true ++ rest := by
  have opening := expectMap_spells 20
  have version := entry_spells (unsigned_below (2 ^ 16)) 0
  have operationEntry := entry_spells (readUuid_spells .operation) 1
  have account := entry_spells (readUuid_spells .account) 2
  have workspace := entry_spells (readUuid_spells .workspace) 3
  have project := entry_spells nullableUuid_spells 4
  have record := entry_spells (readUuid_spells .record) 5
  have recordEntry := entry_spells recordKind_spells 6
  have mutationEntry := entry_spells mutationKind_spells 7
  have device := entry_spells (readUuid_spells .device) 8
  have sequenceEntry := entry_spells (unsigned_below (2 ^ 64)) 9
  have frontier := entry_spells readFrontier_spells 10
  have control := entry_spells (unsigned_below (2 ^ 32)) 11
  have epoch := entry_spells (unsigned_below (2 ^ 32)) 12
  have previous := entry_spells (fixedBytes_spells 32) 13
  have nonceEntry := entry_spells (fixedBytes_spells 24) 14
  have sealed := entry_spells (byteString_spells (show maxCiphertextBytes < 2 ^ 64 by decide)) 15
  have sealedHash := entry_spells (fixedBytes_spells 32) 16
  have blobs := entry_spells readBlobs_spells 17
  have created := entry_spells readHlc_spells 18
  have signature := entry_spells (fixedBytes_spells 64) 19
  unfold readOperation writeOperation
  simp only [List.append_assoc, operationValidate_eq_ok, if_true]
  constructor
  · intro read
    obtain ⟨_, _, _, at0, read⟩ := opening.bind_iff.mp read
    obtain ⟨schemaVersion, schema, _, at1, read⟩ := version.bind_iff.mp read
    obtain ⟨_, _, checked, read⟩ := Reader.bind_eq_ok.mp read
    obtain ⟨known, at2⟩ := Reader.lift_eq_ok.mp checked
    obtain ⟨operationId, _, _, at3, read⟩ := operationEntry.bind_iff.mp read
    obtain ⟨accountId, _, _, at4, read⟩ := account.bind_iff.mp read
    obtain ⟨workspaceId, _, _, at5, read⟩ := workspace.bind_iff.mp read
    obtain ⟨projectId, _, _, at6, read⟩ := project.bind_iff.mp read
    obtain ⟨recordId, _, _, at7, read⟩ := record.bind_iff.mp read
    obtain ⟨recordKind, _, _, at8, read⟩ := recordEntry.bind_iff.mp read
    obtain ⟨mutationKind, _, _, at9, read⟩ := mutationEntry.bind_iff.mp read
    obtain ⟨deviceId, _, _, at10, read⟩ := device.bind_iff.mp read
    obtain ⟨deviceSequence, sequenceSmall, _, at11, read⟩ := sequenceEntry.bind_iff.mp read
    obtain ⟨causalFrontier, ⟨within, typed, ascend⟩, _, at12, read⟩ := frontier.bind_iff.mp read
    obtain ⟨controlEpoch, controlSmall, _, at13, read⟩ := control.bind_iff.mp read
    obtain ⟨keyEpoch, small, _, at14, read⟩ := epoch.bind_iff.mp read
    obtain ⟨previousHash, _, _, at15, read⟩ := previous.bind_iff.mp read
    obtain ⟨nonce, _, _, at16, read⟩ := nonceEntry.bind_iff.mp read
    obtain ⟨ciphertext, short, _, at17, read⟩ := sealed.bind_iff.mp read
    obtain ⟨ciphertextHash, _, _, at18, read⟩ := sealedHash.bind_iff.mp read
    obtain ⟨blobRefs, ⟨few, valid⟩, _, at19, read⟩ := blobs.bind_iff.mp read
    obtain ⟨createdHlc, clock, _, at20, read⟩ := created.bind_iff.mp read
    obtain ⟨_, _, looked, read⟩ := Reader.bind_eq_ok.mp read
    obtain ⟨at21, at22⟩ := Reader.remaining_eq_ok.mp looked
    obtain ⟨signature, _, _, at23, read⟩ := signature.bind_iff.mp read
    obtain ⟨shown, ended⟩ := Reader.pure_eq_ok.mp read
    simp only [List.append_assoc] at at1 at3 at4 at5 at6 at7 at8 at9 at10 at11 at12 at13 at14 at15
    simp only [List.append_assoc] at at16 at17 at18 at19 at20 at23
    refine ⟨⟨schemaVersion, operationId, accountId, workspaceId, projectId, recordId, recordKind,
      mutationKind, deviceId, deviceSequence, causalFrontier, controlEpoch, keyEpoch, ⟨previousHash⟩,
      ⟨nonce⟩, ciphertext, ⟨ciphertextHash⟩, blobRefs, createdHlc, ⟨signature⟩⟩,
      ⟨schema, sequenceSmall, typed, controlSmall, small, short, ?_, clock⟩,
      ⟨require_eq_ok.mp known, within, few, ascend, valid⟩, ?_, ?_⟩
    rotate_left
    · rw [← shown, ← at21, at22, at23, ended]
      rfl
    · rw [at0, at1, at2, at3, at4, at5, at6, at7, at8, at9, at10, at11, at12, at13, at14, at15,
      at16,
        at17, at18, at19, at20, at22, at23, ended]
    intro blob member
    have bounded := (blobValidate_eq_ok.mp (valid blob member)).2.2.2
    exact lt_of_le_of_lt bounded (by decide)
  · rintro ⟨operation, typed, ⟨known, within, few, ascend, valid⟩, shown, spelled⟩
    simp only [opening.bind_iff, version.bind_iff, operationEntry.bind_iff, account.bind_iff,
      workspace.bind_iff, project.bind_iff, record.bind_iff, recordEntry.bind_iff,
      mutationEntry.bind_iff, device.bind_iff, sequenceEntry.bind_iff, frontier.bind_iff,
      control.bind_iff, epoch.bind_iff, previous.bind_iff, nonceEntry.bind_iff, sealed.bind_iff,
      sealedHash.bind_iff, blobs.bind_iff, created.bind_iff, signature.bind_iff, read_iff,
      Reader.remaining_eq_ok, List.append_assoc]
    exact ⟨(), True.intro, _, spelled, _, typed.schemaVersion, _, rfl, (), _, ⟨known, rfl⟩, _,
      True.intro, _, rfl, _, True.intro, _, rfl, _, True.intro, _, rfl, _, True.intro, _, rfl, _,
      True.intro, _, rfl, _, True.intro, _, rfl, _, True.intro, _, rfl, _, True.intro, _, rfl, _,
      typed.deviceSequence, _, rfl, _, ⟨within, typed.causalFrontier, ascend⟩, _, rfl, _,
      typed.controlEpoch, _, rfl, _, typed.keyEpoch, _, rfl, _, True.intro, _, rfl, _, True.intro, _,
      rfl, _, typed.ciphertext, _, rfl, _, True.intro, _, rfl, _, ⟨few, valid⟩, _, rfl, _,
      typed.createdHlc, _, rfl, _, _, ⟨rfl, rfl⟩, _, True.intro, _, rfl, shown.symm, rfl⟩

/-! ## Agreement -/

theorem decodeWhole_eq_ok :
    decodeWhole reader canonicalBytes = .ok found ↔
      (canonicalBytes.length ≠ 0 ∧ canonicalBytes.length ≤ maxCborOperationBytes) ∧
        reader canonicalBytes canonicalBytes = .ok (found, []) := by
  simp only [decodeWhole, ok_iff]
  refine and_congr_right fun _ => ⟨?_, fun read => ⟨_, read, rfl, rfl⟩⟩
  rintro ⟨⟨_, _⟩, read, rfl, rfl⟩
  exact read

/-- The edge function decodes exactly what the protocol crate decodes, to the same operation. -/
theorem decodeOperation_eq_ok :
    decodeOperation canonicalBytes = .ok found ↔
      ∃ operation, CanonicalCbor.decodeSyncOperationV1 canonicalBytes = .ok operation ∧
        found = operationView operation := by
  rw [decodeOperation, decodeWhole_eq_ok, readOperation_iff]
  simp only [decodeSyncOperationV1_eq_ok, encodeSyncOperationV1_eq_ok,
    List.append_nil]
  have preimage (operation : SyncOperationV1) :
      cutPreimage 0xb3 (writeOperation operation true)
        (key 19 ++ Cbor.byteString operation.signature.bytes) =
          writeOperation operation false := by
    obtain ⟨body, plain, signed⟩ := writeOperation_signed operation
    rw [plain, signed, cutPreimage_append]
  constructor
  · rintro ⟨⟨_, short⟩, operation, typed, valid, rfl, rfl⟩
    exact ⟨operation, ⟨typed, valid, short, rfl⟩, by rw [preimage]; rfl⟩
  · rintro ⟨operation, ⟨typed, valid, short, rfl⟩, rfl⟩
    refine ⟨⟨?_, short⟩, operation, typed, valid, by rw [preimage]; rfl, rfl⟩
    obtain ⟨body, _, signed⟩ := writeOperation_signed operation
    rw [signed]
    exact Nat.succ_ne_zero _

theorem decodeCheckpoint_eq_ok :
    decodeCheckpoint canonicalBytes = .ok found ↔
      ∃ checkpoint, CanonicalCbor.decodeCheckpointV1 canonicalBytes = .ok checkpoint ∧
        found = checkpointView checkpoint := by
  rw [decodeCheckpoint, decodeWhole_eq_ok, readCheckpoint_iff]
  simp only [decodeCheckpointV1_eq_ok, encodeCheckpointV1_eq_ok,
    List.append_nil]
  have preimage (checkpoint : CheckpointV1) :
      cutPreimage 0xa9 (writeCheckpoint checkpoint true)
        (key 9 ++ Cbor.byteString checkpoint.signature.bytes) =
          writeCheckpoint checkpoint false := by
    obtain ⟨body, plain, signed⟩ := writeCheckpoint_signed checkpoint
    rw [plain, signed, cutPreimage_append]
  constructor
  · rintro ⟨⟨_, short⟩, checkpoint, typed, valid, rfl, rfl⟩
    exact ⟨checkpoint, ⟨typed, valid, short, rfl⟩, by rw [preimage]; rfl⟩
  · rintro ⟨checkpoint, ⟨typed, valid, short, rfl⟩, rfl⟩
    refine ⟨⟨?_, short⟩, checkpoint, typed, valid, by rw [preimage]; rfl, rfl⟩
    obtain ⟨body, _, signed⟩ := writeCheckpoint_signed checkpoint
    rw [signed]
    exact Nat.succ_ne_zero _

theorem preimage_of_decoded
    (decoded : CanonicalCbor.decodeSyncOperationV1 canonicalBytes = .ok operation) :
    CanonicalCbor.encodeSyncOperationSigningPreimageV1 operation =
      .ok (operationView operation).signingPreimage := by
  obtain ⟨_, encoded⟩ := decodeSyncOperationV1_eq_ok.mp decoded
  obtain ⟨valid, short, _⟩ := encodeSyncOperationV1_eq_ok.mp encoded
  obtain ⟨body, plain, signed⟩ := writeOperation_signed operation
  refine encodeSyncOperationSigningPreimageV1_eq_ok.mpr ⟨valid, ?_, rfl⟩
  rw [signed, List.length_append] at short
  rw [plain]
  exact le_trans (Nat.le_add_right _ _) short

theorem preimage_of_decoded_checkpoint
    (decoded : CanonicalCbor.decodeCheckpointV1 canonicalBytes = .ok checkpoint) :
    CanonicalCbor.encodeCheckpointSigningPreimageV1 checkpoint =
      .ok (checkpointView checkpoint).signingPreimage := by
  obtain ⟨_, encoded⟩ := decodeCheckpointV1_eq_ok.mp decoded
  obtain ⟨valid, short, _⟩ := encodeCheckpointV1_eq_ok.mp encoded
  obtain ⟨body, plain, signed⟩ := writeCheckpoint_signed checkpoint
  refine encodeCheckpointSigningPreimageV1_eq_ok.mpr ⟨valid, ?_, rfl⟩
  rw [signed, List.length_append] at short
  rw [plain]
  exact le_trans (Nat.le_add_right _ _) short

end

/-- On every input, one decoder succeeds exactly when the other does. They then agree on every
field, and the preimage that the edge function cuts out is the one the protocol crate
encodes. -/
theorem edge_and_protocol_decoders_agree (canonicalBytes : Bytes) :
    ((∃ found, decodeOperation canonicalBytes = .ok found) ↔
      ∃ operation, CanonicalCbor.decodeSyncOperationV1 canonicalBytes = .ok operation) ∧
    (∀ found operation, decodeOperation canonicalBytes = .ok found →
      CanonicalCbor.decodeSyncOperationV1 canonicalBytes = .ok operation →
      found = operationView operation ∧
        CanonicalCbor.encodeSyncOperationSigningPreimageV1 operation = .ok found.signingPreimage) ∧
    ((∃ found, decodeCheckpoint canonicalBytes = .ok found) ↔
      ∃ checkpoint, CanonicalCbor.decodeCheckpointV1 canonicalBytes = .ok checkpoint) ∧
    ∀ found checkpoint, decodeCheckpoint canonicalBytes = .ok found →
      CanonicalCbor.decodeCheckpointV1 canonicalBytes = .ok checkpoint →
      found = checkpointView checkpoint ∧
        CanonicalCbor.encodeCheckpointSigningPreimageV1 checkpoint = .ok found.signingPreimage := by
  refine ⟨?_, ?_, ?_, ?_⟩
  · constructor
    · rintro ⟨found, decoded⟩
      obtain ⟨operation, same, _⟩ := decodeOperation_eq_ok.mp decoded
      exact ⟨operation, same⟩
    · rintro ⟨operation, decoded⟩
      exact ⟨_, decodeOperation_eq_ok.mpr ⟨operation, decoded, rfl⟩⟩
  · intro found operation decoded same
    obtain ⟨other, otherDecoded, rfl⟩ := decodeOperation_eq_ok.mp decoded
    obtain rfl := Except.ok.inj (otherDecoded.symm.trans same)
    exact ⟨rfl, preimage_of_decoded same⟩
  · constructor
    · rintro ⟨found, decoded⟩
      obtain ⟨checkpoint, same, _⟩ := decodeCheckpoint_eq_ok.mp decoded
      exact ⟨checkpoint, same⟩
    · rintro ⟨checkpoint, decoded⟩
      exact ⟨_, decodeCheckpoint_eq_ok.mpr ⟨checkpoint, decoded, rfl⟩⟩
  · intro found checkpoint decoded same
    obtain ⟨other, otherDecoded, rfl⟩ := decodeCheckpoint_eq_ok.mp decoded
    obtain rfl := Except.ok.inj (otherDecoded.symm.trans same)
    exact ⟨rfl, preimage_of_decoded_checkpoint same⟩

/-- Both decoders read the sample operation. -/
theorem edge_and_protocol_decoders_agree_on_sample :
    ∃ found, decodeOperation (writeOperation CanonicalCbor.Sample.operation true) =
        .ok found ∧
      found = operationView CanonicalCbor.Sample.operation := by
  have decoded : CanonicalCbor.decodeSyncOperationV1
      (writeOperation CanonicalCbor.Sample.operation true) =
        .ok CanonicalCbor.Sample.operation :=
    decodeSyncOperationV1_eq_ok.mpr ⟨CanonicalCbor.Sample.operation_typed,
      encodeSyncOperationV1_eq_ok.mpr ⟨CanonicalCbor.Sample.operation_valid,
        (CanonicalCbor.Sample.sample_short true).1, rfl⟩⟩
  obtain ⟨accepts, agrees, _⟩ := edge_and_protocol_decoders_agree
    (writeOperation CanonicalCbor.Sample.operation true)
  obtain ⟨found, read⟩ := accepts.mpr ⟨_, decoded⟩
  exact ⟨found, read, (agrees found _ read decoded).1⟩

end ContextRelay.Edge
