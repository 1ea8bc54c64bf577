import ContextRelay.ControlCodec

/-! The encodings of the control plane read back: what a writer wrote, its decoder returns, and
whatever a decoder accepts is the encoding of what it returns. -/
namespace ContextRelay.Membership

open Library Library.Cbor
open CanonicalCbor (key)

/-! ## Parts -/

section
variable {ε : Type} {failure : ε}

theorem expectKey_key (small : number < 2 ^ 8) (rest : Bytes) :
    expectKey failure number (key number ++ rest) = .ok ((), rest) := by
  have read : readUnsigned failure (2 ^ 8) (unsigned number ++ rest) = .ok (number, rest) :=
    readUnsigned_unsigned small (by omega) rest
  simp only [expectKey, CanonicalCbor.key, Reader.bind_apply, read, ok_bind, require_true,
    Reader.lift_ok_apply]

theorem readFixed_bytes (small : width < 2 ^ 64) (fixed : Fixed width) (rest : Bytes) : readFixed failure (byteString fixed.bytes ++ rest) = .ok (fixed, rest) := by
  have fits : fixed.bytes.length < 2 ^ 64 := by simpa using small
  simp only [readFixed, Reader.bind_apply, readString_byteString fits, ok_bind,
    Fixed.ofBytes?_bytes,
    present_some, Reader.lift_ok_apply]

theorem decodeId_bytes (id : Id kind) (rest : Bytes) :
    decodeId failure (byteString id.bytes ++ rest) = .ok (id, rest) := by
  have fits : id.bytes.length < 2 ^ 64 := by simp
  simp only [decodeId, Reader.bind_apply, readString_byteString fits, ok_bind, Id.ofBytes?_bytes,
    present_some, Reader.lift_ok_apply]

section

variable {number : Nat} {next : α → Reader ε β} {rest : Bytes}

theorem read_map {next : Unit → Reader ε β} (small : size < 2 ^ 64 := by decide) :
    (requireMap failure size >>= next) (head .map size ++ rest) = next () rest := by
  refine Reader.bind_ok ?_
  rw [requireMap, read_head small, require_pos rfl, Reader.lift_ok_apply]

/-- An entry of a map is read when its value is. -/
theorem read_field (read : value rest = .ok (found, left)) (small : number < 2 ^ 8 := by decide) :
    (field failure number value >>= next) (key number ++ rest) = next found left := by
  refine Reader.bind_ok ?_
  rw [field, Reader.bind_ok (expectKey_key small rest), read]

theorem read_id {id : Id kind} {next : Id kind → Reader ε β} (small : number < 2 ^ 8 := by decide) :
    (field failure number (decodeId failure) >>= next) (key number ++ (byteString id.bytes ++ rest)) =
      next id rest :=
  read_field (decodeId_bytes id rest) small

theorem read_fixed {fixed : Fixed width} {next : Fixed width → Reader ε β}
    (fits : width < 2 ^ 64 := by decide) (small : number < 2 ^ 8 := by decide) :
    (field failure number (readFixed failure) >>= next)
      (key number ++ (byteString fixed.bytes ++ rest)) = next fixed rest :=
  read_field (readFixed_bytes fits fixed rest) small

theorem read_number {next : Nat → Reader ε β} (narrow : value < 2 ^ width)
    (most : width ≤ 64 := by decide) (small : number < 2 ^ 8 := by decide) :
    (field failure number (readUnsigned failure (2 ^ width)) >>= next)
      (key number ++ (unsigned value ++ rest)) = next value rest :=
  read_field (readUnsigned_unsigned narrow (CanonicalCbor.wider narrow most) rest) small

end

theorem decodeNativePlatform_encode (platform : NativePlatform) :
    decodeNativePlatform failure (encodeNativePlatform platform) = .ok platform := by
  cases platform <;> rfl

theorem encodeNativePlatform_lt (platform : NativePlatform) :
    encodeNativePlatform platform < 2 ^ 8 := by
  cases platform <;> decide

/-! ## Certificates and envelopes -/

theorem decodeIssuer_encode (issuer : CertificateIssuerV1) (rest : Bytes) :
    decodeIssuer failure (encodeIssuer issuer ++ rest) = .ok (issuer, rest) := by
  cases issuer with
  | recoveryRoot signingPublicKey =>
    unfold decodeIssuer encodeIssuer
    simp only [List.append_assoc]
    rw [read_head, present_some, read_done, read_number (by decide), if_pos ⟨rfl, rfl⟩, read_fixed,
      Reader.pure_apply]
  | device deviceId signingPublicKey =>
    unfold decodeIssuer encodeIssuer
    simp only [List.append_assoc]
    rw [read_head, present_some, read_done, read_number (by decide),
      if_neg (by decide), if_pos ⟨rfl, rfl⟩, read_id, read_fixed, Reader.pure_apply]

theorem decodeCertificateV1_encode (typed : certificate.controlEpoch < 2 ^ 32) (rest : Bytes) :
    decodeCertificateV1 failure (encodeCertificateV1 certificate ++ rest) =
      .ok (certificate, rest) := by
  unfold decodeCertificateV1 encodeCertificateV1
  simp only [List.append_assoc]
  rw [read_map, read_field (decodeIssuer_encode _ _), read_id, read_id, read_number typed,
    read_fixed, read_id, read_fixed, read_fixed, read_fixed, Reader.pure_apply]

theorem decodeWrappedEnvelopeWithLimit_encode {limit : Nat}
    (least : minWrappedCiphertextBytes ≤ envelope.ciphertext.length)
    (most : envelope.ciphertext.length ≤ limit) (small : limit < 2 ^ 64) (rest : Bytes) :
    decodeWrappedEnvelopeWithLimit failure limit (encodeWrappedEnvelope envelope ++ rest) =
      .ok (envelope, rest) := by
  unfold decodeWrappedEnvelopeWithLimit encodeWrappedEnvelope
  simp only [List.append_assoc]
  rw [read_map, read_fixed, read_fixed,
    read_field (readString_byteString (lt_of_le_of_lt most small) _),
    read_check ⟨least, most⟩, Reader.pure_apply]

end

/-! ## Key bundles -/

/-- The widths of the numbers in a bundle. -/
structure BundleTyped (bundle : PairingKeyBundle) : Prop where
  controlEpoch : bundle.controlEpoch < 2 ^ 32
  keyEpoch : bundle.keyEpoch < 2 ^ 32

section

variable {bundle : PairingKeyBundle} {input bytes : Bytes} {request : PairingRequestV1}

theorem readKeyBundle_encode {ε : Type} {failure : ε} (typed : BundleTyped bundle) (rest : Bytes) :
    readKeyBundle failure (encodePairingKeyBundle bundle ++ rest) =
      .ok ((⟨bundle.accountId, bundle.workspaceId⟩, bundle.controlEpoch, bundle.keyEpoch,
        bundle.workspaceRootKey, bundle.activeEpochKey, bundle.enrollmentRecordSha256), rest) := by
  unfold readKeyBundle encodePairingKeyBundle
  simp only [List.append_assoc]
  cases pin : bundle.enrollmentRecordSha256 with
  | none =>
    simp only [Option.isSome_none, Bool.false_eq_true, if_false]
    rw [read_head, read_number (by decide), read_check (.inl ⟨rfl, rfl⟩), read_id, read_id,
      read_number typed.controlEpoch, read_number typed.keyEpoch, read_fixed, read_fixed,
      if_neg (by decide), encodePin, List.nil_append, Reader.pure_apply]
  | some digest =>
    simp only [Option.isSome_some, if_true]
    rw [read_head, read_number (by decide), read_check (.inr ⟨rfl, rfl⟩), read_id, read_id,
      read_number typed.controlEpoch, read_number typed.keyEpoch, read_fixed, read_fixed,
      if_pos (show (2 : Nat) = 2 from rfl), encodePin, List.append_assoc,
      read_fixed, Reader.pure_apply]

/-- What every constructor of a bundle makes sure of. -/
structure BundleValid (bundle : PairingKeyBundle) : Prop extends BundleTyped bundle where
  control : bundle.controlEpoch ≠ 0
  key : bundle.keyEpoch ≠ 0
  pin : bundle.enrollmentRecordSha256 ≠ some .zero

theorem decodePairingKeyBundle_encode (valid : BundleValid bundle) :
    decodePairingKeyBundle (encodePairingKeyBundle bundle) = .ok bundle := by
  have read : readKeyBundle CryptoError.invalidProtocolValue (encodePairingKeyBundle bundle ++ []) =
      _ := readKeyBundle_encode valid.toBundleTyped []
  rw [List.append_nil] at read
  rw [decodePairingKeyBundle, read, ok_bind]
  dsimp only
  rw [require_pos rfl, ok_bind, PairingKeyBundle.new, require_pos ⟨valid.control, valid.key⟩]
  cases pin : bundle.enrollmentRecordSha256 with
  | none =>
    have same : (⟨bundle.accountId, bundle.workspaceId, bundle.controlEpoch, bundle.keyEpoch,
        bundle.workspaceRootKey, bundle.activeEpochKey, none⟩ : PairingKeyBundle) = bundle := by
      rw [← pin]
    simp only [ok_bind, pure_eq_ok, same, require_true]
  | some digest =>
    have same : (⟨bundle.accountId, bundle.workspaceId, bundle.controlEpoch, bundle.keyEpoch,
        bundle.workspaceRootKey, bundle.activeEpochKey, some digest⟩ : PairingKeyBundle) =
        bundle := by
      rw [← pin]
    have nonzero : digest ≠ .zero := fun zero => valid.pin (by rw [pin, zero])
    simp only [ok_bind, pure_eq_ok, PairingKeyBundle.withEnrollmentRecordSha256,
      require_pos nonzero, same, require_true]

/-- Whatever the decoder accepts is the encoding of the bundle it returns. -/
theorem decodePairingKeyBundle_ok (decoded : decodePairingKeyBundle input = .ok bundle) :
    encodePairingKeyBundle bundle = input := by
  simp only [decodePairingKeyBundle, ok_iff] at decoded
  obtain ⟨⟨⟨_, _, _, _, _, pin⟩, _⟩, _, _, unpinned, _, rest⟩ := decoded
  cases pin with
  | none =>
    simp only [ok_iff] at rest
    obtain ⟨_, rfl, canonical, rfl⟩ := rest
    exact canonical
  | some digest =>
    simp only [ok_iff] at rest
    obtain ⟨_, _, canonical, rfl⟩ := rest
    exact canonical

/-- The epochs that are read have the widths of the source's types. -/
theorem readKeyBundle_ensures {ε : Type} {failure : ε} :
    Reader.Ensures (readKeyBundle failure) fun read =>
      read.2.1 < 2 ^ 32 ∧ read.2.2.1 < 2 ^ 32 := by
  have epoch (number : Nat) : Reader.Ensures (field failure number (readUnsigned failure (2 ^ 32)))
      fun value => value < 2 ^ 32 :=
    .skip fun _ => .skip fun _ => .skip fun _ => .bind .require fun _ small => .pure small
  refine .skip fun _ => .skip fun version => .skip fun _ => .skip fun _ => .skip fun _ => ?_
  refine .bind (epoch 3) fun _ control => .bind (epoch 4) fun _ key => .skip fun _ => .skip fun _ => ?_
  split
  · exact .skip fun _ => .pure ⟨control, key⟩
  · exact .pure ⟨control, key⟩

theorem decodePairingKeyBundle_valid (decoded : decodePairingKeyBundle input = .ok bundle) : BundleValid bundle := by
  simp only [decodePairingKeyBundle, PairingKeyBundle.new, ok_iff] at decoded
  obtain ⟨⟨⟨scope, control, key, root, epoch, pin⟩, _⟩, read, _, unpinned, ⟨nonzero, rfl⟩, rest⟩ :=
    decoded
  have small := readKeyBundle_ensures _ _ _ read
  cases pin with
  | none =>
    simp only [ok_iff] at rest
    obtain ⟨_, rfl, _, rfl⟩ := rest
    exact ⟨⟨small.1, small.2⟩, nonzero.1, nonzero.2, by simp⟩
  | some digest =>
    simp only [PairingKeyBundle.withEnrollmentRecordSha256, ok_iff] at rest
    obtain ⟨_, ⟨pinned, rfl⟩, _, rfl⟩ := rest
    exact ⟨⟨small.1, small.2⟩, nonzero.1, nonzero.2, by simpa using pinned⟩

theorem withEnrollmentRecordSha256_ok (ran : bundle.withEnrollmentRecordSha256 pin = .ok pinned) :
    pin ≠ .zero ∧ pinned = { bundle with enrollmentRecordSha256 := some pin } := by
  simp only [PairingKeyBundle.withEnrollmentRecordSha256, ok_iff] at ran
  exact ⟨ran.1, ran.2.symm⟩

theorem BundleValid.pinned (valid : BundleValid bundle) (nonzero : digest ≠ .zero) :
    BundleValid { bundle with enrollmentRecordSha256 := some digest } :=
  { valid with pin := by simpa using nonzero }

/-! ## Pairing requests -/

theorem requestValidate_eq_ok :
    request.validate = .ok () ↔
      request.schemaVersion = pairingSchemaVersion ∧ blank request.deviceName = false ∧
        request.deviceName.utf8ByteSize ≤ maxTitleBytes := by
  simp only [PairingRequestV1.validate, ok_iff, CanonicalCbor.requiredText_eq_ok, blank]

theorem encodePairingRequestV1_eq_ok :
    encodePairingRequestV1 request = .ok bytes ↔
      request.validate = .ok () ∧ (encodeRequestMap request true).length ≤ maxPairingRequestBytes ∧
        encodeRequestMap request true = bytes := by
  simp only [encodePairingRequestV1, validateRequest, ok_iff]

theorem decodeRequest_encode (valid : request.validate = .ok ()) (rest : Bytes) :
    decodeRequest (encodeRequestMap request true ++ rest) = .ok (request, rest) := by
  obtain ⟨version, _, short⟩ := requestValidate_eq_ok.mp valid
  have fits : request.deviceName.utf8ByteSize < 2 ^ 64 := lt_of_le_of_lt short (by decide)
  have typed : request.schemaVersion < 2 ^ 16 := version ▸ by decide
  unfold decodeRequest encodeRequestMap
  simp only [List.append_assoc, if_true]
  rw [CanonicalCbor.read_map]
  rw [CanonicalCbor.read_number typed, read_check version, CanonicalCbor.read_id,
    CanonicalCbor.read_fixed, CanonicalCbor.read_id,
    CanonicalCbor.read_field (readText_text fits _), read_check short,
    CanonicalCbor.read_number (encodeNativePlatform_lt _), decodeNativePlatform_encode, read_done,
    CanonicalCbor.read_fixed, CanonicalCbor.read_fixed, CanonicalCbor.read_fixed, Reader.pure_apply]

/-- The request decoder accepts the encodings of the valid requests, and nothing else. -/
theorem decodePairingRequestV1_eq_ok :
    decodePairingRequestV1 input = .ok request ↔ encodePairingRequestV1 request = .ok input := by
  constructor
  · intro decoded
    simp only [decodePairingRequestV1, ok_iff] at decoded
    obtain ⟨_, read, _, _, _, canonical, encoded, same, rfl⟩ := decoded
    exact same ▸ encoded
  · intro encoded
    obtain ⟨valid, short, rfl⟩ := encodePairingRequestV1_eq_ok.mp encoded
    have read := decodeRequest_encode valid []
    rw [List.append_nil] at read
    simp only [decodePairingRequestV1, require_pos short, read, ok_bind, require_true,
      validateRequest, valid, orFail, encoded, pure_eq_ok]

end

/-! ## Recovery enrollments and claims -/

section
variable {P : ControlPrimitives}

section

variable {record : RecoveryEnrollmentRecordV1} {claim : RecoveryDeviceClaimV2}

theorem validateRecord_shape (valid : validateRecord P record = .ok ()) : validateRecordShape P record = .ok () := by
  simp only [validateRecord, ok_iff] at valid
  exact valid.1

/-- What the decoder needs of a record, and what replaying a history uses. -/
theorem validateRecordShape_ok (valid : validateRecordShape P record = .ok ()) :
    record.schemaVersion = recoveryEnrollmentSchemaVersion ∧
      record.genesisCertificate.controlEpoch = 1 ∧ record.keyEpoch = 1 ∧
      record.deviceName.utf8ByteSize ≤ maxRecoveryDeviceNameBytes ∧
      record.accountId = record.genesisCertificate.accountId ∧
      record.workspaceId = record.genesisCertificate.workspaceId ∧
      minWrappedCiphertextBytes ≤ record.encryptedRecoveryMetadata.ciphertext.length ∧
      record.encryptedRecoveryMetadata.ciphertext.length ≤ maxRecoveryEnrollmentRecordBytes := by
  simp only [validateRecordShape, validateEnvelopeShape, ok_iff] at valid
  obtain ⟨⟨version, epoch, keyEpoch, _, name, account, workspace, _⟩, _, _, _, _, _, _,
    ⟨least, most⟩, _⟩ := valid
  exact ⟨version, epoch, keyEpoch, name, account, workspace, least, most⟩

theorem decodeRecord_encode (valid : validateRecord P record = .ok ()) (rest : Bytes) :
    decodeRecord (encodeRecordMap record true ++ rest) = .ok (record, rest) := by
  obtain ⟨version, epoch, keyEpoch, name, _, _, least, most⟩ :=
    validateRecordShape_ok (validateRecord_shape valid)
  have fits : record.deviceName.utf8ByteSize < 2 ^ 64 := lt_of_le_of_lt name (by decide)
  have versionTyped : record.schemaVersion < 2 ^ 16 := version ▸ by decide
  have epochTyped : record.genesisCertificate.controlEpoch < 2 ^ 32 := epoch ▸ by decide
  have keyEpochTyped : record.keyEpoch < 2 ^ 32 := keyEpoch ▸ by decide
  unfold decodeRecord encodeRecordMap
  simp only [List.append_assoc, if_true]
  rw [read_map, read_number versionTyped, read_id, read_id, read_id, read_id, read_fixed,
    read_fixed, read_id, read_field (decodeCertificateV1_encode epochTyped _),
    read_field (readText_text fits _), read_number (encodeNativePlatform_lt _),
    decodeNativePlatform_encode, read_done, read_number keyEpochTyped,
    read_field (decodeWrappedEnvelopeWithLimit_encode least most (by decide) _),
    read_fixed, Reader.pure_apply]

theorem encodeRecoveryEnrollmentRecordV1_eq_ok :
    encodeRecoveryEnrollmentRecordV1 P record = .ok bytes ↔
      validateRecord P record = .ok () ∧
        (encodeRecordMap record true).length ≤ maxRecoveryEnrollmentRecordBytes ∧
        encodeRecordMap record true = bytes := by
  simp only [encodeRecoveryEnrollmentRecordV1, ok_iff]

/-- The record decoder accepts the encodings of the valid records, and nothing else. -/
theorem decodeRecoveryEnrollmentRecordV1_eq_ok :
    decodeRecoveryEnrollmentRecordV1 P input = .ok record ↔
      encodeRecoveryEnrollmentRecordV1 P record = .ok input := by
  constructor
  · intro decoded
    simp only [decodeRecoveryEnrollmentRecordV1, ok_iff, Prod.exists] at decoded
    obtain ⟨_, _, _, read, _, _, canonical, encoded, same, rfl⟩ := decoded
    exact same ▸ encoded
  · intro encoded
    obtain ⟨valid, short, rfl⟩ := encodeRecoveryEnrollmentRecordV1_eq_ok.mp encoded
    have read := decodeRecord_encode valid []
    rw [List.append_nil] at read
    simp only [decodeRecoveryEnrollmentRecordV1, require_pos short, read, ok_bind, require_true,
      valid, encoded, pure_eq_ok]

/-- What the decoder needs of a claim, and what replaying a history uses. -/
theorem validateClaimShape_ok (valid : validateClaimShape P claim = .ok ()) :
    claim.schemaVersion = recoveryDeviceClaimSchemaVersion ∧
      claim.expectedRecoveryGeneration < 2 ^ 63 - 1 ∧
      claim.certificate.controlEpoch ≠ 0 ∧
      claim.deviceName.utf8ByteSize ≤ maxRecoveryDeviceNameBytes ∧
      claim.accountId = claim.certificate.accountId ∧
      claim.workspaceId = claim.certificate.workspaceId ∧
      minWrappedCiphertextBytes ≤ claim.deviceMaterialEnvelope.ciphertext.length ∧
      claim.deviceMaterialEnvelope.ciphertext.length ≤ maxRecoveryDeviceClaimBytes := by
  simp only [validateClaimShape, validateUnsignedClaim, ok_iff] at valid
  obtain ⟨_, ⟨⟨version, _, _, generation, epoch, _, _, name, account, workspace, _, least, most⟩,
    _⟩, _⟩ := valid
  exact ⟨version, generation, epoch, name, account, workspace, least, most⟩

theorem decodeClaim_encode (valid : validateClaimShape P claim = .ok ())
    (epoch : claim.certificate.controlEpoch < 2 ^ 32) (keyEpoch : claim.keyEpoch < 2 ^ 32)
    (rest : Bytes) :
    decodeClaim (encodeClaimMap claim true ++ rest) = .ok (claim, rest) := by
  obtain ⟨version, generation, _, name, _, _, least, most⟩ := validateClaimShape_ok valid
  have fits : claim.deviceName.utf8ByteSize < 2 ^ 64 := lt_of_le_of_lt name (by decide)
  have versionTyped : claim.schemaVersion < 2 ^ 16 := version ▸ by decide
  have generationTyped : claim.expectedRecoveryGeneration < 2 ^ 64 := by omega
  unfold decodeClaim encodeClaimMap
  simp only [List.append_assoc, if_true]
  rw [read_map, read_number versionTyped, read_id, read_id, read_id, read_id, read_id, read_fixed,
    read_number generationTyped, read_id, read_field (decodeCertificateV1_encode epoch _),
    read_field (readText_text fits _), read_number (encodeNativePlatform_lt _),
    decodeNativePlatform_encode, read_done, read_number keyEpoch,
    read_field (decodeWrappedEnvelopeWithLimit_encode least most (by decide) _), read_fixed,
    read_fixed, Reader.pure_apply]

theorem encodeRecoveryDeviceClaimV2_eq_ok :
    encodeRecoveryDeviceClaimV2 P claim = .ok bytes ↔
      validateClaimShape P claim = .ok () ∧
        (encodeClaimMap claim true).length ≤ maxRecoveryDeviceClaimBytes ∧
        encodeClaimMap claim true = bytes := by
  simp only [encodeRecoveryDeviceClaimV2, ok_iff]

theorem decodeRecoveryDeviceClaimV2_encode
    (encoded : encodeRecoveryDeviceClaimV2 P claim = .ok bytes)
    (epoch : claim.certificate.controlEpoch < 2 ^ 32) (keyEpoch : claim.keyEpoch < 2 ^ 32) :
    decodeRecoveryDeviceClaimV2 P bytes = .ok claim := by
  obtain ⟨valid, short, rfl⟩ := encodeRecoveryDeviceClaimV2_eq_ok.mp encoded
  have read := decodeClaim_encode valid epoch keyEpoch []
  rw [List.append_nil] at read
  simp only [decodeRecoveryDeviceClaimV2, require_pos short, read, ok_bind, require_true, valid,
    encoded, pure_eq_ok]

theorem decodeRecoveryDeviceClaimV2_ok (decoded : decodeRecoveryDeviceClaimV2 P input = .ok claim) :
    encodeRecoveryDeviceClaimV2 P claim = .ok input := by
  simp only [decodeRecoveryDeviceClaimV2, ok_iff, Prod.exists] at decoded
  obtain ⟨_, _, _, read, _, _, canonical, encoded, same, rfl⟩ := decoded
  exact same ▸ encoded

end

end

end ContextRelay.Membership
