import ContextRelay.MembershipHistory

/-! What one event of the membership log does. Seen from outside, an addition admits a device
under a certificate and a revocation removes one; `advance_ok` says that this is all a verified
event does to the state, and with which checks. -/
namespace ContextRelay.Membership

open Library Library.Cbor

/-- A device, with the certificate it was let in with. -/
structure Admission where
  device : DeviceId
  certificateId : DeviceCertificateId
  certificate : DeviceCertificateV1
deriving DecidableEq

/-- What an event says, under the id of its operation. -/
inductive Change where
  | admits (operation : OperationId) (admission : Admission)
  | revokes (operation : OperationId) (device : DeviceId)
deriving DecidableEq

namespace Change

def operation : Change → OperationId
  | .admits operation _ => operation
  | .revokes operation _ => operation

def admission? : Change → Option Admission
  | .admits _ admission => some admission
  | .revokes _ _ => none

def revoked? : Change → Option DeviceId
  | .admits _ _ => none
  | .revokes _ device => some device

end Change

section
variable (P : ControlPrimitives)

/-- The change that an event's evidence spells, if it decodes. -/
def changeOf : MembershipHistoryEvent → Option Change
  | .recoveryAdd canonicalClaim =>
    match decodeRecoveryDeviceClaimV2 P canonicalClaim with
    | .ok claim => some (.admits claim.restoreId.retype
        ⟨claim.certificate.deviceId, claim.certificateId, claim.certificate⟩)
    | .error _ => none
  | .pairingAdd statement _ _ approvedPayload =>
    match DeviceMembershipAddStatementV1.fromSigningPreimage statement,
      decodePairingApprovedPayloadV2 approvedPayload with
    | .ok s, .ok payload => some (.admits s.membershipId
        ⟨payload.grant.certificate.deviceId, s.certificateId, payload.grant.certificate⟩)
    | _, _ => none
  | .revocation statement _ _ =>
    match DeviceRevocationStatementV1.fromSigningPreimage statement with
    | .ok s => some (.revokes s.revocationId s.targetDeviceId)
    | .error _ => none

/-- The commitment to the keys of a revocation's transition. -/
def rotationCommitment : MembershipHistoryEvent → Option VerifiedRotatedKeyCommitment
  | .revocation _ _ transition =>
    match RevocationTransitionV1.fromCanonicalBytes P transition with
    | .ok t => some ⟨t.controlEpoch, t.keyEpoch, t.keyMaterialSha256⟩
    | .error _ => none
  | _ => none

end

variable {P : ControlPrimitives}

/-! ## The enrollment -/

/-- The history of an enrolled workspace before any event. -/
def enrolled (P : ControlPrimitives) (record : RecoveryEnrollmentRecordV1) (pin : Sha256Digest)
    (scope : SyncScope) : VerifiedMembershipHistory where
  state := {
    scope
    controlEpoch := 1
    keyEpoch := 1
    stateSha256 := P.sha256 (anchorPreimage P pin
      (Table.empty.upsert record.genesisCertificate.deviceId record.genesisCertificate))
    activeDevices :=
      Table.empty.upsert record.genesisCertificate.deviceId record.genesisCertificate
    recoveryRootId := record.recoveryRootId
    recoveryWrappingPublicKey := record.recoveryWrappingPublicKey }
  enrollmentRecordSha256 := pin
  admissions := Table.empty.upsert record.genesisCertificate.deviceId record.genesisCertificateId
  certificates := {record.genesisCertificateId}
  operations := ∅
  latestRotation := none

section

variable {record : RecoveryEnrollmentRecordV1} {statement : DeviceRevocationStatementV1}
  {transition : RevocationTransitionV1} {signature : Ed25519SignatureBytes}
  {current : RevocationControlState} {request : SignedPairingRequest} {parent : PairingParentV2}
  {next history : VerifiedMembershipHistory}

theorem genesisHistory_ok (genesis : genesisHistory P record pin scope = .ok start) :
    (record.genesisCertificate.accountId = scope.accountId ∧
      record.genesisCertificate.workspaceId = scope.workspaceId ∧
      record.genesisCertificate.controlEpoch = 1) ∧
    P.sha256 (encodeRecordMap record true) = pin ∧ start = enrolled P record pin scope := by
  simp only [genesisHistory, initialRevocationControlState, ok_iff, forM_eq_ok] at genesis
  obtain ⟨_, ⟨_, canonical, encoded, same, rows, _, rfl⟩, rfl⟩ := genesis
  have row := rows (record.genesisCertificate.deviceId, record.genesisCertificate) (by
    simp [Table.upsert, Table.empty, Table.putRow])
  obtain ⟨_, _, rfl⟩ := encodeRecoveryEnrollmentRecordV1_eq_ok.mp encoded
  exact ⟨⟨row.1.2.1, row.1.2.2.1, row.1.2.2.2⟩, same, rfl⟩

/-- The one device of the first roster is authenticated by the root that issued its certificate. -/
private theorem authenticateRoster_genesis
    (issued : verifyGenesis P record.genesisCertificate record.recoverySigningPublicKey = .ok ()) :
    authenticateRoster P record.recoverySigningPublicKey
      (Table.empty.upsert record.genesisCertificate.deviceId record.genesisCertificate) 1 [] =
        .ok () := by
  have issuer : record.genesisCertificate.issuer = .recoveryRoot record.recoverySigningPublicKey := by
    simp only [verifyGenesis, verifyIssuedBy, ok_iff] at issued
    exact issued.1
  rw [verifyGenesis] at issued
  have pass : authenticatePass P record.recoverySigningPublicKey
      (Table.empty.upsert record.genesisCertificate.deviceId record.genesisCertificate) [] =
        .ok [record.genesisCertificate.deviceId] := by
    simp only [authenticatePass, Table.rows_upsert_empty, thread, List.not_mem_nil, if_false, issuer, decide_true,
      if_true, issued, ok_bind]
    rfl
  rw [authenticateRoster, pass, ok_bind]
  exact if_pos rfl

/-- A valid enrollment starts a history in its own scope. -/
theorem genesisHistory_valid (encoded : encodeRecoveryEnrollmentRecordV1 P record = .ok canonical)
    (account : record.accountId = scope.accountId)
    (workspace : record.workspaceId = scope.workspaceId) :
    genesisHistory P record (P.sha256 canonical) scope =
      .ok (enrolled P record (P.sha256 canonical) scope) := by
  obtain ⟨valid, _, _⟩ := encodeRecoveryEnrollmentRecordV1_eq_ok.mp encoded
  have shape := validateRecord_shape valid
  simp only [validateRecordShape, ok_iff] at shape
  obtain ⟨⟨_, epoch, _, _, _, ownAccount, ownWorkspace, _⟩, _, _, _, signing, wrapping, issued, _⟩ :=
    shape
  have rows : (Table.empty.upsert record.genesisCertificate.deviceId
      record.genesisCertificate).rows.forM (fun row => do
        require (row.1 = row.2.deviceId ∧ row.2.accountId = scope.accountId ∧
          row.2.workspaceId = scope.workspaceId ∧ row.2.controlEpoch = 1)
          CryptoError.authenticationFailed
        validateEd25519PublicKey P row.2.signingPublicKey
        validateX25519PublicKey P row.2.wrappingPublicKey) = .ok () := by
    apply forM_eq_ok.mpr
    intro row member
    obtain rfl := List.mem_singleton.mp member
    rw [require_pos ⟨rfl, ownAccount ▸ account, ownWorkspace ▸ workspace, epoch⟩, ok_bind, signing,
      ok_bind, wrapping]
  have first : (Table.empty.upsert record.genesisCertificate.deviceId record.genesisCertificate).size ≠ 0 ∧
      (Table.empty.upsert record.genesisCertificate.deviceId record.genesisCertificate).size ≤
        maxRotationDevices ∧ record.accountId = scope.accountId ∧
      record.workspaceId = scope.workspaceId ∧
      (Table.empty.upsert record.genesisCertificate.deviceId record.genesisCertificate).find?
        record.genesisCertificate.deviceId = some record.genesisCertificate :=
    ⟨by simp [Table.size_upsert_empty], by rw [Table.size_upsert_empty]; decide, account, workspace,
      by rw [Table.find?_upsert, if_pos rfl]⟩
  simp only [genesisHistory, initialRevocationControlState, require_pos first, encoded, orFail,
    ok_bind, require_true, rows]
  rw [Table.size_upsert_empty, authenticateRoster_genesis issued]
  rfl

/-! ## Statements and transitions -/

theorem DeviceMembershipAddStatementV1.fromSigningPreimage_ok
    {statement : DeviceMembershipAddStatementV1}
    (decoded : fromSigningPreimage bytes = .ok statement) :
    statement.signingPreimage = .ok bytes := by
  simp only [fromSigningPreimage, ok_iff, Prod.exists] at decoded
  obtain ⟨_, _, _, _, _, preimage, written, same, rfl⟩ := decoded
  exact same ▸ written

theorem DeviceRevocationStatementV1.fromSigningPreimage_ok
    (decoded : fromSigningPreimage bytes = .ok statement) :
    statement.signingPreimage = .ok bytes := by
  simp only [fromSigningPreimage, ok_iff, Prod.exists] at decoded
  obtain ⟨_, _, _, _, _, preimage, written, same, rfl⟩ := decoded
  exact same ▸ written

theorem RevocationTransitionV1.fromCanonicalBytes_ok
    (decoded : fromCanonicalBytes P bytes = .ok transition) :
    transition.canonicalBytes P = .ok bytes := by
  simp only [fromCanonicalBytes, ok_iff, Prod.exists] at decoded
  obtain ⟨_, _, _, _, _, canonical, written, same, rfl⟩ := decoded
  exact same ▸ written

namespace RevocationTransitionV1

/-- What a verified transition was checked for, apart from signatures and scope. -/
structure Verified (P : ControlPrimitives) (transition : RevocationTransitionV1)
    (statement : DeviceRevocationStatementV1) (current : RevocationControlState) : Prop where
  scope : current.scope = ⟨statement.accountId, statement.workspaceId⟩
  controlEpoch : statement.controlEpoch = current.controlEpoch
  keyEpoch : statement.keyEpoch = current.keyEpoch
  previous : transition.previousStateSha256 = current.stateSha256
  nextControlEpoch : transition.controlEpoch = current.controlEpoch + 1
  nextKeyEpoch : transition.keyEpoch = current.keyEpoch + 1
  recoveryRootId : transition.recoveryRootId = current.recoveryRootId
  recoveryWrappingPublicKey :
    transition.recoveryWrappingPublicKey = current.recoveryWrappingPublicKey
  roster : RosterWithinLimit current
  target : (current.activeDevices.find? statement.targetDeviceId).isSome
  count : transition.devices.length + 1 = current.activeDevices.size
  rows : ∀ row ∈ current.activeDevices.rows, RosterRow current row
  recipients : ∀ pair ∈ transition.devices.zip (remaining statement current),
    pair.1.certificate = pair.2
  digest : transition.digest P = .ok statement.transitionSha256

theorem verify_ok (verified : transition.verify P statement signature current = .ok ()) :
    Verified P transition statement current := by
  simp only [verify, ok_iff] at verified
  obtain ⟨_, _, _, ⟨account, workspace, controlEpoch, keyEpoch, previous, ⟨_, nextControl⟩,
    ⟨_, nextKey⟩, root, wrapping, roster, target, count⟩, rows, recipients, digest, digested,
    same⟩ := verified
  exact {
    scope := by rw [account, workspace]
    controlEpoch, keyEpoch, previous
    nextControlEpoch := nextControl.symm
    nextKeyEpoch := nextKey.symm
    recoveryRootId := root
    recoveryWrappingPublicKey := wrapping
    roster, target, count, rows, recipients
    digest := same ▸ digested }

private theorem map_eq_of_zip {left : List α} {right : List β} (same : left.length = right.length)
    (agree : ∀ pair ∈ left.zip right, first pair.1 = pair.2) : left.map first = right := by
  induction left generalizing right with
  | nil => exact (List.length_eq_zero_iff.mp same.symm).symm
  | cons item rest ih =>
    obtain ⟨other, others, rfl⟩ := List.exists_cons_of_length_eq_add_one same.symm
    simp only [List.zip_cons_cons, List.mem_cons, forall_eq_or_imp] at agree
    rw [List.map_cons, agree.1, ih (Nat.succ.inj same) agree.2]

/-- The recipients of a verified rotation are the active devices without the target. -/
theorem Verified.recipients_eq (verified : Verified P transition statement current) :
    transition.devices.map (fun entry => entry.certificate) =
      (current.activeDevices.erase statement.targetDeviceId).values := by
  have own : ∀ row ∈ current.activeDevices.rows, row.1 = row.2.deviceId := fun row member =>
    (verified.rows row member).1
  have left : remaining statement current =
      (current.activeDevices.erase statement.targetDeviceId).values := by
    rw [Table.values_erase own]
    exact List.filter_congr fun _ _ => decide_eq_decide.mpr Iff.rfl
  obtain ⟨certificate, found⟩ := Option.isSome_iff_exists.mp verified.target
  have shorter := Table.size_erase_of_found found
  have count := verified.count
  rw [← left]
  refine map_eq_of_zip ?_ verified.recipients
  rw [left, Table.values, List.length_map, ← Table.size]
  omega

theorem Verified.activeDevices (verified : Verified P transition statement current) :
    Table.ofValues (fun certificate => certificate.deviceId)
        (transition.devices.map fun entry => entry.certificate) =
      current.activeDevices.erase statement.targetDeviceId := by
  rw [verified.recipients_eq]
  apply Table.ofValues_values
  intro row member
  exact (verified.rows row (List.mem_of_mem_filter member)).1

/-- A recipient of a verified rotation is active after it. -/
theorem Verified.recipient_active (verified : Verified P transition statement current)
    (member : entry ∈ transition.devices) :
    (current.activeDevices.erase statement.targetDeviceId).find? entry.certificate.deviceId =
      some entry.certificate := by
  have among : entry.certificate ∈
      (current.activeDevices.erase statement.targetDeviceId).values := by
    rw [← verified.recipients_eq]
    exact List.mem_map.mpr ⟨entry, member, rfl⟩
  obtain ⟨⟨device, certificate⟩, found, rfl⟩ := List.mem_map.mp among
  have own := (verified.rows _ (List.mem_of_mem_filter found)).1
  dsimp only at own ⊢
  rw [← own]
  exact (Table.find?_eq_some _).mpr found

theorem verifyAndAdvance_ok {control : VerifiedRevocationControl}
    (advanced : transition.verifyAndAdvance P statement signature current = .ok control) :
    Verified P transition statement current ∧
      statement.controlStateSha256 P signature = .ok control.stateSha256 ∧
      control.state = { current with
        stateSha256 := control.stateSha256
        controlEpoch := current.controlEpoch + 1
        keyEpoch := current.keyEpoch + 1
        activeDevices := current.activeDevices.erase statement.targetDeviceId } := by
  simp only [verifyAndAdvance, ok_iff] at advanced
  obtain ⟨checked, stateSha256, hashed, rfl⟩ := advanced
  have verified := verify_ok checked
  refine ⟨verified, hashed, ?_⟩
  simp only [VerifiedRevocationControl.state, verified.activeDevices, verified.scope,
    verified.controlEpoch, verified.keyEpoch, verified.recoveryRootId,
    verified.recoveryWrappingPublicKey]

end RevocationTransitionV1

/-! ## Pairing approvals -/

/-- What a verified addition was checked for, and the state it leads to. -/
structure PairingVerified (P : ControlPrimitives) (statement : DeviceMembershipAddStatementV1)
    (signature : Ed25519SignatureBytes) (request : SignedPairingRequest) (canonicalPayload : Bytes)
    (payload : PairingApprovedPayloadV2) (parent : PairingParentV2) (next : RevocationControlState) :
    Prop where
  exactRequest : requireExactSignedRequest P request = .ok ()
  requestDigest : payload.grant.requestDigest = request.digest
  controlEpoch : payload.grant.certificate.controlEpoch = parent.state.controlEpoch
  controlEpochPos : parent.state.controlEpoch ≠ 0
  account : payload.grant.certificate.accountId = parent.state.scope.accountId
  workspace : payload.grant.certificate.workspaceId = parent.state.scope.workspaceId
  small : parent.state.activeDevices.size < 4096
  previous : statement.previousStateSha256 = parent.state.stateSha256
  certificateId : statement.certificateId = payload.grant.certificateId
  artifact : statement.authorizationArtifactSha256 = P.sha256 canonicalPayload
  next : ∃ stateSha256, statement.controlStateSha256 P signature = .ok stateSha256 ∧
    next = { parent.state with
      stateSha256
      activeDevices := parent.state.activeDevices.upsert payload.grant.certificate.deviceId
        payload.grant.certificate }

theorem inspectPairingApprovalV2_decoded
    (inspected : inspectPairingApprovalV2 P payloadBytes request parent = .ok payload) :
    decodePairingApprovedPayloadV2 payloadBytes = .ok payload := by
  simp only [inspectPairingApprovalV2, ok_iff] at inspected
  obtain ⟨_, decoded, _, _, _, rfl⟩ := inspected
  exact decoded

theorem verifyAndAdvance_pairing_ok {statement : DeviceMembershipAddStatementV1}
    {payload : PairingApprovedPayloadV2} {next : VerifiedMembershipControl}
    (decoded : decodePairingApprovedPayloadV2 canonicalPayload = .ok payload)
    (advanced : statement.verifyAndAdvance P signature request canonicalPayload parent = .ok next) :
    PairingVerified P statement signature request canonicalPayload payload parent next.state := by
  simp only [DeviceMembershipAddStatementV1.verifyAndAdvance, inspectPairingApprovalV2,
    validateRequestBindingsV2, decoded, ok_bind, ok_iff] at advanced
  obtain ⟨_, _, _, ⟨⟨exactRequest, ⟨_, _, _, digest, _⟩, _⟩, ⟨epochPos, _, _, _, small, _, _, _, _,
    _, account, workspace, epoch, _⟩, _, rfl⟩, ⟨_, _, previous, _, _, _, _, certificateId, _,
    artifact⟩, _, stateSha256, hashed, rfl⟩ := advanced
  exact {
    exactRequest
    requestDigest := digest
    controlEpoch := epoch
    controlEpochPos := epochPos
    account, workspace, small, previous, certificateId, artifact
    next := ⟨stateSha256, hashed, rfl⟩ }

/-! ## Events -/

/-- The history after an admission: nothing about it was seen before, its certificate belongs to
the scope and the current epoch, and it is entered everywhere. -/
structure Admits (history next : VerifiedMembershipHistory) (operation : OperationId)
    (admission : Admission) : Prop where
  newOperation : operation ∉ history.operations
  newDevice : history.admissions.find? admission.device = none
  newCertificate : admission.certificateId ∉ history.certificates
  own : admission.certificate.deviceId = admission.device
  account : admission.certificate.accountId = history.state.scope.accountId
  workspace : admission.certificate.workspaceId = history.state.scope.workspaceId
  epoch : admission.certificate.controlEpoch = history.state.controlEpoch
  epochPos : admission.certificate.controlEpoch ≠ 0
  next : ∃ stateSha256, next = { history with
    operations := insert operation history.operations
    certificates := insert admission.certificateId history.certificates
    admissions := history.admissions.upsert admission.device admission.certificateId
    state := { history.state with
      stateSha256
      activeDevices :=
        history.state.activeDevices.upsert admission.device admission.certificate } }

/-- The history after a revocation: the device was active, it is gone, both epochs are one
higher, and the rotation is the latest one. -/
structure Revokes (P : ControlPrimitives) (history next : VerifiedMembershipHistory)
    (operation : OperationId) (device : DeviceId) (event : MembershipHistoryEvent) : Prop where
  newOperation : operation ∉ history.operations
  active : (history.state.activeDevices.find? device).isSome
  roster : RevocationTransitionV1.RosterWithinLimit history.state
  next : ∃ stateSha256 control transition, next = { history with
    operations := insert operation history.operations
    state := { history.state with
      stateSha256
      controlEpoch := history.state.controlEpoch + 1
      keyEpoch := history.state.keyEpoch + 1
      activeDevices := history.state.activeDevices.erase device }
    latestRotation := some (control, transition, history.state) } ∧
      transition.controlEpoch = history.state.controlEpoch + 1 ∧
      transition.keyEpoch = history.state.keyEpoch + 1 ∧
      rotationCommitment P event =
        some ⟨transition.controlEpoch, transition.keyEpoch, transition.keyMaterialSha256⟩

/-- What a change does to a history. -/
def Applies (P : ControlPrimitives) (history next : VerifiedMembershipHistory)
    (event : MembershipHistoryEvent) : Change → Prop
  | .admits operation admission =>
    Admits history next operation admission ∧ rotationCommitment P event = none
  | .revokes operation device => Revokes P history next operation device event

theorem verifyRecoveryDeviceClaimV2_ok {parent : VerifiedMembershipHistory}
    (verified : verifyRecoveryDeviceClaimV2 P record claim parent = .ok ()) :
    validateClaimShape P claim = .ok () ∧
      claim.certificate.accountId = parent.state.scope.accountId ∧
      claim.certificate.workspaceId = parent.state.scope.workspaceId ∧
      claim.previousStateSha256 = parent.state.stateSha256 ∧
      claim.certificate.controlEpoch = parent.state.controlEpoch ∧
      claim.keyEpoch = parent.state.keyEpoch ∧
      parent.ensureNewAdmission claim.restoreId.retype claim.certificate.deviceId
        claim.certificateId = .ok () := by
  simp only [verifyRecoveryDeviceClaimV2, ok_iff] at verified
  obtain ⟨valid, _, _, ⟨_, _, account, workspace, scopeAccount, scopeWorkspace, _, _, _, _, _,
    previous, epoch, keyEpoch⟩, _, fresh⟩ := verified
  obtain ⟨_, _, _, _, ownAccount, ownWorkspace, _⟩ := validateClaimShape_ok valid
  exact ⟨valid, by rw [← ownAccount, account, scopeAccount],
    by rw [← ownWorkspace, workspace, scopeWorkspace], previous, epoch, keyEpoch, fresh⟩

private theorem advance_recovery_ok
    (advanced : advance P record history (.recoveryAdd canonicalClaim) = .ok next) :
    ∃ change, changeOf P (.recoveryAdd canonicalClaim) = some change ∧
      Applies P history next (.recoveryAdd canonicalClaim) change ∧
      rotationOf next (some (.recoveryAdd canonicalClaim)) = (rotationCommitment P (.recoveryAdd canonicalClaim)).toList := by
  simp only [advance, ok_iff] at advanced
  obtain ⟨claim, decoded, verified, stateSha256, _, rfl⟩ := advanced
  obtain ⟨valid, account, workspace, _, epoch, _, fresh⟩ := verifyRecoveryDeviceClaimV2_ok verified
  obtain ⟨_, _, epochPos, _⟩ := validateClaimShape_ok valid
  obtain ⟨newOperation, newDevice, newCertificate⟩ := require_eq_ok.mp fresh
  refine ⟨.admits claim.restoreId.retype
    ⟨claim.certificate.deviceId, claim.certificateId, claim.certificate⟩,
    by rw [changeOf, decoded], ⟨?_, rfl⟩, rfl⟩
  exact {
    newOperation, newDevice, newCertificate
    own := rfl
    account, workspace, epoch, epochPos
    next := ⟨stateSha256, rfl⟩ }

theorem pairingParent_state (parented : history.pairingParent issuer = .ok parent) :
    parent.state = history.state := by
  simp only [VerifiedMembershipHistory.pairingParent, ok_iff] at parented
  obtain ⟨_, _, _, rfl⟩ := parented
  rfl

private theorem advance_pairing_ok {statement : Bytes}
    (advanced : advance P record history (.pairingAdd statement signature request approvedPayload) = .ok next) :
    ∃ change, changeOf P (.pairingAdd statement signature request approvedPayload) = some change ∧
      Applies P history next (.pairingAdd statement signature request approvedPayload) change ∧
      rotationOf next (some (.pairingAdd statement signature request approvedPayload)) = (rotationCommitment P (.pairingAdd statement signature request approvedPayload)).toList := by
  simp only [advance, ok_iff] at advanced
  obtain ⟨s, decoded, payload, payloadDecoded, fresh, parent, parented, control, moved, rfl⟩ :=
    advanced
  have verified := verifyAndAdvance_pairing_ok payloadDecoded moved
  have parentState := pairingParent_state parented
  obtain ⟨newOperation, newDevice, newCertificate⟩ := require_eq_ok.mp fresh
  obtain ⟨stateSha256, _, reached⟩ := verified.next
  refine ⟨.admits s.membershipId
    ⟨payload.grant.certificate.deviceId, s.certificateId, payload.grant.certificate⟩,
    by rw [changeOf, decoded, payloadDecoded], ⟨?_, rfl⟩, rfl⟩
  exact {
    newOperation, newDevice, newCertificate
    own := rfl
    account := parentState ▸ verified.account
    workspace := parentState ▸ verified.workspace
    epoch := parentState ▸ verified.controlEpoch
    epochPos := verified.controlEpoch ▸ verified.controlEpochPos
    next := ⟨stateSha256, by rw [reached, parentState]⟩ }

private theorem advance_revocation_ok {statement : Bytes} {transition : Bytes}
    (advanced : advance P record history (.revocation statement signature transition) = .ok next) :
    ∃ change, changeOf P (.revocation statement signature transition) = some change ∧
      Applies P history next (.revocation statement signature transition) change ∧
      rotationOf next (some (.revocation statement signature transition)) = (rotationCommitment P (.revocation statement signature transition)).toList := by
  simp only [advance, ok_iff] at advanced
  obtain ⟨s, decoded, newOperation, t, transitionDecoded, control, moved, rfl⟩ := advanced
  obtain ⟨verified, _, reached⟩ := RevocationTransitionV1.verifyAndAdvance_ok moved
  have commitment : rotationCommitment P (.revocation statement signature transition) =
      some ⟨t.controlEpoch, t.keyEpoch, t.keyMaterialSha256⟩ := by
    rw [rotationCommitment, transitionDecoded]
  refine ⟨.revokes s.revocationId s.targetDeviceId, by rw [changeOf, decoded], ?_,
    by rw [commitment]; rfl⟩
  exact {
    newOperation
    active := verified.target
    roster := verified.roster
    next := ⟨control.stateSha256, control, t, by rw [reached], verified.nextControlEpoch,
      verified.nextKeyEpoch, commitment⟩ }

/-- An event that verifies applies the change its evidence spells. -/
theorem advance_ok {event : MembershipHistoryEvent}
    (advanced : advance P record history event = .ok next) :
    ∃ change, changeOf P event = some change ∧ Applies P history next event change ∧
      rotationOf next (some event) = (rotationCommitment P event).toList := by
  cases event with
  | recoveryAdd canonicalClaim => exact advance_recovery_ok advanced
  | pairingAdd statement signature request approvedPayload => exact advance_pairing_ok advanced
  | revocation statement signature transition => exact advance_revocation_ok advanced

end

end ContextRelay.Membership

/-! ## A small workspace

One enrolled device, a device that joins by recovery, one that the first
lets in by pairing, and a revocation of the second by the first. Keys and signatures are all
accepted and a digest is the length of what it digests, so that the log is accepted for a reason
that does not lie in the cryptography. -/
namespace ContextRelay.Membership.Sample

open Library Library.Cbor

scoped instance states_nonzero : NeZero 4 := ⟨by decide⟩
scoped instance slots_nonzero : NeZero 16 := ⟨by decide⟩
scoped instance numbers_nonzero : NeZero 8192 := ⟨by decide⟩

theorem isUuidV7_sample (slot : Fin 16) (number : Fin 8192) :
    isUuidV7 (7 * 2 ^ 76 + 2 * 2 ^ 62 + slot * 8192 + number) = true := by
  simp only [isUuidV7, Bool.and_eq_true, decide_eq_true_eq, beq_iff_eq]
  omega

/-- The identifiers of a slot, by number. -/
def id (slot : Fin 16) (number : Fin 8192) : Id kind :=
  ⟨7 * 2 ^ 76 + 2 * 2 ^ 62 + slot * 8192 + number, isUuidV7_sample slot number⟩

theorem id_injective {slot otherSlot : Fin 16} {number otherNumber : Fin 8192}
    (same : (id slot number : Id kind) = id otherSlot otherNumber) :
    slot = otherSlot ∧ number = otherNumber := by
  have equal := congrArg Id.uuid same
  simp only [id] at equal
  omega

/-- A digest that is never zero. -/
def lengthDigest (bytes : Bytes) : Sha256Digest := ⟨⟨bytes.length % 2 ^ 128 + 1, by omega⟩⟩

theorem lengthDigest_ne_zero (bytes : Bytes) : lengthDigest bytes ≠ .zero := by
  intro zero
  have value := congrArg (fun digest : Sha256Digest => digest.value) zero
  simp [lengthDigest, Sha256Digest.zero, Fixed.zero] at value

/-- Everything is signed and every key is usable; sealing leaves the keys as they are. -/
def primitives : ControlPrimitives where
  sha256 := lengthDigest
  signingPublicKey keys := ⟨.ofNat keys.signingSeed⟩
  wrappingPublicKey keys := ⟨.ofNat keys.wrappingSeed⟩
  sign _ _ := ⟨.zero⟩
  verifySignature _ _ _ := true
  encryptWithNonce _ plaintext _ nonce := some ⟨nonce, plaintext⟩
  decrypt _ payload _ := some payload.ciphertext
  writeOperation _ := []
  writeOperationPreimage _ := []
  writeOperationAad _ := []
  readOperation _ := none
  writeMutation _ := []
  readMutation _ := none
  writeCheckpoint _ := []
  writeCheckpointPreimage _ := []
  readCheckpoint _ := none
  writeStateSummary _ := []
  validEd25519PublicKey _ := true
  validX25519PublicKey _ := true
  wrapSecret _ key plaintext _ := .ok ⟨key, ⟨.zero⟩, plaintext⟩
  unwrapSecret _ envelope _ := .ok envelope.ciphertext

/-! ## The enrollment -/

def scope : SyncScope := ⟨id 0 1, id 0 2⟩
def rootSigningKey : Ed25519PublicKeyBytes := ⟨.ofNat 1⟩
def signingKey : Ed25519PublicKeyBytes := ⟨.ofNat 3⟩
def wrappingKey : X25519PublicKeyBytes := ⟨.ofNat 4⟩
def firstDevice : DeviceId := id 0 3
def envelope : WrappedKeyEnvelope := ⟨⟨.ofNat 5⟩, ⟨.zero⟩, List.replicate 16 0⟩

def certificate (issuer : CertificateIssuerV1) (device : DeviceId) : DeviceCertificateV1 where
  issuer
  accountId := scope.accountId
  workspaceId := scope.workspaceId
  controlEpoch := 1
  requestNonce := ⟨.zero⟩
  deviceId := device
  signingPublicKey := signingKey
  wrappingPublicKey := wrappingKey
  signature := ⟨.zero⟩

def record : RecoveryEnrollmentRecordV1 where
  schemaVersion := 1
  enrollmentId := id 0 4
  recoveryRootId := id 0 5
  accountId := scope.accountId
  workspaceId := scope.workspaceId
  recoverySigningPublicKey := rootSigningKey
  recoveryWrappingPublicKey := ⟨.ofNat 2⟩
  genesisCertificateId := id 0 6
  genesisCertificate := certificate (.recoveryRoot rootSigningKey) firstDevice
  deviceName := "first"
  devicePlatform := .macos
  keyEpoch := 1
  encryptedRecoveryMetadata := envelope
  recoveryRootSignature := ⟨.zero⟩

def enrollment : Bytes := encodeRecordMap record true
def pin : Sha256Digest := lengthDigest enrollment
def start : VerifiedMembershipHistory := enrolled primitives record pin scope

theorem record_encoded : encodeRecoveryEnrollmentRecordV1 primitives record = .ok enrollment := by
  decide +kernel

theorem record_decoded : decodeRecoveryEnrollmentRecordV1 primitives enrollment = .ok record :=
  decodeRecoveryEnrollmentRecordV1_eq_ok.mpr record_encoded

theorem genesis_started : genesisHistory primitives record pin scope = .ok start :=
  genesisHistory_valid record_encoded rfl rfl

/-! ## A log with every kind of event -/

/-- The claim of a recovered device, on some state. Each number seals a byte more, so that the
claims have different digests. -/
def claim (previous : Sha256Digest) (number : Fin 8192) : RecoveryDeviceClaimV2 where
  schemaVersion := 2
  restoreId := id 1 number
  enrollmentId := record.enrollmentId
  recoveryRootId := record.recoveryRootId
  accountId := record.accountId
  workspaceId := record.workspaceId
  canonicalRecordSha256 := pin
  expectedRecoveryGeneration := 0
  certificateId := id 2 number
  certificate := certificate (.recoveryRoot rootSigningKey) (id 3 number)
  deviceName := "recovered"
  devicePlatform := .windows
  keyEpoch := 1
  deviceMaterialEnvelope := { envelope with ciphertext := List.replicate (16 + number) 0 }
  previousStateSha256 := previous
  recoveryRootSignature := ⟨.zero⟩

def recoveryEvent (previous : Sha256Digest) (number : Fin 8192) : MembershipHistoryEvent :=
  .recoveryAdd (encodeClaimMap (claim previous number) true)

def request : PairingRequestV1 where
  schemaVersion := 1
  pairingId := id 4 0
  requestNonce := ⟨.zero⟩
  deviceId := id 4 1
  deviceName := "paired"
  platform := .macos
  signingPublicKey := signingKey
  wrappingPublicKey := wrappingKey
  signature := ⟨.zero⟩

def signedRequest : SignedPairingRequest :=
  ⟨request, encodeRequestMap request true, lengthDigest (encodeRequestMap request true)⟩

/-- The approval of the request by the first device, on some state. -/
def payload (previous : Sha256Digest) : PairingApprovedPayloadV2 where
  schemaVersion := 2
  grant := {
    schemaVersion := 2
    pairingId := request.pairingId
    requestDigest := signedRequest.digest
    certificateId := id 4 2
    certificate := certificate (.device firstDevice signingKey) request.deviceId
    keyEpoch := 1
    wrappedKeyBundle := envelope }
  issuerCertificateId := record.genesisCertificateId
  issuerCertificate := record.genesisCertificate
  issuerDeviceName := "first"
  issuerPlatform := .macos
  previousStateSha256 := previous
  enrollmentRecordSha256 := pin

def addStatement (previous : Sha256Digest) : DeviceMembershipAddStatementV1 where
  schemaVersion := 1
  membershipId := request.pairingId.retype
  accountId := scope.accountId
  workspaceId := scope.workspaceId
  previousStateSha256 := previous
  controlEpoch := 1
  keyEpoch := 1
  issuerDeviceId := firstDevice
  certificateId := (payload previous).grant.certificateId
  certificateSha256 := certificateDigest primitives (payload previous).grant.certificate
  authorizationArtifactSha256 := lengthDigest (writeApprovedPayload (payload previous))

def pairingEvent (previous : Sha256Digest) : MembershipHistoryEvent :=
  .pairingAdd (addStatement previous).write ⟨.zero⟩ signedRequest
    (writeApprovedPayload (payload previous))

/-- New keys for the first and the paired device, and for the recovery root. -/
def transition (previous : Sha256Digest) : RevocationTransitionV1 where
  previousStateSha256 := previous
  controlEpoch := 2
  keyEpoch := 2
  keyMaterialSha256 := ⟨.ofNat 6⟩
  devices := [⟨record.genesisCertificate, envelope⟩, ⟨(payload previous).grant.certificate, envelope⟩]
  recoveryRootId := record.recoveryRootId
  recoveryWrappingPublicKey := record.recoveryWrappingPublicKey
  recoveryEnvelope := envelope

def revocationStatement (previous : Sha256Digest) : DeviceRevocationStatementV1 where
  schemaVersion := 1
  revocationId := id 5 0
  accountId := scope.accountId
  workspaceId := scope.workspaceId
  issuerDeviceId := firstDevice
  targetDeviceId := id 3 0
  controlEpoch := 1
  keyEpoch := 1
  cutoffSequence := 0
  cutoffHash := .zero
  transitionSha256 := lengthDigest (transition previous).write

def revocationEvent (previous : Sha256Digest) : MembershipHistoryEvent :=
  .revocation
    ((revocationStatement previous).writeContext ++ (revocationStatement previous).transitionSha256.bytes)
    ⟨.zero⟩ (transition previous).write

/-- The state after the enrollment, the recovery, the pairing and the revocation. -/
def states : Fin 4 → Sha256Digest
  | 0 => ⟨.ofNat 120⟩
  | 1 => ⟨.ofNat 658⟩
  | 2 => ⟨.ofNat 332⟩
  | 3 => ⟨.ofNat 304⟩

def log : List MembershipHistoryEvent :=
  [recoveryEvent (states 0) 0, pairingEvent (states 1), revocationEvent (states 2)]

def endpoint : MembershipEndpoint := ⟨states 3, 2, 2⟩

/-- Enough for every log here. -/
def budget : MembershipHistoryBudget := ⟨4096, 64 * 1024 * 1024⟩

theorem log_accepted : ∃ history,
    verifyMembershipHistory primitives enrollment pin scope log endpoint budget = .ok history := by
  apply exists_of_isOk
  decide +kernel

end ContextRelay.Membership.Sample
