import ContextRelay.MembershipReceipts
import ContextRelay.MembershipStaging

/-! What each source of keys vouches for. Whichever way keys reach a device, they are retained only
after they were found to be those of an epoch of the accepted log: in its scope, pinned to its
enrollment or not pinned at all, and committed to by the rotation that made the epoch. -/
namespace ContextRelay.Membership

open Library Library.Cbor RevocationTransitionV1

def PairingKeyBundle.pinnedTo (bundle : PairingKeyBundle) (pin : Sha256Digest) : PairingKeyBundle :=
  { bundle with enrollmentRecordSha256 := some pin }

@[simp] theorem PairingKeyBundle.pinnedTo_keyEpoch (bundle : PairingKeyBundle) (pin : Sha256Digest) :
    (bundle.pinnedTo pin).keyEpoch = bundle.keyEpoch := rfl

/-- Keys, as they were sealed, are those of an epoch of the log. -/
structure Agrees (P : ControlPrimitives) (stored : Stored) (bundle : PairingKeyBundle) : Prop where
  scope : bundle.accountId = stored.scope.accountId ∧ bundle.workspaceId = stored.scope.workspaceId
  pin : ∀ pin ∈ bundle.enrollmentRecordSha256, pin = stored.pin
  committed : Committed P stored bundle bundle.keyEpoch

variable {P : ControlPrimitives} {stored : Stored} {store after : MembershipStore}
  {kept : DeviceId → Nat → PairingKeyBundle} {device : DeviceId} {keys : DeviceKeys}
  {budget : MembershipHistoryBudget} {bundle : PairingKeyBundle}
  {history : VerifiedMembershipHistory}

/-- Keys that agree with the log belong to it once they are pinned. -/
theorem Agrees.belongs (agrees : Agrees P stored bundle) (valid : BundleValid bundle)
    (nonzero : stored.pin ≠ .zero) : Belongs P stored (bundle.pinnedTo stored.pin) where
  valid := valid.pinned nonzero
  scope := agrees.scope
  pinned := rfl
  committed := by
    cases pin : bundle.enrollmentRecordSha256 with
    | some digest =>
      have same : bundle.pinnedTo stored.pin = bundle := by
        rw [PairingKeyBundle.pinnedTo, ← agrees.pin digest pin, ← pin]
      rw [same]
      exact agrees.committed
    | none =>
      have unpinned : { bundle with enrollmentRecordSha256 := none } = bundle := by
        rw [← pin]
      have committed := agrees.committed
      unfold Committed at committed ⊢
      by_cases first : bundle.keyEpoch = 1
      · rw [if_pos first] at committed
        rw [if_pos (show (bundle.pinnedTo stored.pin).keyEpoch = 1 from first)]
        exact committed
      · rw [if_neg first] at committed
        rw [if_neg (show ¬ (bundle.pinnedTo stored.pin).keyEpoch = 1 from first)]
        obtain ⟨commitment, member, epoch, control, same⟩ := committed
        rw [unpinned, or_self] at same
        refine ⟨commitment, member, epoch, control, .inr ?_⟩
        rw [← same]
        exact congrArg (fun bundle => P.sha256 (encodePairingKeyBundle bundle)) unpinned

theorem Agrees.extended (agrees : Agrees P stored bundle) (added : List Event)
    (endpoint : MembershipEndpoint) : Agrees P (stored.extended added endpoint) bundle :=
  ⟨agrees.scope, agrees.pin, agrees.committed.extended added endpoint⟩

/-! ## What a verified log says -/

section

variable {record : RecoveryEnrollmentRecordV1}
  {next reached : VerifiedMembershipHistory × List OpenedRotation} {event : MembershipHistoryEvent}
  {commitment : VerifiedRotatedKeyCommitment} {signature : Ed25519SignatureBytes}

/-- The scope and the pin of the enrollment stay those of the log, whatever is replayed. -/
theorem scope_of_advance {next : VerifiedMembershipHistory}
    (advanced : advance P record history event = .ok next) :
    next.state.scope = history.state.scope ∧
      next.enrollmentRecordSha256 = history.enrollmentRecordSha256 := by
  obtain ⟨change, _, applies, _⟩ := advance_ok advanced
  cases change with
  | admits operation admission =>
    obtain ⟨_, rfl⟩ := applies.1.next
    exact ⟨rfl, rfl⟩
  | revokes operation device =>
    obtain ⟨_, _, _, rfl, _⟩ := applies.next
    exact ⟨rfl, rfl⟩

theorem verify_scope (verified : stored.verify P budget = .ok history) :
    history.state.scope = stored.scope ∧ history.enrollmentRecordSha256 = stored.pin := by
  obtain ⟨record, start, opened, ran, _⟩ := verify_eq_ok.mp verified
  obtain ⟨_, _, rfl⟩ := genesisHistory_ok opened.genesis
  refine thread_invariant (fun reached : VerifiedMembershipHistory =>
    reached.state.scope = stored.scope ∧ reached.enrollmentRecordSha256 = stored.pin) ?_ ⟨rfl, rfl⟩ ran
  intro reached event next _ same advanced
  obtain ⟨scope, pin⟩ := scope_of_advance advanced
  exact ⟨scope.trans same.1, pin.trans same.2⟩

/-- A replay of evidence verifies the log of the events with that evidence. -/
theorem verify_of_history (evidence : events.map Event.evidence = log)
    (proven : verifyMembershipHistory P enrollment pin scope log endpoint budget = .ok history) :
    (⟨scope, pin, enrollment, endpoint, events⟩ : Stored).verify P budget = .ok history := by
  rw [Stored.verify, orFail_eq_ok, Stored.log, evidence]
  exact proven

theorem Authentic.pin_ne_zero (authentic : Authentic P stored) : stored.pin ≠ .zero := by
  obtain ⟨_, _, verified⟩ := authentic
  obtain ⟨_, _, opened, _⟩ := verify_eq_ok.mp verified
  exact opened.pinned.1

/-- An event that spells an admission admitted the device. -/
theorem wasAdmitted_of_event (authentic : Authentic P stored) (member : event ∈ stored.log)
    (spells : changeOf P event = some (.admits operation admission)) :
    WasAdmitted P stored admission.device admission.certificate := by
  obtain ⟨_, _, verified⟩ := authentic
  obtain ⟨record, start, opened, ran, _⟩ := verify_eq_ok.mp verified
  obtain ⟨changes, spelled, _⟩ := tracks_run opened.genesis ran
  have among : some (Change.admits operation admission) ∈ changes.map some := by
    rw [← spelled, ← spells]
    exact List.mem_map_of_mem member
  obtain ⟨change, changed, same⟩ := List.mem_map.mp among
  obtain rfl := Option.some.inj same
  refine ⟨record, changes, opened.decoded, spelled, admission, ?_, rfl, rfl⟩
  exact List.mem_cons_of_mem _ (List.mem_filterMap.mpr ⟨_, changed, rfl⟩)

theorem wasAdmitted_genesis (authentic : Authentic P stored)
    (decoded : decodeRecoveryEnrollmentRecordV1 P stored.enrollment = .ok record) :
    WasAdmitted P stored record.genesisCertificate.deviceId record.genesisCertificate := by
  obtain ⟨_, _, verified⟩ := authentic
  obtain ⟨_, start, opened, ran, _⟩ := verify_eq_ok.mp verified
  obtain rfl := Except.ok.inj (opened.decoded.symm.trans decoded)
  obtain ⟨changes, spelled, _⟩ := tracks_run opened.genesis ran
  exact ⟨_, changes, decoded, spelled, _, List.mem_cons_self, rfl, rfl⟩

/-- The commitments of a lineage through the log are those of the log. -/
theorem lineage_ok (ran : lineage P stored anchor budget = .ok proof) :
    proof.rotatedKeyCommitments = stored.commitments P ∧ proof.anchor = anchor ∧
      stored.verify P budget = .ok proof.history := by
  have made := orFail_eq_ok.mp ran
  refine ⟨lineage_commitments made, ?_⟩
  obtain ⟨record, start, opened, history, notes, noted, ended, _, rfl⟩ :=
    verifyMembershipLineage_eq_ok.mp made
  exact ⟨rfl, verify_eq_ok.mpr ⟨record, start, opened, thread_noting noted, ended⟩⟩

/-- The rotations of a log make the epochs from two on. -/
theorem commitment_epoch (authentic : Authentic P stored)
    (member : commitment ∈ stored.commitments P) :
    commitment.keyEpoch ≠ 1 := by
  obtain ⟨_, _, verified⟩ := authentic
  obtain ⟨_, _, epochs⟩ := commitments_epochs verified
  have among : (commitment.controlEpoch, commitment.keyEpoch) ∈
      (List.range' 2 (stored.endpoint.keyEpoch - 1)).map fun epoch => (epoch, epoch) := by
    rw [← epochs]
    exact List.mem_map.mpr ⟨commitment, member, rfl⟩
  obtain ⟨epoch, inside, same⟩ := List.mem_map.mp among
  have least := (List.mem_range'_1.mp inside).1
  have key := congrArg Prod.snd same
  dsimp only at key
  omega

/-- Keys whose bytes a rotation of the log commits to are those of the epoch it made. -/
theorem committed_of_mem (authentic : Authentic P stored)
    (member : commitment ∈ stored.commitments P) (key : commitment.keyEpoch = bundle.keyEpoch)
    (control : commitment.controlEpoch = bundle.controlEpoch)
    (same : P.sha256 (encodePairingKeyBundle bundle) = commitment.keyMaterialSha256 ∨
      P.sha256 (encodePairingKeyBundle { bundle with enrollmentRecordSha256 := none }) =
        commitment.keyMaterialSha256) : Committed P stored bundle bundle.keyEpoch := by
  have later := commitment_epoch authentic member
  rw [key] at later
  rw [Committed, if_neg later]
  exact ⟨commitment, member, key, control, same⟩

/-- Keys at the epochs of a log's end, under the commitment of its last rotation if it has one, are
those of its last epoch. -/
theorem committed_at_end (verified : stored.verify P budget = .ok history)
    (epochs : bundle.controlEpoch = history.state.controlEpoch ∧
      bundle.keyEpoch = history.state.keyEpoch)
    (same : ∀ commitment ∈ history.currentRotatedKeyCommitment,
      P.sha256 (encodePairingKeyBundle bundle) = commitment ∨
        P.sha256 (encodePairingKeyBundle { bundle with enrollmentRecordSha256 := none }) =
          commitment) : Committed P stored bundle bundle.keyEpoch := by
  have last := latestRotation_commitment verified
  obtain ⟨positive, equal, all⟩ := commitments_epochs verified
  have ended := verify_endpoint verified
  have controlEnd : history.state.controlEpoch = stored.endpoint.controlEpoch := by rw [← ended]; rfl
  have keyEnd : history.state.keyEpoch = stored.endpoint.keyEpoch := by rw [← ended]; rfl
  have count : (stored.commitments P).length = stored.endpoint.keyEpoch - 1 := by
    simpa using congrArg List.length all
  cases found : history.latestRotation with
  | none =>
    rw [found, Option.map_none] at last
    have empty := List.getLast?_eq_none_iff.mp last.symm
    rw [empty, List.length_nil] at count
    rw [Committed, if_pos (by omega)]
    omega
  | some rotation =>
    rw [found, Option.map_some] at last
    have member := List.mem_of_getLast? last.symm
    have spelled : ((stored.commitments P).map fun commitment =>
        (commitment.controlEpoch, commitment.keyEpoch)).getLast? =
          some (rotation.2.1.controlEpoch, rotation.2.1.keyEpoch) := by
      rw [List.getLast?_map, ← last]
      rfl
    obtain ⟨size, counted⟩ : ∃ size, stored.endpoint.keyEpoch - 1 = size + 1 := by
      have some_member := List.length_pos_of_mem member
      exact ⟨stored.endpoint.keyEpoch - 2, by omega⟩
    rw [all, counted, List.range'_concat, List.map_append, List.map_singleton,
      List.getLast?_concat] at spelled
    obtain ⟨control, key⟩ := Prod.mk.inj (Option.some.inj spelled)
    refine committed_of_mem ⟨budget, history, verified⟩ member ?_ ?_
      (same _ (by rw [VerifiedMembershipHistory.currentRotatedKeyCommitment, found]; rfl))
    · change rotation.2.1.keyEpoch = bundle.keyEpoch
      omega
    · change rotation.2.1.controlEpoch = bundle.controlEpoch
      omega

/-! ## Enrollment -/

/-- Every offer agrees with the log, and is kept afterwards, pinned. -/
def Honours (P : ControlPrimitives) (stored : Stored) (store after : MembershipStore)
    (kept : DeviceId → Nat → PairingKeyBundle) (offers : DeviceId → PairingKeyBundle → Prop) : Prop :=
  ∃ keptAfter offered, Retains P stored store after kept keptAfter offered ∧
    ∀ device bundle, offers device bundle →
      Agrees P stored bundle ∧ (device, bundle.pinnedTo stored.pin) ∈ offered

theorem Honours.weaken {offers fewer : DeviceId → PairingKeyBundle → Prop}
    (honours : Honours P stored store after kept offers)
    (implies : ∀ device bundle, fewer device bundle → offers device bundle) :
    Honours P stored store after kept fewer := by
  obtain ⟨keptAfter, offered, retains, all⟩ := honours
  exact ⟨keptAfter, offered, retains, fun device bundle offer => all _ _ (implies _ _ offer)⟩

/-- The enrollment seals the keys for its own device. -/
def SealedInEnrollment (P : ControlPrimitives) (row : EnrollmentRow) (device : DeviceId)
    (keys : DeviceKeys) (bundle : PairingKeyBundle) : Prop :=
  device = row.genesisDevice ∧ ∃ plaintext, P.unwrapSecret keys row.deviceMaterialEnvelope
      (deviceWorkspaceMaterialAad P row.record device keys) = .ok plaintext ∧
    decodePairingKeyBundle plaintext = .ok bundle

theorem openDeviceWorkspaceMaterial_ok
    (opened : openDeviceWorkspaceMaterial P record envelope device keys = .ok bundle) :
    (device = record.genesisCertificate.deviceId ∧
      P.signingPublicKey keys = record.genesisCertificate.signingPublicKey ∧
      P.wrappingPublicKey keys = record.genesisCertificate.wrappingPublicKey) ∧
    ∃ plaintext, P.unwrapSecret keys envelope
        (deviceWorkspaceMaterialAad P record device keys) = .ok plaintext ∧
      decodePairingKeyBundle plaintext = .ok bundle := by
  simp only [openDeviceWorkspaceMaterial, ok_iff] at opened
  obtain ⟨_, _, own, plaintext, unwrapped, _, decoded, _, rfl⟩ := opened
  exact ⟨own, plaintext, unwrapped, decoded⟩

theorem retainEnrollment_retains (sealing : Sealing P) (receipts : Receipts P store stored kept)
    (authentic : Authentic P stored) (own : OwnKeys P stored device keys)
    (ran : retainEnrollment P draw store stored device bundle keys budget = .ok after) :
    Agrees P stored bundle ∧ bundle.keyEpoch = 1 ∧ ∃ keptAfter,
      Retains P stored store after kept keptAfter [(device, bundle.pinnedTo stored.pin)] := by
  simp only [retainEnrollment, PairingKeyBundle.new, ok_iff] at ran
  obtain ⟨_, ⟨_, rfl⟩, pinned, pins, ⟨account, workspace, control, key, pin⟩, written, retained,
    rfl⟩ := ran
  obtain ⟨nonzero, rfl⟩ := withEnrollmentRecordSha256_ok pins
  have agrees : Agrees P stored bundle :=
    ⟨⟨account, workspace⟩, pin, by rw [Committed, if_pos key]; exact control⟩
  have same : bundle.pinnedTo stored.pin = {
      accountId := stored.scope.accountId
      workspaceId := stored.scope.workspaceId
      controlEpoch := 1
      keyEpoch := 1
      workspaceRootKey := bundle.workspaceRootKey
      activeEpochKey := bundle.activeEpochKey
      enrollmentRecordSha256 := some stored.pin } := by
    rw [PairingKeyBundle.pinnedTo, account, workspace, control, key]
  have typed : BundleTyped bundle := ⟨by rw [control]; decide, by rw [key]; decide⟩
  have belongs : Belongs P stored (bundle.pinnedTo stored.pin) := by
    refine agrees.belongs { typed with control := ?_, key := ?_, pin := ?_ } nonzero
    · rw [control]
      decide
    · rw [key]
      decide
    · intro zero
      exact nonzero (agrees.pin _ zero).symm
  rw [← same] at retained
  obtain ⟨keptAfter, retains⟩ := retain_retains sealing receipts authentic belongs own retained
  exact ⟨agrees, key, keptAfter, ⟨retains.accepted, retains.events, retains.enrollment,
    retains.receipts, retains.same, retains.persists, retains.added, retains.retained⟩⟩

/-! ## Admission -/

/-- The grant of an approval seals the keys. -/
def SealedInGrant (P : ControlPrimitives) (confirmed : ConfirmedV2Transcript) (keys : DeviceKeys)
    (bundle : PairingKeyBundle) : Prop :=
  ∃ plaintext, P.unwrapSecret keys confirmed.payload.grant.wrappedKeyBundle
      (grantAadV2 P confirmed.payload) = .ok plaintext ∧
    decodePairingKeyBundle plaintext = .ok bundle

/-- What a parent was checked for is what its log says. -/
theorem checkBundle_agrees (verified : stored.verify P budget = .ok history)
    (parented : history.pairingParent issuer = .ok parent)
    (checked : checkBundle P bundle parent = .ok ()) :
    Agrees P stored bundle ∧ bundle = bundle.pinnedTo stored.pin := by
  obtain ⟨scope, pin⟩ := verify_scope verified
  simp only [VerifiedMembershipHistory.pairingParent, ok_iff] at parented
  obtain ⟨_, certificateId, _, rfl⟩ := parented
  simp only [checkBundle, ok_iff] at checked
  obtain ⟨⟨account, workspace, control, key, pinned, _⟩, rest⟩ := checked
  rw [pin] at pinned
  have committed : Committed P stored bundle bundle.keyEpoch := by
    refine committed_at_end verified ⟨control, key⟩ ?_
    intro commitment current
    rw [VerifiedMembershipHistory.currentRotatedKeyCommitment] at current
    obtain ⟨rotation, found, rfl⟩ := Option.map_eq_some_iff.mp current
    simp only [found, Option.map_some, ok_iff] at rest
    obtain ⟨_, _, _, same, matched, rfl⟩ := rest
    exact keyMaterialMatches_eq_true matched
  refine ⟨⟨⟨by rw [account, scope], by rw [workspace, scope]⟩, ?_, committed⟩, ?_⟩
  · intro other found
    exact Option.some.inj (found.symm.trans pinned)
  · rw [PairingKeyBundle.pinnedTo, ← pinned]

/-- What the keys of an admission were checked for. -/
theorem prepareAdmission_agrees
    (ran : prepareAdmission P enrollment parentEvents confirmed request signature keys budget = .ok (stored, bundle)) :
    Agrees P stored bundle ∧ bundle = bundle.pinnedTo stored.pin ∧
      SealedInGrant P confirmed keys bundle ∧
      OwnKeys P stored confirmed.payload.grant.certificate.deviceId keys := by
  simp only [prepareAdmission, openConfirmedPairingApprovalV2, openPairingPayloadV2, ok_iff,
    Prod.mk.injEq] at ran
  obtain ⟨statement, _, bytes, _, _, proof, proven, _, _, _, _, _, ⟨parent, parented, payload,
    inspected, _, _, _, _, recipient, plaintext, unwrapped, _, decoded, checked, rfl⟩, earlier,
    collected, last, derived, history, verified, rfl, rfl⟩ := ran
  obtain rfl := Except.ok.inj
    ((inspectPairingApprovalV2_decoded inspected).symm.trans confirmed.decoded)
  obtain ⟨evidence, _⟩ := collect_fromEvidence collected
  have own := (fromEvidence_ok derived).1
  have before := verify_of_history evidence proven
  obtain ⟨agrees, pinned⟩ := checkBundle_agrees before parented checked
  refine ⟨agrees.extended [last] _, pinned, ⟨plaintext, unwrapped, decoded⟩, ?_⟩
  have bound : confirmed.payload.grant.certificate.signingPublicKey =
        request.request.signingPublicKey ∧
      confirmed.payload.grant.certificate.wrappingPublicKey = request.request.wrappingPublicKey := by
    simp only [inspectPairingApprovalV2, validateRequestBindingsV2, ok_iff] at inspected
    obtain ⟨_, _, ⟨_, ⟨_, _, _, _, _, _, signing, wrapping, _⟩, _⟩, _, _, rfl⟩ := inspected
    exact ⟨signing, wrapping⟩
  have spells : ∃ operation certificateId, changeOf P
      (.pairingAdd bytes signature request confirmed.canonicalBytes) =
        some (.admits operation ⟨confirmed.payload.grant.certificate.deviceId, certificateId,
          confirmed.payload.grant.certificate⟩) := by
    simp only [Event.fromEvidence, ok_iff] at derived
    obtain ⟨s, read, _⟩ := derived
    exact ⟨s.membershipId, s.certificateId, by rw [changeOf, read, confirmed.decoded]⟩
  obtain ⟨operation, certificateId, spells⟩ := spells
  refine ⟨_, wasAdmitted_of_event ⟨budget, history, verified⟩ ?_ spells,
    bound.1.trans recipient.1.symm, bound.2.trans recipient.2.symm⟩
  rw [Stored.log, List.map_append, List.map_singleton, own]
  exact List.mem_append_right _ (List.mem_singleton_self _)

/-! ## Rotation -/

/-- The rotation of an event seals the keys of an epoch for the device. -/
def SealedInRotation (P : ControlPrimitives) (event : MembershipHistoryEvent) (device : DeviceId)
    (keys : DeviceKeys) (epoch : Nat) (bundle : PairingKeyBundle) : Prop :=
  ∃ statement signature transition s t entry aad plaintext,
    event = .revocation statement signature transition ∧
    DeviceRevocationStatementV1.fromSigningPreimage statement = .ok s ∧
    RevocationTransitionV1.fromCanonicalBytes P transition = .ok t ∧ t.keyEpoch = epoch ∧
    t.devices.find? (fun entry => decide (entry.certificate.deviceId = device)) = some entry ∧
    RevocationTransitionV1.rotationMaterialAad s t.previousStateSha256 t.keyMaterialSha256
      RevocationTransitionV1.deviceMaterialDomain device.bytes
      (certificateDigest P entry.certificate).bytes = .ok aad ∧
    P.unwrapSecret keys entry.envelope aad = .ok plaintext ∧
    decodePairingKeyBundle plaintext = .ok bundle

/-- What is sealed in a rotation whose parts are read already. -/
theorem SealedInRotation.read
    (isSealed : SealedInRotation P (.revocation statement signature transition) device keys epoch bundle)
    (readStatement : DeviceRevocationStatementV1.fromSigningPreimage statement = .ok s)
    (readTransition : fromCanonicalBytes P transition = .ok t) :
    t.keyEpoch = epoch ∧ ∃ entry aad plaintext,
      t.devices.find? (fun entry => decide (entry.certificate.deviceId = device)) = some entry ∧
      rotationMaterialAad s t.previousStateSha256 t.keyMaterialSha256
        deviceMaterialDomain device.bytes
        (certificateDigest P entry.certificate).bytes = .ok aad ∧
      P.unwrapSecret keys entry.envelope aad = .ok plaintext ∧
      decodePairingKeyBundle plaintext = .ok bundle := by
  obtain ⟨_, _, _, s', t', entry, aad, plaintext, same, readS, readT, epoch, found, written,
    unwrapped, decoded⟩ := isSealed
  obtain ⟨rfl, rfl, rfl⟩ := MembershipHistoryEvent.revocation.inj same
  obtain rfl := Except.ok.inj (readStatement.symm.trans readS)
  obtain rfl := Except.ok.inj (readTransition.symm.trans readT)
  exact ⟨epoch, entry, aad, plaintext, found, written, unwrapped, decoded⟩

/-- Keys that were opened from a rotation among the events. -/
structure OpenedFrom (P : ControlPrimitives) (stored : Stored)
    (events : List MembershipHistoryEvent) (rotation : OpenedRotation) : Prop where
  valid : BundleValid rotation.original
  scope : rotation.original.accountId = stored.scope.accountId ∧
    rotation.original.workspaceId = stored.scope.workspaceId
  pin : ∀ pin ∈ rotation.original.enrollmentRecordSha256, pin = stored.pin
  pinned : rotation.pinned = rotation.original.pinnedTo stored.pin
  committed : ∃ commitment ∈ events.filterMap (rotationCommitment P),
    commitment.keyEpoch = rotation.original.keyEpoch ∧
    commitment.controlEpoch = rotation.original.controlEpoch ∧
    P.sha256 (encodePairingKeyBundle rotation.original) = commitment.keyMaterialSha256

theorem OpenedFrom.agrees {rotation : OpenedRotation} (authentic : Authentic P stored)
    (opened : OpenedFrom P stored stored.log rotation) : Agrees P stored rotation.original := by
  obtain ⟨commitment, member, key, control, same⟩ := opened.committed
  exact ⟨opened.scope, opened.pin, committed_of_mem authentic member key control (.inl same)⟩

theorem OpenedFrom.more {rotation : OpenedRotation} (opened : OpenedFrom P stored events rotation)
    (event : MembershipHistoryEvent) : OpenedFrom P stored (events ++ [event]) rotation := by
  obtain ⟨commitment, member, same⟩ := opened.committed
  refine { opened with committed := ⟨commitment, ?_, same⟩ }
  rw [List.filterMap_append]
  exact List.mem_append_left _ member

/-- The visitor opens what a rotation seals for the device, unless it is kept already. -/
structure Visited (P : ControlPrimitives) (store : MembershipStore) (stored : Stored)
    (device : DeviceId) (keys : DeviceKeys) (done : List MembershipHistoryEvent)
    (reached : VerifiedMembershipHistory × List OpenedRotation) : Prop where
  scope : reached.1.state.scope = stored.scope
  opened : ∀ rotation ∈ reached.2, OpenedFrom P stored done rotation
  complete : ∀ event ∈ done, ∀ epoch bundle, SealedInRotation P event device keys epoch bundle →
    ¬ Held store device epoch true → ∃ rotation ∈ reached.2, rotation.original = bundle

/-- A step of the visitor that opens nothing. -/
theorem Visited.skip (visited : Visited P store stored device keys done reached)
    (scope : next.1.state.scope = stored.scope) (same : next.2 = reached.2)
    (nothing : ∀ epoch bundle, SealedInRotation P event device keys epoch bundle → Held store device epoch true) :
    Visited P store stored device keys (done ++ [event]) next where
  scope := scope
  opened rotation member := (visited.opened rotation (same ▸ member)).more event
  complete := by
    intro other member epoch bundle isSealed missing
    rw [same]
    rcases List.mem_append.mp member with old | new
    · exact visited.complete other old epoch bundle isSealed missing
    · obtain rfl := List.mem_singleton.mp new
      exact absurd (nothing epoch bundle isSealed) missing

theorem openDeviceMaterial_ok {transition : RevocationTransitionV1}
    {current : RevocationControlState}
    (opened : transition.openDeviceMaterial P statement signature current device keys = .ok bundle) :
    current.scope = ⟨statement.accountId, statement.workspaceId⟩ ∧
      (bundle.accountId = statement.accountId ∧ bundle.workspaceId = statement.workspaceId ∧
        bundle.controlEpoch = transition.controlEpoch ∧ bundle.keyEpoch = transition.keyEpoch) ∧
      ∃ entry aad plaintext,
        transition.devices.find? (fun entry => decide (entry.certificate.deviceId = device)) =
          some entry ∧
        rotationMaterialAad statement transition.previousStateSha256
          transition.keyMaterialSha256 deviceMaterialDomain device.bytes
          (certificateDigest P entry.certificate).bytes = .ok aad ∧
        P.unwrapSecret keys entry.envelope aad = .ok plaintext ∧
        P.sha256 plaintext = transition.keyMaterialSha256 ∧
        decodePairingKeyBundle plaintext = .ok bundle := by
  simp only [openDeviceMaterial, openedMaterial,
    ok_iff] at opened
  obtain ⟨verified, entry, found, _, aad, written, plaintext, unwrapped, hash, _, decoded, fits,
    rfl⟩ := opened
  exact ⟨(verify_ok verified).scope, fits, entry, aad, plaintext, found,
    written, unwrapped, hash, decoded⟩

/-- One event of the replay: what its rotation seals for the device is opened and checked. -/
theorem Visited.step {done : List MembershipHistoryEvent}
    (visited : Visited P store stored device keys done reached)
    (noted : noting (advance P record) (fun notes history event =>
      openRotation P store stored device keys budget notes history (some event)) reached event =
        .ok next) : Visited P store stored device keys (done ++ [event]) next := by
  obtain ⟨advanced, opened⟩ := noting_eq_ok.mp noted
  have scope : next.1.state.scope = stored.scope :=
    (scope_of_advance advanced).1.trans visited.scope
  cases event with
  | recoveryAdd canonicalClaim =>
    refine visited.skip scope (Except.ok.inj opened).symm ?_
    rintro epoch bundle ⟨_, _, _, _, _, _, _, _, other, _⟩
    cases other
  | pairingAdd statement signature request approvedPayload =>
    refine visited.skip scope (Except.ok.inj opened).symm ?_
    rintro epoch bundle ⟨_, _, _, _, _, _, _, _, other, _⟩
    cases other
  | revocation statement signature transition =>
    simp only [advance, ok_iff] at advanced
    obtain ⟨s, readStatement, _, t, readTransition, control, moved, same⟩ := advanced
    obtain ⟨verified, _, state⟩ := verifyAndAdvance_ok moved
    have nextState : next.1.state = control.state := by rw [← same]
    have epoch : next.1.endpoint.keyEpoch = t.keyEpoch := by
      rw [VerifiedMembershipHistory.endpoint, nextState, state, verified.nextKeyEpoch]
      rfl
    simp only [openRotation] at opened
    split at opened
    · -- A device that the rotation seals keys for is active after it.
      rename_i absent
      refine visited.skip scope (Except.ok.inj opened).symm ?_
      intro _ bundle isSealed
      obtain ⟨_, entry, _, _, found, _⟩ := isSealed.read readStatement readTransition
      have active := verified.recipient_active (List.mem_of_find?_eq_some found)
      have named := List.find?_some found
      rw [of_decide_eq_true named] at active
      rw [nextState, state, active] at absent
      cases absent
    · simp only [ok_iff] at opened
      obtain ⟨found, loaded, opened⟩ := opened
      rw [epoch] at loaded
      split at opened
      · rename_i present
        refine visited.skip scope (Except.ok.inj opened).symm ?_
        intro _ bundle isSealed
        obtain ⟨rfl, _⟩ := isSealed.read readStatement readTransition
        by_contra missing
        rw [loadSecret_eq_none.mpr missing] at loaded
        rw [← Except.ok.inj loaded] at present
        cases present
      · simp only [ok_iff] at opened
        obtain ⟨s', readAgain, t', readTransitionAgain, current, predecessor, original, opens, pin,
          pinned, pins, same'⟩ := opened
        obtain rfl := Except.ok.inj (readStatement.symm.trans readAgain)
        obtain rfl := Except.ok.inj (readTransition.symm.trans readTransitionAgain)
        have before : current = reached.1.state := by
          rw [VerifiedMembershipHistory.latestRotationPredecessor, ← same] at predecessor
          exact (Option.some.inj predecessor).symm
        obtain ⟨named, fits, entry, aad, plaintext, found, written, unwrapped, hash, decoded⟩ :=
          openDeviceMaterial_ok opens
        rw [before, visited.scope] at named
        have commitment : rotationCommitment P (.revocation statement signature transition) =
            some t.commitment := by
          rw [rotationCommitment, readTransition]
          rfl
        refine ⟨scope, ?_, ?_⟩
        · intro rotation member
          rw [← same'] at member
          rcases List.mem_append.mp member with old | new
          · exact (visited.opened rotation old).more _
          · obtain rfl := List.mem_singleton.mp new
            refine ⟨decodePairingKeyBundle_valid decoded, ?_, pin,
              (withEnrollmentRecordSha256_ok pins).2, t.commitment, ?_, fits.2.2.2.symm,
              fits.2.2.1.symm, ?_⟩
            · rw [named]
              exact ⟨fits.1, fits.2.1⟩
            · rw [List.filterMap_append]
              exact List.mem_append_right _ (by simp [commitment])
            · rw [decodePairingKeyBundle_ok decoded, hash]
              rfl
        · intro other member epoch bundle isSealed missing
          rw [← same']
          rcases List.mem_append.mp member with old | new
          · obtain ⟨rotation, among, own⟩ :=
              visited.complete other old epoch bundle isSealed missing
            exact ⟨rotation, List.mem_append_left _ among, own⟩
          · obtain rfl := List.mem_singleton.mp new
            obtain ⟨_, entry', aad', plaintext', found', written', unwrapped', decoded'⟩ :=
              isSealed.read readStatement readTransition
            obtain rfl := Option.some.inj (found.symm.trans found')
            obtain rfl := Except.ok.inj (written.symm.trans written')
            obtain rfl := Except.ok.inj (unwrapped.symm.trans unwrapped')
            obtain rfl := Except.ok.inj (decoded.symm.trans decoded')
            exact ⟨_, List.mem_append_right _ (List.mem_singleton_self _), rfl⟩

end

/-- What staging is offered: keys of the enrollment and of every rotation, where none are kept. -/
inductive StagingOffers (P : ControlPrimitives) (store : MembershipStore) (stored : Stored)
    (device : DeviceId) (keys : DeviceKeys) (bundle : PairingKeyBundle) : Prop
  | enrollment (row : EnrollmentRow) (found : store.enrollment = some row)
      (active : row.active = true) (own : row.canonicalRecordSha256 = stored.pin)
      (isSealed : SealedInEnrollment P row device keys bundle) (missing : ¬ Held store device 1 true)
  | rotation (event : MembershipHistoryEvent) (epoch : Nat) (member : event ∈ stored.log)
      (isSealed : SealedInRotation P event device keys epoch bundle)
      (missing : ¬ Held store device epoch true)

theorem stageEnrollment_retains (sealing : Sealing P) (receipts : Receipts P store stored kept)
    (authentic : Authentic P stored) (own : OwnKeys P stored device keys)
    (ran : stageEnrollment P draw store stored device keys budget = .ok after) :
    ∃ keptAfter offered, Retains P stored store after kept keptAfter offered ∧
      (∀ offer ∈ offered, offer.2.keyEpoch = 1) ∧
      ∀ row bundle, store.enrollment = some row → row.active = true →
        row.canonicalRecordSha256 = stored.pin → SealedInEnrollment P row device keys bundle →
        ¬ Held store device 1 true →
        Agrees P stored bundle ∧ (device, bundle.pinnedTo stored.pin) ∈ offered := by
  simp only [stageEnrollment, bind_eq_ok] at ran
  obtain ⟨first, loaded, ran⟩ := ran
  split at ran
  · rename_i present
    obtain rfl := Except.ok.inj ran
    refine ⟨kept, [], .refl receipts, by simp, ?_⟩
    intro row bundle _ _ _ _ missing
    rw [loadSecret_eq_none.mpr missing] at loaded
    rw [← Except.ok.inj loaded] at present
    cases present
  · simp only [ok_iff] at ran
    obtain ⟨_, ran⟩ := ran
    split at ran
    · rename_i absent
      obtain rfl := Except.ok.inj ran
      refine ⟨kept, [], .refl receipts, by simp, ?_⟩
      intro row bundle found
      rw [absent] at found
      cases found
    · rename_i enrollment present
      split at ran
      · rename_i matched
        simp only [ok_iff] at ran
        obtain ⟨original, opened, retained⟩ := ran
        obtain ⟨agrees, epoch, keptAfter, retains⟩ :=
          retainEnrollment_retains sealing receipts authentic own retained
        obtain ⟨_, plaintext, unwrapped, decoded⟩ := openDeviceWorkspaceMaterial_ok opened
        refine ⟨keptAfter, _, retains, by simpa using epoch, ?_⟩
        rintro row bundle found _ _ ⟨_, plaintext', unwrapped', decoded'⟩ _
        obtain rfl := Option.some.inj (present.symm.trans found)
        obtain rfl := Except.ok.inj (unwrapped.symm.trans unwrapped')
        obtain rfl := Except.ok.inj (decoded.symm.trans decoded')
        exact ⟨agrees, List.mem_singleton_self _⟩
      · rename_i other
        obtain rfl := Except.ok.inj ran
        refine ⟨kept, [], .refl receipts, by simp, ?_⟩
        intro row bundle found active pin isSealed _
        obtain rfl := Option.some.inj (present.symm.trans found)
        exact absurd ⟨active, isSealed.1.symm, pin⟩ other

/-- Staging keeps the keys that the enrollment and the rotations seal for the device. -/
theorem stageCurrentMembershipMaterial_honours (sealing : Sealing P) {draw : Nat → Nat}
    (ran : stageCurrentMembershipMaterial P draw store expected device keys budget = .ok after) :
    ∃ stored, load P store budget = .ok (some stored) ∧ stored.endpoint = expected ∧
      ∀ kept, Receipts P store stored kept →
        Honours P stored store after kept fun recipient bundle =>
          recipient = device ∧ StagingOffers P store stored device keys bundle := by
  simp only [stageCurrentMembershipMaterial, ok_iff, Prod.exists] at ran
  obtain ⟨_, loaded, stored, rfl, history, checked, staged, stages, _, pending, replayed, final,
    threaded, _, _, _, _, rfl⟩ := ran
  obtain ⟨verified, ended, own⟩ := ownKeys_of_endpointCheck checked
  refine ⟨stored, loaded, ended, ?_⟩
  intro kept receipts
  have authentic : Authentic P stored := ⟨budget, history, verified⟩
  obtain ⟨keptStaged, staging, retainsStaged, first, enrollments⟩ :=
    stageEnrollment_retains sealing receipts authentic own stages
  obtain ⟨record, start, opened, _, visitedNone, run, _⟩ :=
    replayMembershipHistory_eq_ok.mp replayed
  obtain rfl := Except.ok.inj visitedNone
  have startScope : start.state.scope = stored.scope := by
    obtain ⟨_, _, rfl⟩ := genesisHistory_ok opened.genesis
    rfl
  have visited := thread_invariant_done (Visited P staged stored device keys)
    (fun _ _ _ _ visited noted => visited.step noted) ⟨startScope, by simp, by simp⟩ run
  have nonzero := authentic.pin_ne_zero
  have keeps : ∀ store after kept (rotation : OpenedRotation), rotation ∈ pending →
      Receipts P store stored kept →
      retain P (draw rotation.pinned.keyEpoch) store stored device rotation.pinned true
        rotation.provenance keys budget = .ok after →
      ∃ keptAfter, Retains P stored store after kept keptAfter [(device, rotation.pinned)] := by
    intro store after kept rotation member receipts retained
    have found := visited.opened rotation member
    have belongs := (found.agrees authentic).belongs found.valid nonzero
    rw [← found.pinned] at belongs
    exact retain_retains sealing receipts authentic belongs own retained
  obtain ⟨keptAfter, retains⟩ := thread_retains_map keeps retainsStaged.receipts threaded
  refine ⟨keptAfter, _, retainsStaged.trans retains, ?_⟩
  rintro recipient bundle ⟨rfl, offers⟩
  cases offers with
  | enrollment row found active pin isSealed missing =>
    obtain ⟨agrees, member⟩ := enrollments row bundle found active pin isSealed missing
    exact ⟨agrees, List.mem_append_left _ member⟩
  | rotation event epoch member isSealed missing =>
    have stillMissing : ¬ Held staged recipient epoch true := by
      rintro ⟨independent, row, found, only⟩
      rcases retainsStaged.added _ _ _ _ found with old | ⟨offer, among, _, same⟩
      · exact missing ⟨independent, row, old, only⟩
      · have one := first offer among
        obtain ⟨statement, signature, transition, s, t, _, _, _, rfl, _, read, epochs, _⟩ := isSealed
        have commits : rotationCommitment P (.revocation statement signature transition) =
            some t.commitment := by
          rw [rotationCommitment, read]
          rfl
        refine commitment_epoch authentic (List.mem_filterMap.mpr ⟨_, member, commits⟩) ?_
        exact epochs.trans (same.symm.trans one)
    obtain ⟨rotation, among, rfl⟩ := visited.complete event member epoch bundle isSealed stillMissing
    have found := visited.opened rotation among
    refine ⟨found.agrees authentic, List.mem_append_right _ (List.mem_map.mpr ⟨rotation, among, ?_⟩)⟩
    rw [found.pinned]

end ContextRelay.Membership
