import ContextRelay.MembershipInvariants

/-! The state hash commits to the history. Every kind of event hashes its evidence under a domain
of its own, and what it does not hash itself is hashed by what it does: a pairing statement names
the digest of its payload and the payload that of the request, a revocation names the digest of
its transition, and each of them names the state before it. -/
namespace ContextRelay.Membership

open Library Library.Cbor

/-! ## What is hashed -/

def addStateDomain : Bytes := utf8 "context-relay/membership-control-state/v1\x00"
def revocationStateDomain : Bytes := utf8 "context-relay/revocation-control-state/v1\x00"
def recoveryStateDomain : Bytes := utf8 "context-relay/recovery-membership-add/v1\x00"

/-- The bytes behind the state hash that an event leads to. -/
def MembershipHistoryEvent.statePreimage : MembershipHistoryEvent → Bytes
  | .recoveryAdd canonicalClaim => recoveryStateDomain ++ canonicalClaim
  | .pairingAdd statement signature _ _ => addStateDomain ++ (statement ++ signature.bytes)
  | .revocation statement signature _ => revocationStateDomain ++ (statement ++ signature.bytes)

/-- The bytes that an event's statement names by their digests. -/
def MembershipHistoryEvent.committed : MembershipHistoryEvent → List Bytes
  | .recoveryAdd _ => []
  | .pairingAdd _ _ request approvedPayload => [approvedPayload, request.canonicalBytes]
  | .revocation _ _ transition => [transition]

/-- What the check of a log hashes: the enrollment, the first state, and for each event its state
and what its statement commits to. -/
def hashed (P : ControlPrimitives) (enrollment : Bytes) (pin : Sha256Digest)
    (events : List MembershipHistoryEvent) : List Bytes :=
  enrollment ::
    (match decodeRecoveryEnrollmentRecordV1 P enrollment with
    | .ok record => [anchorPreimage P pin
        (Table.empty.upsert record.genesisCertificate.deviceId record.genesisCertificate)]
    | .error _ => []) ++
    events.flatMap fun event => event.statePreimage :: event.committed

/-- No two different ones of the inputs have one digest. -/
def CollisionFree (P : ControlPrimitives) (inputs : List Bytes) : Prop :=
  ∀ input ∈ inputs, ∀ other ∈ inputs, P.sha256 input = P.sha256 other → input = other

instance (P : ControlPrimitives) (inputs : List Bytes) : Decidable (CollisionFree P inputs) :=
  inferInstanceAs (Decidable (∀ input ∈ inputs, ∀ other ∈ inputs,
    P.sha256 input = P.sha256 other → input = other))

variable {P : ControlPrimitives}

/-! ## What an event commits to -/

/-- The state before an event, as the event's own evidence names it. -/
def namedState (P : ControlPrimitives) : MembershipHistoryEvent → Option Sha256Digest
  | .recoveryAdd canonicalClaim =>
    (decodeRecoveryDeviceClaimV2 P canonicalClaim).toOption.map fun claim =>
      claim.previousStateSha256
  | .pairingAdd statement _ _ _ =>
    (DeviceMembershipAddStatementV1.fromSigningPreimage statement).toOption.map fun statement =>
      statement.previousStateSha256
  | .revocation _ _ transition =>
    (RevocationTransitionV1.fromCanonicalBytes P transition).toOption.map fun transition =>
      transition.previousStateSha256

/-- The commitments of an event's evidence hold. -/
def Commits (P : ControlPrimitives) : MembershipHistoryEvent → Prop
  | .recoveryAdd _ => True
  | .pairingAdd statement _ request approvedPayload =>
    ∃ s payload, DeviceMembershipAddStatementV1.fromSigningPreimage statement = .ok s ∧
      s.authorizationArtifactSha256 = P.sha256 approvedPayload ∧
      decodePairingApprovedPayloadV2 approvedPayload = .ok payload ∧
      payload.grant.requestDigest = request.digest ∧
      requireExactSignedRequest P request = .ok ()
  | .revocation statement _ transition =>
    ∃ s, DeviceRevocationStatementV1.fromSigningPreimage statement = .ok s ∧
      s.transitionSha256 = P.sha256 transition

theorem requireExactSignedRequest_ok (checked : requireExactSignedRequest P request = .ok ()) :
    request.digest = P.sha256 request.canonicalBytes ∧
      encodePairingRequestV1 request.request = .ok request.canonicalBytes := by
  simp only [requireExactSignedRequest, verifyPairingRequest, ok_iff] at checked
  obtain ⟨_, ⟨_, canonical, encoded, rfl⟩, sameDigest, sameBytes⟩ := checked
  exact ⟨by rw [← sameDigest, ← sameBytes], by rw [encoded, ← sameBytes]⟩

section

variable {record : RecoveryEnrollmentRecordV1} {event : MembershipHistoryEvent}
  {inputs : List Bytes} {pin : Sha256Digest} {events : List MembershipHistoryEvent}

/-- An accepted event names the state before it, keeps its commitments, and its state hash is the
digest of its own bytes. -/
theorem advance_binds (advanced : advance P record history event = .ok next) :
    namedState P event = some history.state.stateSha256 ∧ Commits P event ∧
      next.state.stateSha256 = P.sha256 event.statePreimage := by
  cases event with
  | recoveryAdd canonicalClaim =>
    simp only [advance, ok_iff] at advanced
    obtain ⟨claim, decoded, verified, stateSha256, hashedAs, rfl⟩ := advanced
    obtain ⟨_, _, _, previous, _⟩ := verifyRecoveryDeviceClaimV2_ok verified
    rw [recoveryMembershipSuccessor, decodeRecoveryDeviceClaimV2_ok decoded] at hashedAs
    exact ⟨by rw [namedState, decoded, ← previous]; rfl, trivial, (Except.ok.inj hashedAs).symm⟩
  | pairingAdd statement signature request approvedPayload =>
    simp only [advance, ok_iff] at advanced
    obtain ⟨s, decoded, payload, payloadDecoded, _, parent, parented, control, moved, rfl⟩ := advanced
    have verified := verifyAndAdvance_pairing_ok payloadDecoded moved
    obtain ⟨stateSha256, hashedAs, reached⟩ := verified.next
    rw [DeviceMembershipAddStatementV1.controlStateSha256,
      DeviceMembershipAddStatementV1.fromSigningPreimage_ok decoded] at hashedAs
    have parentState : parent.state = history.state := pairingParent_state parented
    refine ⟨by rw [namedState, decoded, ← parentState, ← verified.previous]; rfl,
      ⟨s, payload, decoded, verified.artifact, payloadDecoded, verified.requestDigest,
        verified.exactRequest⟩, ?_⟩
    rw [reached]
    exact (Except.ok.inj hashedAs).symm
  | revocation statement signature transition =>
    simp only [advance, ok_iff] at advanced
    obtain ⟨s, decoded, _, t, transitionDecoded, control, moved, rfl⟩ := advanced
    obtain ⟨verified, hashedAs, _⟩ := RevocationTransitionV1.verifyAndAdvance_ok moved
    have digest := verified.digest
    rw [RevocationTransitionV1.digest,
      RevocationTransitionV1.fromCanonicalBytes_ok transitionDecoded] at digest
    rw [DeviceRevocationStatementV1.controlStateSha256,
      DeviceRevocationStatementV1.fromSigningPreimage_ok decoded] at hashedAs
    exact ⟨by rw [namedState, transitionDecoded, ← verified.previous]; rfl,
      ⟨s, decoded, (Except.ok.inj digest).symm⟩, (Except.ok.inj hashedAs).symm⟩

/-! ## Domains -/

private theorem append_ne_of_take {domain other rest otherRest : Bytes}
    (long : 26 ≤ domain.length) (alsoLong : 26 ≤ other.length)
    (apart : domain.take 26 ≠ other.take 26) : domain ++ rest ≠ other ++ otherRest := by
  intro same
  have start := congrArg (List.take 26) same
  rw [List.take_append_of_le_length long, List.take_append_of_le_length alsoLong] at start
  exact apart start

/-- The first state has a domain that no event has. -/
theorem statePreimage_ne_anchor (event : MembershipHistoryEvent) (pin : Sha256Digest)
    (roster : Table DeviceId DeviceCertificateV1) :
    event.statePreimage ≠ anchorPreimage P pin roster := by
  unfold anchorPreimage
  cases event with
  | recoveryAdd canonicalClaim => exact append_ne_of_take (by decide) (by decide) (by decide)
  | pairingAdd statement signature request approvedPayload =>
    exact append_ne_of_take (by decide) (by decide) (by decide)
  | revocation statement signature transition =>
    exact append_ne_of_take (by decide) (by decide) (by decide)

private theorem signed_inj {signature otherSignature : Ed25519SignatureBytes}
    (same : statement ++ signature.bytes = other ++ otherSignature.bytes) :
    statement = other ∧ signature = otherSignature := by
  obtain ⟨front, back⟩ := List.append_inj' same (by simp)
  refine ⟨front, ?_⟩
  have equal := Fixed.bytes_injective back
  cases signature
  cases otherSignature
  exact congrArg _ equal

/-- Where nothing collides, two accepted events with one state hash are the same. -/
theorem event_determined (collisionFree : CollisionFree P inputs) {other : MembershipHistoryEvent}
    (commits : Commits P event) (otherCommits : Commits P other)
    (covered : ∀ bytes ∈ event.committed, bytes ∈ inputs)
    (otherCovered : ∀ bytes ∈ other.committed, bytes ∈ inputs)
    (same : event.statePreimage = other.statePreimage) : event = other := by
  cases event with
  | recoveryAdd canonicalClaim =>
    cases other with
    | recoveryAdd otherClaim => rw [List.append_cancel_left same]
    | pairingAdd statement signature request approvedPayload =>
      exact absurd same (append_ne_of_take (by decide) (by decide) (by decide))
    | revocation statement signature transition =>
      exact absurd same (append_ne_of_take (by decide) (by decide) (by decide))
  | pairingAdd statement signature request approvedPayload =>
    cases other with
    | recoveryAdd otherClaim =>
      exact absurd same (append_ne_of_take (by decide) (by decide) (by decide))
    | pairingAdd otherStatement otherSignature otherRequest otherPayload =>
      obtain ⟨rfl, rfl⟩ := signed_inj (List.append_cancel_left same)
      obtain ⟨s, payload, decoded, artifact, payloadDecoded, named, checked⟩ := commits
      obtain ⟨s', payload', decoded', artifact', payloadDecoded', named', checked'⟩ := otherCommits
      obtain ⟨digest, encoded⟩ := requireExactSignedRequest_ok checked
      obtain ⟨digest', encoded'⟩ := requireExactSignedRequest_ok checked'
      obtain rfl : s = s' := Except.ok.inj (decoded.symm.trans decoded')
      obtain rfl : approvedPayload = otherPayload :=
        collisionFree _ (covered _ (by simp [MembershipHistoryEvent.committed])) _
          (otherCovered _ (by simp [MembershipHistoryEvent.committed])) (artifact ▸ artifact')
      obtain rfl : payload = payload' := Except.ok.inj (payloadDecoded.symm.trans payloadDecoded')
      have sameBytes : request.canonicalBytes = otherRequest.canonicalBytes :=
        collisionFree _ (covered _ (by simp [MembershipHistoryEvent.committed])) _
          (otherCovered _ (by simp [MembershipHistoryEvent.committed]))
          (by rw [← digest, ← digest', ← named, ← named'])
      have sameRequest : request.request = otherRequest.request := by
        have read := decodePairingRequestV1_eq_ok.mpr encoded
        rw [sameBytes, decodePairingRequestV1_eq_ok.mpr encoded'] at read
        exact (Except.ok.inj read).symm
      have sameSigned : request = otherRequest := by
        cases request
        cases otherRequest
        simp_all
      rw [sameSigned]
    | revocation otherStatement otherSignature transition =>
      exact absurd same (append_ne_of_take (by decide) (by decide) (by decide))
  | revocation statement signature transition =>
    cases other with
    | recoveryAdd otherClaim =>
      exact absurd same (append_ne_of_take (by decide) (by decide) (by decide))
    | pairingAdd otherStatement otherSignature request approvedPayload =>
      exact absurd same (append_ne_of_take (by decide) (by decide) (by decide))
    | revocation otherStatement otherSignature otherTransition =>
      obtain ⟨rfl, rfl⟩ := signed_inj (List.append_cancel_left same)
      obtain ⟨s, decoded, digest⟩ := commits
      obtain ⟨s', decoded', digest'⟩ := otherCommits
      obtain rfl : s = s' := Except.ok.inj (decoded.symm.trans decoded')
      obtain rfl : transition = otherTransition :=
        collisionFree _ (covered _ (by simp [MembershipHistoryEvent.committed])) _
          (otherCovered _ (by simp [MembershipHistoryEvent.committed])) (digest ▸ digest')
      rfl

/-! ## Whole histories -/

/-- All that an event hashes is among the inputs. -/
def Covered (inputs : List Bytes) (event : MembershipHistoryEvent) : Prop :=
  event.statePreimage ∈ inputs ∧ ∀ bytes ∈ event.committed, bytes ∈ inputs

theorem hashed_covers (member : event ∈ events) :
    Covered (hashed P enrollment pin events) event := by
  have all : ∀ bytes ∈ event.statePreimage :: event.committed,
      bytes ∈ hashed P enrollment pin events := fun bytes among =>
    List.mem_append_right _ (List.mem_flatMap.mpr ⟨event, member, among⟩)
  exact ⟨all _ List.mem_cons_self, fun bytes among => all bytes (List.mem_cons_of_mem _ among)⟩

theorem Covered.mono (covered : Covered inputs event) (subset : ∀ bytes ∈ inputs, bytes ∈ more) : Covered more event :=
  ⟨subset _ covered.1, fun bytes among => subset _ (covered.2 bytes among)⟩

theorem enrollment_hashed (enrollment : Bytes) (pin : Sha256Digest)
    (events : List MembershipHistoryEvent) : enrollment ∈ hashed P enrollment pin events := by
  simp [hashed]

theorem anchor_hashed (decoded : decodeRecoveryEnrollmentRecordV1 P enrollment = .ok record) :
    anchorPreimage P pin (Table.empty.upsert record.genesisCertificate.deviceId
      record.genesisCertificate) ∈ hashed P enrollment pin events := by
  simp [hashed, decoded]

/-- Runs from one enrollment to one state hash take the same events. -/
theorem run_determined (collisionFree : CollisionFree P inputs)
    (genesis : genesisHistory P record pin scope = .ok start)
    (anchored : anchorPreimage P pin (Table.empty.upsert record.genesisCertificate.deviceId record.genesisCertificate) ∈ inputs)
    (ran : thread (advance P record) start events = .ok history)
    (otherRan : thread (advance P record) start others = .ok otherHistory)
    (covered : ∀ event ∈ events, Covered inputs event)
    (othersCovered : ∀ event ∈ others, Covered inputs event)
    (same : history.state.stateSha256 = otherHistory.state.stateSha256) : events = others := by
  obtain ⟨_, _, rfl⟩ := genesisHistory_ok genesis
  refine thread_determined (fun history => history.state.stateSha256)
    (fun state event next other otherEvent otherNext inside otherInside advanced otherAdvanced
      equal => ?_) (fun state event next inside advanced equal => ?_) ran otherRan covered
    othersCovered same
  · obtain ⟨named, commits, reached⟩ := advance_binds advanced
    obtain ⟨otherNamed, otherCommits, otherReached⟩ := advance_binds otherAdvanced
    have preimages := collisionFree _ inside.1 _ otherInside.1 (by rw [← reached, ← otherReached, equal])
    obtain rfl := event_determined collisionFree commits otherCommits inside.2 otherInside.2 preimages
    exact ⟨rfl, Option.some.inj (named.symm.trans otherNamed)⟩
  · obtain ⟨_, _, reached⟩ := advance_binds advanced
    exact statePreimage_ne_anchor event pin _
      (collisionFree _ inside.1 _ anchored (by rw [← reached, equal]; rfl))

end

/-- Where the digest of nothing that is hashed collides, two logs that are accepted under one pin
for one state hash are the same log: the same events with the same evidence and signatures, and so
the same history and the same rotations. -/
theorem state_hash_determines_history {enrollment otherEnrollment : Bytes} {pin : Sha256Digest}
    {scope : SyncScope} {events others : List MembershipHistoryEvent}
    {endpoint otherEndpoint : MembershipEndpoint} {budget otherBudget : MembershipHistoryBudget}
    {history otherHistory : VerifiedMembershipHistory}
    (verified : verifyMembershipHistory P enrollment pin scope events endpoint budget = .ok history)
    (otherVerified : verifyMembershipHistory P otherEnrollment pin scope others otherEndpoint
      otherBudget = .ok otherHistory)
    (sameState : endpoint.stateSha256 = otherEndpoint.stateSha256)
    (collisionFree : CollisionFree P
      (hashed P enrollment pin events ++ hashed P otherEnrollment pin others)) :
    events = others ∧ enrollment = otherEnrollment ∧ endpoint = otherEndpoint ∧
      history = otherHistory ∧
      ∀ anchor otherAnchor lineage otherLineage,
        verifyMembershipLineage P enrollment pin scope events anchor endpoint budget = .ok lineage →
        verifyMembershipLineage P otherEnrollment pin scope others otherAnchor otherEndpoint
          otherBudget = .ok otherLineage →
        lineage.rotatedKeyCommitments = otherLineage.rotatedKeyCommitments := by
  obtain ⟨record, start, opened, ran, rfl⟩ := verifyMembershipHistory_eq_ok.mp verified
  obtain ⟨otherRecord, otherStart, otherOpened, otherRan, rfl⟩ :=
    verifyMembershipHistory_eq_ok.mp otherVerified
  have left : ∀ bytes ∈ hashed P enrollment pin events,
      bytes ∈ hashed P enrollment pin events ++ hashed P otherEnrollment pin others := fun _ =>
    List.mem_append_left _
  have right : ∀ bytes ∈ hashed P otherEnrollment pin others,
      bytes ∈ hashed P enrollment pin events ++ hashed P otherEnrollment pin others := fun _ =>
    List.mem_append_right _
  have sameEnrollment : enrollment = otherEnrollment :=
    collisionFree _ (left _ (enrollment_hashed _ _ _)) _ (right _ (enrollment_hashed _ _ _))
      (opened.pinned.2.trans otherOpened.pinned.2.symm)
  subst sameEnrollment
  obtain rfl : record = otherRecord := Except.ok.inj (opened.decoded.symm.trans otherOpened.decoded)
  obtain rfl : start = otherStart := Except.ok.inj (opened.genesis.symm.trans otherOpened.genesis)
  have sameEvents := run_determined collisionFree opened.genesis
    (left _ (anchor_hashed opened.decoded)) ran otherRan
    (fun event member => (hashed_covers member).mono left)
    (fun event member => (hashed_covers member).mono right) sameState
  subst sameEvents
  obtain rfl : history = otherHistory := Except.ok.inj (ran.symm.trans otherRan)
  refine ⟨rfl, rfl, rfl, rfl, ?_⟩
  intro anchor otherAnchor lineage otherLineage lineaged otherLineaged
  rw [lineage_commitments lineaged, lineage_commitments otherLineaged]

/-- The log with an event of each kind, checked twice: its inputs all have different lengths. -/
theorem state_hash_determines_history_sample : ∃ history otherHistory,
    verifyMembershipHistory Sample.primitives Sample.enrollment Sample.pin Sample.scope Sample.log
      Sample.endpoint Sample.budget = .ok history ∧
    verifyMembershipHistory Sample.primitives Sample.enrollment Sample.pin Sample.scope Sample.log
      Sample.endpoint Sample.budget = .ok otherHistory ∧
    history = otherHistory := by
  obtain ⟨history, verified⟩ := Sample.log_accepted
  have collisionFree : CollisionFree Sample.primitives
      (hashed Sample.primitives Sample.enrollment Sample.pin Sample.log) := by
    rw [hashed, Sample.record_decoded]
    decide +kernel
  obtain ⟨_, _, _, same, _⟩ := state_hash_determines_history verified verified rfl
    (by simpa only [CollisionFree, List.mem_append, or_self] using collisionFree)
  exact ⟨history, history, verified, verified, same⟩

end ContextRelay.Membership
