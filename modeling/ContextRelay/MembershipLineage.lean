import ContextRelay.MembershipLogRuns

/-! What an accepted log says of the states on it: which endpoints lie on it, with which certificate
a device was ever a member, and which rotation made the keys of an epoch. All of it stays when the
log is extended. -/
namespace ContextRelay.Membership

open Library Library.Cbor RevocationTransitionV1

/-- The log verifies, under some budget. -/
def Authentic (P : ControlPrimitives) (stored : Stored) : Prop :=
  ∃ budget history, stored.verify P budget = .ok history

/-- The log with more events at its end. -/
def Stored.extended (stored : Stored) (added : List Event) (endpoint : MembershipEndpoint) : Stored :=
  { stored with events := stored.events ++ added, endpoint }

/-- The first events of the log lead to the endpoint. -/
def OnLog (P : ControlPrimitives) (stored : Stored) (endpoint : MembershipEndpoint) : Prop :=
  ∃ front back, stored.events = front ++ back ∧ Authentic P { stored with events := front, endpoint }

/-- The device was admitted with the certificate, when the workspace was enrolled or by an event. -/
def WasAdmitted (P : ControlPrimitives) (stored : Stored) (device : DeviceId)
    (certificate : DeviceCertificateV1) : Prop :=
  ∃ record changes, decodeRecoveryEnrollmentRecordV1 P stored.enrollment = .ok record ∧
    Spelled P stored.log changes ∧ ∃ admission ∈ admitted record changes,
      admission.device = device ∧ admission.certificate = certificate

/-- The commitments to rotated keys, one for each revocation of the log. -/
def Stored.commitments (P : ControlPrimitives) (stored : Stored) : List VerifiedRotatedKeyCommitment :=
  stored.log.filterMap (rotationCommitment P)

variable {P : ControlPrimitives} {stored : Stored} {history : VerifiedMembershipHistory}
  {budget : MembershipHistoryBudget} {source : MembershipEndpoint}

/-! ## Endpoints -/

theorem onLog_endpoint (authentic : Authentic P stored) : OnLog P stored stored.endpoint :=
  ⟨stored.events, [], (List.append_nil _).symm, authentic⟩

section

variable {endpoint : MembershipEndpoint} {record : RecoveryEnrollmentRecordV1}
  {start : VerifiedMembershipHistory} {certificate : DeviceCertificateV1}

theorem OnLog.extended (onLog : OnLog P stored endpoint) (added : List Event)
    (successor : MembershipEndpoint) :
    OnLog P (stored.extended added successor) endpoint := by
  obtain ⟨front, back, events, authentic⟩ := onLog
  refine ⟨front, back ++ added, ?_, authentic⟩
  rw [Stored.extended, events, List.append_assoc]

/-- The epochs that an event's evidence gives are those of the state it leads to. -/
theorem eventEpochs_of_advance (derived : Event.fromEvidence P event.evidence = .ok event)
    (advanced : advance P record before event.evidence = .ok after) :
    eventEpochs P event = .ok (after.state.controlEpoch, after.state.keyEpoch) := by
  cases evidence : event.evidence with
  | recoveryAdd canonicalClaim =>
    rw [evidence] at derived advanced
    simp only [advance, ok_iff] at advanced
    obtain ⟨claim, decoded, verified, _, _, rfl⟩ := advanced
    obtain ⟨_, _, _, _, control, key, _⟩ := verifyRecoveryDeviceClaimV2_ok verified
    simp only [Event.fromEvidence, ok_iff] at derived
    obtain ⟨_, _, _, _, rfl⟩ := derived
    simp only [eventEpochs, Option.isSome_none, Bool.false_eq_true, if_false, if_true, decoded,
      orFail, ok_bind, pure_eq_ok, control, key]
  | pairingAdd statement signature request approvedPayload =>
    rw [evidence] at derived advanced
    simp only [advance, ok_iff] at advanced
    obtain ⟨s, decoded, _, _, _, parent, parented, control, moved, rfl⟩ := advanced
    simp only [DeviceMembershipAddStatementV1.verifyAndAdvance, ok_iff] at moved
    obtain ⟨_, _, _, _, ⟨_, _, _, controlEpoch, keyEpoch, _⟩, _, _, _, rfl⟩ := moved
    simp only [Event.fromEvidence, ok_iff] at derived
    obtain ⟨_, _, _, _, rfl⟩ := derived
    simp only [eventEpochs, Option.isSome_some, if_true, decoded, orFail, ok_bind, pure_eq_ok,
      controlEpoch, keyEpoch]
  | revocation statement signature transition =>
    rw [evidence] at derived advanced
    simp only [advance, ok_iff] at advanced
    obtain ⟨s, _, _, t, decoded, control, moved, rfl⟩ := advanced
    obtain ⟨verified, _, reached⟩ := verifyAndAdvance_ok moved
    simp only [Event.fromEvidence, ok_iff] at derived
    obtain ⟨_, _, _, _, _, _, rfl⟩ := derived
    have written : statement ≠ [] := by
      rintro rfl
      simp [Event.evidence] at evidence
    simp only [eventEpochs, Option.isSome_none, Bool.false_eq_true, if_false, written, decoded,
      orFail, ok_bind, pure_eq_ok, reached, verified.nextControlEpoch, verified.nextKeyEpoch]

/-- The state that an event leads to is the one after the events up to it, at the epochs that the
event spells. -/
theorem reached_at
    (derived : ∀ other ∈ front ++ event :: back, Event.fromEvidence P other.evidence = .ok other)
    (ran : thread (advance P record) start ((front ++ event :: back).map Event.evidence) = .ok history) :
    ∃ reached, thread (advance P record) start ((front ++ [event]).map Event.evidence) =
        .ok reached ∧ event.successor = reached.state.stateSha256 ∧
      eventEpochs P event = .ok (reached.state.controlEpoch, reached.state.keyEpoch) := by
  rw [List.append_cons, List.map_append, thread_append, bind_eq_ok] at ran
  obtain ⟨reached, upTo, _⟩ := ran
  have within : ∀ other ∈ front ++ [event], Event.fromEvidence P other.evidence = .ok other := by
    intro other member
    apply derived
    rw [List.append_cons]
    exact List.mem_append_left _ member
  have leads := (chained_of_thread within upTo).2.2 event (by simp)
  refine ⟨reached, upTo, leads, ?_⟩
  rw [List.map_append, List.map_singleton] at upTo
  obtain ⟨before, _, advanced⟩ := thread_concat_eq_ok.mp upTo
  exact eventEpochs_of_advance (within event (by simp)) advanced

/-- The first state of a log is the hash of its anchor, which no event leads to unless two hashes
collide. -/
theorem successor_ne_genesis
    (collisionFree : CollisionFree P (hashed P stored.enrollment stored.pin stored.log))
    (derived : ∀ event ∈ stored.events, Event.fromEvidence P event.evidence = .ok event)
    (genesis : Authentic P { stored with events := [], endpoint })
    (member : event ∈ stored.events) : event.successor ≠ endpoint.stateSha256 := by
  obtain ⟨_, history, verified⟩ := genesis
  obtain ⟨record, start, opened, ran, ended⟩ := verify_eq_ok.mp verified
  obtain rfl := Except.ok.inj ran
  obtain ⟨_, _, enrolledStart⟩ := genesisHistory_ok opened.genesis
  obtain ⟨_, _, leads⟩ := fromEvidence_ok (derived event member)
  dsimp only at ended enrolledStart
  rw [leads, ← ended, enrolledStart]
  intro same
  have hashedEvent : event.evidence.statePreimage ∈
      hashed P stored.enrollment stored.pin stored.log := by
    rw [hashed]
    apply List.mem_append_right
    exact List.mem_flatMap.mpr ⟨event.evidence, List.mem_map_of_mem member, by simp⟩
  exact statePreimage_ne_anchor event.evidence stored.pin _
    (collisionFree _ hashedEvent _ (anchor_hashed opened.decoded) same)

/-- No state comes twice on a log, unless two hashes collide. -/
theorem successors_nodup {pin : Sha256Digest} {events : List Event}
    (collisionFree : CollisionFree P inputs)
    (genesis : genesisHistory P record pin scope = .ok start)
    (anchored : anchorPreimage P pin (Table.empty.upsert record.genesisCertificate.deviceId record.genesisCertificate) ∈ inputs)
    (derived : ∀ event ∈ events, Event.fromEvidence P event.evidence = .ok event)
    (covered : ∀ event ∈ events.map Event.evidence, Covered inputs event)
    (ran : thread (advance P record) start (events.map Event.evidence) = .ok history) :
    (events.map Event.successor).Nodup := by
  induction events using List.reverseRecOn generalizing history with
  | nil => exact List.nodup_nil
  | append_singleton init last ih =>
    have leads := (chained_of_thread derived ran).2.2 last (by simp)
    have before := ran
    rw [List.map_append, thread_append, bind_eq_ok] at before
    obtain ⟨_, upTo, _⟩ := before
    have distinct := ih (fun event member => derived event (List.mem_append_left _ member))
      (fun event member => covered event (by
        rw [List.map_append]
        exact List.mem_append_left _ member)) upTo
    rw [List.map_append, List.map_singleton, List.nodup_append_comm, List.singleton_append,
      List.nodup_cons]
    refine ⟨fun again => ?_, distinct⟩
    obtain ⟨event, member, same⟩ := List.mem_map.mp again
    obtain ⟨front, back, rfl⟩ := List.append_of_mem member
    rw [List.append_assoc, List.cons_append] at derived ran covered
    obtain ⟨_, part, leadsPart, _⟩ := reached_at derived ran
    have equal := run_determined collisionFree genesis anchored part ran
      (fun event member => covered event (by
        rw [List.append_cons, List.map_append]
        exact List.mem_append_left _ member)) covered
      (leadsPart.symm.trans (same.trans leads))
    have lengths := congrArg List.length equal
    simp at lengths

/-- A secret that came with a state of the log passes the check of its source, whatever was appended
since. -/
theorem checkSource_of_onLog
    (derived : ∀ event ∈ stored.events, Event.fromEvidence P event.evidence = .ok event)
    (distinct : (stored.events.map Event.successor).Nodup)
    (collisionFree : CollisionFree P (hashed P stored.enrollment stored.pin stored.log))
    (onLog : OnLog P stored source) (fits : stored.enrollment.length ≤ budget.maxBytes) :
    checkSource P stored source budget = .ok () := by
  obtain ⟨front, back, events, authentic⟩ := onLog
  rw [checkSource]
  by_cases same : source = stored.endpoint
  · rw [if_pos same]
    rfl
  rw [if_neg same]
  rcases List.eq_nil_or_concat' front with rfl | ⟨init, last, rfl⟩
  · have missing : stored.events.find? (fun event =>
        decide (event.successor = source.stateSha256)) = none := by
      apply List.find?_eq_none.mpr
      intro event member
      simpa using successor_ne_genesis collisionFree derived authentic member
    obtain ⟨_, history, verified⟩ := authentic
    obtain ⟨record, start, opened, ran, ended⟩ := verify_eq_ok.mp verified
    have again : verifyMembershipHistory P stored.enrollment stored.pin stored.scope [] source
        budget = .ok history :=
      verifyMembershipHistory_eq_ok.mpr ⟨record, start, { opened with
        fewEvents := Nat.zero_le _
        fewBytes := by simpa [logBytes] using fits }, ran, ended⟩
    simp only [missing, again, orFail, ok_bind]
    rfl
  · obtain ⟨_, history, verified⟩ := authentic
    obtain ⟨record, start, _, ran, rfl⟩ := verify_eq_ok.mp verified
    obtain ⟨reached, upTo, leads, epochs⟩ := reached_at (fun event member =>
      derived event (by rw [events]; exact List.mem_append_left _ member)) ran
    obtain rfl := Except.ok.inj (upTo.symm.trans ran)
    have found : stored.events.find? (fun event =>
        decide (event.successor = reached.endpoint.stateSha256)) = some last := by
      rw [show reached.endpoint.stateSha256 = last.successor from leads.symm]
      exact find?_of_nodup_map distinct (by rw [events]; simp)
    simp only [found, epochs, ok_bind]
    exact require_pos rfl _

/-- The state after the first events of a log is on it. -/
theorem onLog_of_reached (events : stored.events = front ++ back)
    (opened : Opened P stored.enrollment stored.pin stored.scope stored.log budget record start)
    (upTo : thread (advance P record) start (front.map Event.evidence) = .ok reached)
    (ended : reached.endpoint = source) : OnLog P stored source := by
  have log : stored.log = front.map Event.evidence ++ back.map Event.evidence := by
    rw [Stored.log, events, List.map_append]
  have few := opened.fewEvents
  have small := opened.fewBytes
  rw [log, List.length_append] at few
  rw [log, logBytes, List.flatMap_append, List.sum_append] at small
  refine ⟨front, back, events, budget, reached, verify_eq_ok.mpr ⟨record, start, ?_, upTo, ended⟩⟩
  exact { opened with
    fewEvents := by simp only [Stored.log]; omega
    fewBytes := by simp only [Stored.log, logBytes]; omega }

/-- A lineage verifies exactly for the states of the log. -/
theorem onLog_iff_lineage (verified : stored.verify P budget = .ok history) :
    OnLog P stored source ↔ ∃ proof, lineage P stored source budget = .ok proof := by
  constructor
  · rintro ⟨front, back, events, _, reached, frontVerified⟩
    obtain ⟨record, start, opened, ran, ended⟩ := verify_eq_ok.mp verified
    obtain ⟨same, begun, again, upTo, here⟩ := verify_eq_ok.mp frontVerified
    obtain rfl : same = record := Except.ok.inj (again.decoded.symm.trans opened.decoded)
    obtain rfl : begun = start := Except.ok.inj (again.genesis.symm.trans opened.genesis)
    obtain ⟨notes, taken⟩ := thread_noting_of_total
      (fun _ _ _ => ⟨_, rfl⟩ : ∀ notes reached event, ∃ noted,
        lineageVisit source notes reached (some event) = .ok noted) ran
      ⟨decide (begun.endpoint = source), []⟩
    have seen := (anchorSeen_iff taken).2.mpr ⟨front.map Event.evidence, back.map Event.evidence,
      reached, by rw [Stored.log, events, List.map_append], upTo, here⟩
    exact ⟨_, orFail_eq_ok.mpr (verifyMembershipLineage_eq_ok.mpr
      ⟨same, begun, opened, history, notes, taken, ended, seen, rfl⟩)⟩
  · rintro ⟨proof, proven⟩
    obtain ⟨record, start, opened, _, notes, noted, _, seen, _⟩ :=
      verifyMembershipLineage_eq_ok.mp (orFail_eq_ok.mp proven)
    obtain ⟨front, back, reached, log, upTo, ended⟩ := (anchorSeen_iff noted).2.mp seen
    obtain ⟨past, rest, events, rfl, rfl⟩ := List.map_eq_append_iff.mp log
    exact onLog_of_reached events opened upTo ended

/-- The test asks only whether the state is on the log. -/
theorem onLog_of_checkSource (verified : stored.verify P budget = .ok history)
    (derived : ∀ event ∈ stored.events, Event.fromEvidence P event.evidence = .ok event)
    (checked : checkSource P stored source budget = .ok ()) : OnLog P stored source := by
  rw [checkSource] at checked
  by_cases same : source = stored.endpoint
  · rw [same]
    exact onLog_endpoint ⟨budget, history, verified⟩
  rw [if_neg same] at checked
  cases found : stored.events.find? fun event => decide (event.successor = source.stateSha256) with
  | none =>
    simp only [found, ok_iff] at checked
    obtain ⟨genesis, reached, _⟩ := checked
    exact ⟨[], stored.events, rfl, budget, genesis, orFail_eq_ok.mpr reached⟩
  | some event =>
    simp only [found, ok_iff] at checked
    obtain ⟨epochs, spelled, matched⟩ := checked
    obtain ⟨names, front, back, events, _⟩ := List.find?_eq_some_iff_append.mp found
    obtain ⟨record, start, opened, ran, _⟩ := verify_eq_ok.mp verified
    rw [Stored.log, events] at ran
    rw [events] at derived
    obtain ⟨reached, upTo, leads, epochsOf⟩ := reached_at derived ran
    rw [List.append_cons] at events
    refine onLog_of_reached events opened upTo ?_
    obtain rfl := Except.ok.inj (spelled.symm.trans epochsOf)
    obtain ⟨control, key⟩ := Prod.mk.inj matched
    have state : event.successor = source.stateSha256 := of_decide_eq_true names
    change (⟨reached.state.stateSha256, reached.state.controlEpoch, reached.state.keyEpoch⟩ :
      MembershipEndpoint) = source
    rw [control, key, ← leads, state]

/-! ## Certificates -/

theorem wasAdmitted_of_active (verified : stored.verify P budget = .ok history)
    (active : history.state.activeDevices.find? device = some certificate) :
    WasAdmitted P stored device certificate := by
  obtain ⟨record, start, opened, ran, _⟩ := verify_eq_ok.mp verified
  obtain ⟨changes, spelled, tracks⟩ := tracks_run opened.genesis ran
  obtain ⟨⟨admission, member, own, certified⟩, _⟩ := (tracks.active _ _).mp active
  exact ⟨record, changes, opened.decoded, spelled, admission, member, own, certified⟩

/-- A device is a member with one certificate only. -/
theorem WasAdmitted.unique (authentic : Authentic P stored)
    (first : WasAdmitted P stored device certificate) (second : WasAdmitted P stored device other) : certificate = other := by
  obtain ⟨budget, history, verified⟩ := authentic
  obtain ⟨record, start, opened, ran, _⟩ := verify_eq_ok.mp verified
  obtain ⟨changes, spelled, tracks⟩ := tracks_run opened.genesis ran
  obtain ⟨record₁, changes₁, decoded₁, spelled₁, admission, member, rfl, rfl⟩ := first
  obtain ⟨record₂, changes₂, decoded₂, spelled₂, again, memberAgain, sameDevice, rfl⟩ := second
  obtain rfl := Except.ok.inj (opened.decoded.symm.trans decoded₁)
  obtain rfl := Except.ok.inj (opened.decoded.symm.trans decoded₂)
  obtain rfl := spelled.unique spelled₁
  obtain rfl := spelled.unique spelled₂
  rw [List.inj_on_of_nodup_map tracks.distinctDevices memberAgain member sameDevice]

theorem WasAdmitted.extended (was : WasAdmitted P stored device certificate)
    (authentic : Authentic P (stored.extended added endpoint)) :
    WasAdmitted P (stored.extended added endpoint) device certificate := by
  obtain ⟨budget, history, verified⟩ := authentic
  obtain ⟨record, start, opened, ran, _⟩ := verify_eq_ok.mp verified
  obtain ⟨changes, spelled, tracks⟩ := tracks_run opened.genesis ran
  obtain ⟨_, earlier, decoded, spelledEarlier, admission, member, own, certified⟩ := was
  obtain rfl := Except.ok.inj (opened.decoded.symm.trans decoded)
  have log : (stored.extended added endpoint).log = stored.log ++ added.map Event.evidence := by
    simp [Stored.log, Stored.extended]
  rw [log] at spelled
  obtain ⟨rest, rfl⟩ := spelled.split spelledEarlier
  refine ⟨record, earlier ++ rest, decoded, log ▸ spelled, admission, ?_, own, certified⟩
  rw [admitted, List.filterMap_append, ← List.cons_append]
  exact List.mem_append_left _ member

end

/-! ## Rotations -/

/-- What a rotation commits to. -/
def RevocationTransitionV1.commitment (transition : RevocationTransitionV1) :
    VerifiedRotatedKeyCommitment :=
  ⟨transition.controlEpoch, transition.keyEpoch, transition.keyMaterialSha256⟩

/-- The commitments of a log are at the epochs from two to the endpoint's, in order. -/
theorem commitments_epochs (verified : stored.verify P budget = .ok history) :
    1 ≤ stored.endpoint.keyEpoch ∧ stored.endpoint.controlEpoch = stored.endpoint.keyEpoch ∧
      (stored.commitments P).map (fun commitment => (commitment.controlEpoch, commitment.keyEpoch)) =
        (List.range' 2 (stored.endpoint.keyEpoch - 1)).map fun epoch => (epoch, epoch) := by
  obtain ⟨record, start, opened, ran, ended⟩ := verify_eq_ok.mp verified
  obtain ⟨noted, taken⟩ := thread_noting_of_total
    (fun _ _ _ => ⟨_, rfl⟩ : ∀ notes reached event, ∃ noted,
      lineageVisit history.endpoint notes reached (some event) = .ok noted) ran
    ⟨decide (start.endpoint = history.endpoint), []⟩
  obtain ⟨changes, _, tracks, commitments, epochs⟩ := lineage_notes opened.genesis taken
  have control : stored.endpoint.controlEpoch = 1 + (revoked changes).length := by
    rw [← ended]
    exact tracks.controlEpoch
  have key : stored.endpoint.keyEpoch = 1 + (revoked changes).length := by
    rw [← ended]
    exact tracks.keyEpoch
  refine ⟨by omega, by omega, ?_⟩
  rw [Stored.commitments, ← commitments, epochs, key, Nat.add_sub_cancel_left]

theorem commitments_nodup (verified : stored.verify P budget = .ok history) :
    ((stored.commitments P).map VerifiedRotatedKeyCommitment.keyEpoch).Nodup := by
  obtain ⟨_, _, epochs⟩ := commitments_epochs verified
  have keys := congrArg (List.map Prod.snd) epochs
  rw [List.map_map, List.map_map] at keys
  have same : (stored.commitments P).map VerifiedRotatedKeyCommitment.keyEpoch =
      List.range' 2 (stored.endpoint.keyEpoch - 1) := by
    simpa [Function.comp_def] using keys
  rw [same]
  exact List.nodup_range'

/-- The rotation that the history ends with is the last one of the log. -/
theorem latestRotation_commitment (verified : stored.verify P budget = .ok history) :
    history.latestRotation.map (fun rotation => rotation.2.1.commitment) =
      (stored.commitments P).getLast? := by
  obtain ⟨record, start, opened, ran, _⟩ := verify_eq_ok.mp verified
  refine thread_invariant_done (fun done (reached : VerifiedMembershipHistory) =>
    reached.latestRotation.map (fun rotation => rotation.2.1.commitment) =
      (done.filterMap (rotationCommitment P)).getLast?) ?_ ?_ ran
  · intro done reached event next same advanced
    obtain ⟨change, _, applies, _⟩ := advance_ok advanced
    rw [List.filterMap_append]
    cases change with
    | admits operation admission =>
      obtain ⟨_, rfl⟩ := applies.1.next
      simpa [List.filterMap, applies.2] using same
    | revokes operation device =>
      obtain ⟨_, _, transition, rfl, _, _, commitment⟩ := applies.next
      simp [List.filterMap, commitment, RevocationTransitionV1.commitment]
  · obtain ⟨_, _, rfl⟩ := genesisHistory_ok opened.genesis
    rfl

/-- The first rotation of the events to an epoch is the first commitment to it. -/
theorem rotationAt_eq
    (derived : ∀ event ∈ events, Event.fromEvidence P event.evidence = .ok event) :
    ∃ found, rotationAt P epoch events = .ok found ∧
      found.map commitment =
        ((events.map Event.evidence).filterMap (rotationCommitment P)).find? fun commitment =>
          decide (commitment.keyEpoch = epoch) := by
  induction events with
  | nil => exact ⟨none, rfl, rfl⟩
  | cons event rest ih =>
    obtain ⟨found, ran, same⟩ := ih fun other member => derived other (by simp [member])
    have own := derived event (by simp)
    by_cases rotates : event.request = none ∧ event.statement ≠ []
    · have evidence : event.evidence =
          .revocation event.statement event.signature event.artifact := by
        simp [Event.evidence, rotates.1, rotates.2]
      rw [evidence] at own
      simp only [Event.fromEvidence, ok_iff] at own
      obtain ⟨_, _, t, decoded, _⟩ := own
      have commits : rotationCommitment P event.evidence = some t.commitment := by
        rw [evidence, rotationCommitment, decoded]
        rfl
      rw [rotationAt, if_pos rotates, List.map_cons, List.filterMap_cons, commits]
      simp only [decoded, orFail, ok_bind]
      by_cases here : t.keyEpoch = epoch
      · exact ⟨some t, by rw [if_pos here]; rfl, by
          simp [commitment, here]⟩
      · refine ⟨found, by rw [if_neg here, ran], ?_⟩
        rw [List.find?_cons_of_neg (by simp [commitment, here]), same]
    · have admits : rotationCommitment P event.evidence = none := by
        cases request : event.request with
        | none =>
          have empty : event.statement = [] := by
            by_contra written
            exact rotates ⟨request, written⟩
          simp [Event.evidence, request, empty, rotationCommitment]
        | some request => simp [Event.evidence, request, rotationCommitment]
      rw [rotationAt, if_neg rotates, List.map_cons, List.filterMap_cons, admits]
      exact ⟨found, ran, same⟩

/-- The keys are those that the log says the epoch has: no rotation made the first epoch; the keys
of a later one are the ones that the rotation to it commits to, with or without the pin. -/
def Committed (P : ControlPrimitives) (stored : Stored) (bundle : PairingKeyBundle) (epoch : Nat) :
    Prop :=
  if epoch = 1 then bundle.controlEpoch = 1
  else ∃ commitment ∈ stored.commitments P, commitment.keyEpoch = epoch ∧
    commitment.controlEpoch = bundle.controlEpoch ∧
    (P.sha256 (encodePairingKeyBundle bundle) = commitment.keyMaterialSha256 ∨
      P.sha256 (encodePairingKeyBundle { bundle with enrollmentRecordSha256 := none }) =
        commitment.keyMaterialSha256)

theorem Committed.extended (committed : Committed P stored bundle epoch) (added : List Event)
    (endpoint : MembershipEndpoint) :
    Committed P (stored.extended added endpoint) bundle epoch := by
  unfold Committed at *
  by_cases first : epoch = 1
  · rw [if_pos first] at committed ⊢
    exact committed
  · rw [if_neg first] at committed ⊢
    obtain ⟨commitment, member, named⟩ := committed
    refine ⟨commitment, ?_, named⟩
    rw [Stored.commitments, Stored.log, Stored.extended, List.map_append, List.filterMap_append]
    exact List.mem_append_left _ member

theorem checkCommitment_eq_ok (verified : stored.verify P budget = .ok history)
    (derived : ∀ event ∈ stored.events, Event.fromEvidence P event.evidence = .ok event)
    (scope : bundle.accountId = stored.scope.accountId ∧ bundle.workspaceId = stored.scope.workspaceId)
    (keyEpoch : bundle.keyEpoch = epoch) (epochs : bundle.controlEpoch ≠ 0 ∧ bundle.keyEpoch ≠ 0) :
    checkCommitment P stored bundle epoch = .ok () ↔ Committed P stored bundle epoch := by
  unfold checkCommitment Committed
  by_cases first : epoch = 1
  · rw [if_pos first, if_pos first, require_eq_ok]
  rw [if_neg first, if_neg first]
  obtain ⟨found, ran, same⟩ : ∃ found, rotationAt P epoch stored.events = .ok found ∧ _ :=
    rotationAt_eq derived
  have unpinned : PairingKeyBundle.new stored.scope bundle.controlEpoch epoch
      bundle.workspaceRootKey bundle.activeEpochKey =
        .ok { bundle with enrollmentRecordSha256 := none } := by
    rw [PairingKeyBundle.new, require_pos ⟨epochs.1, keyEpoch ▸ epochs.2⟩, ok_bind, pure_eq_ok,
      ← scope.1, ← scope.2, ← keyEpoch]
  simp only [ran, ok_bind, unpinned, orFail, ok_iff]
  constructor
  · rintro ⟨t, rfl, matched⟩
    rw [Option.map_some] at same
    have member := List.mem_of_find?_eq_some same.symm
    have named := List.find?_some same.symm
    exact ⟨t.commitment, member, by simpa using named, matched⟩
  · rintro ⟨commitment, member, named, matched⟩
    have here : (stored.commitments P).find? (fun other => decide (other.keyEpoch = epoch)) =
        some commitment := by
      rw [← named]
      exact find?_of_nodup_map (commitments_nodup verified) member
    rw [Stored.commitments, Stored.log, ← same] at here
    obtain ⟨t, rfl, rfl⟩ := Option.map_eq_some_iff.mp here
    exact ⟨t, rfl, matched⟩

end ContextRelay.Membership
