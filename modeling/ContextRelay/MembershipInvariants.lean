import ContextRelay.MembershipEvents

/-! What every accepted membership history has in common. A history that verifies is a sequence
of changes in which nothing is admitted twice; its active devices are the admitted ones without
the revoked ones, and its epochs count the revocations. Each event keeps `Tracks`, and the
replay of the whole log follows by induction over the events. -/
namespace ContextRelay.Membership

open Library Library.Cbor

/-! ## Replay, taken apart -/

theorem spend_eq_some :
    spend remaining sizes = some left ↔ sizes.sum ≤ remaining ∧ left = remaining - sizes.sum := by
  induction sizes generalizing remaining with
  | nil => simp [spend, eq_comm]
  | cons size sizes ih =>
    rw [spend]
    by_cases enough : size ≤ remaining
    · rw [if_pos enough, ih, List.sum_cons]
      omega
    · rw [if_neg enough, List.sum_cons]
      simp only [reduceCtorEq, false_iff]
      omega

/-- The bytes a log takes from a budget. -/
def logBytes (events : List MembershipHistoryEvent) : Nat := (events.flatMap (·.sizes)).sum

/-- The replay got as far as the first state: the input is within the budget, and the enrollment
is the pinned one and starts a history. -/
structure Opened (P : ControlPrimitives) (enrollment : Bytes) (pin : Sha256Digest)
    (scope : SyncScope) (events : List MembershipHistoryEvent) (budget : MembershipHistoryBudget)
    (record : RecoveryEnrollmentRecordV1) (start : VerifiedMembershipHistory) : Prop where
  fewEvents : events.length ≤ budget.maxEvents
  fewBytes : enrollment.length + logBytes events ≤ budget.maxBytes
  pinned : pin ≠ .zero ∧ P.sha256 enrollment = pin
  decoded : decodeRecoveryEnrollmentRecordV1 P enrollment = .ok record
  genesis : genesisHistory P record pin scope = .ok start

variable {P : ControlPrimitives} {enrollment : Bytes} {pin : Sha256Digest} {scope : SyncScope}
  {events : List MembershipHistoryEvent} {endpoint : MembershipEndpoint}
  {budget : MembershipHistoryBudget} {record : RecoveryEnrollmentRecordV1}

theorem replayMembershipHistory_eq_ok :
    replayMembershipHistory P enrollment pin scope events endpoint budget visit notes =
        .ok result ↔
      ∃ record start, Opened P enrollment pin scope events budget record start ∧
        ∃ noted, visit notes start none = .ok noted ∧
          thread (noting (advance P record) fun notes history event =>
            visit notes history (some event)) (start, noted) events = .ok result ∧
          result.1.endpoint = endpoint := by
  have paid : (∃ remaining, spend budget.maxBytes [enrollment.length] = some remaining ∧
      ∃ left, spend remaining (events.flatMap (·.sizes)) = some left) ↔
      enrollment.length + logBytes events ≤ budget.maxBytes := by
    simp only [spend_eq_some, logBytes, List.sum_cons, List.sum_nil]
    constructor
    · rintro ⟨_, ⟨first, rfl⟩, _, second, rfl⟩
      omega
    · intro fits
      exact ⟨_, ⟨by omega, rfl⟩, _, by omega, rfl⟩
  simp only [replayMembershipHistory, ok_iff, Prod.exists]
  constructor
  · rintro ⟨few, remaining, first, left, second, pinned, record, decoded, start, genesis, noted,
      visited, history, last, ran, ended, rfl⟩
    exact ⟨record, start, ⟨few, paid.mp ⟨remaining, first, left, second⟩, pinned, decoded, genesis⟩,
      noted, visited, ran, ended⟩
  · rintro ⟨record, start, opened, noted, visited, ran, ended⟩
    obtain ⟨remaining, first, left, second⟩ := paid.mpr opened.fewBytes
    exact ⟨opened.fewEvents, remaining, first, left, second, opened.pinned, record, opened.decoded,
      start, opened.genesis, noted, visited, result.1, result.2, ran, ended, rfl⟩

/-- A history verifies when its events advance the enrollment's state to the endpoint. -/
theorem verifyMembershipHistory_eq_ok :
    verifyMembershipHistory P enrollment pin scope events endpoint budget = .ok history ↔
      ∃ record start, Opened P enrollment pin scope events budget record start ∧
        thread (advance P record) start events = .ok history ∧ history.endpoint = endpoint := by
  simp only [verifyMembershipHistory, bind_eq_ok, pure_eq_ok, Except.ok.injEq,
    replayMembershipHistory_eq_ok, Prod.exists]
  constructor
  · rintro ⟨_, _, ⟨record, start, opened, _, _, ran, ended⟩, rfl⟩
    exact ⟨record, start, opened, thread_noting ran, ended⟩
  · rintro ⟨record, start, opened, ran, ended⟩
    obtain ⟨noted, taken⟩ := thread_noting_of_total
      (fun _ _ _ => ⟨(), rfl⟩ : ∀ (_ : Unit) (_ : VerifiedMembershipHistory)
        (_ : MembershipHistoryEvent), ∃ noted, (Except.ok () : Except CryptoError Unit) = .ok noted)
      ran ()
    exact ⟨history, noted, ⟨record, start, opened, (), trivial, taken, ended⟩, rfl⟩

section

variable {anchor : MembershipEndpoint} {start : VerifiedMembershipHistory}
  {event : MembershipHistoryEvent} {final : VerifiedMembershipHistory × LineageNotes}

theorem verifyMembershipLineage_eq_ok :
    verifyMembershipLineage P enrollment pin scope events anchor endpoint budget = .ok lineage ↔
      ∃ record start, Opened P enrollment pin scope events budget record start ∧
        ∃ history notes, thread (noting (advance P record) fun notes history event =>
            lineageVisit anchor notes history (some event))
          (start, ⟨decide (start.endpoint = anchor), []⟩) events = .ok (history, notes) ∧
        history.endpoint = endpoint ∧ notes.anchorSeen = true ∧
        lineage = ⟨history, anchor, notes.rotatedKeyCommitments⟩ := by
  simp only [verifyMembershipLineage, ok_iff, replayMembershipHistory_eq_ok, Prod.exists]
  constructor
  · rintro ⟨history, notes, ⟨record, start, opened, noted, visited, ran, ended⟩, seen, rfl⟩
    obtain rfl := Except.ok.inj visited
    rw [Bool.false_or] at ran
    exact ⟨record, start, opened, history, notes, ran, ended, seen, rfl⟩
  · rintro ⟨record, start, opened, history, notes, ran, ended, seen, rfl⟩
    exact ⟨history, notes, ⟨record, start, opened, _, rfl, ran, ended⟩, seen, rfl⟩

/-! ## The invariant -/

/-- The devices that were ever admitted, the enrollment's own first. -/
def admitted (record : RecoveryEnrollmentRecordV1) (changes : List Change) : List Admission :=
  ⟨record.genesisCertificate.deviceId, record.genesisCertificateId, record.genesisCertificate⟩ ::
    changes.filterMap Change.admission?

def revoked (changes : List Change) : List DeviceId := changes.filterMap Change.revoked?

theorem admitted_admits (record : RecoveryEnrollmentRecordV1) (changes : List Change)
    (operation : OperationId) (admission : Admission) :
    admitted record (changes ++ [.admits operation admission]) =
      admitted record changes ++ [admission] := by
  simp [admitted, Change.admission?]

theorem admitted_revokes (record : RecoveryEnrollmentRecordV1) (changes : List Change)
    (operation : OperationId) (device : DeviceId) :
    admitted record (changes ++ [.revokes operation device]) = admitted record changes := by
  simp [admitted, Change.admission?]

theorem revoked_admits (changes : List Change) (operation : OperationId) (admission : Admission) :
    revoked (changes ++ [.admits operation admission]) = revoked changes := by
  simp [revoked, Change.revoked?]

theorem revoked_revokes (changes : List Change) (operation : OperationId) (device : DeviceId) :
    revoked (changes ++ [.revokes operation device]) = revoked changes ++ [device] := by
  simp [revoked, Change.revoked?]

/-- The history is what the changes so far made of the enrollment. -/
structure Tracks (record : RecoveryEnrollmentRecordV1) (scope : SyncScope) (changes : List Change)
    (history : VerifiedMembershipHistory) : Prop where
  operations : ∀ operation, operation ∈ history.operations ↔
    operation ∈ changes.map Change.operation
  admissions : ∀ device id, history.admissions.find? device = some id ↔
    ∃ admission ∈ admitted record changes, admission.device = device ∧ admission.certificateId = id
  certificates : ∀ id, id ∈ history.certificates ↔
    id ∈ (admitted record changes).map Admission.certificateId
  active : ∀ device certificate, history.state.activeDevices.find? device = some certificate ↔
    (∃ admission ∈ admitted record changes,
      admission.device = device ∧ admission.certificate = certificate) ∧ device ∉ revoked changes
  distinctOperations : (changes.map Change.operation).Nodup
  distinctDevices : ((admitted record changes).map Admission.device).Nodup
  distinctCertificates : ((admitted record changes).map Admission.certificateId).Nodup
  wereAdmitted : ∀ device ∈ revoked changes, device ∈ (admitted record changes).map Admission.device
  certified : ∀ admission ∈ admitted record changes,
    admission.certificate.deviceId = admission.device ∧
      admission.certificate.accountId = scope.accountId ∧
      admission.certificate.workspaceId = scope.workspaceId ∧
      1 ≤ admission.certificate.controlEpoch ∧
      admission.certificate.controlEpoch ≤ history.state.controlEpoch
  inScope : history.state.scope = scope
  controlEpoch : history.state.controlEpoch = 1 + (revoked changes).length
  keyEpoch : history.state.keyEpoch = 1 + (revoked changes).length
  size : history.state.activeDevices.size + (revoked changes).length =
    (admitted record changes).length

/-- The history of an enrollment tracks no changes. -/
theorem tracks_genesis (genesis : genesisHistory P record pin scope = .ok start) : Tracks record scope [] start := by
  obtain ⟨⟨account, workspace, epoch⟩, _, rfl⟩ := genesisHistory_ok genesis
  unfold enrolled
  have size : (Table.empty.upsert record.genesisCertificate.deviceId
      record.genesisCertificate).size = 1 := rfl
  constructor <;> simp [admitted, revoked, Table.find?_upsert, account, workspace, epoch, size]

private theorem nodup_concat (distinct : items.Nodup) (new : item ∉ items) :
    (items ++ [item]).Nodup := by
  rw [List.nodup_append_comm]
  exact List.nodup_cons.mpr ⟨new, distinct⟩

variable {changes : List Change} {history next : VerifiedMembershipHistory}

/-- An admission keeps the invariant: what it adds was never seen before. -/
theorem Tracks.admits (tracks : Tracks record scope changes history)
    (admits : Admits history next operation admission) :
    Tracks record scope (changes ++ [.admits operation admission]) next := by
  obtain ⟨stateSha256, rfl⟩ := admits.next
  have newDevice : admission.device ∉ (admitted record changes).map Admission.device := by
    intro seen
    obtain ⟨earlier, member, same⟩ := List.mem_map.mp seen
    have found := (tracks.admissions _ _).mpr ⟨earlier, member, same, rfl⟩
    simp [admits.newDevice] at found
  have newCertificate : admission.certificateId ∉
      (admitted record changes).map Admission.certificateId := fun seen =>
    admits.newCertificate ((tracks.certificates _).mpr seen)
  have newOperation : operation ∉ changes.map Change.operation := fun seen =>
    admits.newOperation ((tracks.operations _).mpr seen)
  have notRevoked : admission.device ∉ revoked changes := fun seen =>
    newDevice (tracks.wereAdmitted _ seen)
  have notActive : history.state.activeDevices.find? admission.device = none := by
    apply Option.eq_none_iff_forall_ne_some.mpr
    intro certificate found
    obtain ⟨⟨earlier, member, same, _⟩, _⟩ := (tracks.active _ _).mp found
    exact newDevice (List.mem_map.mpr ⟨earlier, member, same⟩)
  constructor
  case operations =>
    intro other
    simp only [Finset.mem_insert, tracks.operations, List.map_append, List.map_cons, List.map_nil,
      List.mem_append, List.mem_singleton, Change.operation, or_comm]
  case admissions =>
    intro device id
    rw [Table.find?_upsert, admitted_admits]
    by_cases same : admission.device = device
    · subst same
      rw [if_pos rfl, Option.some.injEq]
      constructor
      · rintro rfl
        exact ⟨admission, by simp, rfl, rfl⟩
      · rintro ⟨earlier, member, sameDevice, rfl⟩
        rcases List.mem_append.mp member with old | new
        · exact absurd (List.mem_map.mpr ⟨earlier, old, sameDevice⟩) newDevice
        · rw [List.mem_singleton.mp new]
    · rw [if_neg same, tracks.admissions]
      simp [or_and_right, exists_or, same]
  case certificates =>
    intro id
    simp only [Finset.mem_insert, tracks.certificates, admitted_admits, List.map_append,
      List.map_cons, List.map_nil, List.mem_append, List.mem_singleton, or_comm]
  case active =>
    intro device certificate
    rw [Table.find?_upsert, admitted_admits, revoked_admits]
    by_cases same : admission.device = device
    · subst same
      rw [if_pos rfl, Option.some.injEq]
      constructor
      · rintro rfl
        exact ⟨⟨admission, by simp, rfl, rfl⟩, notRevoked⟩
      · rintro ⟨⟨earlier, member, sameDevice, rfl⟩, _⟩
        rcases List.mem_append.mp member with old | new
        · exact absurd (List.mem_map.mpr ⟨earlier, old, sameDevice⟩) newDevice
        · rw [List.mem_singleton.mp new]
    · rw [if_neg same, tracks.active]
      simp [or_and_right, exists_or, same]
  case distinctOperations =>
    rw [List.map_append, List.map_singleton]
    exact nodup_concat tracks.distinctOperations newOperation
  case distinctDevices =>
    rw [admitted_admits, List.map_append, List.map_singleton]
    exact nodup_concat tracks.distinctDevices newDevice
  case distinctCertificates =>
    rw [admitted_admits, List.map_append, List.map_singleton]
    exact nodup_concat tracks.distinctCertificates newCertificate
  case wereAdmitted =>
    intro device gone
    rw [revoked_admits] at gone
    rw [admitted_admits, List.map_append]
    exact List.mem_append_left _ (tracks.wereAdmitted device gone)
  case certified =>
    intro other member
    rw [admitted_admits] at member
    rcases List.mem_append.mp member with old | new
    · exact tracks.certified other old
    · obtain rfl := List.mem_singleton.mp new
      exact ⟨admits.own, tracks.inScope ▸ admits.account, tracks.inScope ▸ admits.workspace,
        Nat.pos_of_ne_zero admits.epochPos, admits.epoch.le⟩
  case inScope => exact tracks.inScope
  case controlEpoch => rw [revoked_admits]; exact tracks.controlEpoch
  case keyEpoch => rw [revoked_admits]; exact tracks.keyEpoch
  case size =>
    rw [revoked_admits, admitted_admits, List.length_append, List.length_singleton,
      Table.size_upsert_of_absent notActive, ← tracks.size]
    omega

/-- A revocation keeps the invariant: the device it removes was active. -/
theorem Tracks.revokes (tracks : Tracks record scope changes history)
    (revokes : Revokes P history next operation device event) :
    Tracks record scope (changes ++ [.revokes operation device]) next := by
  obtain ⟨stateSha256, control, transition, rfl, _⟩ := revokes.next
  obtain ⟨certificate, found⟩ := Option.isSome_iff_exists.mp revokes.active
  have newOperation : operation ∉ changes.map Change.operation := fun seen =>
    revokes.newOperation ((tracks.operations _).mpr seen)
  constructor
  case operations =>
    intro other
    simp only [Finset.mem_insert, tracks.operations, List.map_append, List.map_cons, List.map_nil,
      List.mem_append, List.mem_singleton, Change.operation, or_comm]
  case admissions => rw [admitted_revokes]; exact tracks.admissions
  case certificates => rw [admitted_revokes]; exact tracks.certificates
  case active =>
    intro other otherCertificate
    rw [Table.find?_erase, admitted_revokes, revoked_revokes]
    by_cases same : device = other
    · simp [same]
    · rw [if_neg same, tracks.active]
      simp [Ne.symm same]
  case distinctOperations =>
    rw [List.map_append, List.map_singleton]
    exact nodup_concat tracks.distinctOperations newOperation
  case distinctDevices => rw [admitted_revokes]; exact tracks.distinctDevices
  case distinctCertificates => rw [admitted_revokes]; exact tracks.distinctCertificates
  case wereAdmitted =>
    intro other gone
    rw [revoked_revokes] at gone
    rw [admitted_revokes]
    rcases List.mem_append.mp gone with old | new
    · exact tracks.wereAdmitted other old
    · obtain rfl := List.mem_singleton.mp new
      obtain ⟨⟨admission, member, same, _⟩, _⟩ := (tracks.active _ _).mp found
      exact List.mem_map.mpr ⟨admission, member, same⟩
  case certified =>
    intro admission member
    rw [admitted_revokes] at member
    obtain ⟨own, account, workspace, least, most⟩ := tracks.certified admission member
    exact ⟨own, account, workspace, least, Nat.le_succ_of_le most⟩
  case inScope => exact tracks.inScope
  case controlEpoch =>
    rw [revoked_revokes, List.length_append, List.length_singleton, ← Nat.add_assoc,
      ← tracks.controlEpoch]
  case keyEpoch =>
    rw [revoked_revokes, List.length_append, List.length_singleton, ← Nat.add_assoc,
      ← tracks.keyEpoch]
  case size =>
    have shorter := Table.size_erase_of_found found
    have before := tracks.size
    rw [revoked_revokes, admitted_revokes, List.length_append, List.length_singleton]
    dsimp only
    omega

/-! ## Whole logs -/

/-- The events all decode, to the given changes. -/
def Spelled (P : ControlPrimitives) (events : List MembershipHistoryEvent) (changes : List Change) :
    Prop :=
  events.map (changeOf P) = changes.map some

theorem Spelled.concat (spelled : Spelled P events changes)
    (spells : changeOf P event = some change) :
    Spelled P (events ++ [event]) (changes ++ [change]) := by
  unfold Spelled at spelled ⊢
  rw [List.map_append, spelled, List.map_append, List.map_singleton, List.map_singleton, spells]

/-- Spelling is a function of the events, and goes part by part. -/
theorem Spelled.split (spelled : Spelled P (front ++ back) all) (first : Spelled P front changes) :
    ∃ rest, all = changes ++ rest := by
  unfold Spelled at spelled first
  have whole : changes.map some ++ back.map (changeOf P) = all.map some := by
    rw [← first, ← List.map_append, spelled]
  have length := congrArg List.length first
  simp only [List.length_map] at length
  refine ⟨all.drop changes.length, ?_⟩
  have taken : (all.take changes.length).map some = changes.map some := by
    rw [List.map_take, ← whole, List.take_left' (by simp)]
  have start := List.map_injective_iff.mpr (Option.some_injective _) taken
  nth_rewrite 1 [← List.take_append_drop changes.length all, start]
  rfl

theorem Spelled.unique (spelled : Spelled P events changes) (again : Spelled P events other) : changes = other :=
  List.map_injective_iff.mpr (Option.some_injective _) (spelled.symm.trans again)

/-- One event takes a tracked history to a tracked history. -/
theorem tracks_advance (tracks : Tracks record scope changes history)
    (advanced : advance P record history event = .ok next) :
    ∃ change, changeOf P event = some change ∧ Applies P history next event change ∧
      rotationOf next (some event) = (rotationCommitment P event).toList ∧
      Tracks record scope (changes ++ [change]) next := by
  obtain ⟨change, spells, applies, rotation⟩ := advance_ok advanced
  refine ⟨change, spells, applies, rotation, ?_⟩
  cases change with
  | admits operation admission => exact tracks.admits applies.1
  | revokes operation device => exact tracks.revokes applies

/-- A verified history tracks the changes of its events. -/
theorem tracks_run (genesis : genesisHistory P record pin scope = .ok start)
    (ran : thread (advance P record) start events = .ok history) :
    ∃ changes, Spelled P events changes ∧ Tracks record scope changes history := by
  refine thread_invariant_done (fun done history => ∃ changes, Spelled P done changes ∧
    Tracks record scope changes history) ?_ ⟨[], rfl, tracks_genesis genesis⟩ ran
  rintro done history event next ⟨changes, spelled, tracks⟩ advanced
  obtain ⟨change, spells, _, _, tracked⟩ := tracks_advance tracks advanced
  exact ⟨_, spelled.concat spells, tracked⟩

/-- The notes of the lineage visitor: one commitment for each rotation, at the next epoch. -/
theorem lineage_notes (genesis : genesisHistory P record pin scope = .ok start)
    (ran : thread (noting (advance P record) fun notes history event => lineageVisit anchor notes history (some event)) (start, ⟨seen, []⟩) events = .ok final) :
    ∃ changes, Spelled P events changes ∧ Tracks record scope changes final.1 ∧
      final.2.rotatedKeyCommitments = events.filterMap (rotationCommitment P) ∧
      final.2.rotatedKeyCommitments.map (fun commitment =>
          (commitment.controlEpoch, commitment.keyEpoch)) =
        (List.range' 2 (revoked changes).length).map fun epoch => (epoch, epoch) := by
  refine thread_invariant_done (fun done reached => ∃ changes, Spelled P done changes ∧
    Tracks record scope changes reached.1 ∧
    reached.2.rotatedKeyCommitments = done.filterMap (rotationCommitment P) ∧
    reached.2.rotatedKeyCommitments.map (fun commitment =>
        (commitment.controlEpoch, commitment.keyEpoch)) =
      (List.range' 2 (revoked changes).length).map fun epoch => (epoch, epoch))
    ?_ ⟨[], rfl, tracks_genesis genesis, rfl, rfl⟩ ran
  rintro done reached event next ⟨changes, spelled, tracks, commitments, epochs⟩ noted
  obtain ⟨advanced, visited⟩ := noting_eq_ok.mp noted
  obtain ⟨change, spells, applies, rotation, tracked⟩ := tracks_advance tracks advanced
  have notes : next.2.rotatedKeyCommitments =
      reached.2.rotatedKeyCommitments ++ (rotationCommitment P event).toList := by
    rw [← Except.ok.inj visited, rotation]
  refine ⟨_, spelled.concat spells, tracked, ?_, ?_⟩
  · rw [notes, commitments, List.filterMap_append]
    cases found : rotationCommitment P event <;> simp [found]
  · rw [notes, List.map_append, epochs]
    cases change with
    | admits operation admission =>
      rw [applies.2, revoked_admits, Option.toList_none, List.map_nil, List.append_nil]
    | revokes operation device =>
      obtain ⟨_, _, transition, _, control, key, commitment⟩ := applies.next
      have controlEpoch := tracks.controlEpoch
      have keyEpoch := tracks.keyEpoch
      rw [commitment, revoked_revokes, List.length_append, List.length_singleton,
        List.range'_concat, List.map_append, Nat.one_mul]
      simp only [Option.toList_some, List.map_cons, List.map_nil, control, key, controlEpoch, keyEpoch]
      congr 3 <;> omega

/-- The commitments of a lineage are those of its revocations. -/
theorem lineage_commitments
    (lineaged : verifyMembershipLineage P enrollment pin scope events anchor endpoint budget = .ok lineage) :
    lineage.rotatedKeyCommitments = events.filterMap (rotationCommitment P) := by
  obtain ⟨record, start, opened, history, notes, noted, _, _, rfl⟩ :=
    verifyMembershipLineage_eq_ok.mp lineaged
  obtain ⟨_, _, _, commitments, _⟩ := lineage_notes opened.genesis noted
  exact commitments

/-- The anchor is seen exactly when some first events lead to it. -/
theorem anchorSeen_iff (ran : thread (noting (advance P record) fun notes history event =>
      lineageVisit anchor notes history (some event))
        (start, ⟨decide (start.endpoint = anchor), []⟩) events = .ok final) :
    thread (advance P record) start events = .ok final.1 ∧
      (final.2.anchorSeen = true ↔ ∃ front back reached, events = front ++ back ∧
        thread (advance P record) start front = .ok reached ∧ reached.endpoint = anchor) := by
  refine thread_invariant_done (fun done (now : VerifiedMembershipHistory × LineageNotes) =>
    thread (advance P record) start done = .ok now.1 ∧
      (now.2.anchorSeen = true ↔ ∃ front back reached, done = front ++ back ∧
        thread (advance P record) start front = .ok reached ∧ reached.endpoint = anchor)) ?_ ?_ ran
  · rintro done now event next ⟨sofar, seen⟩ noted
    obtain ⟨advanced, visited⟩ := noting_eq_ok.mp noted
    have further : thread (advance P record) start (done ++ [event]) = .ok next.1 :=
      thread_concat_eq_ok.mpr ⟨_, sofar, advanced⟩
    refine ⟨further, ?_⟩
    rw [← Except.ok.inj visited, Bool.or_eq_true, decide_eq_true_eq, seen]
    constructor
    · rintro (⟨front, back, reached, rfl, upTo, ended⟩ | here)
      · exact ⟨front, back ++ [event], reached, List.append_assoc _ _ _, upTo, ended⟩
      · exact ⟨done ++ [event], [], next.1, (List.append_nil _).symm, further, here⟩
    · rintro ⟨front, back, reached, split, upTo, ended⟩
      rcases List.eq_nil_or_concat' back with rfl | ⟨init, last, rfl⟩
      · rw [← List.append_nil front, ← split, further] at upTo
        exact .inr (Except.ok.inj upTo ▸ ended)
      · rw [← List.append_assoc] at split
        exact .inl ⟨front, init, reached, (List.append_inj' split rfl).1, upTo, ended⟩
  · refine ⟨rfl, fun seen => ⟨[], [], start, rfl, rfl, of_decide_eq_true seen⟩, ?_⟩
    rintro ⟨front, back, reached, split, upTo, ended⟩
    obtain ⟨rfl, rfl⟩ := List.nil_eq_append_iff.mp split
    exact decide_eq_true (Except.ok.inj upTo ▸ ended)

end

/-- Every accepted history admits each device and certificate once, under distinct operations; its
active devices are the admitted ones that were not revoked, with the certificates they were
admitted with, in scope and at an epoch between one and the endpoint's; its epochs count the
revocations; its lineage has one key commitment for each epoch from two on, in order; and a
device it revoked is not active in any longer history. -/
theorem membership_history_invariants
    (verified : verifyMembershipHistory P enrollment pin scope events endpoint budget = .ok history) :
    ∃ record changes, decodeRecoveryEnrollmentRecordV1 P enrollment = .ok record ∧
      Spelled P events changes ∧
      ((admitted record changes).map Admission.device).Nodup ∧
      ((admitted record changes).map Admission.certificateId).Nodup ∧
      (changes.map Change.operation).Nodup ∧
      (∀ device certificate, history.state.activeDevices.find? device = some certificate ↔
        (∃ admission ∈ admitted record changes,
          admission.device = device ∧ admission.certificate = certificate) ∧
        device ∉ revoked changes) ∧
      (∀ device certificate, history.state.activeDevices.find? device = some certificate →
        certificate.accountId = scope.accountId ∧ certificate.workspaceId = scope.workspaceId ∧
          1 ≤ certificate.controlEpoch ∧ certificate.controlEpoch ≤ endpoint.controlEpoch) ∧
      endpoint.controlEpoch = 1 + (revoked changes).length ∧
      endpoint.keyEpoch = 1 + (revoked changes).length ∧
      (∃ lineage, verifyMembershipLineage P enrollment pin scope events endpoint endpoint budget =
        .ok lineage) ∧
      (∀ anchor lineage,
        verifyMembershipLineage P enrollment pin scope events anchor endpoint budget = .ok lineage →
        lineage.rotatedKeyCommitments = events.filterMap (rotationCommitment P) ∧
        lineage.rotatedKeyCommitments.map (fun commitment =>
            (commitment.controlEpoch, commitment.keyEpoch)) =
          (List.range' 2 (revoked changes).length).map fun epoch => (epoch, epoch)) ∧
      (∀ extension later laterBudget laterHistory,
        verifyMembershipHistory P enrollment pin scope (events ++ extension) later laterBudget =
          .ok laterHistory →
        ∀ device ∈ revoked changes, laterHistory.state.activeDevices.find? device = none) := by
  obtain ⟨record, start, opened, ran, rfl⟩ := verifyMembershipHistory_eq_ok.mp verified
  obtain ⟨changes, spelled, tracks⟩ := tracks_run opened.genesis ran
  refine ⟨record, changes, opened.decoded, spelled, tracks.distinctDevices,
    tracks.distinctCertificates, tracks.distinctOperations, tracks.active, ?_, tracks.controlEpoch,
    tracks.keyEpoch, ?_, ?_, ?_⟩
  · intro device certificate found
    obtain ⟨⟨admission, member, _, rfl⟩, _⟩ := (tracks.active _ _).mp found
    exact (tracks.certified admission member).2
  · obtain ⟨noted, taken⟩ := thread_noting_of_total
      (fun _ _ _ => ⟨_, rfl⟩ : ∀ notes reached event, ∃ noted,
        lineageVisit history.endpoint notes reached (some event) = .ok noted) ran
      ⟨decide (start.endpoint = history.endpoint), []⟩
    exact ⟨_, verifyMembershipLineage_eq_ok.mpr ⟨record, start, opened, history, noted, taken, rfl,
      (anchorSeen_iff taken).2.mpr ⟨_, [], _, (List.append_nil _).symm, ran, rfl⟩, rfl⟩⟩
  · intro anchor lineage lineaged
    obtain ⟨other, first, reopened, reached, notes, noted, _, _, rfl⟩ :=
      verifyMembershipLineage_eq_ok.mp lineaged
    obtain ⟨again, respelled, _, commitments, epochs⟩ := lineage_notes reopened.genesis noted
    rw [Spelled.unique spelled respelled]
    exact ⟨commitments, epochs⟩
  · intro extension later laterBudget laterHistory laterVerified device gone
    obtain ⟨other, first, reopened, reran, _⟩ := verifyMembershipHistory_eq_ok.mp laterVerified
    obtain ⟨all, respelled, retracks⟩ := tracks_run reopened.genesis reran
    obtain ⟨rest, rfl⟩ := respelled.split spelled
    apply Option.eq_none_iff_forall_ne_some.mpr
    intro certificate found
    have stays : device ∈ revoked (changes ++ rest) := by
      rw [revoked, List.filterMap_append]
      exact List.mem_append_left _ gone
    exact ((retracks.active _ _).mp found).2 stays

/-- A log with an event of each kind: one revocation, so the endpoint is at the second epoch. -/
theorem membership_history_invariants_sample : ∃ history record changes,
    verifyMembershipHistory Sample.primitives Sample.enrollment Sample.pin Sample.scope Sample.log
      Sample.endpoint Sample.budget = .ok history ∧
    Spelled Sample.primitives Sample.log changes ∧
    ((admitted record changes).map Admission.device).Nodup ∧
    Sample.endpoint.keyEpoch = 1 + (revoked changes).length := by
  obtain ⟨history, verified⟩ := Sample.log_accepted
  obtain ⟨record, changes, _, spelled, devices, _, _, _, _, _, epoch, _⟩ :=
    membership_history_invariants verified
  exact ⟨history, record, changes, verified, spelled, devices, epoch⟩

end ContextRelay.Membership
