import ContextRelay.MembershipInvariants

/-! The size of the roster. A rotation seals new keys for every remaining device and takes at most
4096 active devices. A pairing is refused once there are so many, a recovery is not, so what
keeps a workspace rotatable is the balance of additions and revocations in its log. -/
namespace ContextRelay.Membership

open Library Library.Cbor

def MembershipHistoryEvent.isRevocation : MembershipHistoryEvent → Bool
  | .revocation _ _ _ => true
  | _ => false

def revocations (events : List MembershipHistoryEvent) : Nat :=
  events.countP (·.isRevocation)

def additions (events : List MembershipHistoryEvent) : Nat :=
  events.countP fun event => !event.isRevocation

section
variable {P : ControlPrimitives} {enrollment : Bytes} {pin : Sha256Digest} {scope : SyncScope}
  {events : List MembershipHistoryEvent} {endpoint : MembershipEndpoint}
  {budget : MembershipHistoryBudget} {record : RecoveryEnrollmentRecordV1}
  {history : VerifiedMembershipHistory}

/-- An event spells a revocation when it is one, and an admission otherwise. -/
theorem changeOf_kind (spells : changeOf P event = some change) :
    match change with
    | .admits _ _ => event.isRevocation = false
    | .revokes _ _ => event.isRevocation = true := by
  cases event with
  | recoveryAdd canonicalClaim =>
    simp only [changeOf] at spells
    split at spells <;> cases spells
    rfl
  | pairingAdd statement signature request approvedPayload =>
    simp only [changeOf] at spells
    split at spells <;> cases spells
    rfl
  | revocation statement signature transition =>
    simp only [changeOf] at spells
    split at spells <;> cases spells
    rfl

theorem Spelled.counts (spelled : Spelled P events changes) (record : RecoveryEnrollmentRecordV1) :
    (admitted record changes).length = additions events + 1 ∧
      (revoked changes).length = revocations events := by
  unfold Spelled at spelled
  induction events generalizing changes with
  | nil =>
    obtain rfl := List.map_eq_nil_iff.mp spelled.symm
    exact ⟨rfl, rfl⟩
  | cons event events ih =>
    cases changes with
    | nil => cases spelled
    | cons change changes =>
      obtain ⟨first, rest⟩ := List.cons.inj spelled
      obtain ⟨admits, revokes⟩ := ih rest
      have kind := changeOf_kind first
      simp only [admitted, revoked, additions, revocations, List.filterMap_cons, List.countP_cons,
        List.length_cons] at admits revokes ⊢
      cases change with
      | admits operation admission =>
        simp only [kind, Change.admission?, Change.revoked?, List.length_cons]
        exact ⟨by simp; omega, revokes⟩
      | revokes operation device =>
        simp only [kind, Change.admission?, Change.revoked?, List.length_cons]
        exact ⟨admits, by simp; omega⟩

/-- The roster has the enrolled device, one more for each addition and one less for each
revocation. -/
theorem roster_size
    (verified : verifyMembershipHistory P enrollment pin scope events endpoint budget = .ok history) :
    history.state.activeDevices.size + revocations events = additions events + 1 := by
  obtain ⟨record, start, opened, ran, _⟩ := verifyMembershipHistory_eq_ok.mp verified
  obtain ⟨changes, spelled, tracks⟩ := tracks_run opened.genesis ran
  obtain ⟨admits, revokes⟩ := spelled.counts record
  rw [← admits, ← revokes]
  exact tracks.size

/-! ## Rotation -/

/-- A rotation out of a roster that is too large is neither accepted nor built. -/
theorem rotation_refused (large : ¬ RevocationTransitionV1.RosterWithinLimit current) :
    (∀ transition statement signature control,
      RevocationTransitionV1.verifyAndAdvance P transition statement signature current ≠
        .ok control) ∧
    ∀ newKeys draw recoveryDraw statement device built,
      RevocationTransitionV1.build P newKeys draw recoveryDraw statement device current ≠
        .ok built := by
  constructor
  · intro transition statement signature control advanced
    exact large (RevocationTransitionV1.verifyAndAdvance_ok advanced).1.roster
  · intro newKeys draw recoveryDraw statement device built ran
    simp only [RevocationTransitionV1.build, ok_iff] at ran
    obtain ⟨_, _, _, _, _, ⟨within, _⟩, _⟩ := ran
    exact large within

/-- An accepted membership can rotate the keys away from each of its devices exactly when its log
has at most 4095 more additions than revocations; a larger roster refuses every rotation. -/
theorem rotatable_iff
    (verified : verifyMembershipHistory P enrollment pin scope events endpoint budget = .ok history) :
    ((∀ issuer target, issuer ≠ target →
        (history.state.activeDevices.find? issuer).isSome →
        (history.state.activeDevices.find? target).isSome →
        RevocationTransitionV1.RosterWithinLimit history.state) ↔
      additions events ≤ 4095 + revocations events) ∧
    (¬ additions events ≤ 4095 + revocations events →
      (∀ transition statement signature control,
        RevocationTransitionV1.verifyAndAdvance P transition statement signature history.state ≠
          .ok control) ∧
      ∀ newKeys draw recoveryDraw statement device built,
        RevocationTransitionV1.build P newKeys draw recoveryDraw statement device history.state ≠
          .ok built) := by
  have size := roster_size verified
  have within : RevocationTransitionV1.RosterWithinLimit history.state ↔
      additions events ≤ 4095 + revocations events := by
    unfold RevocationTransitionV1.RosterWithinLimit maxRotationDevices
    omega
  refine ⟨⟨fun rotatable => ?_, fun few _ _ _ _ _ => within.mpr few⟩, fun many =>
    rotation_refused (mt within.mp many)⟩
  by_contra many
  obtain ⟨issuer, target, different, active, alsoActive⟩ :=
    Table.exists_two_of_size (by omega : 2 ≤ history.state.activeDevices.size)
  exact many (within.mp (rotatable issuer target different active alsoActive))

/-- Two additions and a revocation: every one of the devices left can be rotated away. -/
theorem rotatable_sample : ∃ history,
    verifyMembershipHistory Sample.primitives Sample.enrollment Sample.pin Sample.scope Sample.log
      Sample.endpoint Sample.budget = .ok history ∧
    ∀ issuer target, issuer ≠ target → (history.state.activeDevices.find? issuer).isSome →
      (history.state.activeDevices.find? target).isSome →
      RevocationTransitionV1.RosterWithinLimit history.state := by
  obtain ⟨history, verified⟩ := Sample.log_accepted
  exact ⟨history, verified, (rotatable_iff verified).1.mpr (by decide)⟩

end

/-! ## A roster that recoveries filled -/

namespace Sample

theorem length_claim (previous : Sha256Digest) (number : Fin 8192) (signed : Bool) :
    (encodeClaimMap (claim previous number) signed).length =
      (if signed then 615 else 548) + (head .bytes (16 + number)).length + number := by
  have name : (utf8 "recovered").length = 9 := by decide
  cases signed <;>
    simp (disch := decide) only [encodeClaimMap, encodeCertificateV1, encodeWrappedEnvelope,
      encodeIssuer, encodeNativePlatform, claim, certificate, envelope, byteString, text, unsigned,
      CanonicalCbor.key, List.length_append, List.length_replicate, Id.length_bytes,
      Fixed.length_bytes, name, if_true, if_false, Bool.false_eq_true, List.length_nil,
      length_head_inline, length_head_short] <;>
    omega

theorem length_claim_le (previous : Sha256Digest) (number : Fin 8192) (signed : Bool) :
    (encodeClaimMap (claim previous number) signed).length ≤ 9000 := by
  have short := length_head_le .bytes (by omega : 16 + number.val < 2 ^ 32)
  rw [length_claim]
  split <;> omega

theorem claim_encoded (linked : previous ≠ .zero) (number : Fin 8192) :
    encodeRecoveryDeviceClaimV2 primitives (claim previous number) =
      .ok (encodeClaimMap (claim previous number) true) := by
  have unsigned : validateUnsignedClaim primitives (claim previous number) =
      .ok rootSigningKey := by
    rw [validateUnsignedClaim, require_pos]
    · rfl
    · dsimp only [claim, certificate, envelope]
      rw [List.length_replicate]
      exact ⟨rfl, linked, lengthDigest_ne_zero _, by decide, by decide, by decide, by decide,
        by decide, rfl, rfl, by decide, Nat.le_add_right _ _,
        le_trans (by omega : 16 + number.val ≤ 16 + 8192) (by decide)⟩
  have short : (utf8 "context-relay/recovery-device-claim/v2\x00" ++
      encodeClaimMap (claim previous number) false).length ≤ maxRecoveryDeviceClaimBytes := by
    have domain : (utf8 "context-relay/recovery-device-claim/v2\x00").length = 39 := by decide
    rw [List.length_append, domain]
    exact le_trans (Nat.add_le_add_left (length_claim_le previous number false) 39) (by decide)
  refine encodeRecoveryDeviceClaimV2_eq_ok.mpr
    ⟨?_, le_trans (length_claim_le previous number true) (by decide), rfl⟩
  simp only [validateClaimShape, encodeRecoveryDeviceClaimSigningPreimageV2, unsigned, ok_bind,
    require_pos short]
  rfl

theorem claim_decoded (linked : previous ≠ .zero) (number : Fin 8192) :
    decodeRecoveryDeviceClaimV2 primitives (encodeClaimMap (claim previous number) true) =
      .ok (claim previous number) :=
  decodeRecoveryDeviceClaimV2_encode (claim_encoded linked number)
    (by decide : (1 : Nat) < 2 ^ 32) (by decide : (1 : Nat) < 2 ^ 32)

/-- The first claims have been accepted, and no other. -/
structure Recovered (count : Nat) (history : VerifiedMembershipHistory) : Prop where
  inScope : history.state.scope = scope
  controlEpoch : history.state.controlEpoch = 1
  keyEpoch : history.state.keyEpoch = 1
  recoveryRootId : history.state.recoveryRootId = record.recoveryRootId
  recoveryWrappingPublicKey :
    history.state.recoveryWrappingPublicKey = record.recoveryWrappingPublicKey
  pinned : history.enrollmentRecordSha256 = pin
  linked : history.state.stateSha256 ≠ .zero
  operations : ∀ number : Fin 8192, count ≤ number → id 1 number ∉ history.operations
  devices : ∀ number : Fin 8192, count ≤ number → history.admissions.find? (id 3 number) = none
  certificates : ∀ number : Fin 8192, count ≤ number → id 2 number ∉ history.certificates

theorem recovered_start : Recovered 0 start where
  inScope := rfl
  controlEpoch := rfl
  keyEpoch := rfl
  recoveryRootId := rfl
  recoveryWrappingPublicKey := rfl
  pinned := rfl
  linked := lengthDigest_ne_zero _
  operations _ _ := Finset.notMem_empty _
  devices number _ := by
    refine (Table.find?_upsert_of_ne _ _ fun same => ?_).trans (Table.find?_empty _)
    have slots := (id_injective same).1
    contradiction
  certificates number _ := by
    intro same
    have slots := (id_injective (Finset.mem_singleton.mp same)).1
    contradiction

theorem id_ne_of_lt (lower : other.val < number.val) :
    (id slot number : Id kind) ≠ id slot other := fun same =>
  Nat.ne_of_gt lower (congrArg Fin.val (id_injective same).2)

/-- The identifiers of a claim are all different. -/
theorem claim_identifiers (previous : Sha256Digest) (number : Fin 8192) :
    (claimIdentifiers record (claim previous number)).Nodup := by
  simp [claimIdentifiers, claim, certificate, record, id, firstDevice]
  omega

/-- The next claim is accepted. -/
theorem recovered_step (recovered : Recovered count history) (few : count < 8192) :
    ∃ next, advance primitives record history
        (recoveryEvent history.state.stateSha256 ⟨count, few⟩) = .ok next ∧
      Recovered (count + 1) next := by
  have encoded := claim_encoded recovered.linked ⟨count, few⟩
  obtain ⟨valid, _⟩ := encodeRecoveryDeviceClaimV2_eq_ok.mp encoded
  have fresh : history.ensureNewAdmission (id 1 ⟨count, few⟩) (id 3 ⟨count, few⟩)
      (id 2 ⟨count, few⟩) = .ok () :=
    require_pos ⟨recovered.operations _ le_rfl, recovered.devices _ le_rfl,
      recovered.certificates _ le_rfl⟩ _
  have verified : verifyRecoveryDeviceClaimV2 primitives record
      (claim history.state.stateSha256 ⟨count, few⟩) history = .ok () := by
    rw [verifyRecoveryDeviceClaimV2, valid, ok_bind, record_encoded]
    simp only [orFail, ok_bind]
    rw [require_pos, ok_bind, require_pos (claim_identifiers _ _), ok_bind]
    · exact orFail_eq_ok.mpr fresh
    · rw [recovered.inScope, recovered.controlEpoch, recovered.keyEpoch, recovered.recoveryRootId,
        recovered.recoveryWrappingPublicKey, recovered.pinned]
      exact ⟨rfl, rfl, rfl, rfl, rfl, rfl, rfl, rfl, rfl, rfl, rfl, rfl, rfl, rfl⟩
  have successor : recoveryMembershipSuccessor primitives
      (claim history.state.stateSha256 ⟨count, few⟩) =
        .ok (lengthDigest (utf8 "context-relay/recovery-membership-add/v1\x00" ++
          encodeClaimMap (claim history.state.stateSha256 ⟨count, few⟩) true)) := by
    rw [recoveryMembershipSuccessor, encoded]
    rfl
  refine ⟨_, by
    simp only [advance, recoveryEvent, claim_decoded recovered.linked, verified, successor, orFail, ok_bind]
    rfl, ?_⟩
  exact {
    inScope := recovered.inScope
    controlEpoch := recovered.controlEpoch
    keyEpoch := recovered.keyEpoch
    recoveryRootId := recovered.recoveryRootId
    recoveryWrappingPublicKey := recovered.recoveryWrappingPublicKey
    pinned := recovered.pinned
    linked := lengthDigest_ne_zero _
    operations := fun number later seen => by
      rcases Finset.mem_insert.mp seen with same | earlier
      · exact id_ne_of_lt (Nat.lt_of_succ_le later) same
      · exact recovered.operations number (Nat.le_of_succ_le later) earlier
    devices := fun number later => by
      refine (Table.find?_upsert_of_ne _ _ fun same => ?_).trans
        (recovered.devices number (Nat.le_of_succ_le later))
      exact id_ne_of_lt (Nat.lt_of_succ_le later) same.symm
    certificates := fun number later seen => by
      rcases Finset.mem_insert.mp seen with same | earlier
      · exact id_ne_of_lt (Nat.lt_of_succ_le later) same
      · exact recovered.certificates number (Nat.le_of_succ_le later) earlier }

/-- As many recoveries as there are numbers, each on the state of the one before it. -/
theorem recovered_run (few : count ≤ 8192) : ∃ events history,
    events.length = count ∧ (∀ number event, events[number]? = some event → ∃ previous few,
        previous ≠ .zero ∧ event = recoveryEvent previous ⟨number, few⟩) ∧
      additions events = count ∧ revocations events = 0 ∧
      logBytes events ≤ 9000 * count ∧
      thread (advance primitives record) start events = .ok history ∧ Recovered count history := by
  induction count with
  | zero => exact ⟨[], start, rfl, by simp, rfl, rfl, le_rfl, rfl, recovered_start⟩
  | succ count ih =>
    obtain ⟨events, history, length, numbered, added, revoked, bytes, ran, recovered⟩ :=
      ih (by omega)
    obtain ⟨next, advanced, after⟩ := recovered_step recovered (by omega)
    refine ⟨events ++ [recoveryEvent history.state.stateSha256 ⟨count, by omega⟩], next, ?_, ?_, ?_,
      ?_, ?_, ?_, after⟩
    · rw [List.length_append, length, List.length_singleton]
    · intro number event found
      by_cases earlier : number < events.length
      · rw [List.getElem?_append_left earlier] at found
        exact numbered number event found
      · rw [List.getElem?_append_right (Nat.le_of_not_lt earlier), List.getElem?_singleton] at found
        split at found
        · obtain rfl : number = count := by omega
          exact ⟨_, _, recovered.linked, (Option.some.inj found).symm⟩
        · cases found
    · rw [additions, List.countP_append, ← additions, added]
      rfl
    · rw [revocations, List.countP_append, ← revocations, revoked]
      rfl
    · have short := length_claim_le history.state.stateSha256 ⟨count, by omega⟩ true
      rw [logBytes, List.flatMap_append, List.sum_append, ← logBytes]
      simp only [List.flatMap_cons, List.flatMap_nil, List.append_nil, recoveryEvent,
        MembershipHistoryEvent.sizes, List.sum_cons, List.sum_nil]
      omega
    · rw [thread_append, ran, ok_bind, thread, advanced]
      rfl

/-- A log of 4096 recoveries is accepted within the budget that the vault uses, and then no
device can be revoked any more. -/
theorem recoveries_fill_roster : ∃ events endpoint history issuer target,
    verifyMembershipHistory primitives enrollment pin scope events endpoint budget = .ok history ∧
    events.length ≤ 4096 ∧ revocations events = 0 ∧ issuer ≠ target ∧
    (history.state.activeDevices.find? issuer).isSome ∧
    (history.state.activeDevices.find? target).isSome ∧
    ¬ RevocationTransitionV1.RosterWithinLimit history.state ∧
    (∀ transition statement signature control,
      RevocationTransitionV1.verifyAndAdvance primitives transition statement signature
        history.state ≠ .ok control) ∧
    ∀ newKeys draw recoveryDraw statement device built,
      RevocationTransitionV1.build primitives newKeys draw recoveryDraw statement device
        history.state ≠ .ok built := by
  obtain ⟨events, history, length, _, added, revoked, bytes, ran, _⟩ :=
    recovered_run (by decide : 4096 ≤ 8192)
  have short : enrollment.length ≤ 800 := by decide +kernel
  have opened : Opened primitives enrollment pin scope events budget record start := {
    fewEvents := length.le
    fewBytes := by
      unfold budget
      dsimp only
      omega
    pinned := ⟨lengthDigest_ne_zero _, rfl⟩
    decoded := record_decoded
    genesis := genesis_started }
  have verified := verifyMembershipHistory_eq_ok.mpr ⟨record, start, opened, ran, rfl⟩
  have size := roster_size verified
  have large : ¬ RevocationTransitionV1.RosterWithinLimit history.state := by
    unfold RevocationTransitionV1.RosterWithinLimit maxRotationDevices
    omega
  obtain ⟨issuer, target, different, active, alsoActive⟩ :=
    Table.exists_two_of_size (by omega : 2 ≤ history.state.activeDevices.size)
  exact ⟨events, history.endpoint, history, issuer, target, verified, length.le, revoked, different,
    active, alsoActive, large, rotation_refused large⟩

end Sample

end ContextRelay.Membership
