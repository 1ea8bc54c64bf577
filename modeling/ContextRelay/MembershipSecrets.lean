import ContextRelay.MembershipTransfers

/-! Runs of everything that keeps keys: extensions of the accepted log, and retentions from the
enrollment, an admission, the rotations, the pages of a transfer, a recovery and its history keys.
For a device and an epoch there is one bundle that is ever loaded; it never changes, the log
commits to it, and a call that offers others fails and leaves every receipt as it was. -/
namespace ContextRelay.Membership

open Library Library.Cbor

/-! ## Calls -/

/-- A call that extends the log or keeps keys, with what it reads of the tables that are not those
of the membership. What sealing draws is given for each epoch. -/
inductive SecretCall where
  | extension (expected successor : MembershipEndpoint) (events : List MembershipHistoryEvent)
      (budget : MembershipHistoryBudget)
  | enrollment (draw : Nat → Nat) (vacant : Bool) (keys : DeviceKeys)
  | admission (setting : AdmissionSetting) (draw : Nat) (enrollment : Bytes)
      (parentEvents : List MembershipHistoryEvent) (confirmed : ConfirmedV2Transcript)
      (request : SignedPairingRequest) (signature : Ed25519SignatureBytes) (keys : DeviceKeys)
      (budget : MembershipHistoryBudget)
  | rotation (draw : Nat → Nat) (expected : MembershipEndpoint) (device : DeviceId)
      (keys : DeviceKeys) (budget : MembershipHistoryBudget)
  | page (draw : Nat → Nat) (tables : TransferTables) (selected : HistoricalTransferSelection)
      (confirmed : ConfirmedV2Transcript) (signature : Ed25519SignatureBytes)
      (expectedPage : Nat × Sha256Digest) (ciphertext : Bytes) (keys : DeviceKeys)
      (budget : HistoricalTransferBudget)
  | recovery (format : RecoveryFormat) (pristine : Except VaultError Unit) (draw : Nat)
      (tables : RecoveryTables) (ack : RecoveryRestoreReceipt)
      (projection : RecoveryRestoreProjection) (published : MembershipHistoryEvent)
      (keys : DeviceKeys)
  | historyKeys (format : RecoveryFormat) (draw : Nat → Nat) (tables : RecoveryTables)
      (expected : MembershipEndpoint) (recipient : DeviceId) (claimSha256 admission : Sha256Digest)
      (keys : DeviceKeys) (budget : HistoricalTransferBudget)

namespace SecretCall

variable (P : ControlPrimitives)

/-- The store after a call, if it succeeds. -/
def attempt (store : MembershipStore) : SecretCall → Except VaultError MembershipStore
  | .extension expected successor events budget => do
    let (_, store) ← acceptMembershipExtension P store expected successor events budget
    pure store
  | .enrollment draw vacant keys => activateRecoveryEnrollment P draw vacant store keys
  | .admission setting draw record parentEvents confirmed request signature keys budget => do
    let (_, store) ← acceptConfirmedMembershipAdmission P setting draw store record parentEvents
      confirmed request signature keys budget
    pure store
  | .rotation draw expected device keys budget =>
    stageCurrentMembershipMaterial P draw store expected device keys budget
  | .page draw tables selected confirmed signature expectedPage ciphertext keys budget => do
    let (_, _, store) ← commitHistoricalTransferPage P draw tables store selected confirmed signature
      expectedPage ciphertext keys budget
    pure store
  | .recovery format pristine draw tables ack projection published keys => do
    let (_, _, store) ← acceptRecoveryMembership P format pristine draw tables store ack projection
      published keys
    pure store
  | .historyKeys format draw tables expected recipient claimSha256 successor keys budget => do
    -- The reconstruction of a recovered history reads the selected target at its endpoint first.
    let loaded ← load P store budget.history
    let stored ← present loaded membershipInvalid
    let _ ← endpointCheck P stored expected recipient keys budget.history
    retainHistoryKeys P format draw tables store stored recipient claimSha256 successor keys budget

/-- A call that fails is rolled back. -/
def after (store : MembershipStore) (call : SecretCall) : MembershipStore :=
  match call.attempt P store with
  | .ok written => written
  | .error _ => store

theorem after_of_ok {store written : MembershipStore} {call : SecretCall}
    (ran : call.attempt P store = .ok written) : call.after P store = written := by
  rw [after, ran]

/-- The state of the log that a call says it is made at. -/
def names : SecretCall → Option MembershipEndpoint
  | .rotation _ expected _ _ _ => some expected
  | .page _ _ selected _ _ _ _ _ _ => some selected.authorizingEndpoint
  | .historyKeys _ _ _ expected _ _ _ _ _ => some expected
  | _ => none

/-- The keys that a call brings for a device, as they were sealed, before any check of them. -/
def Offers (store : MembershipStore) (device : DeviceId) (bundle : PairingKeyBundle) :
    SecretCall → Prop
  | .extension _ _ _ _ => False
  | .enrollment _ vacant keys => vacant = true ∧ store.accepted = none ∧
    ∃ row, store.enrollment = some row ∧ row.active = false ∧
      SealedInEnrollment P row device keys bundle
  | .admission _ _ _ _ confirmed _ _ keys _ =>
    device = confirmed.payload.grant.certificate.deviceId ∧ SealedInGrant P confirmed keys bundle
  | .rotation _ _ recipient keys budget => device = recipient ∧
    ∃ stored, load P store budget = .ok (some stored) ∧
      StagingOffers P store stored recipient keys bundle
  | .page _ tables selected confirmed _ _ ciphertext keys budget =>
    device = confirmed.payload.grant.certificate.deviceId ∧
      ∃ t, loadTransfer P tables selected.transferId budget = .ok (some t) ∧
        SealedInPage P t.header.context ciphertext keys bundle
  | .recovery _ _ _ tables _ _ _ keys => store.accepted = none ∧
    ∃ claim, device = claim.certificate.deviceId ∧ SealedInClaim P tables keys claim bundle
  | .historyKeys _ _ tables _ recipient _ _ keys _ =>
    device = recipient ∧ SealedInHistoryKey P tables keys bundle

/-- What a recovery seals for its device names no enrollment but its own. -/
def OwnPin : SecretCall → Prop
  | .recovery _ _ _ tables _ _ _ keys => ∀ claim bundle, SealedInClaim P tables keys claim bundle →
    ∀ pin ∈ bundle.enrollmentRecordSha256, pin = claim.canonicalRecordSha256
  | _ => True

end SecretCall

/-! ## The log in the store -/

/-- The store holds the log, and it is a log that was accepted. -/
structure LogIs (P : ControlPrimitives) (store : MembershipStore) (stored : Stored) : Prop where
  accepted : store.accepted = some ⟨stored.scope, stored.pin, stored.enrollment, stored.endpoint⟩
  rows : store.events.rows = placed stored.events 0
  authentic : Authentic P stored
  intact : Intact P stored

variable {P : ControlPrimitives} {stored : Stored} {store after : MembershipStore}
  {kept : DeviceId → Nat → PairingKeyBundle} {device : DeviceId} {keys : DeviceKeys}
  {budget : MembershipHistoryBudget} {bundle : PairingKeyBundle}

theorem Event.eq_of_row {event other : Event}
    (first : ∀ request, event.request = some request →
      verifyPairingRequest P request.request = .ok request)
    (second : ∀ request, other.request = some request →
      verifyPairingRequest P request.request = .ok request)
    (same : event.row = other.row) : event = other := by
  have requests : event.request = other.request := by
    have own := loadRequest_row first
    rw [same, loadRequest_row second] at own
    exact (Except.ok.inj own).symm
  have parts := same
  simp only [Event.row, EventRow.mk.injEq] at parts
  obtain ⟨successor, parent, _, statement, signature, _, artifact⟩ := parts
  cases event
  cases other
  simp_all

/-- The rows of a log say which log it is. -/
theorem LogIs.eq_of_loads {other : Stored} (is : LogIs P store stored)
    (loads : Loads P store budget other) : other = stored := by
  have rows : other.events.map Event.row = stored.events.map Event.row := by
    have same := congrArg (List.map Prod.snd) (loads.rows.symm.trans is.rows)
    rwa [map_snd_placed, map_snd_placed] at same
  have requests : ∀ event ∈ stored.events, ∀ request, event.request = some request →
      verifyPairingRequest P request.request = .ok request := by
    obtain ⟨_, _, verified⟩ := is.authentic
    obtain ⟨_, _, _, ran, _⟩ := verify_eq_ok.mp verified
    intro event member request found
    exact requests_of_thread ran member found
  have events : other.events = stored.events := eq_of_map_eq (fun event member again among =>
    Event.eq_of_row (loads.readable event member).request (requests again among)) rows
  have accepted := Option.some.inj (loads.accepted.symm.trans is.accepted)
  cases other
  cases stored
  simp_all

/-- The log of a store that loads, and is one that was accepted. -/
theorem LogIs.load (is : LogIs P store stored) (loaded : load P store budget = .ok (some other)) : other = stored :=
  is.eq_of_loads (load_eq_ok.mp loaded)

theorem LogIs.congr (is : LogIs P store stored) (accepted : after.accepted = store.accepted)
    (events : after.events = store.events) : LogIs P after stored :=
  ⟨accepted ▸ is.accepted, events ▸ is.rows, is.authentic, is.intact⟩

theorem LogIs.successors (is : LogIs P store stored) :
    store.events.values.map EventRow.successor = stored.events.map Event.successor := by
  rw [Table.values, is.rows, map_snd_placed, List.map_map]
  rfl

/-- Insertions refuse an event that leads to a state of the table. -/
theorem insertEvents_distinct (below : ∀ row ∈ store.events.rows, row.1 < offset)
    (distinct : (store.events.values.map EventRow.successor).Nodup)
    (ran : insertEvents store events offset = .ok after) :
    (after.events.values.map EventRow.successor).Nodup := by
  unfold insertEvents at ran
  induction events generalizing store offset with
  | nil =>
    obtain rfl := Except.ok.inj ran
    exact distinct
  | cons event events ih =>
    simp only [List.zipIdx_cons, thread, insertEvent, ok_iff] at ran
    obtain ⟨_, ⟨_, fresh, table, inserted, rfl⟩, finished⟩ := ran
    have rows := Table.rows_insert? below inserted
    refine ih (Table.rows_lt_succ below rows) ?_ finished
    · rw [Table.values, rows, List.map_append, List.map_append, List.nodup_append]
      refine ⟨distinct, List.nodup_singleton _, ?_⟩
      intro old among new member
      obtain ⟨row, found, rfl⟩ := List.mem_map.mp among
      obtain rfl := List.mem_singleton.mp member
      exact (fresh row found).1

/-- A verified log that is written into an empty vault is the log of the store. -/
theorem logIs_of_written (empty : store.events.rows = [])
    (booted : bootstrap store stored.enrollment stored.pin stored.scope stored.endpoint = .ok based)
    (inserted : insertEvents based stored.events 0 = .ok after)
    (derived : ∀ event ∈ stored.events, Event.fromEvidence P event.evidence = .ok event)
    (verified : stored.verify P budget = .ok history) :
    LogIs P after stored ∧ after.secrets = store.secrets ∧ after.enrollment = store.enrollment := by
  obtain ⟨_, _, rfl⟩ := bootstrap_ok booted
  have distinct := insertEvents_distinct (by simp [empty]) (by simp [Table.values, empty]) inserted
  obtain ⟨table, rfl, rows, _⟩ := insertEvents_ok (by simp [empty]) inserted
  dsimp only at rows
  rw [empty, List.nil_append] at rows
  refine ⟨⟨rfl, rows, ⟨budget, history, verified⟩, derived, ?_⟩, rfl, rfl⟩
  rw [Table.values, rows, map_snd_placed, List.map_map] at distinct
  exact distinct

/-! ## One call -/

/-- What a store holds between calls: no membership and no keys, or an accepted log and receipts of
the kept keys. -/
def Trusted (P : ControlPrimitives) (store : MembershipStore)
    (kept : DeviceId → Nat → PairingKeyBundle) : Prop :=
  (store.accepted = none ∧ store.events.rows = [] ∧ store.secrets.rows = []) ∨
    ∃ stored, LogIs P store stored ∧ Receipts P store stored kept

/-- The enrollment of the vault is the record that its bytes spell, as loading it makes sure. -/
def EnrollmentReads (P : ControlPrimitives) (store : MembershipStore) : Prop :=
  ∀ row, store.enrollment = some row →
    decodeRecoveryEnrollmentRecordV1 P row.canonicalRecord = .ok row.record

/-- What a successful call does: nothing that was kept is lost or changed, and what it was offered
agrees with the log and is kept. -/
structure Advances (P : ControlPrimitives) (store after : MembershipStore)
    (kept keptAfter : DeviceId → Nat → PairingKeyBundle)
    (offers : DeviceId → PairingKeyBundle → Prop) : Prop where
  trusted : Trusted P after keptAfter
  reads : EnrollmentReads P after
  same : ∀ device epoch, Held store device epoch false → keptAfter device epoch = kept device epoch
  persists : ∀ device epoch independent row, receipt? store device epoch independent = some row →
    receipt? after device epoch independent = some row
  honoured : ∀ device bundle, offers device bundle → ∃ stored, LogIs P after stored ∧
    Agrees P stored bundle ∧ Held after device bundle.keyEpoch false ∧
    keptAfter device bundle.keyEpoch = bundle.pinnedTo stored.pin

section

variable {offers : DeviceId → PairingKeyBundle → Prop} {disposition : CommitDisposition}
  {parentEvents : List MembershipHistoryEvent}

theorem advances_of_honours (is : LogIs P store stored) (reads : EnrollmentReads P store)
    (honours : Honours P stored store after kept offers) :
    ∃ keptAfter, Advances P store after kept keptAfter offers := by
  obtain ⟨keptAfter, offered, retains, all⟩ := honours
  have isAfter := is.congr retains.accepted retains.events
  refine ⟨keptAfter, .inr ⟨stored, isAfter, retains.receipts⟩, ?_, retains.same, retains.persists, ?_⟩
  · intro row found
    exact reads row (retains.enrollment ▸ found)
  · intro device bundle offer
    obtain ⟨agrees, member⟩ := all device bundle offer
    obtain ⟨held, same⟩ := retains.retained _ member
    exact ⟨stored, isAfter, agrees, held, same⟩

/-- A call that touches neither the log nor the keys. -/
theorem advances_of_unchanged (trusted : Trusted P store kept) (reads : EnrollmentReads P after)
    (accepted : after.accepted = store.accepted) (events : after.events = store.events)
    (secrets : after.secrets = store.secrets) (nothing : ∀ device bundle, ¬ offers device bundle) :
    Advances P store after kept kept offers where
  trusted := by
    rcases trusted with ⟨vacant, empty, none⟩ | ⟨stored, is, receipts⟩
    · exact .inl ⟨accepted.trans vacant, events ▸ empty, secrets ▸ none⟩
    · refine .inr ⟨stored, is.congr accepted events, ?_⟩
      intro device epoch independent row found
      rw [receipt?, secrets] at found
      exact receipts device epoch independent row found
  reads := reads
  same _ _ _ := rfl
  persists device epoch independent row found := by
    rw [receipt?, secrets]
    exact found
  honoured device bundle offer := absurd offer (nothing device bundle)

theorem receipt?_of_empty (empty : store.secrets.rows = []) (device : DeviceId) (epoch : Nat)
    (independent : Bool) : receipt? store device epoch independent = none := by
  rw [receipt?, Table.find?, empty]
  rfl

/-- A call that establishes the log in an empty vault, and keeps keys. -/
theorem advances_of_established (empty : store.secrets.rows = [])
    (reads : EnrollmentReads P store) (is : LogIs P based stored)
    (secrets : based.secrets = store.secrets) (enrollment : based.enrollment = store.enrollment)
    (honours : Receipts P based stored kept → Honours P stored based after kept offers) :
    ∃ keptAfter, Advances P store after kept keptAfter offers := by
  have missing : ∀ device epoch independent row,
      receipt? store device epoch independent ≠ some row := by
    intro device epoch independent row found
    rw [receipt?_of_empty empty] at found
    cases found
  have receipts : Receipts P based stored kept := by
    intro device epoch independent row found
    rw [receipt?, secrets] at found
    exact absurd found (missing device epoch independent row)
  obtain ⟨keptAfter, advances⟩ := advances_of_honours is (fun row found =>
    reads row (enrollment ▸ found)) (honours receipts)
  refine ⟨keptAfter, { advances with same := ?_, persists := ?_ }⟩
  · rintro device epoch ⟨independent, row, found, _⟩
    exact absurd found (missing device epoch independent row)
  · intro device epoch independent row found
    exact absurd found (missing device epoch independent row)

theorem extension_advances (trusted : Trusted P store kept) (reads : EnrollmentReads P store)
    (ran : acceptMembershipExtension P store expected successor events budget = .ok (disposition, after)) :
    Advances P store after kept kept fun _ _ => False := by
  obtain ⟨other, loads, ⟨history, verified⟩, decided⟩ := acceptMembershipExtension_ok ran
  rcases decided with ⟨_, rfl, _⟩ | ⟨_, added, appended⟩
  · exact advances_of_unchanged trusted reads rfl rfl rfl fun _ _ => id
  · rcases trusted with ⟨vacant, _⟩ | ⟨stored, is, receipts⟩
    · rw [loads.accepted] at vacant
      cases vacant
    obtain rfl := is.eq_of_loads loads
    have distinct : (after.events.values.map EventRow.successor).Nodup := by
      have before := is.intact.distinct
      rw [← is.successors] at before
      simp only [acceptMembershipExtension, load_eq_ok.mpr loads, ok_bind, present_some, verified,
        bind_eq_ok, exists_unit, if_neg appended.different] at ran
      obtain ⟨_, again, collected, _, _, _, _, inserted, insertion, swapped, swap, same⟩ := ran
      obtain ⟨_, rfl⟩ := Prod.mk.inj (Except.ok.inj same)
      have kept := insertEvents_distinct (by
        intro row member
        rw [loads.rows] at member
        simpa using lt_of_mem_placed member) before insertion
      simp only [swapEndpoint, bind_eq_ok, exists_unit, pure_eq_ok, Except.ok.injEq] at swap
      obtain ⟨_, _, _, _, rfl⟩ := swap
      exact kept
    obtain ⟨table, rows, same⟩ := appended.after
    have authentic : Authentic P (other.extended added successor) := by
      obtain ⟨extended, extendedVerified⟩ := appended.verified
      exact ⟨budget, extended, extendedVerified⟩
    have rowsAfter : after.events.rows = placed (other.extended added successor).events 0 := by
      rw [same, rows, loads.rows, Stored.extended, placed_append, Nat.zero_add]
    rw [Table.values, rowsAfter, map_snd_placed, List.map_map] at distinct
    have isAfter : LogIs P after (other.extended added successor) :=
      ⟨by rw [same]; rfl, rowsAfter, authentic,
        fun event member => ((appended.events loads).1 event member).1, distinct⟩
    have secrets : after.secrets = store.secrets := by rw [same]
    have receiptsAfter : Receipts P after (other.extended added successor) kept := by
      intro device epoch independent row found
      rw [receipt?, secrets] at found
      exact receipts.extended authentic device epoch independent row found
    exact {
      trusted := .inr ⟨_, isAfter, receiptsAfter⟩
      reads := by
        intro row found
        rw [same] at found
        exact reads row found
      same := fun _ _ _ => rfl
      persists := by
        intro device epoch independent row found
        rw [receipt?, secrets]
        exact found
      honoured := fun _ _ => False.elim }

/-- The enrollment establishes its own log, and keeps the keys it sealed for its device. -/
theorem establishEnrollment_advances (sealing : Sealing P) (reads : EnrollmentReads P store)
    (found : store.enrollment = some row) (noEvents : store.events.rows = [])
    (empty : store.secrets.rows = [])
    (opens : openDeviceWorkspaceMaterial P row.record row.deviceMaterialEnvelope row.genesisDevice keys = .ok opened)
    (ran : establishEnrollment P draw store row opened keys = .ok after) :
    ∃ keptAfter, Advances P store after kept keptAfter fun device bundle =>
      SealedInEnrollment P row device keys bundle := by
  simp only [establishEnrollment, ok_iff] at ran
  obtain ⟨anchor, _, based, booted, _, loaded, stored, rfl, history, verified, written, retained,
    rfl⟩ := ran
  obtain ⟨vacant, _, rfl⟩ := bootstrap_ok booted
  have loads := load_eq_ok.mp loaded
  have events : stored.events = [] := by
    have rows := loads.rows
    dsimp only at rows
    rw [noEvents] at rows
    have length := congrArg List.length rows
    rw [length_placed] at length
    exact List.length_eq_zero_iff.mp length.symm
  have authentic : Authentic P stored := ⟨_, history, verified⟩
  have is : LogIs P _ stored := ⟨loads.accepted, loads.rows, authentic,
    fun event member => (loads.readable event member).derived, by simp [events]⟩
  obtain ⟨⟨_, signing, wrapping⟩, plaintext, unwrapped, decoded⟩ :=
    openDeviceWorkspaceMaterial_ok opens
  have enrollment : stored.enrollment = row.canonicalRecord := by
    have same := loads.accepted
    simp only [Option.some.injEq, AcceptedRow.mk.injEq] at same
    exact same.2.2.1.symm
  have own : OwnKeys P stored row.genesisDevice keys :=
    ⟨_, wasAdmitted_genesis authentic (enrollment ▸ reads row found), signing.symm, wrapping.symm⟩
  refine advances_of_established empty reads is rfl rfl ?_
  intro receipts
  obtain ⟨agrees, _, keptAfter, retains⟩ :=
    retainEnrollment_retains sealing receipts authentic own retained
  refine ⟨keptAfter, _, ⟨retains.accepted, retains.events, retains.enrollment, retains.receipts,
    retains.same, retains.persists, retains.added, retains.retained⟩, ?_⟩
  rintro device bundle ⟨rfl, plaintext', unwrapped', decoded'⟩
  obtain rfl := Except.ok.inj (unwrapped.symm.trans unwrapped')
  obtain rfl := Except.ok.inj (decoded.symm.trans decoded')
  exact ⟨agrees, List.mem_singleton_self _⟩

theorem enrollment_advances (sealing : Sealing P) (trusted : Trusted P store kept)
    (reads : EnrollmentReads P store)
    (ran : activateRecoveryEnrollment P draw vacant store keys = .ok after) :
    ∃ keptAfter, Advances P store after kept keptAfter fun device bundle =>
      vacant = true ∧ store.accepted = none ∧ ∃ row, store.enrollment = some row ∧
        row.active = false ∧ SealedInEnrollment P row device keys bundle := by
  simp only [activateRecoveryEnrollment, ok_iff] at ran
  obtain ⟨row, found, opened, opens, ran⟩ := ran
  have activated : ∀ {other : MembershipStore}, other.enrollment = some { row with active := true } →
      EnrollmentReads P other := by
    intro other same active foundActive
    obtain rfl := Option.some.inj (same.symm.trans foundActive)
    exact reads row found
  split at ran
  · rename_i active
    obtain rfl := Except.ok.inj ran
    refine ⟨kept, advances_of_unchanged trusted reads rfl rfl rfl ?_⟩
    rintro device bundle ⟨_, _, other, foundOther, inactive, _⟩
    obtain rfl := Option.some.inj (found.symm.trans foundOther)
    rw [active] at inactive
    cases inactive
  · simp only [ok_iff] at ran
    obtain ⟨_, ran⟩ := ran
    split at ran
    · rename_i fresh
      simp only [ok_iff] at ran
      obtain ⟨written, established, rfl⟩ := ran
      have empty : store.secrets.rows = [] := by
        rcases trusted with ⟨_, _, empty⟩ | ⟨stored, is, _⟩
        · exact empty
        · have accepted := is.accepted
          rw [fresh.2.1] at accepted
          cases accepted
      obtain ⟨keptAfter, advances⟩ :=
        establishEnrollment_advances sealing reads found fresh.2.2 empty opens established
      refine ⟨keptAfter, ?_, activated rfl, advances.same, advances.persists, ?_⟩
      · rcases advances.trusted with vacant | ⟨stored, is, receipts⟩
        · exact .inl vacant
        · exact .inr ⟨stored, is.congr rfl rfl, receipts⟩
      · rintro device bundle ⟨_, _, other, foundOther, _, isSealed⟩
        obtain rfl := Option.some.inj (found.symm.trans foundOther)
        obtain ⟨stored, is, rest⟩ := advances.honoured device bundle isSealed
        exact ⟨stored, is.congr rfl rfl, rest⟩
    · rename_i notFresh
      obtain rfl := Except.ok.inj ran
      refine ⟨kept, advances_of_unchanged trusted (activated rfl) rfl rfl rfl ?_⟩
      rintro device bundle ⟨isVacant, unset, _⟩
      rcases trusted with ⟨_, noEvents, _⟩ | ⟨stored, is, _⟩
      · exact notFresh ⟨isVacant, unset, noEvents⟩
      · have accepted := is.accepted
        rw [unset] at accepted
        cases accepted

/-- The keys of an admission are kept with the receipt of its transcript. -/
theorem retainAdmission_honours (sealing : Sealing P)
    (prepared : prepareAdmission P enrollment parentEvents confirmed request signature keys other = .ok (stored, bundle))
    (receipts : Receipts P store stored kept) (authentic : Authentic P stored)
    (ran : retainAdmission P draw store stored confirmed bundle keys budget = .ok after) :
    Honours P stored store after kept fun device bundle =>
      device = confirmed.payload.grant.certificate.deviceId ∧ SealedInGrant P confirmed keys bundle := by
  obtain ⟨agrees, pinned, ⟨plaintext, unwrapped, decoded⟩, own⟩ := prepareAdmission_agrees prepared
  have belongs := agrees.belongs (decodePairingKeyBundle_valid decoded) authentic.pin_ne_zero
  rw [← pinned] at belongs
  have honours : ∃ keptAfter, Retains P stored store after kept keptAfter
      ([bundle].map fun bundle => (confirmed.payload.grant.certificate.deviceId, bundle)) := by
    simp only [retainAdmission] at ran
    split at ran
    · simp only [ok_iff] at ran
      obtain ⟨_, _, _, rfl, retained⟩ := ran
      exact retain_retains sealing receipts authentic belongs own retained
    · simp only [ok_iff] at ran
      obtain ⟨_, rfl, retained⟩ := ran
      have same : Receipts P { store with
          confirmedAdmissions := store.confirmedAdmissions.upsert
            confirmed.payload.grant.certificate.deviceId
            ⟨stored.endpoint.stateSha256, P.sha256 confirmed.canonicalBytes, P.sign keys
              (admissionPreimage stored confirmed.payload.grant.certificate.deviceId
                stored.endpoint.stateSha256 (P.sha256 confirmed.canonicalBytes))⟩ } stored kept :=
        receipts
      obtain ⟨keptAfter, retains⟩ := retain_retains sealing same authentic belongs own retained
      exact ⟨keptAfter, retains.accepted, retains.events, retains.enrollment, retains.receipts,
        retains.same, retains.persists, retains.added, retains.retained⟩
  obtain ⟨keptAfter, retains⟩ := honours
  refine retains.honours_pinned ?_ ?_
  · intro other member
    obtain rfl := List.mem_singleton.mp member
    exact ⟨agrees, pinned⟩
  · rintro other ⟨plaintext', unwrapped', decoded'⟩
    obtain rfl := Except.ok.inj (unwrapped.symm.trans unwrapped')
    obtain rfl := Except.ok.inj (decoded.symm.trans decoded')
    exact List.mem_singleton_self _

/-- Without an accepted row there is nothing else. -/
theorem Trusted.of_load_none (trusted : Trusted P store kept)
    (loaded : load P store budget = .ok none) :
    store.events.rows = [] ∧ store.secrets.rows = [] := by
  rcases trusted with ⟨_, noEvents, empty⟩ | ⟨stored, is, _⟩
  · exact ⟨noEvents, empty⟩
  · simp only [load, is.accepted, ok_iff, reduceCtorEq, and_false, exists_false] at loaded

theorem Trusted.of_load_some (trusted : Trusted P store kept)
    (loaded : load P store budget = .ok (some stored)) :
    LogIs P store stored ∧ Receipts P store stored kept := by
  have loads := load_eq_ok.mp loaded
  rcases trusted with ⟨vacant, _⟩ | ⟨other, is, receipts⟩
  · rw [loads.accepted] at vacant
    cases vacant
  · obtain rfl := is.eq_of_loads loads
    exact ⟨is, receipts⟩

section

variable (sealing : Sealing P) (trusted : Trusted P store kept)

include sealing trusted

theorem admission_advances (reads : EnrollmentReads P store)
    (ran : acceptConfirmedMembershipAdmission P setting draw store enrollment parentEvents confirmed request signature keys budget = .ok (disposition, after)) :
    ∃ keptAfter, Advances P store after kept keptAfter fun device bundle =>
      device = confirmed.payload.grant.certificate.deviceId ∧ SealedInGrant P confirmed keys bundle := by
  simp only [acceptConfirmedMembershipAdmission, ok_iff, Prod.exists] at ran
  obtain ⟨stored, bundle, prepared, _, loaded, found, decided⟩ := ran
  obtain ⟨sameEnrollment, _, derived, history, verified⟩ := prepareAdmission_ok prepared
  have authentic : Authentic P stored := ⟨budget, history, verified⟩
  cases loaded with
  | some existing =>
    simp only [ok_iff, Prod.mk.injEq] at decided
    obtain ⟨_, _, same, written, retained, _, rfl⟩ := decided
    obtain rfl : existing = stored := by
      cases existing
      cases stored
      simpa using same
    obtain ⟨is, receipts⟩ := trusted.of_load_some found
    exact advances_of_honours is reads
      (retainAdmission_honours sealing prepared receipts authentic retained)
  | none =>
    simp only [ok_iff, Prod.mk.injEq] at decided
    obtain ⟨_, _, begun, booted, inserted, insertion, written, retained, _, rfl⟩ := decided
    obtain ⟨noEvents, empty⟩ := trusted.of_load_none found
    rw [← sameEnrollment] at booted
    obtain ⟨is, secrets, sameRow⟩ := logIs_of_written noEvents booted insertion derived verified
    exact advances_of_established empty reads is secrets sameRow fun receipts =>
      retainAdmission_honours sealing prepared receipts authentic retained

theorem recovery_advances {pristine : Except VaultError Unit}
    {tables tablesAfter : RecoveryTables} {ack : RecoveryRestoreReceipt}
    {projection : RecoveryRestoreProjection} {published : MembershipHistoryEvent}
    (reads : EnrollmentReads P store)
    (ownPin : ∀ claim bundle, SealedInClaim P tables keys claim bundle → ∀ pin ∈ bundle.enrollmentRecordSha256, pin = claim.canonicalRecordSha256)
    (ran : acceptRecoveryMembership P format pristine draw tables store ack projection published keys = .ok (disposition, tablesAfter, after)) :
    ∃ keptAfter, Advances P store after kept keptAfter fun device bundle => store.accepted = none ∧
      ∃ claim, device = claim.certificate.deviceId ∧ SealedInClaim P tables keys claim bundle := by
  simp only [acceptRecoveryMembership, ok_iff] at ran
  obtain ⟨_, loadedPrepared, prepared, rfl, _, _, _, _, _, endpoint, ended, saved, _, loaded, found,
    decided⟩ := ran
  cases loaded with
  | some existing =>
    simp only [ok_iff, Prod.mk.injEq] at decided
    obtain ⟨_, _, _, _, _, _, _, rfl⟩ := decided
    refine ⟨kept, advances_of_unchanged trusted reads rfl rfl rfl ?_⟩
    rintro device bundle ⟨unset, _⟩
    have accepted := (load_eq_ok.mp found).accepted
    rw [unset] at accepted
    cases accepted
  | none =>
    simp only [ok_iff, Prod.mk.injEq] at decided
    obtain ⟨_, _, stored, made, history, verified, root, _, bundle, opened, begun, booted, inserted,
      insertion, written, retained, _, _, _, rfl⟩ := decided
    obtain ⟨noEvents, empty⟩ := trusted.of_load_none found
    have from_ := loadPreparedRecovery_ok loadedPrepared
    obtain ⟨material, isSealed, valid, agrees, rfl, own⟩ :=
      recovered_agrees from_ made verified opened (ownPin prepared.claim)
    have authentic : Authentic P stored := ⟨_, history, verified⟩
    have derived : ∀ event ∈ stored.events, Event.fromEvidence P event.evidence = .ok event := by
      simp only [preparedLog, ok_iff] at made
      obtain ⟨events, collected, rfl⟩ := made
      exact (collect_fromEvidence collected).2
    have endpointSame : stored.endpoint = endpoint := by
      simp only [preparedLog, ok_iff] at made
      obtain ⟨events, collected, rfl⟩ := made
      rfl
    rw [← endpointSame] at booted
    obtain ⟨is, secrets, sameRow⟩ := logIs_of_written noEvents booted insertion derived verified
    refine advances_of_established empty reads is secrets sameRow fun receipts => ?_
    obtain ⟨keptAfter, retains⟩ := retain_retains sealing receipts authentic
      (agrees.belongs valid authentic.pin_ne_zero) own retained
    refine ⟨keptAfter, _, retains, ?_⟩
    rintro device bundle ⟨_, claim, rfl, again⟩
    obtain ⟨rfl, rfl⟩ := isSealed.unique again
    exact ⟨agrees, List.mem_singleton_self _⟩

/-- What every call does that succeeds. -/
theorem call_advances {call : SecretCall} (reads : EnrollmentReads P store) (ownPin : call.OwnPin P)
    (ran : call.attempt P store = .ok after) :
    (∃ keptAfter, Advances P store after kept keptAfter fun device bundle =>
        call.Offers P store device bundle) ∧
      ∀ named, call.names = some named → store.accepted.map AcceptedRow.endpoint = some named := by
  -- A call that names no endpoint.
  have unnamed (named : MembershipEndpoint) (same : none = some named) :
      store.accepted.map AcceptedRow.endpoint = some named :=
    absurd same.symm (Option.some_ne_none _)
  cases call with
  | extension expected successor events budget =>
    simp only [SecretCall.attempt, ok_iff, Prod.exists] at ran
    obtain ⟨_, _, ran, rfl⟩ := ran
    exact ⟨⟨kept, extension_advances trusted reads ran⟩, unnamed⟩
  | enrollment draw vacant keys =>
    exact ⟨enrollment_advances sealing trusted reads ran, unnamed⟩
  | admission setting draw record parentEvents confirmed request signature keys budget =>
    simp only [SecretCall.attempt, ok_iff, Prod.exists] at ran
    obtain ⟨_, _, ran, rfl⟩ := ran
    exact ⟨admission_advances sealing trusted reads ran, unnamed⟩
  | rotation draw expected device keys budget =>
    obtain ⟨stored, loaded, ended, honours⟩ :=
      stageCurrentMembershipMaterial_honours sealing ran
    obtain ⟨is, receipts⟩ := trusted.of_load_some loaded
    refine ⟨advances_of_honours is reads ((honours kept receipts).weaken ?_), ?_⟩
    · rintro recipient bundle ⟨rfl, other, loadedAgain, offers⟩
      obtain rfl := Option.some.inj (Except.ok.inj (loaded.symm.trans loadedAgain))
      exact ⟨rfl, offers⟩
    · rintro named same
      rw [is.accepted, Option.map_some, ended]
      exact same
  | page draw tables selected confirmed signature expectedPage ciphertext keys budget =>
    simp only [SecretCall.attempt, ok_iff, Prod.exists] at ran
    obtain ⟨_, _, _, ran, rfl⟩ := ran
    obtain ⟨stored, loaded, ended, honours⟩ :=
      commitHistoricalTransferPage_honours sealing ran
    obtain ⟨is, receipts⟩ := trusted.of_load_some loaded
    refine ⟨advances_of_honours is reads (honours kept receipts), ?_⟩
    rintro named same
    rw [is.accepted, Option.map_some, ended]
    exact same
  | recovery format pristine draw tables ack projection published keys =>
    simp only [SecretCall.attempt, ok_iff, Prod.exists] at ran
    obtain ⟨_, _, _, ran, rfl⟩ := ran
    exact ⟨recovery_advances sealing trusted reads ownPin ran, unnamed⟩
  | historyKeys format draw tables expected recipient claimSha256 successor keys budget =>
    simp only [SecretCall.attempt, ok_iff] at ran
    obtain ⟨_, loaded, stored, rfl, history, checked, ran⟩ := ran
    obtain ⟨is, receipts⟩ := trusted.of_load_some loaded
    obtain ⟨_, ended, own⟩ := ownKeys_of_endpointCheck checked
    refine ⟨advances_of_honours is reads
      (retainHistoryKeys_honours sealing receipts is.authentic own ran), ?_⟩
    rintro named same
    rw [is.accepted, Option.map_some, ended]
    exact same

/-! ## Runs -/

/-- The store after some calls. -/
def afterSecretCalls (P : ControlPrimitives) (store : MembershipStore) (calls : List SecretCall) :
    MembershipStore :=
  calls.foldl (SecretCall.after P) store

/-- Every recovery of a run that succeeds names its own enrollment. -/
def OwnPins (P : ControlPrimitives) : MembershipStore → List SecretCall → Prop
  | _, [] => True
  | store, call :: calls => (∀ written, call.attempt P store = .ok written → call.OwnPin P) ∧
      OwnPins P (call.after P store) calls

omit sealing trusted in
theorem ownPins_append {store : MembershipStore} {calls more : List SecretCall} :
    OwnPins P store (calls ++ more) ↔
      OwnPins P store calls ∧ OwnPins P (afterSecretCalls P store calls) more := by
  induction calls generalizing store with
  | nil => simp [OwnPins, afterSecretCalls]
  | cons call calls ih =>
    simp only [List.cons_append, OwnPins, ih, and_assoc]
    rfl

/-- The store's own log is loaded, and the keys of the epoch with it. -/
def Returns (P : ControlPrimitives) (store : MembershipStore) (device : DeviceId) (epoch : Nat)
    (bundle : PairingKeyBundle) : Prop :=
  ∃ stored independentOnly keys budget, load P store budget = .ok (some stored) ∧
    loadSecret P store stored device epoch independentOnly keys budget = .ok (some bundle)

/-- What is known of two points of a run, the later one after the earlier one. -/
structure SecretsStable (P : ControlPrimitives) (earlier later : MembershipStore) : Prop where
  receipts : ∀ device epoch independent row, receipt? earlier device epoch independent = some row →
    receipt? later device epoch independent = some row
  unique : ∀ device epoch bundle other, Returns P earlier device epoch bundle →
    Returns P later device epoch other → other = bundle
  /-- The device that keys were returned for gets them again while it is a member, if no two hashes
  of the log collide. -/
  returned : ∀ device epoch bundle, Returns P earlier device epoch bundle →
    ∀ stored expected keys budget history, load P later budget = .ok (some stored) →
      endpointCheck P stored expected device keys budget = .ok history →
      CollisionFree P (hashed P stored.enrollment stored.pin stored.log) →
      loadSecret P later stored device epoch false keys budget = .ok (some bundle)
  committed : ∀ device epoch bundle, Returns P later device epoch bundle → 2 ≤ epoch →
    ∃ stored, LogIs P later stored ∧ ∃ commitment ∈ stored.commitments P,
      commitment.keyEpoch = epoch ∧ commitment.controlEpoch = bundle.controlEpoch ∧
      (P.sha256 (encodePairingKeyBundle bundle) = commitment.keyMaterialSha256 ∨
        P.sha256 (encodePairingKeyBundle { bundle with enrollmentRecordSha256 := none }) =
          commitment.keyMaterialSha256)

/-- What one call does: it fails and leaves the store as it was, or its endpoint is that of the log,
and the keys that it brings are those of an epoch of the log and of every receipt of it. -/
structure CallSound (P : ControlPrimitives) (store : MembershipStore) (call : SecretCall) : Prop where
  failed : ∀ error, call.attempt P store = .error error → call.after P store = store
  named : ∀ written named, call.attempt P store = .ok written → call.names = some named →
    store.accepted.map AcceptedRow.endpoint = some named
  offered : ∀ written device bundle, call.attempt P store = .ok written →
    call.Offers P store device bundle → ∃ stored, LogIs P written stored ∧ Agrees P stored bundle ∧
      Held written device bundle.keyEpoch false ∧
      ∀ loaded, Returns P store device bundle.keyEpoch loaded ∨
        Returns P written device bundle.keyEpoch loaded → loaded = bundle.pinnedTo stored.pin
  sources : ∀ written, call.attempt P store = .ok written → ∀ device epoch independent row,
    receipt? written device epoch independent = some row →
    ∃ stored, LogIs P written stored ∧ OnLog P stored row.source

theorem Trusted.returns (returned : Returns P store device epoch bundle) :
    bundle = kept device epoch ∧ Held store device epoch false := by
  obtain ⟨stored, independentOnly, keys, budget, loaded, found⟩ := returned
  obtain ⟨_, receipts⟩ := trusted.of_load_some loaded
  obtain ⟨same, independent, row, present, _⟩ := loadSecret_sound sealing receipts found
  exact ⟨same, independent, row, present, by simp⟩

theorem after_advances {call : SecretCall} (reads : EnrollmentReads P store)
    (ownPin : ∀ written, call.attempt P store = .ok written → call.OwnPin P) :
    ∃ keptAfter, Advances P store (call.after P store) kept keptAfter fun _ _ => False := by
  rw [SecretCall.after]
  split
  · rename_i written ran
    obtain ⟨⟨keptAfter, advances⟩, _⟩ := call_advances sealing trusted reads (ownPin _ ran) ran
    exact ⟨keptAfter, advances.trusted, advances.reads, advances.same, advances.persists,
      fun _ _ => False.elim⟩
  · exact ⟨kept, advances_of_unchanged trusted reads rfl rfl rfl fun _ _ => id⟩

/-- A run keeps what was kept before it. -/
theorem run_advances {calls : List SecretCall} (reads : EnrollmentReads P store)
    (ownPins : OwnPins P store calls) :
    ∃ keptAfter, Advances P store (afterSecretCalls P store calls) kept keptAfter
      fun _ _ => False := by
  induction calls generalizing store kept with
  | nil => exact ⟨kept, advances_of_unchanged trusted reads rfl rfl rfl fun _ _ => id⟩
  | cons call rest ih =>
    obtain ⟨keptMiddle, first⟩ := after_advances sealing trusted reads ownPins.1
    obtain ⟨keptAfter, later⟩ := ih first.trusted first.reads ownPins.2
    refine ⟨keptAfter, later.trusted, later.reads, ?_, ?_, fun _ _ => False.elim⟩
    · intro device epoch held
      exact (later.same _ _ (held.persists first.persists)).trans (first.same _ _ held)
    · intro device epoch independent row found
      exact later.persists _ _ _ _ (first.persists _ _ _ _ found)

theorem callSound_of_trusted {call : SecretCall} (reads : EnrollmentReads P store)
    (ownPin : ∀ written, call.attempt P store = .ok written → call.OwnPin P) :
    CallSound P store call where
  failed error failed := by rw [SecretCall.after, failed]
  named written named ran same :=
    (call_advances sealing trusted reads (ownPin _ ran) ran).2 named same
  offered := by
    intro written device bundle ran offers
    obtain ⟨⟨keptAfter, advances⟩, _⟩ := call_advances sealing trusted reads (ownPin _ ran) ran
    obtain ⟨stored, is, agrees, held, same⟩ := advances.honoured device bundle offers
    refine ⟨stored, is, agrees, held, ?_⟩
    rintro loaded (before | now)
    · obtain ⟨rfl, heldBefore⟩ := trusted.returns sealing before
      rw [← same, advances.same _ _ heldBefore]
    · obtain ⟨rfl, _⟩ := advances.trusted.returns sealing now
      exact same
  sources := by
    intro written ran device epoch independent row found
    obtain ⟨⟨keptAfter, advances⟩, _⟩ := call_advances sealing trusted reads (ownPin _ ran) ran
    rcases advances.trusted with ⟨_, _, empty⟩ | ⟨stored, is, receipts⟩
    · rw [receipt?_of_empty empty] at found
      cases found
    · exact ⟨stored, is, (receipts _ _ _ _ found).source⟩

theorem stable_of_advances (advances : Advances P store later kept keptAfter offers) :
    SecretsStable P store later where
  receipts := advances.persists
  unique := by
    intro device epoch bundle other before now
    obtain ⟨rfl, held⟩ := trusted.returns sealing before
    obtain ⟨rfl, _⟩ := advances.trusted.returns sealing now
    exact advances.same device epoch held
  returned := by
    intro device epoch bundle before stored expected keys budget history loaded checked collisionFree
    obtain ⟨rfl, held⟩ := trusted.returns sealing before
    obtain ⟨is, receipts⟩ := advances.trusted.of_load_some loaded
    obtain ⟨verified, _, own⟩ := ownKeys_of_endpointCheck checked
    rw [← advances.same device epoch held]
    exact loadSecret_complete sealing receipts is.intact collisionFree verified own
      (held.persists advances.persists)
  committed := by
    intro device epoch bundle now rotated
    obtain ⟨rfl, independent, row, present, _⟩ := advances.trusted.returns sealing now
    rcases advances.trusted with ⟨_, _, empty⟩ | ⟨stored, is, receipts⟩
    · rw [receipt?_of_empty empty] at present
      cases present
    · have receipt := receipts _ _ _ _ present
      have committed := receipt.belongs.committed
      rw [receipt.keyEpoch, Committed, if_neg (by omega)] at committed
      exact ⟨stored, is, committed⟩

end

end

/-- Some keys, for what was never kept. -/
instance : Inhabited PairingKeyBundle :=
  ⟨⟨Sample.id 0 0, Sample.id 0 0, 1, 1, .zero, .zero, none⟩⟩

/-- In a run from a new vault in which no recovery that succeeds seals keys that name another
enrollment: the keys of a device and an epoch that are ever loaded are always the same, receipts
stay, the keys of later epochs are those that the log commits to, and a call that brings keys, a
scope or an endpoint that contradict the log or a receipt fails and changes nothing. -/
theorem retained_secrets_stable (sealing : Sealing P) {start : MembershipStore}
    (fresh : start.accepted = none ∧ start.events.rows = [] ∧ start.secrets.rows = [])
    (reads : EnrollmentReads P start) (done more : List SecretCall)
    (ownPins : OwnPins P start (done ++ more)) :
    SecretsStable P (afterSecretCalls P start done)
        (afterSecretCalls P (afterSecretCalls P start done) more) ∧
      ∀ call : SecretCall, (∀ written, call.attempt P
          (afterSecretCalls P (afterSecretCalls P start done) more) = .ok written → call.OwnPin P) →
        CallSound P (afterSecretCalls P (afterSecretCalls P start done) more) call := by
  have trusted : Trusted P start default := .inl fresh
  obtain ⟨donePins, morePins⟩ := ownPins_append.mp ownPins
  obtain ⟨keptDone, first⟩ := run_advances sealing trusted reads donePins
  obtain ⟨keptMore, second⟩ := run_advances sealing first.trusted first.reads morePins
  exact ⟨stable_of_advances sealing first.trusted second, fun call ownPin =>
    callSound_of_trusted sealing second.trusted second.reads ownPin⟩

namespace Sample

theorem primitives_sealing : Sealing primitives :=
  { primitives_honest with
    faithful := by
      intro draw key plaintext aad envelope keys other opened wrapped unwrapped
      rw [← Except.ok.inj wrapped] at unwrapped
      exact (Except.ok.inj unwrapped).symm }

/-- A new vault. -/
def vault : MembershipStore where
  accepted := none
  events := .empty
  secrets := .empty
  confirmedAdmissions := .empty
  activation := none
  genesisAnchor := false
  enrollment := none
  rootMaterialSeeds := []

theorem vault_fresh :
    vault.accepted = none ∧ vault.events.rows = [] ∧ vault.secrets.rows = [] := ⟨rfl, rfl, rfl⟩

/-- What the recovery of a device acknowledges. -/
def receiptFor (digest : Bytes → Sha256Digest) (claim : RecoveryDeviceClaimV2) :
    RecoveryRestoreReceipt where
  restoreId := claim.restoreId
  enrollmentId := record.enrollmentId
  recoveryRootId := record.recoveryRootId
  accountId := scope.accountId
  workspaceId := scope.workspaceId
  certificateId := claim.certificateId
  canonicalRecordSha256 := claim.canonicalRecordSha256
  canonicalClaimSha256 := digest (encodeClaimMap claim true)
  acceptedGeneration := 1
  acceptedAtMs := 0

def tablesFor (claim : RecoveryDeviceClaimV2) (parents : Table Nat MembershipHistoryEvent) :
    RecoveryTables where
  prepared := some ⟨enrollment, encodeClaimMap claim true, [], ⟨.zero⟩⟩
  parentObjects := parents
  historyKeys := .empty
  supplementalKeys := .empty
  conflict := none
  admission := none
  hostedIntent := []
  restoring := false

def recoveryOf (digest : Bytes → Sha256Digest) (claim : RecoveryDeviceClaimV2)
    (tables : RecoveryTables) : SecretCall :=
  .recovery ⟨fun _ => [0], fun _ => [0]⟩ (.ok ()) 0 tables (receiptFor digest claim)
    ⟨encodeClaimMap claim true, receiptFor digest claim⟩
    (.recoveryAdd (encodeClaimMap claim true)) transferKeys

/-! A device joins by recovery, revokes the first one, and stages the rotated keys. -/

/-- Keys of an epoch, which name the enrollment, in an envelope. -/
def ownEnvelope (epoch : Nat) : WrappedKeyEnvelope :=
  { envelope with ciphertext := encodePairingKeyBundle (pastBundle epoch) }

def ownClaim : RecoveryDeviceClaimV2 :=
  { claim start.state.stateSha256 0 with deviceMaterialEnvelope := ownEnvelope 1 }

def ownTransition (previous : Sha256Digest) : RevocationTransitionV1 :=
  { transition previous with
    keyMaterialSha256 := lengthDigest (encodePairingKeyBundle (pastBundle 2))
    devices := [⟨ownClaim.certificate, ownEnvelope 2⟩] }

def ownStatement (previous : Sha256Digest) : DeviceRevocationStatementV1 :=
  { revocationStatement previous with
    issuerDeviceId := ownClaim.certificate.deviceId
    targetDeviceId := firstDevice
    transitionSha256 := lengthDigest (ownTransition previous).write }

def joinedEndpoint : MembershipEndpoint := ⟨⟨.ofNat 791⟩, 1, 1⟩
def rotatedEndpoint : MembershipEndpoint := ⟨⟨.ofNat 304⟩, 2, 2⟩

def ownRecovery : SecretCall := recoveryOf lengthDigest ownClaim (tablesFor ownClaim .empty)

def ownExtension : SecretCall :=
  let statement := ownStatement joinedEndpoint.stateSha256
  .extension joinedEndpoint rotatedEndpoint
    [.revocation (statement.writeContext ++ statement.transitionSha256.bytes) ⟨.zero⟩
      (ownTransition joinedEndpoint.stateSha256).write] currentBudget

def ownRotation : SecretCall :=
  .rotation (fun _ => 0) rotatedEndpoint ownClaim.certificate.deviceId transferKeys currentBudget

/-- The three calls, with the keys that the first and the last of them keep. -/
def ownOutcome : Except VaultError (MembershipStore × MembershipStore) := do
  let joined ← ownRecovery.attempt primitives vault
  let extended ← ownExtension.attempt primitives joined
  let rotated ← ownRotation.attempt primitives extended
  require ((receipt? joined ownClaim.certificate.deviceId 1 true).isSome = true ∧
    (receipt? rotated ownClaim.certificate.deviceId 2 true).isSome = true) membershipInvalid
  pure (joined, rotated)

theorem ownOutcome_ok : ownOutcome.isOk = true := by
  decide +kernel

theorem pastBundle_valid : BundleValid (pastBundle 1) :=
  ⟨⟨by decide, by decide⟩, by decide, by decide, by decide⟩

theorem ownClaim_sealed :
    SealedInClaim primitives (tablesFor ownClaim .empty) transferKeys ownClaim (pastBundle 1) :=
  ⟨_, encodePairingKeyBundle (pastBundle 1), rfl, by decide +kernel, rfl,
    decodePairingKeyBundle_encode pastBundle_valid⟩

theorem ownRecovery_ownPin : ownRecovery.OwnPin primitives := by
  intro claim bundle found named isNamed
  obtain ⟨rfl, rfl⟩ := found.unique ownClaim_sealed
  exact (Option.some.inj isNamed).symm

/-- A recovery whose keys name its own enrollment, an extension that rotates the keys, and the
staging of the rotated keys succeed; what the recovery keeps stays through the other two. -/
theorem retained_secrets_stable_sample : ∃ joined extended rotated,
    ownRecovery.attempt primitives vault = .ok joined ∧
    ownExtension.attempt primitives joined = .ok extended ∧
    ownRotation.attempt primitives extended = .ok rotated ∧
    (receipt? joined ownClaim.certificate.deviceId 1 true).isSome = true ∧
    (receipt? rotated ownClaim.certificate.deviceId 2 true).isSome = true ∧
    SecretsStable primitives joined rotated ∧ CallSound primitives rotated ownRotation := by
  obtain ⟨_, ran⟩ := exists_of_isOk ownOutcome_ok
  simp only [ownOutcome, ok_iff] at ran
  obtain ⟨joined, recovered, extended, appended, rotated, staged, ⟨first, second⟩, _⟩ := ran
  obtain ⟨stable, sound⟩ := retained_secrets_stable primitives_sealing vault_fresh
    (by rintro row ⟨⟩) [ownRecovery] [ownExtension, ownRotation]
    ⟨fun _ _ => ownRecovery_ownPin, fun _ _ => trivial, fun _ _ => trivial, trivial⟩
  simp only [afterSecretCalls, List.foldl_cons, List.foldl_nil, SecretCall.after_of_ok _ recovered,
    SecretCall.after_of_ok _ appended, SecretCall.after_of_ok _ staged] at stable sound
  exact ⟨joined, extended, rotated, recovered, appended, staged, first, second, stable,
    sound ownRotation fun _ _ => trivial⟩

/-! A recovery at the second epoch, whose claim seals the keys that the rotation distributed. They
name another enrollment than the log's, and the digest here tells the two apart. -/

/-- A digest of the length and the last byte. -/
def tailDigest (bytes : Bytes) : Sha256Digest :=
  ⟨⟨(bytes.length * 256 + (bytes.getLast?.map UInt8.toNat).getD 0) % 2 ^ 128 + 1, by omega⟩⟩

def tailPrimitives : ControlPrimitives := { primitives with sha256 := tailDigest }

def tailPin : Sha256Digest := tailDigest enrollment

def foreignPin : Sha256Digest := ⟨.ofNat 7⟩

/-- Keys of the second epoch that name another enrollment. -/
def foreignBundle : PairingKeyBundle where
  accountId := scope.accountId
  workspaceId := scope.workspaceId
  controlEpoch := 2
  keyEpoch := 2
  workspaceRootKey := .zero
  activeEpochKey := .zero
  enrollmentRecordSha256 := some foreignPin

def claimAt (previous : Sha256Digest) (number : Fin 8192) (epoch : Nat) (ciphertext : Bytes) :
    RecoveryDeviceClaimV2 :=
  { claim previous number with
    canonicalRecordSha256 := tailPin
    certificate := { (claim previous number).certificate with controlEpoch := epoch }
    keyEpoch := epoch
    deviceMaterialEnvelope := { envelope with ciphertext } }

/-- The rotation commits to the keys as they were made, with the other enrollment. -/
def foreignTransition (previous : Sha256Digest) : RevocationTransitionV1 :=
  { transition previous with
    keyMaterialSha256 := tailDigest (encodePairingKeyBundle foreignBundle)
    devices := [⟨record.genesisCertificate, envelope⟩] }

def foreignStatement (previous : Sha256Digest) : DeviceRevocationStatementV1 :=
  { revocationStatement previous with
    transitionSha256 := tailDigest (foreignTransition previous).write }

/-- A device joins by recovery and is revoked. -/
def foreignLog : MembershipHistoryEvent × MembershipHistoryEvent :=
  let joined : Sha256Digest := ⟨.ofNat 168193⟩
  (.recoveryAdd (encodeClaimMap (claimAt ⟨.ofNat 30466⟩ 0 1 (List.replicate 16 0)) true),
    .revocation ((foreignStatement joined).writeContext ++
      (foreignStatement joined).transitionSha256.bytes) ⟨.zero⟩ (foreignTransition joined).write)

def foreignClaim : RecoveryDeviceClaimV2 :=
  claimAt ⟨.ofNat 77569⟩ 1 2 (encodePairingKeyBundle foreignBundle)

def foreignTables : RecoveryTables :=
  tablesFor foreignClaim ((Table.empty.upsert 0 foreignLog.1).upsert 1 foreignLog.2)

def foreignRecovery : SecretCall := recoveryOf tailDigest foreignClaim foreignTables

/-- The recovery, and then a load of what it kept. -/
def foreignOutcome : Except VaultError (MembershipStore × Stored) := do
  let written ← foreignRecovery.attempt tailPrimitives vault
  let loaded ← load tailPrimitives written currentBudget
  let stored ← present loaded membershipInvalid
  require (stored.pin = tailPin ∧
    (receipt? written foreignClaim.certificate.deviceId 2 true).isSome = true ∧
    loadSecret tailPrimitives written stored foreignClaim.certificate.deviceId 2 true transferKeys
      currentBudget = .error membershipInvalid) membershipInvalid
  pure (written, stored)

theorem foreignOutcome_ok : foreignOutcome.isOk = true := by
  decide +kernel

theorem foreignClaim_sealed :
    SealedInClaim tailPrimitives foreignTables transferKeys foreignClaim foreignBundle := by
  refine ⟨_, encodePairingKeyBundle foreignBundle, rfl, by decide +kernel, rfl, ?_⟩
  exact decodePairingKeyBundle_encode ⟨⟨by decide, by decide⟩, by decide, by decide, by decide⟩

/-- A recovery succeeds although its keys name another enrollment: it pins them again, and writes a
receipt that the log does not commit to, which no load accepts. -/
theorem foreign_pin_retained : ¬ foreignRecovery.OwnPin tailPrimitives ∧
    ¬ CallSound tailPrimitives vault foreignRecovery ∧
    ∃ written stored, foreignRecovery.attempt tailPrimitives vault = .ok written ∧
      load tailPrimitives written currentBudget = .ok (some stored) ∧
      (receipt? written foreignClaim.certificate.deviceId 2 true).isSome = true ∧
      loadSecret tailPrimitives written stored foreignClaim.certificate.deviceId 2 true transferKeys
        currentBudget = .error membershipInvalid := by
  obtain ⟨⟨written, stored⟩, ran⟩ := exists_of_isOk foreignOutcome_ok
  simp only [foreignOutcome, ok_iff, Prod.mk.injEq] at ran
  obtain ⟨_, attempted, _, loaded, _, rfl, ⟨pinned, present, refused⟩, rfl, rfl⟩ := ran
  have apart : foreignPin ≠ tailPin := by decide +kernel
  refine ⟨?_, ?_, _, _, attempted, loaded, present, refused⟩
  · intro ownPin
    exact apart (ownPin foreignClaim foreignBundle foreignClaim_sealed foreignPin rfl)
  · intro sound
    obtain ⟨other, is, agrees, _⟩ := sound.offered _ _ foreignBundle attempted
      ⟨rfl, foreignClaim, rfl, foreignClaim_sealed⟩
    obtain rfl := is.load loaded
    exact apart ((agrees.pin foreignPin rfl).trans pinned)

end Sample

end ContextRelay.Membership
