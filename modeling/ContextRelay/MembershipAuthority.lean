import ContextRelay.MembershipSecrets
import ContextRelay.MembershipRoster

/-! Who may write. An operation passes the gate only when its device is active at the end of the
stored log. An activation names the state it was made at: additions keep its epochs, a revocation
does not. The log only grows, so a device that it revokes is never active again. -/
namespace ContextRelay.Membership

open Library Library.Cbor

/-! ## Calls -/

/-- A call that moves the accepted log, activates keys, or asks whether an operation may be
written. -/
inductive AuthorityCall where
  | extension (expected successor : MembershipEndpoint) (events : List MembershipHistoryEvent)
      (budget : MembershipHistoryBudget)
  | activation (expected : MembershipEndpoint) (device : DeviceId) (keys : DeviceKeys)
      (budget : MembershipHistoryBudget)
  | write (operation : SyncOperationV1) (stamp : Option MembershipEndpoint)

namespace AuthorityCall

variable (P : ControlPrimitives)

def attempt (store : MembershipStore) : AuthorityCall → Except VaultError MembershipStore
  | .extension expected successor events budget => do
    let (_, store) ← acceptMembershipExtension P store expected successor events budget
    pure store
  | .activation expected device keys budget => activate P store expected device keys budget
  | .write operation stamp => do
    requireOperationRows P store operation stamp
    pure store

def after (store : MembershipStore) (call : AuthorityCall) : MembershipStore :=
  match call.attempt P store with
  | .ok written => written
  | .error _ => store

end AuthorityCall

/-- The store after calls in order. -/
def afterAuthorityCalls (P : ControlPrimitives) (store : MembershipStore)
    (calls : List AuthorityCall) : MembershipStore :=
  calls.foldl (AuthorityCall.after P) store

/-- The activation in the store is current, and it is the device's. -/
def ActiveAs (P : ControlPrimitives) (store : MembershipStore) (device : DeviceId) : Prop :=
  ∃ stored history, load P store currentBudget = .ok (some stored) ∧
    stored.verify P currentBudget = .ok history ∧
    activeDevice P store stored history = .ok (some device)

/-- The log is within the budget of the gates. -/
def WithinCurrentBudget (store : MembershipStore) : Prop :=
  store.events.size ≤ currentBudget.maxEvents ∧ storedBytes store ≤ currentBudget.maxBytes

/-- The stored log revokes the device. -/
def RevokedIn (P : ControlPrimitives) (store : MembershipStore) (device : DeviceId) : Prop :=
  ∃ budget stored changes, load P store budget = .ok (some stored) ∧
    Spelled P stored.log changes ∧ device ∈ revoked changes

/-- What holds of the gates of a store, and of every store it becomes. -/
structure WriteAuthority (P : ControlPrimitives) (store : MembershipStore) : Prop where
  accepts : ∀ operation stamp, store.accepted.isSome →
    requireOperationRows P store operation stamp = .ok () →
    ∃ stored history certificate preimage, load P store currentBudget = .ok (some stored) ∧
      stored.verify P currentBudget = .ok history ∧
      history.state.activeDevices.find? operation.deviceId = some certificate ∧
      operation.controlEpoch = stored.endpoint.controlEpoch ∧
      operation.keyEpoch = stored.endpoint.keyEpoch ∧
      encodeSyncOperationSigningPreimageV1 P.toPrimitives operation = .ok preimage ∧
      verifySignature P certificate.signingPublicKey preimage operation.signature = .ok ()
  keeps : ∀ device expected successor events budget disposition after, ActiveAs P store device →
    acceptMembershipExtension P store expected successor events budget = .ok (disposition, after) →
    revocations events = 0 → WithinCurrentBudget after → ActiveAs P after device
  refuses : ∀ device expected successor events budget after, ActiveAs P store device →
    acceptMembershipExtension P store expected successor events budget = .ok (.inserted, after) →
    0 < revocations events → ∀ more operation stamp,
      (afterAuthorityCalls P after more).activation = store.activation →
      requireOperationRows P (afterAuthorityCalls P after more) operation stamp ≠ .ok ()
  reactivates : Honest P → ∀ expected device keys budget after,
    activate P store expected device keys budget = .ok after → WithinCurrentBudget after →
    ActiveAs P after device
  revoked : ∀ device, RevokedIn P store device → ∀ more,
    (∀ expected keys budget after,
      activate P (afterAuthorityCalls P store more) expected device keys budget ≠ .ok after) ∧
    ∀ operation stamp, operation.deviceId = device →
      requireOperationRows P (afterAuthorityCalls P store more) operation stamp ≠ .ok ()

section
variable {P : ControlPrimitives} {store after : MembershipStore} {stored later : Stored}
  {history laterHistory : VerifiedMembershipHistory} {budget laterBudget : MembershipHistoryBudget}
  {device : DeviceId}

/-! ## The log only grows -/

/-- The event rows spell the events. -/
structure RowsOf (P : ControlPrimitives) (store : MembershipStore) (events : List Event) : Prop where
  rows : store.events.rows = placed events 0
  requests : ∀ event ∈ events, ∀ request, event.request = some request →
    verifyPairingRequest P request.request = .ok request

theorem rowsOf_of_loads (loads : Loads P store budget stored) : RowsOf P store stored.events :=
  ⟨loads.rows, fun event member => (loads.readable event member).request⟩

/-- The store keeps its scope and its enrollment, and more events may follow. -/
def Grows (store after : MembershipStore) : Prop :=
  (∃ more, after.events.rows = store.events.rows ++ more) ∧
    (∀ row, store.accepted = some row → ∃ successor, after.accepted = some { row with
      endpoint := successor })

theorem Grows.refl (store : MembershipStore) : Grows store store :=
  ⟨⟨[], (List.append_nil _).symm⟩, fun row found => ⟨row.endpoint, found⟩⟩

theorem Grows.trans (first : Grows store middle) (second : Grows middle after) : Grows store after := by
  obtain ⟨⟨early, firstRows⟩, firstAccepted⟩ := first
  obtain ⟨⟨late, secondRows⟩, secondAccepted⟩ := second
  refine ⟨⟨early ++ late, by rw [secondRows, firstRows, List.append_assoc]⟩, ?_⟩
  intro row found
  obtain ⟨_, foundMiddle⟩ := firstAccepted row found
  obtain ⟨successor, foundAfter⟩ := secondAccepted _ foundMiddle
  exact ⟨successor, foundAfter⟩

/-- What loads from a grown store has the earlier events at its front. -/
theorem RowsOf.prefix_of_loads (rowsOf : RowsOf P store events) (grows : Grows store after)
    (loads : Loads P after budget later) : ∃ added, later.events = events ++ added := by
  obtain ⟨⟨more, rows⟩, _⟩ := grows
  have same : later.events.map Event.row = events.map Event.row ++ more.map Prod.snd := by
    have both := congrArg (List.map Prod.snd) (loads.rows.symm.trans rows)
    rwa [map_snd_placed, List.map_append, rowsOf.rows, map_snd_placed] at both
  obtain ⟨front, added, split, sameFront, _⟩ := List.map_eq_append_iff.mp same
  have equal : front = events := eq_of_map_eq (fun event member again among =>
    Event.eq_of_row (loads.readable event (by rw [split]; exact List.mem_append_left _ member)).request
      (rowsOf.requests again among)) sameFront
  exact ⟨added, equal ▸ split⟩

/-- One log is loaded, whatever the budget. -/
theorem loads_unique (first : Loads P store budget stored) (second : Loads P store laterBudget later) :
    later = stored := by
  obtain ⟨added, events⟩ := (rowsOf_of_loads first).prefix_of_loads (.refl store) second
  have length := congrArg List.length (first.rows.symm.trans second.rows)
  rw [length_placed, length_placed, events, List.length_append] at length
  obtain rfl := List.eq_nil_of_length_eq_zero (by omega : added.length = 0)
  rw [List.append_nil] at events
  have accepted := Option.some.inj (first.accepted.symm.trans second.accepted)
  cases stored
  cases later
  simp_all

section

variable {expected successor : MembershipEndpoint}

theorem Appended.rowsOf (loads : Loads P store budget stored)
    (appended : Appended P store after expected successor extension budget stored added) :
    RowsOf P after (stored.events ++ added) ∧ Grows store after ∧
      after.activation = store.activation ∧ after.secrets = store.secrets := by
  obtain ⟨table, rows, rfl⟩ := appended.after
  obtain ⟨_, verified⟩ := appended.verified
  obtain ⟨_, _, _, ran, _⟩ := verify_eq_ok.mp verified
  refine ⟨⟨?_, fun event member request found => requests_of_thread ran member found⟩,
    ⟨⟨_, rows⟩, ?_⟩, rfl, rfl⟩
  · rw [rows, loads.rows, placed_append, Nat.zero_add]
  · intro row found
    obtain rfl := Option.some.inj (loads.accepted.symm.trans found)
    exact ⟨successor, rfl⟩

/-- No call takes anything from the log. -/
theorem after_grows (store : MembershipStore) (call : AuthorityCall) :
    Grows store (call.after P store) := by
  unfold AuthorityCall.after
  split
  · rename_i written ran
    cases call with
    | extension expected successor events budget =>
      simp only [AuthorityCall.attempt, ok_iff, Prod.exists] at ran
      obtain ⟨disposition, _, accepted, rfl⟩ := ran
      obtain ⟨_, loads, _, ⟨_, rfl, _⟩ | ⟨_, _, appended⟩⟩ := acceptMembershipExtension_ok accepted
      · exact .refl _
      · exact (appended.rowsOf loads).2.1
    | activation expected device keys budget =>
      simp only [AuthorityCall.attempt, activate, ok_iff] at ran
      obtain ⟨_, _, _, _, _, _, _, _, _, _, _, _, _, rfl⟩ := ran
      exact .refl _
    | write operation stamp =>
      simp only [AuthorityCall.attempt, ok_iff] at ran
      obtain ⟨_, rfl⟩ := ran
      exact .refl _
  · exact .refl _

theorem run_grows (store : MembershipStore) (calls : List AuthorityCall) :
    Grows store (afterAuthorityCalls P store calls) := by
  induction calls generalizing store with
  | nil => exact .refl store
  | cons call calls ih => exact (after_grows store call).trans (ih (call.after P store))

/-! ## Epochs and members of a log -/

/-- The epochs of an accepted log count its revocations. -/
theorem epochs_of_verify (verified : stored.verify P budget = .ok history) :
    stored.endpoint.controlEpoch = 1 + revocations stored.log ∧
      stored.endpoint.keyEpoch = 1 + revocations stored.log := by
  obtain ⟨record, start, opened, ran, ended⟩ := verify_eq_ok.mp verified
  obtain ⟨changes, spelled, tracks⟩ := tracks_run opened.genesis ran
  rw [← ended, ← (spelled.counts record).2]
  exact ⟨tracks.controlEpoch, tracks.keyEpoch⟩

/-- A device that a log revokes is not active at the end of a longer one. -/
theorem not_active_of_revoked (spelled : Spelled P stored.log changes)
    (gone : device ∈ revoked changes) (log : later.log = stored.log ++ more)
    (verified : later.verify P budget = .ok history) :
    history.state.activeDevices.find? device = none := by
  obtain ⟨record, start, opened, ran, _⟩ := verify_eq_ok.mp verified
  obtain ⟨all, respelled, tracks⟩ := tracks_run opened.genesis ran
  rw [log] at respelled
  obtain ⟨rest, rfl⟩ := respelled.split spelled
  apply Option.eq_none_iff_forall_ne_some.mpr
  intro certificate found
  refine ((tracks.active _ _).mp found).2 ?_
  rw [revoked, List.filterMap_append]
  exact List.mem_append_left _ gone

/-- Additions leave the active devices as they are. -/
theorem active_of_additions (verified : stored.verify P budget = .ok history)
    (laterVerified : later.verify P laterBudget = .ok laterHistory)
    (sameEnrollment : later.enrollment = stored.enrollment) (log : later.log = stored.log ++ more)
    (additions : revocations more = 0)
    (active : history.state.activeDevices.find? device = some certificate) :
    laterHistory.state.activeDevices.find? device = some certificate := by
  obtain ⟨record, _, opened, ran, _⟩ := verify_eq_ok.mp verified
  obtain ⟨changes, spelled, tracks⟩ := tracks_run opened.genesis ran
  obtain ⟨again, _, reopened, reran, _⟩ := verify_eq_ok.mp laterVerified
  obtain rfl : record = again :=
    Except.ok.inj ((sameEnrollment ▸ opened.decoded).symm.trans reopened.decoded)
  obtain ⟨all, respelled, retracks⟩ := tracks_run reopened.genesis reran
  have counted := (respelled.counts record).2
  rw [log] at respelled counted
  obtain ⟨rest, rfl⟩ := respelled.split spelled
  rw [revocations, List.countP_append, ← revocations, ← revocations, additions,
    ← (spelled.counts record).2, revoked, List.filterMap_append, List.length_append] at counted
  have none : rest.filterMap Change.revoked? = [] :=
    List.eq_nil_of_length_eq_zero (by rw [← revoked] at counted; omega)
  obtain ⟨⟨admission, member, own, certified⟩, notRevoked⟩ := (tracks.active _ _).mp active
  refine (retracks.active _ _).mpr ⟨⟨admission, ?_, own, certified⟩, ?_⟩
  · rw [admitted, List.filterMap_append, ← List.cons_append]
    exact List.mem_append_left _ member
  · rwa [revoked, List.filterMap_append, none, List.append_nil]

/-! ## The gates, taken apart -/

theorem activeDevice_eq_ok : activeDevice P store stored history = .ok (some device) ↔
    ∃ source signature proof certificate preimage,
      store.activation = some ⟨device, source, signature⟩ ∧
      (source.controlEpoch, source.keyEpoch) =
        (stored.endpoint.controlEpoch, stored.endpoint.keyEpoch) ∧
      lineage P stored source currentBudget = .ok proof ∧
      history.state.activeDevices.find? device = some certificate ∧
      activationPreimage store stored device source = .ok preimage ∧
      verifySignature P certificate.signingPublicKey preimage signature = .ok () := by
  unfold activeDevice
  cases found : store.activation with
  | none => simp [pure_eq_ok]
  | some row =>
    simp only [ok_iff, Option.some.injEq]
    constructor
    · rintro ⟨epochs, proof, proven, certificate, active, preimage, made, signed, rfl⟩
      exact ⟨_, _, proof, certificate, preimage, rfl, epochs, proven, active, made, signed⟩
    · rintro ⟨_, _, proof, certificate, preimage, rfl, epochs, proven, active, made, signed⟩
      exact ⟨epochs, proof, proven, certificate, active, preimage, made, signed, rfl⟩

/-- An operation that may be written into an accepted membership. -/
theorem requireOperationRows_ok (accepted : store.accepted = some row)
    (ran : requireOperationRows P store operation stamp = .ok ()) :
    ∃ stored history certificate preimage, load P store currentBudget = .ok (some stored) ∧
      stored.verify P currentBudget = .ok history ∧
      (∀ active, store.activation = some active →
        (active.source.controlEpoch, active.source.keyEpoch) =
          (stored.endpoint.controlEpoch, stored.endpoint.keyEpoch)) ∧
      history.state.activeDevices.find? operation.deviceId = some certificate ∧
      operation.controlEpoch = stored.endpoint.controlEpoch ∧
      operation.keyEpoch = stored.endpoint.keyEpoch ∧
      encodeSyncOperationSigningPreimageV1 P.toPrimitives operation = .ok preimage ∧
      verifySignature P certificate.signingPublicKey preimage operation.signature = .ok () := by
  simp only [requireOperationRows, bind_eq_ok] at ran
  obtain ⟨current, required, ran⟩ := ran
  simp only [requireCurrentRows, bind_eq_ok] at required
  obtain ⟨loaded, load, required⟩ := required
  cases loaded with
  | none =>
    rw [Membership.load, accepted] at load
    simp only [ok_iff, reduceCtorEq, and_false, exists_false] at load
  | some stored =>
    simp only [ok_iff] at required
    obtain ⟨history, verified, _, active, activated, required⟩ := required
    have same : current = some history := by
      cases active with
      | some device => exact (Except.ok.inj required).symm
      | none =>
        simp only [ok_iff] at required
        obtain ⟨_, _, _, _, _, _, _, rfl⟩ := required
        rfl
    subst same
    simp only [ok_iff] at ran
    obtain ⟨certificate, found, ⟨control, key⟩, preimage, made, signed⟩ := ran
    have ended := verify_endpoint verified
    refine ⟨stored, history, certificate, preimage, load, verified, ?_, found, ?_, ?_, made, signed⟩
    · intro row present
      simp only [activeDevice, present, ok_iff] at activated
      exact activated.1
    · rw [control, ← ended]
      rfl
    · rw [key, ← ended]
      rfl

/-- A log that verified loads again, and verifies, under the budget of the gates when its rows are
within it. -/
theorem within_loads
    (accepted : store.accepted = some ⟨stored.scope, stored.pin, stored.enrollment, stored.endpoint⟩)
    (rows : store.events.rows = placed stored.events 0)
    (derived : ∀ event ∈ stored.events, Event.fromEvidence P event.evidence = .ok event)
    (sized : ∀ event ∈ stored.events, event.Sized) (enrolled : 1 ≤ stored.enrollment.length)
    (verified : stored.verify P budget = .ok history) (within : WithinCurrentBudget store) :
    load P store currentBudget = .ok (some stored) ∧
      stored.verify P currentBudget = .ok history := by
  obtain ⟨few, small⟩ := within
  rw [storedBytes_eq accepted rows] at small
  rw [Table.size, rows, length_placed] at few
  obtain ⟨record, start, opened, ran, ended⟩ := verify_eq_ok.mp verified
  have again : stored.verify P currentBudget = .ok history := verify_eq_ok.mpr
    ⟨record, start, { opened with
      fewEvents := by rwa [Stored.log, List.length_map]
      fewBytes := by rw [Stored.log]; dsimp only at small; omega }, ran, ended⟩
  exact ⟨load_eq_ok.mpr (loads_of_verified accepted rows derived sized enrolled again le_rfl
    (by decide) small), again⟩

/-! ## Authority -/

theorem additions_keep (active : ActiveAs P store device)
    (ran : acceptMembershipExtension P store expected successor events budget = .ok (disposition, after))
    (additions : revocations events = 0) (within : WithinCurrentBudget after) :
    ActiveAs P after device := by
  obtain ⟨stored, loads, _, ⟨_, rfl, _⟩ | ⟨_, added, appended⟩⟩ := acceptMembershipExtension_ok ran
  · exact active
  obtain ⟨other, history, loaded, verified, activated⟩ := active
  obtain rfl := loads_unique loads (load_eq_ok.mp loaded)
  obtain ⟨source, signature, proof, certificate, preimage, row, epochs, proven, found, made, signed⟩ :=
    activeDevice_eq_ok.mp activated
  obtain ⟨rowsOf, _, sameActivation, sameSecrets⟩ := appended.rowsOf loads
  obtain ⟨every, log⟩ := appended.events loads
  obtain ⟨laterHistory, laterVerified⟩ := appended.verified
  obtain ⟨table, _, written⟩ := appended.after
  obtain ⟨reloaded, reverified⟩ : load P after currentBudget =
        .ok (some (other.extended added successor)) ∧
      (other.extended added successor).verify P currentBudget = .ok laterHistory :=
    within_loads (by rw [written]; rfl) rowsOf.rows (fun event member => (every event member).1)
      (fun event member => (every event member).2) loads.enrollmentFits.1 laterVerified within
  obtain ⟨reproof, reproven⟩ := (onLog_iff_lineage reverified).mp
    (((onLog_iff_lineage verified).mpr ⟨proof, proven⟩).extended added successor)
  refine ⟨_, laterHistory, reloaded, reverified, activeDevice_eq_ok.mpr ⟨source, signature, reproof,
    certificate, preimage, sameActivation.trans row, ?_, reproven,
    active_of_additions verified reverified rfl log additions found, ?_, signed⟩⟩
  · have before := epochs_of_verify verified
    have later := epochs_of_verify reverified
    have counted : revocations (other.extended added successor).log = revocations other.log := by
      rw [show (other.extended added successor).log = _ from log, revocations, List.countP_append,
        ← revocations, ← revocations, additions, Nat.add_zero]
    rw [counted] at later
    rw [epochs, before.1, before.2, later.1, later.2]
  · rw [activationPreimage, sameSecrets]
    exact made

/-- After a revocation no write passes while the activation is the one from before. -/
theorem revocation_refuses (active : ActiveAs P store device)
    (ran : acceptMembershipExtension P store expected successor events budget = .ok (.inserted, after))
    (revoking : 0 < revocations events) (more : List AuthorityCall) (operation : SyncOperationV1)
    (stamp : Option MembershipEndpoint)
    (unchanged : (afterAuthorityCalls P after more).activation = store.activation) :
    requireOperationRows P (afterAuthorityCalls P after more) operation stamp ≠ .ok () := by
  intro passed
  obtain ⟨stored, loads, _, ⟨replayed, _⟩ | ⟨_, added, appended⟩⟩ := acceptMembershipExtension_ok ran
  · cases replayed
  obtain ⟨other, history, loaded, verified, activated⟩ := active
  obtain rfl := loads_unique loads (load_eq_ok.mp loaded)
  obtain ⟨source, signature, _, _, _, row, epochs, _⟩ := activeDevice_eq_ok.mp activated
  obtain ⟨rowsOf, grows, _⟩ := appended.rowsOf loads
  have grown := run_grows (P := P) after more
  obtain ⟨_, accepted⟩ := (grows.trans grown).2 _ loads.accepted
  obtain ⟨final, _, _, _, reloaded, reverified, atEpochs, _⟩ := requireOperationRows_ok accepted passed
  obtain ⟨later, longer⟩ := rowsOf.prefix_of_loads grown (load_eq_ok.mp reloaded)
  have control := congrArg Prod.fst (epochs.symm.trans (atEpochs _ (unchanged.trans row)))
  have log : final.log = (other.log ++ events) ++ later.map Event.evidence := by
    rw [Stored.log, longer, List.map_append, (appended.events loads).2]
  dsimp only at control
  rw [(epochs_of_verify verified).1, (epochs_of_verify reverified).1, log, revocations, revocations,
    List.countP_append, List.countP_append, ← revocations, ← revocations] at control
  omega

/-- An activation at the end of the log is current. -/
theorem activation_current (honest : Honest P)
    (ran : activate P store expected device keys budget = .ok after)
    (within : WithinCurrentBudget after) : ActiveAs P after device := by
  simp only [activate, ok_iff] at ran
  obtain ⟨_, loaded, stored, rfl, history, checked, _, _, _, rfl, preimage, made, _, rfl⟩ := ran
  simp only [endpointCheck, ok_iff] at checked
  obtain ⟨_, verified, certificate, found, ⟨rfl, signing, _⟩, rfl⟩ := checked
  have loads := load_eq_ok.mp loaded
  obtain ⟨reloaded, reverified⟩ := within_loads loads.accepted loads.rows
    (fun event member => (loads.readable event member).derived)
    (fun event member => (loads.readable event member).sized) loads.enrollmentFits.1 verified within
  obtain ⟨proof, proven⟩ := (onLog_iff_lineage reverified).mp (onLog_endpoint ⟨_, _, reverified⟩)
  refine ⟨stored, _, reloaded, reverified, activeDevice_eq_ok.mpr ⟨_, _, proof, certificate, preimage,
    rfl, rfl, proven, found, made, ?_⟩⟩
  rw [signing]
  exact honest.verifies keys preimage

end

/-- In every store an operation passes only for a device that is active at the endpoint, with the
endpoint's epochs and a signature under its certificate. Additions keep an activation current, as
far as the log stays within the budget of the gates; a revocation ends it, until an activation at
the new endpoint; and a device that the log revokes is never activated or passed again. -/
theorem write_authority (P : ControlPrimitives) (store : MembershipStore) :
    WriteAuthority P store where
  accepts operation stamp accepted passed := by
    obtain ⟨row, found⟩ := Option.isSome_iff_exists.mp accepted
    obtain ⟨stored, history, certificate, preimage, loaded, verified, _, rest⟩ :=
      requireOperationRows_ok found passed
    exact ⟨stored, history, certificate, preimage, loaded, verified, rest⟩
  keeps _ _ _ _ _ _ _ active ran additions within := additions_keep active ran additions within
  refuses _ _ _ _ _ _ active ran revoking more operation stamp unchanged :=
    revocation_refuses active ran revoking more operation stamp unchanged
  reactivates honest _ _ _ _ _ ran within := activation_current honest ran within
  revoked device gone more := by
    obtain ⟨budget, stored, changes, loaded, spelled, gone⟩ := gone
    have loads := load_eq_ok.mp loaded
    have grown := run_grows (P := P) store more
    have inactive : ∀ laterBudget later history,
        load P (afterAuthorityCalls P store more) laterBudget = .ok (some later) →
        later.verify P laterBudget = .ok history →
        history.state.activeDevices.find? device = none := by
      intro laterBudget later history reloaded verified
      obtain ⟨added, longer⟩ := (rowsOf_of_loads loads).prefix_of_loads grown (load_eq_ok.mp reloaded)
      have log : later.log = stored.log ++ added.map Event.evidence := by
        rw [Stored.log, longer, List.map_append]
        rfl
      exact not_active_of_revoked spelled gone log verified
    refine ⟨?_, ?_⟩
    · intro expected keys laterBudget after ran
      simp only [activate, endpointCheck, ok_iff] at ran
      obtain ⟨_, reloaded, later, rfl, _, ⟨history, verified, certificate, found, _⟩, _⟩ := ran
      rw [inactive laterBudget later history reloaded verified] at found
      cases found
    · rintro operation stamp rfl passed
      obtain ⟨_, accepted⟩ := grown.2 _ loads.accepted
      obtain ⟨later, history, _, _, reloaded, verified, _, found, _⟩ :=
        requireOperationRows_ok accepted passed
      rw [inactive currentBudget later history reloaded verified] at found
      cases found

/-! ## A log beyond the budget of the gates -/

/-- Events go in when their states and their parents are new. -/
theorem insertEvents_succeeds (below : ∀ row ∈ store.events.rows, row.1 < offset)
    (allowed : ∀ event ∈ events, event.row.Allowed)
    (successors : (store.events.values.map EventRow.successor ++ events.map Event.successor).Nodup)
    (parents : (store.events.values.map EventRow.parent ++ events.map Event.parent).Nodup) :
    ∃ after, insertEvents store events offset = .ok after := by
  unfold insertEvents
  induction events generalizing store offset with
  | nil => exact ⟨store, rfl⟩
  | cons event events ih =>
    have fresh : ∀ other ∈ store.events.values, other.successor ≠ event.row.successor ∧
        other.parent ≠ event.row.parent := by
      intro other member
      exact ⟨(List.nodup_append.mp successors).2.2 _ (List.mem_map_of_mem member) _ List.mem_cons_self,
        (List.nodup_append.mp parents).2.2 _ (List.mem_map_of_mem member) _ List.mem_cons_self⟩
    have absent : store.events.find? offset = none := by
      apply Option.eq_none_iff_forall_ne_some.mpr
      intro row found
      exact Nat.lt_irrefl _ (below _ ((Table.find?_eq_some _).mp found))
    have inserted : store.events.insert? offset event.row =
        some (store.events.upsert offset event.row) := Table.insert?_eq_some.mpr ⟨absent, rfl⟩
    have rows := Table.rows_insert? below inserted
    have stepped : insertEvent store (event, offset) = .ok { store with
        events := store.events.upsert offset event.row } := by
      simp only [insertEvent, require_pos (allowed event List.mem_cons_self), require_pos fresh,
        inserted, present_some, ok_bind]
      rfl
    have values : ∀ {γ : Type} (column : EventRow → γ),
        (store.events.upsert offset event.row).values.map column =
          store.events.values.map column ++ [column event.row] := by
      intro γ column
      rw [Table.values, rows, List.map_append, List.map_append]
      rfl
    simp only [List.zipIdx_cons, thread, stepped, ok_bind]
    refine ih (Table.rows_lt_succ below rows)
      (fun other later => allowed other (List.mem_cons_of_mem _ later)) ?_ ?_
    · rwa [values, List.append_assoc, List.singleton_append]
    · rwa [values, List.append_assoc, List.singleton_append]

end

namespace Sample

/-- The enrolled device has keys of the first epoch and is activated. -/
def activeStore : MembershipStore :=
  { store with
    secrets := Table.empty.upsert (toLex (firstDevice, toLex (1, true)))
      ⟨⟨states 0, 1, 1⟩, .zero, [0], ⟨.zero⟩⟩
    activation := some ⟨firstDevice, ⟨states 0, 1, 1⟩, ⟨.zero⟩⟩ }

def manyEvents : MembershipHistoryBudget := ⟨8192, 64 * 1024 * 1024⟩

/-- The log of the enrollment alone. -/
def enrolledLog : Stored := ⟨scope, pin, enrollment, ⟨states 0, 1, 1⟩, []⟩

theorem activeStore_active : ActiveAs primitives activeStore firstDevice := by
  have active : (do
      let loaded ← load primitives activeStore currentBudget
      let stored ← present loaded membershipInvalid
      let history ← stored.verify primitives currentBudget
      let device ← activeDevice primitives activeStore stored history
      require (device = some firstDevice) membershipInvalid
      pure (stored, history)).isOk = true := by decide +kernel
  obtain ⟨⟨stored, history⟩, ran⟩ := exists_of_isOk active
  simp only [ok_iff, Prod.mk.injEq] at ran
  obtain ⟨_, loaded, _, rfl, _, verified, _, activated, rfl, rfl, rfl⟩ := ran
  exact ⟨_, _, loaded, verified, activated⟩

/-- The row of a recovery. -/
def recoveryRow (previous : Sha256Digest) (number : Fin 8192) : Event where
  parent := previous
  successor := lengthDigest (utf8 "context-relay/recovery-membership-add/v1\x00" ++
    encodeClaimMap (claim previous number) true)
  statement := []
  signature := ⟨.zero⟩
  request := none
  artifact := encodeClaimMap (claim previous number) true

theorem fromEvidence_recovery (linked : previous ≠ .zero) (number : Fin 8192) : Event.fromEvidence primitives (recoveryEvent previous number) =
      .ok (recoveryRow previous number) := by
  simp only [Event.fromEvidence, recoveryEvent, claim_decoded linked, orFail, ok_bind,
    recoveryMembershipSuccessor, claim_encoded linked]
  rfl

theorem recoveryRow_allowed (previous : Sha256Digest) (number : Fin 8192) :
    (recoveryRow previous number).row.Allowed := by
  have length := length_claim previous number true
  have short := length_claim_le previous number true
  rw [if_pos rfl] at length
  refine ⟨rfl, Nat.zero_le _, .inr rfl, ?_, ?_, .inr ?_⟩
  all_goals
    dsimp only [Event.row, recoveryRow]
    omega

theorem successor_value (previous : Sha256Digest) (number : Fin 8192) :
    (recoveryRow previous number).successor.value =
      657 + (head .bytes (16 + number)).length + number := by
  have domain : (utf8 "context-relay/recovery-membership-add/v1\x00").length = 41 := by decide
  have short := length_head_le .bytes (by omega : 16 + number.val < 2 ^ 32)
  dsimp only [recoveryRow, lengthDigest]
  rw [List.length_append, domain, length_claim, if_pos rfl, Nat.mod_eq_of_lt (by omega)]
  omega

/-- The states of recoveries in order are in order, behind the state of the enrollment. -/
theorem successor_lt (earlier : number.val < later.val) :
    (states 0).value < (recoveryRow previous number).successor.value ∧
      (recoveryRow previous number).successor.value < (recoveryRow other later).successor.value := by
  have longer := length_head_mono .bytes (by omega : 16 + number.val ≤ 16 + later.val)
  have first : (states 0).value = 120 := by decide
  rw [successor_value, successor_value, first]
  omega

/-- Rows of recoveries in order, each on the state of the one before it. -/
structure Recoveries (added : List Event) : Prop where
  numbered : ∀ number event, added[number]? = some event → ∃ previous few,
    event = recoveryRow previous ⟨number, few⟩
  chained : Chained added
  starts : ∀ first ∈ added.head?, first.parent = states 0

/-- The parent of a row is the state of the enrollment or of the row before it. -/
theorem Recoveries.parent_eq (recoveries : Recoveries added) (found : added[number]? = some event) :
    number = 0 ∧ event.parent = states 0 ∨ ∃ before earlier, number = before + 1 ∧
      added[before]? = some earlier ∧ event.parent = earlier.successor := by
  cases number with
  | zero => exact .inl ⟨rfl, recoveries.starts event (by rwa [Option.mem_def, List.head?_eq_getElem?])⟩
  | succ before =>
    obtain ⟨inside, rfl⟩ := List.getElem?_eq_some_iff.mp found
    have linked := List.isChain_iff_getElem.mp recoveries.chained before inside
    exact .inr ⟨before, _, rfl, List.getElem?_eq_getElem (Nat.lt_of_succ_lt inside), linked.symm⟩

theorem Recoveries.states_distinct (recoveries : Recoveries added) :
    (added.map Event.successor).Nodup ∧ (added.map Event.parent).Nodup := by
  have ordered : ∀ {first second : Nat} {event later : Event}, first < second →
      added[first]? = some event → added[second]? = some later →
        (states 0).value < event.successor.value ∧
        event.successor.value < later.successor.value := by
    intro first second event later earlier found foundLater
    obtain ⟨_, _, rfl⟩ := recoveries.numbered _ _ found
    obtain ⟨_, _, rfl⟩ := recoveries.numbered _ _ foundLater
    exact successor_lt earlier
  have distinct : ∀ column : Event → Sha256Digest, (∀ {first second : Nat} {event later : Event},
      first < second → added[first]? = some event → added[second]? = some later →
        (column event).value < (column later).value) → (added.map column).Nodup := by
    intro column increases
    rw [List.nodup_iff_getElem?_ne_getElem?]
    intro first second earlier inside same
    rw [List.length_map] at inside
    have found := List.getElem?_eq_getElem (Nat.lt_trans earlier inside)
    have foundLater := List.getElem?_eq_getElem inside
    have less := increases earlier found foundLater
    rw [List.getElem?_map, List.getElem?_map, found, foundLater] at same
    exact absurd (congrArg (fun digest : Sha256Digest => digest.value) (Option.some.inj same))
      (Nat.ne_of_lt less)
  refine ⟨distinct _ fun earlier found foundLater => (ordered earlier found foundLater).2,
    distinct _ fun {first second event later} earlier found foundLater => ?_⟩
  rcases recoveries.parent_eq foundLater with ⟨rfl, _⟩ | ⟨before, prior, rfl, foundPrior, parent⟩
  · exact absurd earlier (Nat.not_lt_zero _)
  rw [parent]
  rcases recoveries.parent_eq found with ⟨rfl, own⟩ | ⟨_, _, rfl, foundEarlier, own⟩
  · rw [own]
    exact (ordered (Nat.lt_succ_self before) foundPrior foundLater).1
  · rw [own]
    exact (ordered (Nat.lt_of_succ_lt_succ earlier) foundEarlier foundPrior).2

/-- The enrolled device is activated, and then 4097 devices join by recovery in one extension. It
is accepted within its own budget, but the gates read at most 4096 events, so that they refuse
every operation although nothing was revoked. -/
theorem additions_end_activation : ∃ successor events after,
    ActiveAs primitives activeStore firstDevice ∧ revocations events = 0 ∧
    acceptMembershipExtension primitives activeStore ⟨states 0, 1, 1⟩ successor events manyEvents =
      .ok (.inserted, after) ∧
    (∀ device, ¬ ActiveAs primitives after device) ∧
    ∀ operation stamp, requireOperationRows primitives after operation stamp ≠ .ok () := by
  obtain ⟨events, history, length, numbered, _, revoked, bytes, ran, recovered⟩ :=
    recovered_run (by decide : 4097 ≤ 8192)
  obtain ⟨added, collected⟩ := collect_of_forall fun event member => by
    obtain ⟨number, found⟩ := List.mem_iff_getElem?.mp member
    obtain ⟨previous, few, linked, rfl⟩ := numbered number event found
    exact ⟨_, fromEvidence_recovery linked ⟨number, few⟩⟩
  obtain ⟨evidence, derived⟩ := collect_fromEvidence collected
  have sameLength : added.length = 4097 := by rw [← length, ← evidence, List.length_map]
  have first : start.endpoint = ⟨states 0, 1, 1⟩ := by decide +kernel
  have enrolled : enrollment.length ≤ 800 := by decide +kernel
  have opened : Opened primitives enrollment pin scope events manyEvents record start := {
    fewEvents := by rw [length]; decide
    fewBytes := by unfold manyEvents; dsimp only; omega
    pinned := ⟨lengthDigest_ne_zero _, rfl⟩
    decoded := record_decoded
    genesis := genesis_started }
  rw [← evidence] at ran
  obtain ⟨chained, starts, ends⟩ := chained_of_thread derived ran
  have recoveries : Recoveries added := {
    numbered := by
      intro number event found
      obtain ⟨previous, few, linked, same⟩ := numbered number event.evidence (by
        rw [← evidence, List.getElem?_map, found]
        rfl)
      have own := derived event (List.mem_of_getElem? found)
      rw [same, fromEvidence_recovery linked] at own
      exact ⟨previous, few, (Except.ok.inj own).symm⟩
    chained
    starts := fun event isFirst => (starts event isFirst).trans
      (congrArg MembershipEndpoint.stateSha256 first) }
  obtain ⟨successors, parents⟩ := recoveries.states_distinct
  obtain ⟨inserted, insertion⟩ : ∃ inserted, insertEvents activeStore added 0 = .ok inserted :=
    insertEvents_succeeds (by simp [activeStore, store, Table.empty]) (by
      intro event member
      obtain ⟨number, found⟩ := List.mem_iff_getElem?.mp member
      obtain ⟨previous, few, rfl⟩ := recoveries.numbered number event found
      exact recoveryRow_allowed previous ⟨number, few⟩) successors parents
  obtain ⟨table, rfl, rows, _⟩ := insertEvents_ok (by simp [activeStore, store, Table.empty]) insertion
  have loads : Loads primitives activeStore manyEvents enrolledLog := {
    accepted := rfl
    rows := rfl
    fewEvents := Nat.zero_le _
    fewBytes := le_trans enrolled (by decide)
    enrollmentFits := ⟨by decide +kernel, by decide +kernel⟩
    readable := by simp [enrolledLog]
    chained := List.isChain_nil }
  have verified : enrolledLog.verify primitives manyEvents = .ok start := verify_eq_ok.mpr
    ⟨record, start, { opened with
      fewEvents := Nat.zero_le _
      fewBytes := le_trans enrolled (by decide) }, rfl, first⟩
  have extended : (enrolledLog.extended added history.endpoint).verify primitives manyEvents =
      .ok history := verify_eq_ok.mpr
    ⟨record, start, by
      rw [Stored.extended, Stored.log, enrolledLog, List.nil_append, evidence]
      exact opened, ran, rfl⟩
  have epochs : EpochsAllowed history.endpoint := by
    obtain ⟨control, key⟩ := epochs_of_verify extended
    rw [show (enrolledLog.extended added history.endpoint).log = events from evidence, revoked]
      at control key
    exact ⟨⟨control.ge, control.trans_le (by decide)⟩, key.ge, key.trans_le (by decide)⟩
  obtain ⟨event, isFirst⟩ : ∃ event, added.head? = some event :=
    ⟨_, List.head?_eq_some_head (List.ne_nil_of_length_pos (by omega))⟩
  obtain ⟨last, isLast⟩ : ∃ last, added.getLast? = some last :=
    ⟨_, List.getLast?_eq_some_getLast (List.ne_nil_of_length_pos (by omega))⟩
  have leads := ends last isLast
  have moved : enrolledLog.endpoint ≠ history.endpoint := by
    intro same
    rw [List.getLast?_eq_getElem?] at isLast
    obtain ⟨previous, few, rfl⟩ := recoveries.numbered _ _ isLast
    have value := successor_value previous ⟨_, few⟩
    rw [leads, show history.state.stateSha256 = states 0 from
      (congrArg MembershipEndpoint.stateSha256 same).symm, (by decide : (states 0).value = 120)] at value
    omega
  have accepted : acceptMembershipExtension primitives activeStore ⟨states 0, 1, 1⟩ history.endpoint
      events manyEvents = .ok (.inserted, { activeStore with
        accepted := some ⟨scope, pin, enrollment, history.endpoint⟩, events := table }) := by
    have fits : events ≠ [] ∧ events.length ≤ manyEvents.maxEvents ∧
        logBytes events ≤ manyEvents.maxBytes :=
      ⟨List.ne_nil_of_length_pos (by omega), opened.fewEvents, le_trans (Nat.le_add_left _ _)
        opened.fewBytes⟩
    have meets : added.head?.map Event.parent = some (states 0) ∧
        added.getLast?.map Event.successor = some history.endpoint.stateSha256 := by
      rw [isFirst, isLast]
      exact ⟨congrArg some (recoveries.starts event isFirst), congrArg some leads⟩
    simp only [acceptMembershipExtension, load_eq_ok.mpr loads, present_some, ok_bind, verified,
      collected, require_pos fits, require_pos meets, if_neg moved]
    unfold Stored.extended at extended
    rw [show require (enrolledLog.endpoint = ⟨states 0, 1, 1⟩) VaultError.operationConflict = .ok ()
      from rfl, ok_bind, extended, ok_bind,
      show insertEvents activeStore added enrolledLog.events.length = _ from insertion, ok_bind]
    simp only [swapEndpoint, activeStore, store, present_some, ok_bind, require_pos epochs]
    rfl
  have unread : ∀ stored, load primitives { activeStore with
      accepted := some ⟨scope, pin, enrollment, history.endpoint⟩, events := table } currentBudget ≠
        .ok (some stored) := by
    intro stored loaded
    have reloads := load_eq_ok.mp loaded
    have many := congrArg List.length (rows.symm.trans reloads.rows)
    rw [List.length_append, length_placed, length_placed, sameLength] at many
    have few := reloads.fewEvents
    rw [show currentBudget.maxEvents = 4096 from rfl] at few
    omega
  refine ⟨_, events, _, activeStore_active, revoked, accepted, ?_, ?_⟩
  · rintro device ⟨stored, _, loaded, _⟩
    exact unread stored loaded
  · intro operation stamp passed
    obtain ⟨stored, _, _, _, loaded, _⟩ := requireOperationRows_ok rfl passed
    exact unread stored loaded

end Sample

/-! ## The anchor test -/

section

variable {P : ControlPrimitives} {stored : Stored} {history : VerifiedMembershipHistory}
  {budget : MembershipHistoryBudget} {source : MembershipEndpoint}

/-- Where the digest of nothing that is hashed collides, the test of a secret's source accepts the
endpoints that full verification of the lineage accepts, and no others: those of the log. -/
theorem anchor_test_iff_lineage {store : MembershipStore} {loadBudget : MembershipHistoryBudget}
    (loaded : load P store loadBudget = .ok (some stored))
    (verified : stored.verify P budget = .ok history)
    (collisionFree : CollisionFree P (hashed P stored.enrollment stored.pin stored.log))
    (source : MembershipEndpoint) :
    (checkSource P stored source budget = .ok () ↔
      ∃ proof, lineage P stored source budget = .ok proof) ∧
    (checkSource P stored source budget = .ok () ↔ OnLog P stored source) := by
  have derived : ∀ event ∈ stored.events, Event.fromEvidence P event.evidence = .ok event :=
    fun event member => ((load_eq_ok.mp loaded).readable event member).derived
  obtain ⟨record, start, opened, ran, _⟩ := verify_eq_ok.mp verified
  have distinct : (stored.events.map Event.successor).Nodup :=
    successors_nodup collisionFree opened.genesis (anchor_hashed opened.decoded) derived
      (fun event member => hashed_covers member) ran
  have fits : stored.enrollment.length ≤ budget.maxBytes := by
    have small := opened.fewBytes
    omega
  have onLog : checkSource P stored source budget = .ok () ↔ OnLog P stored source :=
    ⟨onLog_of_checkSource verified derived,
      fun onLog => checkSource_of_onLog derived distinct collisionFree onLog fits⟩
  exact ⟨onLog.trans (onLog_iff_lineage verified), onLog⟩

end

/-- The enrollment and one recovery. -/
def Sample.recoveredLog : Stored :=
  ⟨scope, pin, enrollment, ⟨states 1, 1, 1⟩, [recoveryRow (states 0) 0]⟩

def Sample.recoveredStore : MembershipStore :=
  { store with
    accepted := some ⟨scope, pin, enrollment, ⟨states 1, 1, 1⟩⟩
    events := Table.empty.upsert 0 (recoveryRow (states 0) 0).row }

theorem Sample.recoveredLog_loads : ∃ history,
    load primitives recoveredStore currentBudget = .ok (some recoveredLog) ∧
      recoveredLog.verify primitives currentBudget = .ok history := by
  obtain ⟨history, verified⟩ : ∃ history, recoveredLog.verify primitives currentBudget = .ok history :=
    exists_of_isOk (by decide +kernel)
  have linked : states 0 ≠ .zero := by decide
  refine ⟨history, within_loads rfl rfl ?_ ?_ (by decide +kernel) verified
    ⟨by decide +kernel, by decide +kernel⟩⟩
  · intro event member
    obtain rfl := List.mem_singleton.mp member
    exact fromEvidence_recovery linked 0
  · intro event member
    obtain rfl := List.mem_singleton.mp member
    exact sized_of_allowed (recoveryRow_allowed _ _)

/-- The state before the recovery is on its log, at the first epochs only. -/
theorem anchor_test_iff_lineage_sample :
    load Sample.primitives Sample.recoveredStore currentBudget = .ok (some Sample.recoveredLog) ∧
    (∃ proof, lineage Sample.primitives Sample.recoveredLog ⟨Sample.states 0, 1, 1⟩ currentBudget =
      .ok proof) ∧
    ¬ ∃ proof, lineage Sample.primitives Sample.recoveredLog ⟨Sample.states 0, 2, 2⟩ currentBudget =
      .ok proof := by
  obtain ⟨history, loaded, verified⟩ := Sample.recoveredLog_loads
  have collisionFree : CollisionFree Sample.primitives
      (hashed Sample.primitives Sample.enrollment Sample.pin Sample.recoveredLog.log) := by
    rw [hashed, Sample.record_decoded]
    decide +kernel
  have test := anchor_test_iff_lineage loaded verified collisionFree
  have refused : checkSource Sample.primitives Sample.recoveredLog ⟨Sample.states 0, 2, 2⟩
      currentBudget ≠ .ok () := by decide +kernel
  exact ⟨loaded, (test _).1.mp (by decide +kernel), fun proven => refused ((test _).1.mpr proven)⟩

end ContextRelay.Membership
