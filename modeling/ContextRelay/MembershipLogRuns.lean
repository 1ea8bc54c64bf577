import ContextRelay.MembershipLog
import ContextRelay.MembershipMaterial

/-! Runs of the calls that write the accepted log: it is only ever appended to, it loads and
verifies again after every call, and an extension that is submitted again changes nothing. Each
call is one transaction, so a call that fails leaves the store as it was. -/
namespace ContextRelay.Membership

open Library Library.Cbor

/-! ## Calls -/

/-- One budget allows everything that another allows. -/
def MembershipHistoryBudget.Within (used larger : MembershipHistoryBudget) : Prop :=
  used.maxEvents ≤ larger.maxEvents ∧ used.maxBytes ≤ larger.maxBytes

/-- A call that writes the accepted log. A bootstrap has no budget of its own: it comes with the
one under which its caller reads it back in the same transaction. -/
inductive LogCall where
  | bootstrap (enrollment : Bytes) (pin : Sha256Digest) (scope : SyncScope)
      (endpoint : MembershipEndpoint) (budget : MembershipHistoryBudget)
  | admission (setting : AdmissionSetting) (draw : Nat) (enrollment : Bytes)
      (parentEvents : List MembershipHistoryEvent) (confirmed : ConfirmedV2Transcript)
      (request : SignedPairingRequest) (signature : Ed25519SignatureBytes) (keys : DeviceKeys)
      (budget : MembershipHistoryBudget)
  | extension (expected successor : MembershipEndpoint) (events : List MembershipHistoryEvent)
      (budget : MembershipHistoryBudget)

/-- The event of an admission: the statement that its approved payload determines. -/
def admissionEvent (P : ControlPrimitives) (confirmed : ConfirmedV2Transcript)
    (request : SignedPairingRequest) (signature : Ed25519SignatureBytes) :
    Option MembershipHistoryEvent :=
  (do let statement ← DeviceMembershipAddStatementV1.fromApprovedPayloadV2 P confirmed.canonicalBytes
      statement.signingPreimage).toOption.map fun bytes =>
    .pairingAdd bytes signature request confirmed.canonicalBytes

namespace LogCall

def budget : LogCall → MembershipHistoryBudget
  | .bootstrap _ _ _ _ budget => budget
  | .admission _ _ _ _ _ _ _ _ budget => budget
  | .extension _ _ _ budget => budget

variable (P : ControlPrimitives)

/-- The events that a call is given to append. -/
def given : LogCall → List MembershipHistoryEvent
  | .bootstrap _ _ _ _ _ => []
  | .admission _ _ _ parentEvents confirmed request signature _ _ =>
    parentEvents ++ (admissionEvent P confirmed request signature).toList
  | .extension _ _ events _ => events

def attempt (store : MembershipStore) :
    LogCall → Except VaultError (CommitDisposition × MembershipStore)
  | .bootstrap enrollment pin scope endpoint _ => do
    let store ← Membership.bootstrap store enrollment pin scope endpoint
    pure (.inserted, store)
  | .admission setting draw enrollment parentEvents confirmed request signature keys budget =>
    acceptConfirmedMembershipAdmission P setting draw store enrollment parentEvents confirmed request
      signature keys budget
  | .extension expected successor events budget =>
    acceptMembershipExtension P store expected successor events budget

/-- The store after a call: a failed transaction is rolled back. -/
def after (store : MembershipStore) (call : LogCall) : MembershipStore :=
  match call.attempt P store with
  | .ok (_, written) => written
  | .error _ => store

/-- There is room for the rows as SQL counts them: a signature for every event, also for a
recovery. And a bootstrap writes an enrollment that verifies. -/
def Fits (store : MembershipStore) : LogCall → Prop
  | .bootstrap enrollment pin scope endpoint budget => store.accepted = none →
    ∃ history, Stored.verify P ⟨scope, pin, enrollment, endpoint, []⟩ budget = .ok history
  | .admission setting draw enrollment parentEvents confirmed request signature keys budget =>
    store.accepted = none →
    let events := given P (.admission setting draw enrollment parentEvents confirmed request
      signature keys budget)
    enrollment.length + logBytes events + 64 * recoveries events ≤ budget.maxBytes
  | .extension expected _ events budget =>
    store.accepted.map AcceptedRow.endpoint = some expected →
    storedBytes store + logBytes events + 64 * recoveries events ≤ budget.maxBytes

end LogCall

/-- The store after calls in order. -/
def afterCalls (P : ControlPrimitives) (store : MembershipStore) (calls : List LogCall) :
    MembershipStore :=
  calls.foldl (LogCall.after P) store

/-- Every call of a run that inserts fits where it is made. -/
def AllFit (P : ControlPrimitives) : MembershipStore → List LogCall → Prop
  | _, [] => True
  | store, call :: calls =>
    (∀ written, call.attempt P store = .ok (.inserted, written) → call.Fits P store) ∧
      AllFit P (call.after P store) calls

/-- The store loads and verifies under every budget from the given one on, with the endpoint that
the replay of its log ends at. SQL takes a size below 2^63. -/
def Established (P : ControlPrimitives) (used : MembershipHistoryBudget) (store : MembershipStore)
    (stored : Stored) : Prop :=
  ∀ larger, used.Within larger → larger.maxBytes < 2 ^ 63 →
    load P store larger = .ok (some stored) ∧
    ∃ history, stored.verify P larger = .ok history ∧ history.endpoint = stored.endpoint

variable {P : ControlPrimitives}

/-! ## Larger budgets -/

section

variable {stored : Stored} {history : VerifiedMembershipHistory} {budget : MembershipHistoryBudget}
  {store after written : MembershipStore} {enrollment : Bytes} {bundle : PairingKeyBundle}
  {keys : DeviceKeys} {confirmed : ConfirmedV2Transcript}
  {parentEvents : List MembershipHistoryEvent} {request : SignedPairingRequest}
  {signature : Ed25519SignatureBytes} {expected successor : MembershipEndpoint}
  {budgets : List MembershipHistoryBudget} {call : LogCall}

theorem verify_mono (within : used.Within larger) (verified : stored.verify P used = .ok history) : stored.verify P larger = .ok history := by
  obtain ⟨record, start, opened, ran, ended⟩ := verify_eq_ok.mp verified
  exact verify_eq_ok.mpr ⟨record, start, { opened with
    fewEvents := le_trans opened.fewEvents within.1
    fewBytes := le_trans opened.fewBytes within.2 }, ran, ended⟩

theorem verify_endpoint (verified : stored.verify P budget = .ok history) :
    history.endpoint = stored.endpoint := by
  obtain ⟨_, _, _, _, ended⟩ := verify_eq_ok.mp verified
  exact ended

/-- A log that was verified and written is established, where SQL counts its rows in. -/
theorem established_of_verified
    (accepted : store.accepted = some ⟨stored.scope, stored.pin, stored.enrollment, stored.endpoint⟩)
    (rows : store.events.rows = placed stored.events 0)
    (derived : ∀ event ∈ stored.events, Event.fromEvidence P event.evidence = .ok event)
    (sized : ∀ event ∈ stored.events, event.Sized) (enrolled : 1 ≤ stored.enrollment.length)
    (verified : stored.verify P used = .ok history)
    (few : stored.enrollment.length + logBytes stored.log + 64 * recoveries stored.log ≤ used.maxBytes) : Established P used store stored := by
  intro larger within small
  have loads := loads_of_verified accepted rows derived sized enrolled verified within.1 small
    (le_trans few within.2)
  exact ⟨load_eq_ok.mpr loads, history, verify_mono within verified, verify_endpoint verified⟩

/-! ## Bootstrap -/

theorem bootstrap_ok (ran : bootstrap store enrollment pin scope endpoint = .ok after) :
    store.accepted = none ∧ 1 ≤ enrollment.length ∧
      after = { store with accepted := some ⟨scope, pin, enrollment, endpoint⟩ } := by
  simp only [bootstrap, ok_iff] at ran
  obtain ⟨vacant, ⟨enrolled, _⟩, rfl⟩ := ran
  exact ⟨vacant, enrolled.1, rfl⟩

/-! ## Retained keys leave the log alone -/

theorem insertSecret_ok (ran : insertSecret store device epoch independent row = .ok after) :
    ∃ secrets, store.secrets.insert? (toLex (device, toLex (epoch, independent))) row =
      some secrets ∧ after = { store with secrets } := by
  simp only [insertSecret, ok_iff] at ran
  obtain ⟨_, secrets, inserted, rfl⟩ := ran
  exact ⟨secrets, inserted, rfl⟩

theorem retain_ok
    (ran : retain P draw store stored device bundle independent provenance keys budget = .ok after) :
    ∃ secrets, after = { store with secrets } := by
  have unchanged : ∃ secrets, store = { store with secrets } := ⟨store.secrets, rfl⟩
  simp only [retain, bind_eq_ok] at ran
  obtain ⟨kept, _, decided⟩ := ran
  cases kept with
  | none =>
    simp only [bind_eq_ok] at decided
    obtain ⟨_, _, _, _, written⟩ := decided
    obtain ⟨secrets, _, same⟩ := insertSecret_ok written
    exact ⟨secrets, same⟩
  | some previous =>
    simp only [ok_iff] at decided
    obtain ⟨_, decided⟩ := decided
    split at decided
    · obtain rfl := Except.ok.inj decided
      exact unchanged
    · simp only [bind_eq_ok] at decided
      obtain ⟨again, _, decided⟩ := decided
      split at decided
      · obtain rfl := Except.ok.inj decided
        exact unchanged
      · simp only [bind_eq_ok] at decided
        obtain ⟨_, _, _, _, written⟩ := decided
        obtain ⟨secrets, _, same⟩ := insertSecret_ok written
        exact ⟨secrets, same⟩

theorem retainAdmission_ok
    (ran : retainAdmission P draw store stored confirmed bundle keys budget = .ok after) :
    after.accepted = store.accepted ∧ after.events = store.events := by
  simp only [retainAdmission] at ran
  split at ran
  · simp only [ok_iff] at ran
    obtain ⟨_, _, _, rfl, retained⟩ := ran
    obtain ⟨secrets, rfl⟩ := retain_ok retained
    exact ⟨rfl, rfl⟩
  · simp only [ok_iff] at ran
    obtain ⟨_, rfl, retained⟩ := ran
    obtain ⟨secrets, rfl⟩ := retain_ok retained
    exact ⟨rfl, rfl⟩

/-! ## Admission -/

/-- The log that an admission verified: its parent events and the admission itself. -/
theorem prepareAdmission_ok
    (ran : prepareAdmission P enrollment parentEvents confirmed request signature keys budget =
      .ok (stored, bundle)) :
    stored.enrollment = enrollment ∧
      stored.log = parentEvents ++ (admissionEvent P confirmed request signature).toList ∧
      (∀ event ∈ stored.events, Event.fromEvidence P event.evidence = .ok event) ∧
      ∃ history, stored.verify P budget = .ok history := by
  simp only [prepareAdmission, ok_iff, Prod.mk.injEq] at ran
  obtain ⟨statement, derives, bytes, preimage, _, _, _, _, _, _, _, _, _, earlier, collected, last,
    derived, history, verified, rfl, rfl⟩ := ran
  obtain ⟨evidence, every⟩ := collect_fromEvidence collected
  have own := (fromEvidence_ok derived).1
  have event : admissionEvent P confirmed request signature =
      some (.pairingAdd bytes signature request confirmed.canonicalBytes) := by
    simp only [admissionEvent, derives, ok_bind, preimage]
    rfl
  refine ⟨rfl, ?_, ?_, history, verified⟩
  · rw [Stored.log, List.map_append, List.map_singleton, evidence, own, event]
    rfl
  · intro event member
    rcases List.mem_append.mp member with old | new
    · exact every event old
    · obtain rfl := List.mem_singleton.mp new
      rw [own, derived]

/-- An admission either finds its own log, or writes it into a vault that has none. -/
theorem acceptConfirmedMembershipAdmission_ok
    (ran : acceptConfirmedMembershipAdmission P setting draw store enrollment parentEvents confirmed request signature keys budget = .ok (disposition, after)) :
    ∃ stored bundle,
      prepareAdmission P enrollment parentEvents confirmed request signature keys budget =
        .ok (stored, bundle) ∧
      ((disposition = .exactReplay ∧ load P store budget = .ok (some stored) ∧
          after.accepted = store.accepted ∧ after.events = store.events) ∨
        (disposition = .inserted ∧ store.accepted = none ∧ store.events.rows = [] ∧
          1 ≤ enrollment.length ∧
          after.accepted = some ⟨stored.scope, stored.pin, enrollment, stored.endpoint⟩ ∧
          after.events.rows = placed stored.events 0 ∧ ∀ event ∈ stored.events, event.row.Allowed)) := by
  simp only [acceptConfirmedMembershipAdmission, ok_iff, Prod.exists] at ran
  obtain ⟨stored, bundle, prepared, _, loaded, found, decided⟩ := ran
  refine ⟨stored, bundle, prepared, ?_⟩
  cases loaded with
  | some existing =>
    simp only [ok_iff, Prod.mk.injEq] at decided
    obtain ⟨_, _, same, written, retained, rfl, rfl⟩ := decided
    obtain rfl : existing = stored := by
      cases existing
      cases stored
      simpa using same
    exact .inl ⟨rfl, found, retainAdmission_ok retained⟩
  | none =>
    simp only [ok_iff, Prod.mk.injEq] at decided
    obtain ⟨_, _, begun, bootstrapped, inserted, insertion, written, retained, rfl, rfl⟩ := decided
    obtain ⟨vacant, enrolled, rfl⟩ := bootstrap_ok bootstrapped
    have empty : store.events.rows = [] := by
      simp only [load, vacant, ok_iff] at found
      exact List.length_eq_zero_iff.mp found.1
    obtain ⟨table, rfl, rows, allowed⟩ := insertEvents_ok (by simp [empty]) insertion
    obtain ⟨accepted, events⟩ := retainAdmission_ok retained
    refine .inr ⟨rfl, vacant, empty, enrolled, accepted, ?_, allowed⟩
    rw [events, rows]
    simp [empty]

/-! ## Submitting an extension again -/

theorem collect_of_derived
    (derived : ∀ event ∈ added, Event.fromEvidence P event.evidence = .ok event) :
    collect (Event.fromEvidence P) (added.map Event.evidence) = .ok added := by
  apply collect_eq_ok.mpr
  induction added with
  | nil => exact .nil
  | cons event rest ih =>
    exact .cons (derived event (by simp)) (ih fun other later => derived other (by simp [later]))

/-- The extension that a store last appended is found at the end of its log. -/
theorem Appended.resubmitted
    (appended : Appended P store after expected successor extension budget stored added)
    (verified : stored.verify P budget = .ok history)
    (loaded : load P later budget = .ok (some { stored with endpoint := successor, events := stored.events ++ added })) :
    acceptMembershipExtension P later expected successor extension budget =
      .ok (.exactReplay, later) := by
  obtain ⟨extended, extendedVerified⟩ := appended.verified
  have collected : collect (Event.fromEvidence P) extension = .ok added := by
    rw [← appended.evidence]
    exact collect_of_derived appended.derived
  have start : (stored.events ++ added).length - added.length = stored.events.length := by
    rw [List.length_append, Nat.add_sub_cancel]
  have prior : ({ stored with endpoint := expected, events := stored.events } : Stored) = stored := by
    rw [← appended.endpoint]
  simp only [acceptMembershipExtension, loaded, ok_bind, present_some, extendedVerified,
    require_pos (And.intro appended.nonempty appended.fits), collected, require_pos appended.ends,
    if_true, start]
  rw [require_pos (by simp), ok_bind, List.drop_left, List.take_left,
    require_pos (by
      intro pair member
      obtain ⟨place, _, _, rfl⟩ := List.mem_iff_getElem.mp member
      simp), ok_bind, prior, verified]
  rfl

/-! ## One call -/

/-- What a store holds between calls: no membership at all, or an established one. -/
def Reached (P : ControlPrimitives) (budgets : List MembershipHistoryBudget)
    (store : MembershipStore) : Prop :=
  (store.accepted = none ∧ store.events.rows = []) ∨
    (store.accepted.isSome ∧ ∃ used ∈ budgets, ∃ stored, Established P used store stored)

/-- What one call does to the log. -/
structure Kept (P : ControlPrimitives) (budgets : List MembershipHistoryBudget)
    (store : MembershipStore) (call : LogCall) : Prop where
  /-- The rows load and verify, under every budget from one of the budgets used on. -/
  reached : Reached P budgets (call.after P store)
  /-- The events are those that the call was given, behind the ones that were there. -/
  inserted : ∀ written, call.attempt P store = .ok (.inserted, written) →
    ∃ added, added.map Event.evidence = call.given P ∧
      written.events.rows = store.events.rows ++ placed added store.events.size
  replayed : ∀ written, call.attempt P store = .ok (.exactReplay, written) →
    written.accepted = store.accepted ∧ written.events = store.events
  failed : ∀ error, call.attempt P store = .error error → call.after P store = store
  expected : ∀ expected successor events budget,
    call = .extension expected successor events budget →
    (call.after P store).events ≠ store.events →
    store.accepted.map AcceptedRow.endpoint = some expected
  /-- While nothing more is appended, the same extension is an exact replay. -/
  resubmitted : ∀ expected successor events budget written,
    call = .extension expected successor events budget →
    call.attempt P store = .ok (.inserted, written) →
    ∀ later : MembershipStore, later.accepted = written.accepted → later.events = written.events →
      call.attempt P later = .ok (.exactReplay, later)

theorem load_congr (accepted : store.accepted = other.accepted)
    (events : store.events = other.events) (budget : MembershipHistoryBudget) :
    load P store budget = load P other budget := by
  unfold load storedBytes
  rw [accepted, events]

theorem Reached.congr (reached : Reached P budgets store)
    (accepted : other.accepted = store.accepted) (events : other.events = store.events) : Reached P budgets other := by
  rcases reached with ⟨vacant, empty⟩ | ⟨present, used, among, stored, established⟩
  · exact .inl ⟨accepted.trans vacant, events ▸ empty⟩
  · refine .inr ⟨accepted ▸ present, used, among, stored, ?_⟩
    intro larger within small
    rw [load_congr accepted events]
    exact established larger within small

theorem Reached.more {more : List MembershipHistoryBudget} (reached : Reached P budgets store) : Reached P (budgets ++ more) store := by
  rcases reached with vacant | ⟨present, used, among, established⟩
  · exact .inl vacant
  · exact .inr ⟨present, used, List.mem_append_left _ among, established⟩

namespace LogCall

theorem after_of_ok (ran : call.attempt P store = .ok (disposition, written)) : call.after P store = written := by
  rw [after, ran]

theorem after_of_error (failed : call.attempt P store = .error error) : call.after P store = store := by
  rw [after, failed]

end LogCall

/-- A bootstrap establishes an enrollment without events. -/
theorem bootstrap_reaches (reached : Reached P budgets store)
    (fits : (LogCall.bootstrap enrollment pin scope endpoint budget).Fits P store)
    (ran : bootstrap store enrollment pin scope endpoint = .ok written) :
    Reached P (budgets ++ [budget]) written ∧ written.events = store.events := by
  obtain ⟨vacant, enrolled, rfl⟩ := bootstrap_ok ran
  obtain ⟨history, verified⟩ := fits vacant
  obtain ⟨_, _, opened, _⟩ := verify_eq_ok.mp verified
  have empty : store.events.rows = [] := by
    rcases reached with ⟨_, empty⟩ | ⟨present, _⟩
    · exact empty
    · rw [vacant] at present
      cases present
  exact ⟨.inr ⟨rfl, budget, by simp, ⟨scope, pin, enrollment, endpoint, []⟩,
    established_of_verified rfl (by simp [empty, placed]) (by simp) (by simp) enrolled verified
      opened.fewBytes⟩, rfl⟩

/-- An admission that was not there before establishes its log in an empty vault. -/
theorem admission_reaches
    (fits : (LogCall.admission setting draw enrollment parentEvents confirmed request signature keys budget).Fits P store)
    (ran : acceptConfirmedMembershipAdmission P setting draw store enrollment parentEvents confirmed request signature keys budget = .ok (.inserted, written)) :
    Reached P (budgets ++ [budget]) written ∧ ∃ added,
      added.map Event.evidence =
        parentEvents ++ (admissionEvent P confirmed request signature).toList ∧
      written.events.rows = store.events.rows ++ placed added store.events.size := by
  obtain ⟨stored, bundle, prepared, ⟨replay, _⟩ |
    ⟨_, vacant, empty, enrolled, accepted, rows, allowed⟩⟩ :=
      acceptConfirmedMembershipAdmission_ok ran
  · cases replay
  · obtain ⟨rfl, log, derived, history, verified⟩ := prepareAdmission_ok prepared
    have few := fits vacant
    simp only [LogCall.given, ← log] at few
    refine ⟨.inr ⟨by rw [accepted]; rfl, budget, by simp, stored, ?_⟩, stored.events, log, ?_⟩
    · exact established_of_verified accepted rows derived
        (fun event member => sized_of_allowed (allowed event member)) enrolled verified few
    · rw [rows, Table.size, empty]
      rfl

/-- An extension that was not there before establishes the longer log. -/
theorem extension_reaches
    (fits : (LogCall.extension expected successor events budget).Fits P store)
    (ran : acceptMembershipExtension P store expected successor events budget = .ok (.inserted, written)) :
    Reached P (budgets ++ [budget]) written ∧
      store.accepted.map AcceptedRow.endpoint = some expected ∧
      (∃ added, added.map Event.evidence = events ∧
        written.events.rows = store.events.rows ++ placed added store.events.size) ∧
      ∀ later : MembershipStore, later.accepted = written.accepted → later.events = written.events →
        acceptMembershipExtension P later expected successor events budget =
          .ok (.exactReplay, later) := by
  obtain ⟨stored, loads, ⟨history, verified⟩, ⟨replay, _⟩ | ⟨_, added, appended⟩⟩ :=
    acceptMembershipExtension_ok ran
  · cases replay
  · have current : store.accepted.map AcceptedRow.endpoint = some expected := by
      rw [loads.accepted, Option.map_some, appended.endpoint]
    have few := fits current
    rw [storedBytes_eq loads.accepted loads.rows] at few
    have room : stored.enrollment.length + logBytes (stored.log ++ events) +
        64 * recoveries (stored.log ++ events) ≤ budget.maxBytes := by
      simp only [logBytes, recoveries, List.flatMap_append, List.sum_append, List.countP_append,
        Stored.log] at few ⊢
      omega
    have size : store.events.size = stored.events.length := by
      rw [Table.size, loads.rows, length_placed]
    obtain ⟨extended, extendedVerified⟩ := appended.verified
    have after := appended.after
    obtain ⟨table, rows, rfl⟩ := after
    refine ⟨.inr ⟨rfl, budget, by simp,
      { stored with endpoint := successor, events := stored.events ++ added }, ?_⟩, current,
      ⟨added, appended.evidence, by rw [size]; exact rows⟩, ?_⟩
    · intro larger within small
      exact ⟨load_eq_ok.mpr (appended.loads loads within.1 small (le_trans room within.2)), extended,
        verify_mono within extendedVerified, verify_endpoint extendedVerified⟩
    · intro later accepted events
      have small := lt_of_le_asI64 loads.enrollmentFits.1 loads.enrollmentFits.2
      refine appended.resubmitted verified ?_
      rw [load_congr accepted events]
      exact load_eq_ok.mpr (appended.loads loads le_rfl small room)

theorem extension_replays
    (ran : acceptMembershipExtension P store expected successor events budget = .ok (.exactReplay, written)) : written = store := by
  obtain ⟨_, _, _, ⟨_, same, _⟩ | ⟨inserted, _⟩⟩ := acceptMembershipExtension_ok ran
  · exact same
  · cases inserted

/-- A call that inserted keeps the log. -/
theorem kept_of_inserted (attempted : call.attempt P store = .ok (.inserted, written))
    (reached : Reached P budgets written)
    (appends : ∃ added, added.map Event.evidence = call.given P ∧
      written.events.rows = store.events.rows ++ placed added store.events.size)
    (onExtension : ∀ expected successor events budget,
      call = .extension expected successor events budget →
      store.accepted.map AcceptedRow.endpoint = some expected ∧
      ∀ later : MembershipStore, later.accepted = written.accepted → later.events = written.events →
        call.attempt P later = .ok (.exactReplay, later)) : Kept P budgets store call := by
  have only : ∀ {other}, call.attempt P store = .ok (.inserted, other) → other = written := by
    intro other ran
    simpa using ran.symm.trans attempted
  exact {
    reached := by rw [LogCall.after_of_ok attempted]; exact reached
    inserted := fun other ran => by rw [only ran]; exact appends
    replayed := by simp [attempted]
    failed := by simp [attempted]
    expected := fun _ _ _ _ same _ => (onExtension _ _ _ _ same).1
    resubmitted := fun _ _ _ _ other same ran => by
      rw [only ran]
      exact (onExtension _ _ _ _ same).2 }

/-- A call that found its own log keeps it. -/
theorem kept_of_replayed (attempted : call.attempt P store = .ok (.exactReplay, written))
    (reached : Reached P budgets store) (accepted : written.accepted = store.accepted)
    (events : written.events = store.events) : Kept P budgets store call := by
  have reaches := LogCall.after_of_ok attempted
  exact {
    reached := by rw [reaches]; exact reached.congr accepted events
    inserted := by simp [attempted]
    replayed := by simpa [attempted] using And.intro accepted events
    failed := by simp [attempted]
    expected := fun _ _ _ _ _ changed => absurd (by rw [reaches, events]) changed
    resubmitted := by simp [attempted] }

theorem kept_of_failed (attempted : call.attempt P store = .error error)
    (reached : Reached P budgets store) : Kept P budgets store call := by
  have same := LogCall.after_of_error attempted
  exact {
    reached := by rw [same]; exact reached
    inserted := by simp [attempted]
    replayed := by simp [attempted]
    failed := fun _ _ => same
    expected := fun _ _ _ _ _ changed => absurd (by rw [same]) changed
    resubmitted := by simp [attempted] }

/-- One call keeps the log: the three kinds of calls, each with its three outcomes. -/
theorem call_kept (reached : Reached P budgets store)
    (fits : ∀ written, call.attempt P store = .ok (.inserted, written) → call.Fits P store) :
    Kept P (budgets ++ [call.budget]) store call := by
  cases attempted : call.attempt P store with
  | error error => exact kept_of_failed attempted reached.more
  | ok result =>
    obtain ⟨disposition, written⟩ := result
    cases call with
    | bootstrap enrollment pin scope endpoint budget =>
      cases disposition with
      | exactReplay => simp [LogCall.attempt, bind_eq_ok] at attempted
      | inserted =>
        have ran : bootstrap store enrollment pin scope endpoint = .ok written := by
          simpa [LogCall.attempt, bind_eq_ok] using attempted
        obtain ⟨establishes, same⟩ := bootstrap_reaches reached (fits _ attempted) ran
        exact kept_of_inserted attempted establishes ⟨[], rfl, by simp [same, placed]⟩ (by simp)
    | admission setting draw enrollment parentEvents confirmed request signature keys budget =>
      cases disposition with
      | exactReplay =>
        obtain ⟨_, _, _, ⟨_, _, accepted, events⟩ | ⟨inserted, _⟩⟩ :=
          acceptConfirmedMembershipAdmission_ok attempted
        · exact kept_of_replayed attempted reached.more accepted events
        · cases inserted
      | inserted =>
        obtain ⟨establishes, appends⟩ := admission_reaches (fits _ attempted) attempted
        exact kept_of_inserted attempted establishes appends (by simp)
    | extension expected successor events budget =>
      cases disposition with
      | exactReplay =>
        have same := extension_replays attempted
        exact kept_of_replayed attempted reached.more (by rw [same]) (by rw [same])
      | inserted =>
        obtain ⟨establishes, current, appends, again⟩ := extension_reaches (fits _ attempted) attempted
        refine kept_of_inserted attempted establishes appends ?_
        intro _ _ _ _ same
        cases same
        exact ⟨current, again⟩

end

/-! ## Runs -/

theorem allFit_append :
    AllFit P start (calls ++ more) ↔
      AllFit P start calls ∧ AllFit P (afterCalls P start calls) more := by
  induction calls generalizing start with
  | nil => simp [AllFit, afterCalls]
  | cons call calls ih =>
    simp only [List.cons_append, AllFit, ih, and_assoc]
    rfl

/-- Every run of calls that fit reaches a store that loads. -/
theorem run_reached (fresh : start.accepted = none ∧ start.events.rows = [])
    (fit : AllFit P start calls) :
    Reached P (calls.map LogCall.budget) (afterCalls P start calls) := by
  induction calls using List.reverseRecOn with
  | nil => exact .inl fresh
  | append_singleton calls call ih =>
    obtain ⟨before, fits, _⟩ := allFit_append.mp fit
    rw [afterCalls, List.foldl_append, List.map_append]
    exact (call_kept (ih before) fits).reached

/-- In every run whose inserting calls fit, each call keeps the log: the stored rows load and verify under
every budget from one of those used on, at the endpoint of their replay; the events are the earlier
ones, followed by exactly the given ones where the call inserted; an extension is appended only at
its expected endpoint and is an exact replay afterwards; and a call that fails changes nothing. -/
theorem membership_log_runs {start : MembershipStore}
    (fresh : start.accepted = none ∧ start.events.rows = []) {calls : List LogCall} {call : LogCall}
    (fit : AllFit P start (calls ++ [call])) :
    Kept P ((calls ++ [call]).map LogCall.budget) (afterCalls P start calls) call := by
  obtain ⟨before, fits, _⟩ := allFit_append.mp fit
  rw [List.map_append]
  exact call_kept (run_reached fresh before) fits

namespace Sample

/-- A vault before any membership. -/
def fresh : MembershipStore := { store with accepted := none }

def enrollmentCall (besides : Nat) : LogCall :=
  .bootstrap enrollment pin scope ⟨states 0, 1, 1⟩ (budgetFor besides)

def recoveryCall (besides : Nat) : LogCall :=
  .extension ⟨states 0, 1, 1⟩ ⟨states 1, 1, 1⟩ [recoveryEvent (states 0) 0] (budgetFor besides)

theorem after_enrollmentCall (besides : Nat) :
    (enrollmentCall besides).after primitives fresh = store := by
  have vacant : fresh.accepted = none := rfl
  have sized : (1 ≤ enrollment.length ∧ enrollment.length ≤ 8388608) ∧
      EpochsAllowed ⟨states 0, 1, 1⟩ := by
    decide +kernel
  have ran : (enrollmentCall besides).attempt primitives fresh = .ok (.inserted, store) := by
    simp only [enrollmentCall, LogCall.attempt, bootstrap, require_pos vacant, require_pos sized,
      ok_bind]
    rfl
  exact LogCall.after_of_ok ran

theorem store_verified (besides : Nat) : ∃ history,
    Stored.verify primitives ⟨scope, pin, enrollment, ⟨states 0, 1, 1⟩, []⟩ (budgetFor besides) =
      .ok history := by
  have ends : start.endpoint = ⟨states 0, 1, 1⟩ := by decide +kernel
  refine ⟨start, verify_eq_ok.mpr ⟨record, start, ?_, rfl, ends⟩⟩
  exact {
    fewEvents := Nat.zero_le _
    fewBytes := by simp only [budgetFor, logBytes]; exact Nat.le_add_right_of_le (Nat.le_add_right _ _)
    pinned := ⟨lengthDigest_ne_zero _, rfl⟩
    decoded := record_decoded
    genesis := genesis_started }

theorem calls_fit : AllFit primitives fresh ([enrollmentCall 64] ++ [recoveryCall 64]) := by
  refine ⟨fun _ _ _ => store_verified 64, ?_, trivial⟩
  rw [after_enrollmentCall]
  intro _ _ _
  have counted : storedBytes store = enrollment.length := Nat.zero_add _
  rw [counted, logBytes_recovery]
  exact le_rfl

/-- The budget of both calls no longer reads what they wrote under it. -/
theorem run_not_loaded :
    (enrollmentCall 0).budget = budgetFor 0 ∧ (recoveryCall 0).budget = budgetFor 0 ∧
    load primitives (afterCalls primitives fresh [enrollmentCall 0, recoveryCall 0]) (budgetFor 0) =
      .error .budgetExceeded := by
  refine ⟨rfl, rfl, ?_⟩
  obtain ⟨after, stored, added, ran, loads, appended⟩ := recovery_accepted (by simp : 0 ∈ [0, 64])
  obtain ⟨⟨row, accepted⟩, counted⟩ := recovery_counted loads appended
  have accepts : (recoveryCall 0).attempt primitives store = .ok (.inserted, after) := ran
  rw [afterCalls, List.foldl_cons, after_enrollmentCall, List.foldl_cons, List.foldl_nil,
    LogCall.after_of_ok accepts]
  exact load_over_budget accepted (counted ▸ budgetFor_lt)

end Sample

/-- An enrollment and a recovery, with 64 bytes more than their evidence has. -/
theorem membership_log_runs_sample :
    AllFit Sample.primitives Sample.fresh ([Sample.enrollmentCall 64] ++ [Sample.recoveryCall 64]) ∧
    Kept Sample.primitives
      (([Sample.enrollmentCall 64] ++ [Sample.recoveryCall 64]).map LogCall.budget)
      (afterCalls Sample.primitives Sample.fresh [Sample.enrollmentCall 64])
      (Sample.recoveryCall 64) :=
  ⟨Sample.calls_fit, membership_log_runs ⟨rfl, rfl⟩ Sample.calls_fit⟩

end ContextRelay.Membership
