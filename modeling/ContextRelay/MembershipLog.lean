import ContextRelay.MembershipBinding
import ContextRelay.MembershipStore

/-! What the stored log loads as. The rows of a log that loads are exactly the rows its events
are inserted as, in order and linked; an event of a verified log is readable again once it is
inserted. What SQL counts for a recovery differs from what the replay counts: the row has a
signature column, the evidence has none. -/
namespace ContextRelay.Membership

open Library Library.Cbor

variable {P : ControlPrimitives}

/-! ## Events and their evidence -/

private theorem statement_ne_nil
    (decoded : DeviceRevocationStatementV1.fromSigningPreimage statement = .ok s) :
    statement ≠ [] := by
  rintro rfl
  simp only [DeviceRevocationStatementV1.fromSigningPreimage, ok_iff] at decoded
  have length := decoded.1
  simp at length

section

variable {event : Event} {extension : List MembershipHistoryEvent} {added : List Event}
  {request : SignedPairingRequest} {budget : MembershipHistoryBudget}
  {store after : MembershipStore} {stored : Stored} {record : RecoveryEnrollmentRecordV1}
  {history final : VerifiedMembershipHistory} {expected successor : MembershipEndpoint}

/-- An event is the evidence it was derived from, with the state before it and the state it leads
to. -/
theorem fromEvidence_ok (derived : Event.fromEvidence P evidence = .ok event) :
    event.evidence = evidence ∧ namedState P evidence = some event.parent ∧
      event.successor = P.sha256 evidence.statePreimage := by
  cases evidence with
  | recoveryAdd canonicalClaim =>
    simp only [Event.fromEvidence, ok_iff] at derived
    obtain ⟨claim, decoded, successor, hashedAs, rfl⟩ := derived
    rw [recoveryMembershipSuccessor, decodeRecoveryDeviceClaimV2_ok decoded] at hashedAs
    exact ⟨rfl, by rw [namedState, decoded]; rfl, (Except.ok.inj hashedAs).symm⟩
  | pairingAdd statement signature request approvedPayload =>
    simp only [Event.fromEvidence, ok_iff] at derived
    obtain ⟨s, decoded, successor, hashedAs, rfl⟩ := derived
    rw [DeviceMembershipAddStatementV1.controlStateSha256,
      DeviceMembershipAddStatementV1.fromSigningPreimage_ok decoded] at hashedAs
    exact ⟨by simp [Event.evidence], by rw [namedState, decoded]; rfl, (Except.ok.inj hashedAs).symm⟩
  | revocation statement signature transition =>
    simp only [Event.fromEvidence, ok_iff] at derived
    obtain ⟨s, decoded, t, transitionDecoded, successor, hashedAs, rfl⟩ := derived
    rw [DeviceRevocationStatementV1.controlStateSha256,
      DeviceRevocationStatementV1.fromSigningPreimage_ok decoded] at hashedAs
    exact ⟨by simp [Event.evidence, statement_ne_nil decoded],
      by rw [namedState, transitionDecoded]; rfl, (Except.ok.inj hashedAs).symm⟩

/-- The events of an extension are derived from their own evidence. -/
theorem collect_fromEvidence (derived : collect (Event.fromEvidence P) extension = .ok added) :
    added.map Event.evidence = extension ∧
      ∀ event ∈ added, Event.fromEvidence P event.evidence = .ok event := by
  have pairs := collect_eq_ok.mp derived
  clear derived
  induction pairs with
  | nil => exact ⟨rfl, by simp⟩
  | cons first rest ih =>
    obtain ⟨same, all⟩ := ih
    have own := (fromEvidence_ok first).1
    refine ⟨by rw [List.map_cons, own, same], ?_⟩
    intro event member
    rcases List.mem_cons.mp member with rfl | later
    · rw [own, first]
    · exact all event later

/-! ## The accounts of bytes -/

def MembershipHistoryEvent.isRecovery : MembershipHistoryEvent → Bool
  | .recoveryAdd _ => true
  | _ => false

def recoveries (events : List MembershipHistoryEvent) : Nat := events.countP (·.isRecovery)

/-- SQL counts a signature for every row; the replay counts none for a recovery. -/
theorem bytes_row (event : Event) :
    event.row.bytes =
      event.evidence.sizes.sum + if event.evidence.isRecovery then 64 else 0 := by
  unfold Event.evidence Event.row EventRow.bytes
  have signature : event.signature.bytes.length = 64 := by simp
  cases request : event.request with
  | some signed =>
    simp [MembershipHistoryEvent.sizes, MembershipHistoryEvent.isRecovery, signature]
    omega
  | none =>
    by_cases empty : event.statement = []
    · simp [empty, MembershipHistoryEvent.sizes, MembershipHistoryEvent.isRecovery, signature]
      omega
    · simp [empty, MembershipHistoryEvent.sizes, MembershipHistoryEvent.isRecovery, signature]
      omega

theorem sum_bytes_rows (events : List Event) :
    (events.map fun event => event.row.bytes).sum =
      logBytes (events.map Event.evidence) + 64 * recoveries (events.map Event.evidence) := by
  induction events with
  | nil => rfl
  | cons event rest ih =>
    simp only [logBytes, recoveries] at ih ⊢
    rw [List.map_cons, List.sum_cons, ih, bytes_row, List.map_cons, List.flatMap_cons,
      List.sum_append, List.countP_cons]
    split <;> omega

/-! ## Rows -/

/-- Rows that the events are inserted as, from an offset on. -/
def placed (events : List Event) (offset : Nat) : List (Nat × EventRow) :=
  (events.zipIdx offset).map fun place => (place.2, place.1.row)

theorem placed_cons (event : Event) (events : List Event) (offset : Nat) :
    placed (event :: events) offset = (offset, event.row) :: placed events (offset + 1) := rfl

theorem placed_append (events more : List Event) (offset : Nat) :
    placed (events ++ more) offset = placed events offset ++ placed more (offset + events.length) := by
  rw [placed, List.zipIdx_append, List.map_append]
  rfl

theorem length_placed (events : List Event) (offset : Nat) :
    (placed events offset).length = events.length := by
  simp [placed]

theorem lt_of_mem_placed (member : row ∈ placed events offset) : row.1 < offset + events.length := by
  obtain ⟨place, among, rfl⟩ := List.mem_map.mp member
  have bound := (List.mem_zipIdx among).2.1
  omega

theorem map_snd_placed (events : List Event) (offset : Nat) :
    (placed events offset).map Prod.snd = events.map Event.row := by
  induction events generalizing offset with
  | nil => rfl
  | cons event rest ih => rw [placed_cons, List.map_cons, ih, List.map_cons]

theorem map_bytes_placed (events : List Event) (offset : Nat) :
    ((placed events offset).map Prod.snd).map EventRow.bytes =
      events.map fun event => event.row.bytes := by
  rw [map_snd_placed, List.map_map]
  rfl

/-- The events are linked by their state hashes. -/
def Chained (events : List Event) : Prop :=
  events.IsChain fun earlier later => earlier.successor = later.parent

/-- An event whose row loads again. -/
structure Readable (P : ControlPrimitives) (budget : MembershipHistoryBudget) (event : Event) :
    Prop where
  derived : Event.fromEvidence P event.evidence = .ok event
  request : ∀ request, event.request = some request →
    verifyPairingRequest P request.request = .ok request
  statementFits : if event.row.kind = .recoveryAdd then event.row.statement.length = 0
    else 1 ≤ event.row.statement.length ∧ event.row.statement.length ≤ 512
  requestFits : (event.row.request.length : Int) ≤ asI64 budget.maxBytes
  artifactFits : 1 ≤ event.artifact.length ∧ (event.artifact.length : Int) ≤ asI64 budget.maxBytes

/-- A request that verified is the decoding of its own bytes. -/
theorem verifyPairingRequest_decodes
    (verified : verifyPairingRequest P request.request = .ok request) :
    decodePairingRequestV1 request.canonicalBytes = .ok request.request := by
  simp only [verifyPairingRequest, ok_iff] at verified
  obtain ⟨_, canonical, encoded, same⟩ := verified
  apply decodePairingRequestV1_eq_ok.mpr
  rw [encoded, ← same]

theorem verifyPairingRequest_request {request : PairingRequestV1}
    (verified : verifyPairingRequest P request = .ok signed) : signed.request = request := by
  simp only [verifyPairingRequest, ok_iff] at verified
  obtain ⟨_, canonical, encoded, rfl⟩ := verified
  rfl

/-- The request column of an inserted event reads as the event's request. -/
theorem loadRequest_row (verified : ∀ request, event.request = some request →
      verifyPairingRequest P request.request = .ok request) :
    loadRequest P event.row = .ok event.request := by
  cases found : event.request with
  | some request =>
    have kind : event.row.kind = .pairingAdd := by simp [Event.row, found]
    have bytes : event.row.request = request.canonicalBytes := by simp [Event.row, found]
    simp only [loadRequest, kind, bytes, verifyPairingRequest_decodes (verified request found),
      verified request found, orFail, ok_bind, require_true]
    rfl
  | none =>
    have bytes : event.row.request = [] := by simp [Event.row, found]
    have kind : event.row.kind ≠ .pairingAdd := by
      by_cases empty : event.statement = [] <;> simp [Event.row, found, empty]
    simp only [loadRequest, bytes, require_true]
    rfl

/-- A row whose request column reads is the row of the event that it holds. -/
theorem row_of_loadRequest {row : EventRow} {request : Option SignedPairingRequest}
    (requested : loadRequest P row = .ok request)
    (fits : if row.kind = .recoveryAdd then row.statement.length = 0
      else 1 ≤ row.statement.length ∧ row.statement.length ≤ 512) :
    Event.row ⟨row.parent, row.successor, row.statement, row.signature, request, row.artifact⟩ =
        row ∧
      ∀ signed, request = some signed → verifyPairingRequest P signed.request = .ok signed := by
  obtain ⟨successor, parent, kind, statement, signature, stored, artifact⟩ := row
  cases kind with
  | pairingAdd =>
    simp only [loadRequest, ok_iff] at requested
    obtain ⟨parsed, _, signed, verified, rfl, rfl⟩ := requested
    refine ⟨rfl, ?_⟩
    intro other same
    obtain rfl := Option.some.inj same
    rw [verifyPairingRequest_request verified, verified]
  | revocation =>
    simp only [loadRequest, ok_iff] at requested
    obtain ⟨rfl, rfl⟩ := requested
    have nonempty : statement ≠ [] := by
      rintro rfl
      simp at fits
    exact ⟨by simp [Event.row, nonempty], by simp⟩
  | recoveryAdd =>
    simp only [loadRequest, ok_iff] at requested
    obtain ⟨rfl, rfl⟩ := requested
    obtain rfl : statement = [] := by simpa using fits
    exact ⟨by simp [Event.row], by simp⟩

/-- One row loads as the event that is inserted as that row. -/
theorem loadEvent_eq_ok {loaded result : List Event} {found : Nat × EventRow} :
    loadEvent P budget loaded found = .ok result ↔
      ∃ event, Readable P budget event ∧ found = (loaded.length, event.row) ∧
        (∀ last ∈ loaded.getLast?, last.successor = event.parent) ∧ result = loaded ++ [event] := by
  obtain ⟨ordinal, row⟩ := found
  simp only [loadEvent, ok_iff]
  constructor
  · rintro ⟨rfl, requestFits, request, requested, statementFits, artifactFits, derived, derives,
      ⟨rfl, linked⟩, rfl⟩
    obtain ⟨same, verified⟩ := row_of_loadRequest requested statementFits
    refine ⟨_, ⟨derives, verified, ?_, ?_, artifactFits⟩, by rw [same], linked, rfl⟩
    · rw [same]
      exact statementFits
    · rw [same]
      exact requestFits
  · rintro ⟨event, readable, same, linked, rfl⟩
    obtain ⟨rfl, rfl⟩ := Prod.mk.inj same
    exact ⟨rfl, readable.requestFits, event.request, loadRequest_row readable.request,
      readable.statementFits, readable.artifactFits, event, readable.derived, ⟨rfl, linked⟩, rfl⟩

/-- The rows that load are the rows of readable events that are linked. -/
theorem thread_loadEvent (linked : Chained loaded) :
    thread (loadEvent P budget) loaded rows = .ok result ↔
      ∃ events, result = loaded ++ events ∧ rows = placed events loaded.length ∧
        (∀ event ∈ events, Readable P budget event) ∧ Chained (loaded ++ events) := by
  induction rows generalizing loaded with
  | nil =>
    simp only [thread, Except.ok.injEq]
    constructor
    · rintro rfl
      exact ⟨[], by simp, rfl, by simp, by simpa using linked⟩
    · rintro ⟨events, rfl, none, _⟩
      have empty := congrArg List.length none
      rw [length_placed, List.length_nil] at empty
      rw [List.length_eq_zero_iff.mp empty.symm, List.append_nil]
  | cons row rest ih =>
    simp only [thread, bind_eq_ok, loadEvent_eq_ok]
    constructor
    · rintro ⟨_, ⟨event, readable, rfl, follows, rfl⟩, finished⟩
      have longer : Chained (loaded ++ [event]) :=
        List.isChain_append.mpr ⟨linked, List.isChain_singleton _, by
          intro last isLast first isFirst
          obtain rfl : event = first := by simpa using isFirst
          exact follows last isLast⟩
      obtain ⟨events, rfl, rfl, all, chained⟩ := (ih longer).mp finished
      refine ⟨event :: events, by simp, ?_, ?_, by simpa using chained⟩
      · rw [placed_cons, List.length_append, List.length_singleton]
      · intro other member
        rcases List.mem_cons.mp member with rfl | later
        · exact readable
        · exact all other later
    · rintro ⟨events, rfl, same, all, chained⟩
      cases events with
      | nil => cases same
      | cons event events =>
        rw [placed_cons] at same
        obtain ⟨rfl, rfl⟩ := List.cons.inj same
        have split : loaded ++ event :: events = (loaded ++ [event]) ++ events := by simp
        rw [split] at chained
        have longer : Chained (loaded ++ [event]) := (List.isChain_append.mp chained).1
        refine ⟨_, ⟨event, all event (by simp), rfl, ?_, rfl⟩, (ih longer).mpr
          ⟨events, split, by rw [List.length_append, List.length_singleton], ?_, chained⟩⟩
        · intro last isLast
          exact (List.isChain_append.mp longer).2.2 last isLast event (by simp)
        · intro other later
          exact all other (by simp [later])

/-- What a store holds that loads. -/
structure Loads (P : ControlPrimitives) (store : MembershipStore) (budget : MembershipHistoryBudget)
    (stored : Stored) : Prop where
  accepted : store.accepted = some ⟨stored.scope, stored.pin, stored.enrollment, stored.endpoint⟩
  rows : store.events.rows = placed stored.events 0
  fewEvents : stored.events.length ≤ budget.maxEvents
  fewBytes : stored.enrollment.length + logBytes stored.log + 64 * recoveries stored.log ≤
    budget.maxBytes
  enrollmentFits : 1 ≤ stored.enrollment.length ∧
    (stored.enrollment.length : Int) ≤ asI64 budget.maxBytes
  readable : ∀ event ∈ stored.events, Readable P budget event
  chained : Chained stored.events

theorem storedBytes_eq {row : AcceptedRow} (accepted : store.accepted = some row)
    (rows : store.events.rows = placed events 0) :
    storedBytes store = row.enrollment.length + logBytes (events.map Event.evidence) +
      64 * recoveries (events.map Event.evidence) := by
  rw [storedBytes, accepted, Table.values, rows, map_bytes_placed, sum_bytes_rows]
  simp only [Option.map_some, Option.getD_some]
  omega

theorem load_eq_ok :
    load P store budget = .ok (some stored) ↔ Loads P store budget stored := by
  constructor
  · intro loaded
    cases accepted : store.accepted with
    | none =>
      simp only [load, accepted, ok_iff, reduceCtorEq, and_false] at loaded
    | some row =>
      simp only [load, accepted, ok_iff, Option.some.injEq] at loaded
      obtain ⟨⟨fewEvents, fewBytes⟩, enrollmentFits, events, ran, rfl⟩ := loaded
      obtain ⟨found, same, rows, readable, chained⟩ :=
        (thread_loadEvent List.isChain_nil).mp ran
      obtain rfl : events = found := same
      rw [storedBytes_eq accepted rows] at fewBytes
      rw [Table.size, rows, length_placed] at fewEvents
      exact ⟨accepted, rows, fewEvents, fewBytes, enrollmentFits, readable, chained⟩
  · intro loads
    have bytes := storedBytes_eq loads.accepted loads.rows
    have size : store.events.size = stored.events.length := by
      rw [Table.size, loads.rows, length_placed]
    have ran : thread (loadEvent P budget) [] store.events.rows = .ok stored.events :=
      (thread_loadEvent List.isChain_nil).mpr
        ⟨stored.events, rfl, loads.rows, loads.readable, loads.chained⟩
    simp only [load, loads.accepted]
    rw [require_pos ⟨size ▸ loads.fewEvents, bytes ▸ loads.fewBytes⟩, ok_bind,
      require_pos loads.enrollmentFits, ok_bind, ran]
    rfl

/-! ## Appending -/

/-- Events that are inserted behind all others go to the end of the table. -/
theorem insertEvents_ok (below : ∀ row ∈ store.events.rows, row.1 < offset)
    (ran : insertEvents store events offset = .ok after) :
    ∃ table : Table Nat EventRow, after = { store with events := table } ∧
      table.rows = store.events.rows ++ placed events offset ∧
      ∀ event ∈ events, event.row.Allowed := by
  unfold insertEvents at ran
  induction events generalizing store offset with
  | nil =>
    obtain rfl := Except.ok.inj ran
    exact ⟨store.events, rfl, by simp [placed], by simp⟩
  | cons event events ih =>
    simp only [List.zipIdx_cons, thread, insertEvent, ok_iff] at ran
    obtain ⟨_, ⟨allowed, _, table, inserted, rfl⟩, finished⟩ := ran
    have rows := Table.rows_insert? below inserted
    obtain ⟨final, rfl, finalRows, all⟩ := ih (Table.rows_lt_succ below rows) finished
    refine ⟨final, rfl, ?_, ?_⟩
    · rw [finalRows, rows, placed_cons, List.append_assoc, List.singleton_append]
    · intro other member
      rcases List.mem_cons.mp member with rfl | later
      · exact allowed
      · exact all other later

/-- The events of a run are linked, from the state before it to the state it reaches. -/
theorem chained_of_thread
    (derived : ∀ event ∈ events, Event.fromEvidence P event.evidence = .ok event)
    (ran : thread (advance P record) history (events.map Event.evidence) = .ok final) :
    Chained events ∧ (∀ first ∈ events.head?, first.parent = history.state.stateSha256) ∧
      ∀ last ∈ events.getLast?, last.successor = final.state.stateSha256 := by
  induction events generalizing history with
  | nil => exact ⟨List.isChain_nil, by simp, by simp⟩
  | cons event events ih =>
    simp only [List.map_cons, thread, bind_eq_ok] at ran
    obtain ⟨next, advanced, finished⟩ := ran
    obtain ⟨named, _, reached⟩ := advance_binds advanced
    obtain ⟨_, parent, successor⟩ := fromEvidence_ok (derived event (by simp))
    obtain ⟨chained, starts, ends⟩ :=
      ih (fun other member => derived other (by simp [member])) finished
    have own : event.parent = history.state.stateSha256 :=
      Option.some.inj (parent.symm.trans named)
    have leads : event.successor = next.state.stateSha256 := successor.trans reached.symm
    refine ⟨?_, by simpa using own, ?_⟩
    · cases events with
      | nil => exact List.isChain_singleton _
      | cons second rest =>
        exact List.isChain_cons_cons.mpr ⟨leads.trans (starts second (by simp)).symm, chained⟩
    · cases events with
      | nil =>
        obtain rfl := Except.ok.inj finished
        simpa using leads
      | cons second rest =>
        intro last isLast
        exact ends last (by simpa using isLast)

/-- A request that is exactly its verification verifies as itself. -/
theorem verifyPairingRequest_of_exact (checked : requireExactSignedRequest P request = .ok ()) :
    verifyPairingRequest P request.request = .ok request := by
  simp only [requireExactSignedRequest, ok_iff] at checked
  obtain ⟨verified, ran, sameDigest, sameBytes⟩ := checked
  have sameRequest := verifyPairingRequest_request ran
  rw [ran]
  cases request
  cases verified
  simp_all

/-- The requests of the pairings in an accepted run verify. -/
theorem requests_of_thread {events : List Event}
    (ran : thread (advance P record) history (events.map Event.evidence) = .ok final)
    (member : event ∈ events) (found : event.request = some request) :
    verifyPairingRequest P request.request = .ok request := by
  obtain ⟨before, after, advanced⟩ := thread_steps ran (List.mem_map_of_mem member)
  obtain ⟨_, commits, _⟩ := advance_binds advanced
  have evidence : event.evidence =
      .pairingAdd event.statement event.signature request event.artifact := by
    simp [Event.evidence, found]
  rw [evidence] at commits
  obtain ⟨_, _, _, _, _, _, checked⟩ := commits
  exact verifyPairingRequest_of_exact checked

theorem asI64_of_lt (small : value < 2 ^ 63) : asI64 value = value := if_pos small

theorem lt_of_le_asI64 {size value : Nat} (positive : 1 ≤ size) (fits : (size : Int) ≤ asI64 value) :
    value < 2 ^ 63 := by
  unfold asI64 at fits
  split at fits
  · assumption
  · omega

theorem verify_eq_ok :
    stored.verify P budget = .ok history ↔
      ∃ record start, Opened P stored.enrollment stored.pin stored.scope stored.log budget record
        start ∧ thread (advance P record) start stored.log = .ok history ∧
        history.endpoint = stored.endpoint := by
  rw [Stored.verify, orFail_eq_ok, verifyMembershipHistory_eq_ok]

/-- What an accepted extension did, when it was not there before. -/
structure Appended (P : ControlPrimitives) (store after : MembershipStore)
    (expected successor : MembershipEndpoint) (extension : List MembershipHistoryEvent)
    (budget : MembershipHistoryBudget) (stored : Stored) (added : List Event) : Prop where
  endpoint : stored.endpoint = expected
  different : stored.endpoint ≠ successor
  nonempty : extension ≠ []
  evidence : added.map Event.evidence = extension
  derived : ∀ event ∈ added, Event.fromEvidence P event.evidence = .ok event
  fits : extension.length ≤ budget.maxEvents ∧ logBytes extension ≤ budget.maxBytes
  ends : added.head?.map Event.parent = some expected.stateSha256 ∧
    added.getLast?.map Event.successor = some successor.stateSha256
  verified : ∃ history, ({ stored with
    endpoint := successor, events := stored.events ++ added } : Stored).verify P budget = .ok history
  allowed : ∀ event ∈ added, event.row.Allowed
  after : ∃ table : Table Nat EventRow,
    table.rows = store.events.rows ++ placed added stored.events.length ∧
    after = { store with
      accepted := some ⟨stored.scope, stored.pin, stored.enrollment, successor⟩
      events := table }

/-- An extension is accepted when it is the end of the log already, or verifies behind it. -/
theorem acceptMembershipExtension_ok {disposition : CommitDisposition}
    (ran : acceptMembershipExtension P store expected successor extension budget =
      .ok (disposition, after)) :
    ∃ stored, Loads P store budget stored ∧ (∃ history, stored.verify P budget = .ok history) ∧
      ((disposition = .exactReplay ∧ after = store ∧ stored.endpoint = successor) ∨
        (disposition = .inserted ∧
          ∃ added, Appended P store after expected successor extension budget stored added)) := by
  simp only [acceptMembershipExtension, ok_iff] at ran
  obtain ⟨_, loaded, stored, rfl, history, verified, ⟨nonempty, fits⟩, added, collected, ends,
    decided⟩ := ran
  have loads := load_eq_ok.mp loaded
  refine ⟨stored, loads, ⟨history, verified⟩, ?_⟩
  obtain ⟨evidence, derived⟩ := collect_fromEvidence collected
  by_cases same : stored.endpoint = successor
  · rw [if_pos same] at decided
    simp only [ok_iff, Prod.mk.injEq] at decided
    obtain ⟨_, _, _, _, rfl, rfl⟩ := decided
    exact .inl ⟨rfl, rfl, same⟩
  · rw [if_neg same] at decided
    simp only [ok_iff, Prod.mk.injEq] at decided
    obtain ⟨endpoint, extended, extendedVerified, inserted, insertion, swapped, swap, rfl, rfl⟩ :=
      decided
    obtain ⟨table, rfl, rows, allowed⟩ := insertEvents_ok (by
      intro row member
      rw [loads.rows] at member
      simpa using lt_of_mem_placed member) insertion
    simp only [swapEndpoint, loads.accepted, present_some, ok_bind, ok_iff] at swap
    obtain ⟨_, _, rfl⟩ := swap
    exact .inr ⟨rfl, added, {
      endpoint, different := same, nonempty, evidence, derived, fits, ends
      verified := ⟨extended, extendedVerified⟩
      allowed
      after := ⟨table, rows, rfl⟩ }⟩

/-- The columns of an event have the sizes that its row must have, whatever the budget. -/
def Event.Sized (event : Event) : Prop :=
  (if event.row.kind = .recoveryAdd then event.row.statement.length = 0
    else 1 ≤ event.row.statement.length ∧ event.row.statement.length ≤ 512) ∧
  1 ≤ event.artifact.length

theorem Readable.sized (readable : Readable P budget event) : event.Sized :=
  ⟨readable.statementFits, readable.artifactFits.1⟩

theorem sized_of_allowed (allowed : event.row.Allowed) : event.Sized := by
  obtain ⟨statementFits, _, _, artifact, _⟩ := allowed
  exact ⟨statementFits, artifact⟩

/-- Inserted events of a log that verified are readable wherever SQL counts them in. -/
theorem readable_of_verified {events : List Event}
    (derived : ∀ event ∈ events, Event.fromEvidence P event.evidence = .ok event)
    (ran : thread (advance P record) history (events.map Event.evidence) = .ok final)
    (small : budget.maxBytes < 2 ^ 63)
    (few : logBytes (events.map Event.evidence) + 64 * recoveries (events.map Event.evidence) ≤
      budget.maxBytes) (member : event ∈ events) (sized : event.Sized) : Readable P budget event := by
  have row : event.row.bytes ≤ budget.maxBytes := by
    rw [← sum_bytes_rows] at few
    have among : event.row.bytes ∈ events.map fun event => event.row.bytes :=
      List.mem_map.mpr ⟨event, member, rfl⟩
    exact le_trans (List.single_le_sum (fun _ _ => Nat.zero_le _) _ among) few
  have columns : event.row.request.length ≤ event.row.bytes ∧
      event.artifact.length ≤ event.row.bytes := by
    have same : event.row.artifact = event.artifact := rfl
    unfold EventRow.bytes
    rw [same]
    omega
  refine ⟨derived event member, fun request found => requests_of_thread ran member found,
    sized.1, ?_, sized.2, ?_⟩
  · rw [asI64_of_lt small]
    omega
  · rw [asI64_of_lt small]
    omega

/-- A log that verified loads from the rows it was written as, wherever SQL counts them in. -/
theorem loads_of_verified {larger : MembershipHistoryBudget}
    (accepted : store.accepted = some ⟨stored.scope, stored.pin, stored.enrollment, stored.endpoint⟩)
    (rows : store.events.rows = placed stored.events 0)
    (derived : ∀ event ∈ stored.events, Event.fromEvidence P event.evidence = .ok event)
    (sized : ∀ event ∈ stored.events, event.Sized) (enrolled : 1 ≤ stored.enrollment.length)
    (verified : stored.verify P budget = .ok history)
    (moreEvents : budget.maxEvents ≤ larger.maxEvents) (small : larger.maxBytes < 2 ^ 63)
    (few : stored.enrollment.length + logBytes stored.log + 64 * recoveries stored.log ≤
      larger.maxBytes) : Loads P store larger stored := by
  obtain ⟨record, start, opened, ran, _⟩ := verify_eq_ok.mp verified
  have fits : logBytes stored.log + 64 * recoveries stored.log ≤ larger.maxBytes := by omega
  exact {
    accepted, rows
    fewEvents := by
      have few := opened.fewEvents
      rw [Stored.log, List.length_map] at few
      exact le_trans few moreEvents
    fewBytes := few
    enrollmentFits := by
      refine ⟨enrolled, ?_⟩
      rw [asI64_of_lt small]
      omega
    readable := fun event member =>
      readable_of_verified derived ran small fits member (sized event member)
    chained := (chained_of_thread derived ran).1 }

/-- The longer log of an append, event by event. -/
theorem Appended.events (loads : Loads P store budget stored)
    (appended : Appended P store after expected successor extension budget stored added) :
    (∀ event ∈ stored.events ++ added, Event.fromEvidence P event.evidence = .ok event ∧
      event.Sized) ∧ (stored.events ++ added).map Event.evidence = stored.log ++ extension := by
  refine ⟨?_, ?_⟩
  · intro event member
    rcases List.mem_append.mp member with old | new
    · exact ⟨(loads.readable event old).derived, (loads.readable event old).sized⟩
    · exact ⟨appended.derived event new, sized_of_allowed (appended.allowed event new)⟩
  · rw [List.map_append, appended.evidence]
    rfl

/-- After an append the store loads as the longer log, wherever SQL counts it in. -/
theorem Appended.loads {larger : MembershipHistoryBudget} (loads : Loads P store budget stored)
    (appended : Appended P store after expected successor extension budget stored added)
    (moreEvents : budget.maxEvents ≤ larger.maxEvents) (small : larger.maxBytes < 2 ^ 63)
    (few : stored.enrollment.length + logBytes (stored.log ++ extension) +
      64 * recoveries (stored.log ++ extension) ≤ larger.maxBytes) :
    Loads P after larger
      { stored with endpoint := successor, events := stored.events ++ added } := by
  obtain ⟨every, log⟩ := appended.events loads
  obtain ⟨table, rows, rfl⟩ := appended.after
  obtain ⟨history, verified⟩ := appended.verified
  refine loads_of_verified rfl ?_ (fun event member => (every event member).1)
    (fun event member => (every event member).2) loads.enrollmentFits.1 verified moreEvents small ?_
  · rw [rows, loads.rows, placed_append, Nat.zero_add]
  · simp only [Stored.log, log]
    exact few

/-- SQL counts the longer log with a signature for every recovery. -/
theorem Appended.storedBytes (loads : Loads P store budget stored)
    (appended : Appended P store after expected successor extension budget stored added) :
    storedBytes after = stored.enrollment.length + logBytes (stored.log ++ extension) +
      64 * recoveries (stored.log ++ extension) := by
  obtain ⟨table, rows, rfl⟩ := appended.after
  have all : table.rows = placed (stored.events ++ added) 0 := by
    rw [rows, loads.rows, placed_append, Nat.zero_add]
  rw [storedBytes_eq rfl all, List.map_append, appended.evidence]
  rfl

theorem load_over_budget (accepted : store.accepted = some row)
    (exceeded : budget.maxBytes < storedBytes store) :
    load P store budget = .error .budgetExceeded := by
  simp only [load, accepted]
  rw [require, if_neg (fun within => absurd within.2 (by omega))]
  rfl

end

/-- A store that just accepted an extension loads under the same budget exactly when SQL counts
the longer log in, with a signature for every recovery, or the extension was there before. -/
theorem loads_after_extension_iff {store after : MembershipStore}
    {expected successor : MembershipEndpoint} {extension : List MembershipHistoryEvent}
    {budget : MembershipHistoryBudget} {disposition : CommitDisposition}
    (accepted : acceptMembershipExtension P store expected successor extension budget =
      .ok (disposition, after)) :
    ∃ stored, load P store budget = .ok (some stored) ∧
      ((∃ reloaded, load P after budget = .ok (some reloaded)) ↔
        stored.endpoint = successor ∨
          stored.enrollment.length + logBytes (stored.log ++ extension) +
            64 * recoveries (stored.log ++ extension) ≤ budget.maxBytes) := by
  obtain ⟨stored, loads, _, replay | ⟨_, added, appended⟩⟩ := acceptMembershipExtension_ok accepted
  · obtain ⟨_, rfl, same⟩ := replay
    have loaded := load_eq_ok.mpr loads
    exact ⟨stored, loaded, fun _ => .inl same, fun _ => ⟨stored, loaded⟩⟩
  · refine ⟨stored, load_eq_ok.mpr loads, ?_, ?_⟩
    · rintro ⟨reloaded, again⟩
      have reloads := load_eq_ok.mp again
      have counted := storedBytes_eq reloads.accepted reloads.rows
      rw [appended.storedBytes loads] at counted
      exact .inr (counted.trans_le reloads.fewBytes)
    · rintro (same | few)
      · exact absurd same appended.different
      · have small := lt_of_le_asI64 loads.enrollmentFits.1 loads.enrollmentFits.2
        exact ⟨_, load_eq_ok.mpr (appended.loads loads le_rfl small few)⟩

namespace Sample

/-- A vault with the enrollment and no event. -/
def store : MembershipStore where
  accepted := some ⟨scope, pin, enrollment, ⟨states 0, 1, 1⟩⟩
  events := .empty
  secrets := .empty
  confirmedAdmissions := .empty
  activation := none
  genesisAnchor := true
  enrollment := some ⟨true, enrollment, record, envelope, pin⟩
  rootMaterialSeeds := []

/-- A budget for the enrollment, one claim and some bytes besides. -/
def budgetFor (besides : Nat) : MembershipHistoryBudget :=
  ⟨1, enrollment.length + (encodeClaimMap (claim (states 0) 0) true).length + besides⟩

theorem store_loads {budget : MembershipHistoryBudget}
    (loads : Loads primitives store budget stored) :
    stored.enrollment = enrollment ∧ stored.endpoint = ⟨states 0, 1, 1⟩ ∧ stored.log = [] := by
  have row := Option.some.inj loads.accepted
  have empty := congrArg List.length loads.rows
  rw [length_placed] at empty
  refine ⟨(congrArg AcceptedRow.enrollment row).symm, (congrArg AcceptedRow.endpoint row).symm, ?_⟩
  rw [Stored.log, List.length_eq_zero_iff.mp empty.symm, List.map_nil]

theorem logBytes_recovery : logBytes [recoveryEvent (states 0) 0] =
    (encodeClaimMap (claim (states 0) 0) true).length := by
  simp [logBytes, recoveryEvent, MembershipHistoryEvent.sizes]

/-- The first recovery is accepted with no byte to spare. -/
theorem recovery_accepted {besides : Nat} (among : besides ∈ [0, 64]) : ∃ after stored added,
    acceptMembershipExtension primitives store ⟨states 0, 1, 1⟩ ⟨states 1, 1, 1⟩
      [recoveryEvent (states 0) 0] (budgetFor besides) = .ok (.inserted, after) ∧
    Loads primitives store (budgetFor besides) stored ∧
    Appended primitives store after ⟨states 0, 1, 1⟩ ⟨states 1, 1, 1⟩ [recoveryEvent (states 0) 0]
      (budgetFor besides) stored added := by
  have both : ∀ besides ∈ [0, 64], (acceptMembershipExtension primitives store ⟨states 0, 1, 1⟩
      ⟨states 1, 1, 1⟩ [recoveryEvent (states 0) 0] (budgetFor besides)).isOk = true := by
    decide +kernel
  obtain ⟨⟨disposition, after⟩, ran⟩ := exists_of_isOk (both besides among)
  obtain ⟨stored, loads, _, ⟨_, _, same⟩ | ⟨rfl, added, appended⟩⟩ := acceptMembershipExtension_ok ran
  · rw [(store_loads loads).2.1] at same
    exact absurd same (by decide)
  · exact ⟨after, stored, added, ran, loads, appended⟩

/-- SQL counts 64 bytes more than the evidence has. -/
theorem recovery_counted {besides : Nat} {stored : Stored} {added : List Event}
    (loads : Loads primitives store (budgetFor besides) stored)
    (appended : Appended primitives store after ⟨states 0, 1, 1⟩ ⟨states 1, 1, 1⟩ [recoveryEvent (states 0) 0] (budgetFor besides) stored added) :
    (∃ row, after.accepted = some row) ∧ storedBytes after = (budgetFor 64).maxBytes := by
  obtain ⟨enrolled, _, none⟩ := store_loads loads
  have counted := appended.storedBytes loads
  rw [enrolled, none, List.nil_append, logBytes_recovery] at counted
  obtain ⟨table, _, rfl⟩ := appended.after
  exact ⟨⟨_, rfl⟩, counted⟩

theorem budgetFor_lt : (budgetFor 0).maxBytes < (budgetFor 64).maxBytes :=
  Nat.lt_add_of_pos_right (by decide)

/-- What was accepted no longer loads. -/
theorem recovery_not_loaded : ∃ after,
    acceptMembershipExtension primitives store ⟨states 0, 1, 1⟩ ⟨states 1, 1, 1⟩
      [recoveryEvent (states 0) 0] (budgetFor 0) = .ok (.inserted, after) ∧
    load primitives after (budgetFor 0) = .error .budgetExceeded := by
  obtain ⟨after, stored, added, ran, loads, appended⟩ := recovery_accepted (by simp : 0 ∈ [0, 64])
  obtain ⟨⟨row, accepted⟩, counted⟩ := recovery_counted loads appended
  exact ⟨after, ran, load_over_budget accepted (counted ▸ budgetFor_lt)⟩

end Sample

/-- With 64 bytes more for its signature column, the recovery loads again. -/
theorem loads_after_extension_sample : ∃ after,
    acceptMembershipExtension Sample.primitives Sample.store ⟨Sample.states 0, 1, 1⟩
      ⟨Sample.states 1, 1, 1⟩ [Sample.recoveryEvent (Sample.states 0) 0] (Sample.budgetFor 64) =
        .ok (.inserted, after) ∧
    ∃ reloaded, load Sample.primitives after (Sample.budgetFor 64) = .ok (some reloaded) := by
  obtain ⟨after, _, _, ran, _⟩ := Sample.recovery_accepted (by simp : 64 ∈ [0, 64])
  obtain ⟨stored, loaded, reloads⟩ := loads_after_extension_iff ran
  obtain ⟨enrolled, _, none⟩ := Sample.store_loads (load_eq_ok.mp loaded)
  refine ⟨after, ran, reloads.mpr (.inr ?_)⟩
  rw [enrolled, none, List.nil_append, Sample.logBytes_recovery, Sample.budgetFor]
  exact le_rfl

end ContextRelay.Membership
