import ContextRelay.MemoryTransport
import ContextRelay.PushRuns

/-! No outgoing update is lost. One client pushes to the in-memory provider; faults,
malformed receipts and a client that never finishes a push may come at any point. A
committed operation stays queued until the provider's log has its bytes. -/
namespace ContextRelay

open Library CanonicalOperation

variable {P : Primitives} {engine : SyncEngine} {v v' : Vault}

/-! ## The client and the provider -/

/-- The client, the provider, and the receipts the provider has given for prepared pushes. -/
structure PushWorld where
  client : PushState
  transport : InMemoryTransport
  answered : List (PreparedPush × PushReceipt)

/-- A push is finished with a failure, a receipt of the provider for it, or a malformed one. -/
def PushWorld.Answers (world : PushWorld) (push : PreparedPush) :
    Except TransportError PushReceipt → Prop
  | .error _ => True
  | .ok receipt => (push, receipt) ∈ world.answered ∨ ∃ code,
      validateReceipt (push.operations.map CanonicalOperation.operationId) receipt.accepted
        receipt.duplicates = .error code

/-- The receipt of a response, if it is one. -/
def receiptFor (push : PreparedPush) :
    Except TransportError PushReceipt → List (PreparedPush × PushReceipt)
  | .ok receipt => [(push, receipt)]
  | .error _ => []

/-- One step of the world. Anyone may push to the provider. -/
inductive PushWorldStep (P : Primitives) (engine : SyncEngine) : PushWorld → PushWorld → Prop where
  | client {world : PushWorld} {s' : PushState}
      (step : PushStep P engine world.Answers world.client s') :
      PushWorldStep P engine world { world with client := s' }
  | send {world : PushWorld} {push : PreparedPush} {transport' : InMemoryTransport}
      {response : Except TransportError PushReceipt} (issued : push ∈ world.client.issued)
      (ran : world.transport.pushOperations P push.scope push.operations = (response, transport')) :
      PushWorldStep P engine world
        ⟨world.client, transport', receiptFor push response ++ world.answered⟩
  | foreign {world : PushWorld} {scope : SyncScope} {batch : List CanonicalOperation}
      {transport' : InMemoryTransport} {response : Except TransportError PushReceipt}
      (ran : world.transport.pushOperations P scope batch = (response, transport')) :
      PushWorldStep P engine world { world with transport := transport' }
  | faults {world : PushWorld} (pushes : Nat) :
      PushWorldStep P engine world
        { world with transport := { world.transport with transientPushes := pushes } }

/-- Nothing signed, queued, sent or logged yet. -/
structure PushWorld.Fresh (world : PushWorld) : Prop where
  client : world.client.Fresh
  scopes : world.transport.scopes = .empty
  answered : world.answered = []

abbrev PushRun (P : Primitives) (engine : SyncEngine) : PushWorld → PushWorld → Prop :=
  Relation.ReflTransGen (PushWorldStep P engine)

/-- A local commit persisted the operation. -/
def Committed (v : Vault) (operation : SyncOperationV1) : Prop :=
  (∃ found, v.operationMeta.find? operation.operationId = some found ∧
    found.direction = .outgoing) ∧
  v.operations.find? operation.operationId = some ⟨operation.recordId, operation⟩

/-- The operation is still queued, or the log of its scope has its bytes. -/
def PushWorld.Safe (P : Primitives) (world : PushWorld) (operation : SyncOperationV1) : Prop :=
  (world.client.vault.outbox.find? operation.operationId).isSome ∨
    world.transport.Logged ⟨operation.accountId, operation.workspaceId⟩ operation.operationId
      (P.writeOperation operation)

/-! ## The invariant -/

structure WorldInvariant (P : Primitives) (engine : SyncEngine) (world : PushWorld) : Prop where
  client : ClientInvariant P engine world.client
  indexed : world.transport.Indexed
  answered : ∀ push receipt, (push, receipt) ∈ world.answered → ∀ item ∈ push.operations,
    world.transport.Logged push.scope item.operationId item.bytes
  safe : ∀ operation, Committed world.client.vault operation → world.Safe P operation

/-- What was not committed before was queued by the commit. -/
theorem Queues.committed (queues : Queues P v entries v') (committed : Committed v' operation) :
    Committed v operation ∧
        v'.outbox.find? operation.operationId = v.outbox.find? operation.operationId ∨
      (v'.outbox.find? operation.operationId).isSome := by
  induction queues with
  | done => exact .inl ⟨committed, rfl⟩
  | silent write _ ih =>
    refine (ih committed).imp_left ?_
    rintro ⟨⟨⟨found, foundAt, outgoing⟩, storedAt⟩, same⟩
    rw [write.signed.operationMeta] at foundAt
    rw [write.signed.operations _ (by simp [foundAt])] at storedAt
    exact ⟨⟨⟨found, foundAt, outgoing⟩, storedAt⟩, same.trans (write.queue _ (by simp [foundAt]))⟩
  | @persist v w _ _ _ built _ _ queuedAt _ _ _ valid _ ran _ ih =>
    rcases ih committed with ⟨⟨⟨found, foundAt, outgoing⟩, storedAt⟩, same⟩ | queued
    · have recorded := persistFresh_recorded valid ran
      obtain ⟨_, outbox, _⟩ := persistFresh_queued ran
      rw [outbox] at same
      by_cases own : built.operation.operationId = operation.operationId
      · exact .inr (by rw [same, own]; simp)
      · rw [recorded.operationMeta, Table.find?_upsert_of_ne _ _ own] at foundAt
        rw [recorded.operations, Table.find?_upsert_of_ne _ _ own] at storedAt
        rw [Table.find?_upsert_of_ne _ _ own] at same
        exact .inl ⟨⟨⟨found, foundAt, outgoing⟩, storedAt⟩, same⟩
    · exact .inr queued

theorem OutboxOnly.committed (only : OutboxOnly v v') :
    Committed v' operation ↔ Committed v operation := by
  rw [only]
  rfl

section

variable {world : PushWorld}

/-- Finishing a push takes from the queue only what the log has. -/
theorem Finished.safe (invariant : WorldInvariant P engine world)
    (issued : push ∈ world.client.issued) (answers : world.Answers push response)
    (finished : Finished P engine push response nowMs random world.client.vault result v')
    (committed : Committed world.client.vault operation) :
    (v'.outbox.find? operation.operationId).isSome ∨
      world.transport.Logged ⟨operation.accountId, operation.workspaceId⟩ operation.operationId
        (P.writeOperation operation) := by
  have before := invariant.safe operation committed
  cases finished with
  | refused => exact before
  | retried _ _ deferred => exact before.imp_left (fun queued => by rw [deferred.queued]; exact queued)
  | failed _ _ deferred => exact before.imp_left (fun queued => by rw [deferred.queued]; exact queued)
  | invalid _ _ deferred => exact before.imp_left (fun queued => by rw [deferred.queued]; exact queued)
  | @acknowledged receipt ids _ own held answered valid looked =>
    rw [acknowledgeOutbox_find?]
    split
    case isFalse => exact before
    case isTrue acknowledged =>
      right
      rw [validateReceipt_ok valid] at acknowledged
      obtain ⟨item, member, sameId⟩ := List.mem_map.mp acknowledged
      obtain ⟨_, row, _, _, storedAt, rfl, account, workspace⟩ :=
        (invariant.client.issued push issued).stored item member
      rw [sameId] at storedAt
      obtain rfl : row = ⟨operation.recordId, operation⟩ :=
        Option.some.inj (storedAt.symm.trans committed.2)
      have scope : push.scope = ⟨operation.accountId, operation.workspaceId⟩ := by
        rw [own, account, workspace]
      have sent : (push, receipt) ∈ world.answered := by
        subst answered
        rcases answers with sent | ⟨code, refused⟩
        · exact sent
        · exact absurd (valid.symm.trans refused) (by simp)
      have logged := invariant.answered push receipt sent _ member
      rw [scope] at logged
      exact logged

theorem PushStep.safe (invariant : WorldInvariant P engine world)
    (step : PushStep P engine world.Answers world.client s')
    (committed : Committed s'.vault operation) :
    PushWorld.Safe P { world with client := s' } operation := by
  cases step with
  | commit commits _ =>
    obtain ⟨entries, queues⟩ := commits.queues
    rcases queues.committed committed with ⟨earlier, same⟩ | queued
    · exact (invariant.safe operation earlier).imp_left (fun queued => by
        rw [same]
        exact queued)
    · exact .inl queued
  | prepare ran =>
    obtain ⟨only, kept⟩ := preparePush_keeps ran
    exact (invariant.safe operation (only.committed.mp committed)).imp_left (fun queued => by
      rw [kept]
      exact queued)
  | finish issued answered ran =>
    have finished := finishPush_finished ran
    have safe := finished.safe invariant issued answered
      (finished.unqueues.only.committed.mp committed)
    exact safe

theorem PushWorldStep.invariant (step : PushWorldStep P engine world world')
    (before : WorldInvariant P engine world) : WorldInvariant P engine world' := by
  -- A provider that only gained log entries keeps everything but its own answers.
  have extend : ∀ {transport'}, world.transport.Extends transport' →
      WorldInvariant P engine { world with transport := transport' } := by
    intro transport' extended
    refine ⟨before.client, extended.indexed, ?_, ?_⟩
    · intro push receipt sent item member
      exact extended.logged (before.answered push receipt sent item member)
    · intro operation committed
      exact (before.safe operation committed).imp_right extended.logged
  cases step with
  | client step =>
    exact ⟨step.clientInvariant before.client, before.indexed, before.answered,
      fun operation committed => step.safe before committed⟩
  | @send push transport' response issued ran =>
    obtain ⟨extended, logged⟩ := pushOperations_logs before.indexed ran
    have after := extend extended
    refine ⟨after.client, after.indexed, ?_, after.safe⟩
    intro other receipt sent
    rcases List.mem_append.mp sent with now | earlier
    · cases response with
      | error _ => simp [receiptFor] at now
      | ok given =>
        obtain ⟨rfl, rfl⟩ : other = push ∧ receipt = given := by simpa [receiptFor] using now
        exact logged _ rfl
    · exact after.answered other receipt earlier
  | foreign ran => exact extend (pushOperations_logs before.indexed ran).1
  | faults pushes => exact extend (.of_same before.indexed (fun _ => rfl))

theorem PushWorld.Fresh.invariant (fresh : world.Fresh) :
    WorldInvariant P engine world where
  client := fresh.client.clientInvariant
  indexed := by
    intro scope
    unfold InMemoryTransport.store
    rw [fresh.scopes]
    exact ScopeStore.Indexed.empty
  answered := by simp [fresh.answered]
  safe := by
    rintro operation ⟨⟨found, foundAt, _⟩, _⟩
    simp [fresh.client.unsigned.operationMeta] at foundAt

theorem PushRun.invariant (run : PushRun P engine start world)
    (before : WorldInvariant P engine start) : WorldInvariant P engine world := by
  induction run with
  | refl => exact before
  | tail _ step ih => exact step.invariant ih

/-- Committed operations stay committed. -/
theorem Retains.committed (retains : Retains v v') (committed : Committed v operation) :
    Committed v' operation := by
  obtain ⟨⟨found, foundAt, outgoing⟩, storedAt⟩ := committed
  obtain ⟨foundAfter, same⟩ := retains _ found foundAt
  exact ⟨⟨found, foundAfter, outgoing⟩, same.trans storedAt⟩

theorem PushRun.committed (run : PushRun P engine start world)
    (committed : Committed start.client.vault operation) :
    Committed world.client.vault operation := by
  induction run with
  | refl => exact committed
  | tail _ step ih =>
    cases step with
    | client step =>
      cases step with
      | commit commits _ =>
        obtain ⟨entries, queues⟩ := commits.queues
        exact queues.retains.committed ih
      | prepare ran => exact (preparePush_keeps ran).1.committed.mpr ih
      | finish _ _ ran => exact (finishPush_finished ran).unqueues.only.committed.mpr ih
    | send _ _ => exact ih
    | foreign _ => exact ih
    | faults _ => exact ih

end

/-! ## The theorem -/

/-- Exactly some ids left the queue. -/
def RemovesExactly (v v' : Vault) (ids : List OperationId) : Prop :=
  ∀ id, v'.outbox.find? id = if id ∈ ids then none else v.outbox.find? id

/-- Nothing left the queue. -/
def RemovesNothing (v v' : Vault) : Prop :=
  ∀ id, (v.outbox.find? id).isSome → (v'.outbox.find? id).isSome

/-- A due row was tried more often than the counter of a due operation can say. -/
def Overrun (v : Vault) (nowMs : Nat) : Prop :=
  ∃ entry ∈ v.queue, entry.row.nextAttemptMs ≤ min nowMs sqliteMax ∧ entry.row.retries = true ∧
    2 ^ 32 ≤ entry.row.attemptCount

theorem Finished.removes (client : ClientInvariant P engine ⟨v, issued⟩) (member : push ∈ issued)
    (finished : Finished P engine push response nowMs random v result v') :
    (∃ report, result = .ok report) ∧
        RemovesExactly v v' (push.operations.map operationId) ∨
      (∃ code, result = .error code) ∧ (RemovesNothing v v' ∨
        RemovesExactly v v' (push.operations.map operationId) ∧
          Overrun v' nowMs ∧ ∃ receipt ids, response = .ok receipt ∧
            validateReceipt (push.operations.map operationId) receipt.accepted
              receipt.duplicates = .ok ids) := by
  have kept : ∀ {retries code}, Deferred v v' retries code → RemovesNothing v v' :=
    fun deferred id queued => by rw [deferred.queued]; exact queued
  cases finished with
  | refused => exact .inr ⟨⟨_, rfl⟩, .inl (fun _ queued => queued)⟩
  | retried _ _ deferred => exact .inr ⟨⟨_, rfl⟩, .inl (kept deferred)⟩
  | failed _ _ deferred => exact .inr ⟨⟨_, rfl⟩, .inl (kept deferred)⟩
  | invalid _ _ deferred => exact .inr ⟨⟨_, rfl⟩, .inl (kept deferred)⟩
  | @acknowledged receipt ids _ own held answered valid looked =>
    have removed : RemovesExactly v (acknowledgeOutbox v ids)
        (push.operations.map operationId) := by
      intro id
      rw [acknowledgeOutbox_find?, if_congr (validateReceipt_ok valid id) rfl rfl]
    rcases looked with ⟨report, rfl⟩ | ⟨rfl, failure, failed⟩
    · exact .inl ⟨⟨report, rfl⟩, removed⟩
    · refine .inr ⟨⟨_, rfl⟩, .inr ⟨removed, ?_, receipt, ids, answered, valid⟩⟩
      have unqueues := acknowledgeOutbox_unqueues v ids
      obtain ⟨history, accepted⟩ := (client.issued push member).loaded
      obtain ⟨entry, taken, attempts⟩ := (client.queue.outbox unqueues.only unqueues.queued).dueOutbox_error
        accepted (by decide) (by decide) failed
      obtain ⟨queued, due⟩ := mem_dueQueue.mp (List.mem_of_mem_take taken)
      simp only [Vault.isDue, decide_eq_true_eq] at due
      exact ⟨entry, queued, due.1, due.2.2, attempts⟩

/-- In every run of a client against the in-memory provider, an operation that was ever
committed is queued or logged byte for byte. Finishing a push takes exactly its batch
from the queue when it succeeds, and nothing when it fails; the one exception is a
receipt that is in order while another due row has run over its attempt counter: the
batch is then taken, and the error is that of looking at the other row. -/
theorem outgoing_operations_survive {start world : PushWorld} (fresh : start.Fresh)
    (run : PushRun P engine start world) :
    (∀ middle operation, PushRun P engine start middle → PushRun P engine middle world →
      Committed middle.client.vault operation → world.Safe P operation) ∧
    ∀ push ∈ world.client.issued, ∀ response nowMs random result v',
      engine.finishPush P push response nowMs random world.client.vault = (result, v') →
        (∃ report, result = .ok report) ∧ RemovesExactly world.client.vault v'
            (push.operations.map CanonicalOperation.operationId) ∨
          (∃ code, result = .error code) ∧ (RemovesNothing world.client.vault v' ∨
            RemovesExactly world.client.vault v'
                (push.operations.map CanonicalOperation.operationId) ∧
              Overrun v' nowMs ∧ ∃ receipt ids, response = .ok receipt ∧
                validateReceipt (push.operations.map CanonicalOperation.operationId)
                  receipt.accepted receipt.duplicates = .ok ids) := by
  have invariant := run.invariant fresh.invariant
  refine ⟨?_, ?_⟩
  · intro middle operation _ later committed
    exact invariant.safe operation (later.committed committed)
  · intro push issued response nowMs random result v' ran
    exact (finishPush_finished ran).removes invariant.client issued

/-! ## Runs of one device -/

namespace Sample

def pusher : SyncEngine := .new ⟨account, workspace⟩ .memory

/-- The early operation waits in the queue after some attempts. -/
def waiting (attempts nextMs : Nat) (code : Option SafeErrorCode) : Vault :=
  { earlyCommitted with outbox := Table.empty.upsert (id 41) ⟨0, attempts, nextMs, code⟩ }

def earlyPush (attempts : Nat) : PreparedPush where
  scope := pusher.scope
  provider := .memory
  due := [⟨id 41, queueWorld.writeOperation early, attempts⟩]
  operations := [canonicalOperation queueWorld early]
  moreWork := false

theorem prepare_early (few : attempts < 2 ^ 32) (retries : code = none ∨ code = some .transient) :
    pusher.preparePush queueWorld 0 (waiting attempts 0 code) =
      (.ok (some (earlyPush attempts)), waiting attempts 0 code) := by
  have read : dueOperation queueWorld (waiting attempts 0 code) none
      ⟨id 41, ⟨0, attempts, 0, code⟩, early⟩ =
        .ok ⟨id 41, queueWorld.writeOperation early, attempts⟩ := by
    have counted : dueOperation queueWorld (waiting attempts 0 code) none
        ⟨id 41, ⟨0, attempts, 0, code⟩, early⟩ = (do
          require (attempts < 2 ^ 32) (.validation "invalid outbox attempt count")
          pure ⟨id 41, queueWorld.writeOperation early, attempts⟩) := rfl
    rw [counted, require_pos few]
    rfl
  have entries : (waiting attempts 0 code).dueEntries none 0 maxBatch =
      [⟨id 41, ⟨0, attempts, 0, code⟩, early⟩] := by
    rcases retries with rfl | rfl <;> rfl
  have due : dueOutbox queueWorld (waiting attempts 0 code) 0 maxBatch =
      .ok [⟨id 41, queueWorld.writeOperation early, attempts⟩] :=
    (dueOutbox_ok (by decide)).mpr ⟨by decide, none, rfl, entries ▸ .cons read .nil⟩
  simp only [SyncEngine.preparePush, Session.bind_eq_ok, Session.query_eq_ok]
  refine ⟨_, _, ⟨due, rfl⟩, rfl⟩

theorem finish_early (nowMs : Nat) (soon : nowMs ≤ 1) (code : Option SafeErrorCode) :
    pusher.finishPush queueWorld (earlyPush attempts) (.error .transient) nowMs (fun _ _ => 0)
        (waiting attempts 0 code) =
      (.error .transient, waiting (attempts + 1) nowMs (some .transient)) := by
  have times : pusher.retryTimes (earlyPush attempts).due nowMs (fun _ _ => 0) =
      [(id 41, nowMs)] := by
    have early : min (min nowMs u64Max) permanentRetryMs = nowMs := by
      simp only [u64Max, permanentRetryMs]
      omega
    simp [SyncEngine.retryTimes, earlyPush, BackoffPolicy.nextDelay_zero, early]
  have deferred : deferOutboxIndividual (waiting attempts 0 code) [(id 41, nowMs)] .transient =
      .ok (waiting (attempts + 1) nowMs (some .transient)) := by
    have fits : nowMs ≤ sqliteMax := soon.trans (by decide)
    simp only [deferOutboxIndividual, thread, deferRow, require_pos fits, ok_bind]
    rfl
  have failed : pusher.deferTransportFailure (earlyPush attempts).due nowMs .transient (fun _ _ => 0)
      (waiting attempts 0 code) =
        (.ok (), waiting (attempts + 1) nowMs (some .transient)) := by
    change Session.transact (fun v => deferOutboxIndividual v (pusher.retryTimes
      (earlyPush attempts).due nowMs (fun _ _ => 0)) .transient) localError _ = _
    rw [times, Session.transact_eq_ok]
    exact deferred
  have started : pusher.finishPush queueWorld (earlyPush attempts) (.error .transient) nowMs
      (fun _ _ => 0) (waiting attempts 0 code) = (do
        pusher.deferTransportFailure (earlyPush attempts).due nowMs .transient (fun _ _ => 0)
        Session.fail .transient : Cycle SyncCycleReport) (waiting attempts 0 code) := rfl
  rw [started, Session.bind_eq]
  exact .inl ⟨_, _, failed, rfl⟩

theorem legible_early : Legible queueWorld (waiting attempts nextMs code) :=
  legible_of_rows early_rows

def fresh : PushWorld := ⟨⟨Vault.empty, []⟩, .new, []⟩

theorem fresh_fresh : fresh.Fresh := ⟨⟨⟨rfl, rfl⟩, rfl, rfl⟩, rfl, rfl⟩

/-- A push of the early operation fails for the moment. -/
theorem attempt_early (few : attempts < 2 ^ 32) (retries : code = none ∨ code = some .transient)
    (nowMs : Nat) (soon : nowMs ≤ 1)
    (run : PushRun queueWorld pusher fresh ⟨⟨waiting attempts 0 code, issued⟩, .new, []⟩) :
    PushRun queueWorld pusher fresh
      ⟨⟨waiting (attempts + 1) nowMs (some .transient), earlyPush attempts :: issued⟩, .new, []⟩ := by
  have prepared := run.tail (.client (.prepare (prepare_early few retries)))
  refine prepared.tail (.client (.finish (List.mem_cons_self ..) ?_ (finish_early nowMs soon code)))
  exact trivial

theorem attempts_early (attempts : Nat) (few : attempts ≤ 2 ^ 32 - 1) :
    ∃ code issued, (code = none ∨ code = some .transient) ∧
      PushRun queueWorld pusher fresh ⟨⟨waiting attempts 0 code, issued⟩, .new, []⟩ := by
  induction attempts with
  | zero =>
    exact ⟨none, [], .inl rfl, .single (.client (.commit (.commit commit_early) legible_early))⟩
  | succ attempts ih =>
    obtain ⟨code, issued, retries, run⟩ := ih (by omega)
    exact ⟨_, _, .inr rfl, attempt_early (by omega) retries 0 (by decide) run⟩

def earlySent : Except TransportError PushReceipt × InMemoryTransport :=
  InMemoryTransport.new.pushOperations queueWorld (earlyPush 0).scope (earlyPush 0).operations

theorem send_early : InMemoryTransport.new.pushOperations queueWorld (earlyPush 0).scope
    (earlyPush 0).operations = (.ok ⟨[id 41], []⟩, earlySent.2) := rfl

/-- The early operation was sent and answered. -/
def sent : PushWorld :=
  ⟨⟨waiting 0 0 none, [earlyPush 0]⟩, earlySent.2, [(earlyPush 0, ⟨[id 41], []⟩)]⟩

theorem sent_answers : sent.Answers (earlyPush 0) (.ok ⟨[id 41], []⟩) :=
  Or.inl (List.mem_cons_self ..)

def acknowledgedReport : SyncCycleReport := { SyncCycleReport.empty with pushed := 1 }

theorem acknowledge_early : pusher.finishPush queueWorld (earlyPush 0) (.ok ⟨[id 41], []⟩) 0
    (fun _ _ => 0) (waiting 0 0 none) =
      (.ok acknowledgedReport, acknowledgeOutbox (waiting 0 0 none) [id 41]) := rfl

/-- The early operation has run over its attempt counter, and the late one is queued. -/
def overrun : Vault := bothCommitted (waiting (2 ^ 32) 1 (some .transient))

theorem commit_overrun : commitOutgoingOperationWithBindingAt queueWorld
    (waiting (2 ^ 32) 1 (some .transient)) otherTask (built queueWorld otherTask late) none 0 0 none =
      .ok (.inserted, overrun) := rfl

theorem legible_overrun : Legible queueWorld overrun := legible_of_rows (fun _ member => member)

def latePush : PreparedPush where
  scope := pusher.scope
  provider := .memory
  due := [⟨id 40, queueWorld.writeOperation late, 0⟩]
  operations := [canonicalOperation queueWorld late]
  moreWork := false

theorem prepare_late : pusher.preparePush queueWorld 0 overrun = (.ok (some latePush), overrun) := rfl

def lateSent : Except TransportError PushReceipt × InMemoryTransport :=
  InMemoryTransport.new.pushOperations queueWorld latePush.scope latePush.operations

theorem send_late : InMemoryTransport.new.pushOperations queueWorld latePush.scope
    latePush.operations = (.ok ⟨[id 40], []⟩, lateSent.2) := rfl

theorem finish_late : pusher.finishPush queueWorld latePush (.ok ⟨[id 40], []⟩) 1 (fun _ _ => 0)
    overrun = (.error .transient, acknowledgeOutbox overrun [id 40]) := rfl

end Sample

theorem outgoing_operations_survive_acknowledgement : ∃ world,
    PushRun Sample.queueWorld Sample.pusher Sample.fresh world ∧
      Committed world.client.vault Sample.early ∧
      world.client.vault.outbox.find? (Sample.id 41) = none ∧
      world.Safe Sample.queueWorld Sample.early := by
  have committed : PushRun Sample.queueWorld Sample.pusher Sample.fresh
      ⟨⟨Sample.waiting 0 0 none, []⟩, .new, []⟩ :=
    .single (.client (.commit (.commit Sample.commit_early) Sample.legible_early))
  have prepared := committed.tail (.client (.prepare (Sample.prepare_early (by decide) (.inl rfl))))
  have sent : PushRun Sample.queueWorld Sample.pusher Sample.fresh Sample.sent := by
    have answered := prepared.tail (.send (List.mem_cons_self ..) Sample.send_early)
    exact answered
  have finished := sent.tail (.client (.finish (List.mem_cons_self ..) Sample.sent_answers
    Sample.acknowledge_early))
  have early : Committed (acknowledgeOutbox (Sample.waiting 0 0 none) [Sample.id 41])
      Sample.early := ⟨⟨_, rfl, rfl⟩, rfl⟩
  exact ⟨_, finished, early, rfl,
    (outgoing_operations_survive Sample.fresh_fresh finished).1 _ _ finished .refl early⟩

theorem finish_push_fails_after_acknowledging : ∃ world push receipt v',
    PushRun Sample.queueWorld Sample.pusher Sample.fresh world ∧ push ∈ world.client.issued ∧
      world.Answers push (.ok receipt) ∧
      Sample.pusher.finishPush Sample.queueWorld push (.ok receipt) 1 (fun _ _ => 0)
        world.client.vault = (.error .transient, v') ∧
      (world.client.vault.outbox.find? (Sample.id 40)).isSome ∧
      v'.outbox.find? (Sample.id 40) = none := by
  obtain ⟨code, issued, retries, run⟩ := Sample.attempts_early (2 ^ 32 - 1) (by decide)
  have last := Sample.attempt_early (by decide) retries 1 (by decide) run
  have committed := last.tail (.client (.commit (.commit Sample.commit_overrun) Sample.legible_overrun))
  have prepared := committed.tail (.client (.prepare Sample.prepare_late))
  have sent := prepared.tail (.send (List.mem_cons_self ..) Sample.send_late)
  exact ⟨_, Sample.latePush, _, _, sent, List.mem_cons_self .., .inl (List.mem_cons_self ..),
    Sample.finish_late, rfl, rfl⟩

end ContextRelay
