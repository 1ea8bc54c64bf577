import ContextRelay.PushEffects
import ContextRelay.DeviceChain
import ContextRelay.CanonicalCbor

/-! Runs of one client: local commits, prepared pushes and their completion in any order.
A prepared push may be finished late or never, and with a response that is up to the
provider. -/
namespace ContextRelay

open Library

variable {P : Primitives} {v w v' : Vault} {engine : SyncEngine} {entries : List QueuedOperation}

/-! ## Steps -/

/-- A local signed commit: of one operation, of a candidate review, or of a backfill batch. -/
inductive LocalCommit (P : Primitives) : Vault → Vault → Prop where
  | commit {v v' : Vault} {mutation : RecordMutationV1} {built : BuiltOperation}
      {embedding : Option Embedding384} {committedAtMs queuedAt : Nat}
      {binding : Option (LocalOperationBinding × Bytes)} {disposition : CommitDisposition}
      (ran : commitOutgoingOperationWithBindingAt P v mutation built embedding committedAtMs queuedAt
        binding = .ok (disposition, v')) : LocalCommit P v v'
  | review {v v' : Vault} {candidate : MemoryCandidate} {decision : BuiltOperation}
      {accepted : Option (BuiltOperation × Embedding384)} {binding : LocalOperationBinding}
      {response : Bytes} {now firstQueuedAt secondQueuedAt : Nat}
      (ran : commitSignedCandidateReview P v candidate decision accepted binding response now
        firstQueuedAt secondQueuedAt = .ok v') : LocalCommit P v v'
  | backfill {v v' : Vault} {material : Except VaultError VaultSyncMaterial} {deviceId : DeviceId}
      {keys : DeviceKeys} {limit now : Nat} {draws : Nat → BackfillDraw} {count : Nat}
      (ran : backfillSyncRecords P v material deviceId keys limit now draws = .ok (count, v')) :
      LocalCommit P v v'

theorem LocalCommit.queues (commits : LocalCommit P v v') : ∃ entries, Queues P v entries v' := by
  cases commits with
  | commit ran =>
    obtain ⟨entries, _, queues⟩ := commitOutgoing_queues ran
    exact ⟨entries, queues⟩
  | review ran =>
    obtain ⟨entries, _, queues⟩ := commitSignedCandidateReview_queues ran
    exact ⟨entries, queues⟩
  | backfill ran =>
    obtain ⟨entries, _, _, _, queues⟩ := backfillSyncRecords_queues ran
    exact ⟨entries, queues⟩

/-- The codec reads back every signed operation of the vault from its canonical bytes. -/
def Legible (P : Primitives) (v : Vault) : Prop :=
  ∀ id found row, v.operationMeta.find? id = some found → v.operations.find? id = some row →
    decodeSyncOperationV1 P (P.writeOperation row.operation) = .ok row.operation

/-- A client: its vault and the pushes it has prepared so far. -/
structure PushState where
  vault : Vault
  issued : List PreparedPush

/-- The push a preparation hands out, if any. -/
def issuedBy : Except SafeErrorCode (Option PreparedPush) → List PreparedPush
  | .ok (some prepared) => [prepared]
  | _ => []

/-- One step of a client; `answers` says which responses a prepared push may be finished with. -/
inductive PushStep (P : Primitives) (engine : SyncEngine)
    (answers : PreparedPush → Except TransportError PushReceipt → Prop) :
    PushState → PushState → Prop where
  | commit {s : PushState} {v' : Vault} (commits : LocalCommit P s.vault v')
      (legible : Legible P v') : PushStep P engine answers s { s with vault := v' }
  | prepare {s : PushState} {v' : Vault} {nowMs : Nat}
      {result : Except SafeErrorCode (Option PreparedPush)}
      (ran : engine.preparePush P nowMs s.vault = (result, v')) :
      PushStep P engine answers s ⟨v', issuedBy result ++ s.issued⟩
  | finish {s : PushState} {v' : Vault} {prepared : PreparedPush}
      {response : Except TransportError PushReceipt} {nowMs : Nat}
      {random : OperationId → Nat → Nat} {result : Except SafeErrorCode SyncCycleReport}
      (issued : prepared ∈ s.issued) (answered : answers prepared response)
      (ran : engine.finishPush P prepared response nowMs random s.vault = (result, v')) :
      PushStep P engine answers s { s with vault := v' }

/-! ## Signed operations stay -/

/-- Signed operations stay as they are. -/
def Retains (v v' : Vault) : Prop :=
  ∀ id found, v.operationMeta.find? id = some found →
    v'.operationMeta.find? id = some found ∧ v'.operations.find? id = v.operations.find? id

theorem KeepsSigned.retains (kept : KeepsSigned v v') : Retains v v' := by
  intro id found foundAt
  exact ⟨by rw [kept.operationMeta]; exact foundAt, kept.operations id (by simp [foundAt])⟩

theorem Recorded.retains (recorded : Recorded P v v' operation row) : Retains v v' := by
  intro id found foundAt
  have apart : operation.operationId ≠ id := by
    rintro rfl
    simp [recorded.freshMeta] at foundAt
  rw [recorded.operationMeta, recorded.operations, Table.find?_upsert_of_ne _ _ apart,
    Table.find?_upsert_of_ne _ _ apart]
  exact ⟨foundAt, rfl⟩

theorem Retains.trans (first : Retains v w) (second : Retains w v') : Retains v v' := by
  intro id found foundAt
  obtain ⟨foundAfter, same⟩ := first id found foundAt
  obtain ⟨foundLast, sameAfter⟩ := second id found foundAfter
  exact ⟨foundLast, sameAfter.trans same⟩

theorem Queues.retains (queues : Queues P v entries v') : Retains v v' := by
  induction queues with
  | done => exact fun _ _ found => ⟨found, rfl⟩
  | silent write _ ih => exact write.signed.retains.trans ih
  | persist valid _ ran _ ih => exact (persistFresh_recorded valid ran).retains.trans ih

theorem Queues.membership (queues : Queues P v entries v') : v'.membership = v.membership := by
  induction queues with
  | done => rfl
  | silent write _ ih => exact ih.trans write.membership
  | persist _ _ ran _ ih => exact ih.trans (persistFresh_queued ran).2.2

/-- A write of the outbox alone. -/
def OutboxOnly (v v' : Vault) : Prop := v' = { v with outbox := v'.outbox }

theorem OutboxOnly.retains (only : OutboxOnly v v') : Retains v v' := by
  intro id found foundAt
  rw [only]
  exact ⟨foundAt, rfl⟩

/-! ## The queue holds signed operations -/

/-- The membership lets the operation be sent. -/
def Authorized (P : Primitives) (v : Vault) (operation : SyncOperationV1) : Prop :=
  ∀ history, v.membership.accepted = .ok history →
    requireOperation P v operation (history.map AcceptedMembership.endpoint) = .ok ()

/-- What is queued is a signed operation of this vault that may be sent. -/
structure QueueInvariant (P : Primitives) (v : Vault) : Prop where
  chains : ChainInvariant P v
  signed : ∀ id row, v.outbox.find? id = some row → ∃ found stored,
    v.operationMeta.find? id = some found ∧ found.direction = .outgoing ∧
      v.operations.find? id = some stored ∧ Authorized P v stored.operation

/-- The gate looks at the membership tables only. -/
theorem requireOperation_congr (same : v'.membership = v.membership) (operation : SyncOperationV1)
    (stamp : Option MembershipEndpoint) :
    requireOperation P v' operation stamp = requireOperation P v operation stamp := by
  simp only [requireOperation, requireCurrent, same]

theorem Authorized.congr (same : v'.membership = v.membership) :
    Authorized P v' operation ↔ Authorized P v operation := by
  simp only [Authorized, same, requireOperation_congr same]

/-- An operation that passed the gate under its own stamp may be sent. -/
theorem authorized_of_required (passed : requireOperation P v operation stamp = .ok ()) :
    Authorized P v operation := by
  intro history accepted
  simp only [requireOperation, requireCurrent, accepted, ok_bind] at passed ⊢
  cases history with
  | none => exact passed
  | some history =>
    have current : stamp = some history.endpoint := by
      simp only [ok_iff] at passed
      exact passed.choose_spec.1.1.2
    rw [current] at passed
    exact passed

theorem QueueInvariant.silent (before : QueueInvariant P v) (write : Silent v v') :
    QueueInvariant P v' where
  chains := write.signed.preserves before.chains
  signed := by
    intro id row queued
    obtain ⟨found, stored, foundAt, outgoing, storedAt, authorized⟩ :=
      before.signed id row (write.queued id row queued)
    obtain ⟨foundAfter, same⟩ := write.signed.retains id found foundAt
    exact ⟨found, stored, foundAfter, outgoing, same.trans storedAt,
      (Authorized.congr write.membership).mpr authorized⟩

theorem QueueInvariant.persist (before : QueueInvariant P v)
    (valid : validateCommit P mutation built = .ok ())
    (authorized : requireOperation P v built.operation built.membershipEndpoint = .ok ())
    (ran : persistFresh P v mutation built embedding committedAtMs queuedAt materialize =
      .ok (disposition, change, v')) : QueueInvariant P v' := by
  have recorded := persistFresh_recorded valid ran
  obtain ⟨_, outbox, membership⟩ := persistFresh_queued ran
  refine ⟨recorded.preserves before.chains, ?_⟩
  intro id row queued
  rw [outbox] at queued
  by_cases own : built.operation.operationId = id
  · subst own
    refine ⟨outgoingMeta built, ⟨built.operation.recordId, built.operation⟩, ?_, rfl, ?_, ?_⟩
    · rw [recorded.operationMeta, Table.find?_upsert_self]
    · rw [recorded.operations, Table.find?_upsert_self]
    · exact (Authorized.congr membership).mpr (authorized_of_required authorized)
  · rw [Table.find?_upsert_of_ne _ _ own] at queued
    obtain ⟨found, stored, foundAt, outgoing, storedAt, permitted⟩ := before.signed id row queued
    obtain ⟨foundAfter, same⟩ := recorded.retains id found foundAt
    exact ⟨found, stored, foundAfter, outgoing, same.trans storedAt,
      (Authorized.congr membership).mpr permitted⟩

theorem QueueInvariant.queues (before : QueueInvariant P v) (queues : Queues P v entries v') :
    QueueInvariant P v' := by
  induction queues with
  | done => exact before
  | silent write _ ih => exact ih (before.silent write)
  | persist valid authorized ran _ ih => exact ih (before.persist valid authorized ran)

/-- A write of the outbox that queues nothing new. -/
theorem QueueInvariant.outbox (before : QueueInvariant P v) (only : OutboxOnly v v')
    (shrinks : ∀ id, (v'.outbox.find? id).isSome → (v.outbox.find? id).isSome) :
    QueueInvariant P v' := by
  have membership : v'.membership = v.membership := by rw [only]
  have kept : KeepsSigned v v' := by
    rw [only]
    exact ⟨rfl, rfl, fun _ _ => rfl⟩
  refine ⟨kept.preserves before.chains, ?_⟩
  intro id row queued
  obtain ⟨earlier, wasQueued⟩ := Option.isSome_iff_exists.mp (shrinks id (by simp [queued]))
  obtain ⟨found, stored, foundAt, outgoing, storedAt, authorized⟩ := before.signed id earlier wasQueued
  obtain ⟨foundAfter, same⟩ := kept.retains id found foundAt
  exact ⟨found, stored, foundAfter, outgoing, same.trans storedAt,
    (Authorized.congr membership).mpr authorized⟩

/-- A due read fails only on a row that was tried more often than its counter can say. -/
theorem QueueInvariant.dueOutbox_error (queue : QueueInvariant P v)
    (accepted : v.membership.accepted = .ok history) (positive : limit ≠ 0)
    (fits : limit ≤ sqliteMax) (failed : dueOutbox P v nowMs limit = .error reason) :
    ∃ entry ∈ v.dueEntries history nowMs limit, 2 ^ 32 ≤ entry.row.attemptCount := by
  by_contra none
  simp only [not_exists, not_and, not_le] at none
  have read : ∀ entry ∈ v.dueEntries history nowMs limit,
      dueOperation P v (history.map AcceptedMembership.endpoint) entry =
        .ok ⟨entry.operationId, P.writeOperation entry.operation, entry.row.attemptCount⟩ := by
    intro entry member
    have inQueue := (mem_dueQueue.mp (List.mem_of_mem_take member)).1
    obtain ⟨recordId, queued, storedAt⟩ := mem_queue.mp inQueue
    obtain ⟨found, stored, foundAt, _, storedAgain, authorized⟩ := queue.signed _ _ queued
    obtain ⟨row, rowAt, _, described⟩ := queue.chains.described _ _ foundAt
    obtain rfl : row = ⟨recordId, entry.operation⟩ := Option.some.inj (rowAt.symm.trans storedAt)
    obtain rfl : stored = ⟨recordId, entry.operation⟩ :=
      Option.some.inj (storedAgain.symm.trans storedAt)
    have encoded : encodeSyncOperationV1 P entry.operation = .ok _ := described.encodable
    have sameId : entry.operation.operationId = entry.operationId := described.operationId
    simp only [dueOperation, authorized history accepted, sameId, encoded, renameFailure,
      require_pos, ok_bind, none entry member]
    rfl
  have succeeded : dueOutbox P v nowMs limit = .ok _ := (dueOutbox_ok positive).mpr
    ⟨fits, history, accepted, collect_eq_ok.mp (collect_ok_map read)⟩
  exact absurd (succeeded.symm.trans failed) (by simp)

/-! ## Prepared pushes -/

/-- An operation as a batch carries it. -/
def canonicalOperation (P : Primitives) (operation : SyncOperationV1) : CanonicalOperation :=
  ⟨operation.operationId, operation.deviceId, operation.deviceSequence, P.writeOperation operation⟩

/-- The entry of a queue that leads to a row that leads to an item. -/
private theorem forall₂_through {first : α → β → Prop} {second : β → γ → Prop}
    {both : α → γ → Prop} (one : List.Forall₂ first left middle)
    (two : List.Forall₂ second middle right)
    (compose : ∀ a ∈ left, ∀ b c, first a b → second b c → both a c) :
    List.Forall₂ both left right := by
  induction one generalizing right with
  | nil =>
    cases two
    exact .nil
  | cons related _ ih =>
    cases two with
    | cons next rest =>
      exact .cons (compose _ (by simp) _ _ related next)
        (ih rest (fun a member => compose a (by simp [member])))

/-- A batch consists of the first due entries of the queue, in their order. -/
theorem PreparedFrom.batch (prepared : PreparedFrom P engine v nowMs push)
    (queue : QueueInvariant P v) (legible : Legible P v) :
    ∃ history, v.membership.accepted = .ok history ∧
      List.Forall₂ (fun (entry : QueueEntry) item =>
          item = canonicalOperation P entry.operation ∧
            entry.operation.operationId = entry.operationId ∧
            entry.operation.accountId = engine.scope.accountId ∧
            entry.operation.workspaceId = engine.scope.workspaceId)
        ((v.dueEntries history nowMs maxBatch).take push.operations.length) push.operations ∧
      push.due.map DueOutboxOperation.operationId =
        push.operations.map CanonicalOperation.operationId := by
  obtain ⟨due, read, taken⟩ := prepared.due
  obtain ⟨_, history, accepted, rows⟩ := (dueOutbox_ok (by decide)).mp read
  refine ⟨history, accepted, ?_, ?_⟩
  · have prefixRows := List.forall₂_take push.operations.length rows
    rw [← taken] at prefixRows
    refine forall₂_through prefixRows prepared.batched ?_
    intro entry member row item readRow batched
    obtain ⟨rfl, sameId, _⟩ := dueOperation_ok readRow
    obtain ⟨operation, decoded, _, account, workspace, rfl⟩ := batched.decoded
    have inQueue := (mem_dueQueue.mp (List.mem_of_mem_take (List.mem_of_mem_take member))).1
    obtain ⟨recordId, queued, storedAt⟩ := mem_queue.mp inQueue
    obtain ⟨found, _, foundAt, _⟩ := queue.signed _ _ queued
    have readBack := legible _ found _ foundAt storedAt
    obtain rfl : entry.operation = operation := Except.ok.inj (readBack.symm.trans decoded)
    exact ⟨by simp [canonicalOperation, sameId], sameId, account, workspace⟩
  · have same : List.Forall₂ (fun (row : DueOutboxOperation) (item : CanonicalOperation) =>
        row.operationId = item.operationId) push.due push.operations := by
      refine prepared.batched.imp ?_
      intro row item batched
      obtain ⟨operation, _, _, _, _, rfl⟩ := batched.decoded
      rfl
    rw [← List.forall₂_eq_eq_eq, List.forall₂_map_left_iff, List.forall₂_map_right_iff]
    exact same

/-- A prepared push carries signed operations of the vault and of the engine's scope. -/
structure Issued (P : Primitives) (engine : SyncEngine) (v : Vault) (push : PreparedPush) : Prop where
  scope : push.scope = engine.scope
  loaded : ∃ history, v.membership.accepted = .ok history
  ids : push.due.map DueOutboxOperation.operationId =
    push.operations.map CanonicalOperation.operationId
  stored : ∀ item ∈ push.operations, ∃ found row,
    v.operationMeta.find? item.operationId = some found ∧ found.direction = .outgoing ∧
      v.operations.find? item.operationId = some row ∧
      item = canonicalOperation P row.operation ∧
      row.operation.accountId = engine.scope.accountId ∧
      row.operation.workspaceId = engine.scope.workspaceId

theorem PreparedFrom.issued (prepared : PreparedFrom P engine v nowMs push)
    (queue : QueueInvariant P v) (legible : Legible P v) : Issued P engine v push := by
  obtain ⟨history, accepted, items, ids⟩ := prepared.batch queue legible
  refine ⟨prepared.scope, ⟨history, accepted⟩, ids, ?_⟩
  intro item member
  obtain ⟨entry, inQueue, rfl, sameId, account, workspace⟩ : ∃ entry ∈ v.queue,
      item = canonicalOperation P entry.operation ∧
        entry.operation.operationId = entry.operationId ∧
        entry.operation.accountId = engine.scope.accountId ∧
        entry.operation.workspaceId = engine.scope.workspaceId := by
    obtain ⟨entry, entryMember, related⟩ := forall₂_mem_right items member
    exact ⟨entry, (mem_dueQueue.mp (List.mem_of_mem_take (List.mem_of_mem_take entryMember))).1,
      related⟩
  obtain ⟨recordId, queued, storedAt⟩ := mem_queue.mp inQueue
  obtain ⟨found, stored, foundAt, outgoing, storedAgain, _⟩ := queue.signed _ _ queued
  rw [← sameId] at foundAt storedAt
  exact ⟨found, _, foundAt, outgoing, storedAt, rfl, account, workspace⟩

theorem Issued.retained (issued : Issued P engine v push) (retains : Retains v v')
    (membership : v'.membership = v.membership) : Issued P engine v' push where
  scope := issued.scope
  loaded := by
    rw [membership]
    exact issued.loaded
  ids := issued.ids
  stored := by
    intro item member
    obtain ⟨found, row, foundAt, outgoing, storedAt, same⟩ := issued.stored item member
    obtain ⟨foundAfter, sameRow⟩ := retains _ found foundAt
    exact ⟨found, row, foundAfter, outgoing, sameRow.trans storedAt, same⟩

/-! ## The invariant of a client -/

structure ClientInvariant (P : Primitives) (engine : SyncEngine) (s : PushState) : Prop where
  queue : QueueInvariant P s.vault
  legible : Legible P s.vault
  issued : ∀ push ∈ s.issued, Issued P engine s.vault push

/-- A write of the outbox that queues nothing new. -/
structure Unqueues (v v' : Vault) : Prop where
  only : OutboxOnly v v'
  queued : ∀ id, (v'.outbox.find? id).isSome → (v.outbox.find? id).isSome

theorem Unqueues.refl (v : Vault) : Unqueues v v := ⟨rfl, fun _ queued => queued⟩

theorem Deferred.unqueues (deferred : Deferred v v' retries code) : Unqueues v v' :=
  ⟨deferred.only, fun id queued => by rw [← deferred.queued]; exact queued⟩

theorem acknowledgeOutbox_unqueues (v : Vault) (ids : List OperationId) :
    Unqueues v (acknowledgeOutbox v ids) := by
  refine ⟨rfl, ?_⟩
  intro id queued
  rw [acknowledgeOutbox_find?] at queued
  split at queued
  · simp at queued
  · exact queued

theorem Finished.unqueues (finished : Finished P engine push response nowMs random v result v') :
    Unqueues v v' := by
  cases finished with
  | refused => exact .refl v
  | retried _ _ deferred => exact deferred.unqueues
  | failed _ _ deferred => exact deferred.unqueues
  | invalid _ _ deferred => exact deferred.unqueues
  | acknowledged _ _ _ _ _ => exact acknowledgeOutbox_unqueues _ _

theorem Unqueues.clientInvariant (unqueues : Unqueues v v')
    (before : ClientInvariant P engine ⟨v, issued⟩) : ClientInvariant P engine ⟨v', issued⟩ where
  queue := before.queue.outbox unqueues.only unqueues.queued
  legible := by
    rw [unqueues.only]
    exact before.legible
  issued := fun push member => (before.issued push member).retained unqueues.only.retains
    (by rw [unqueues.only])

/-- Preparing takes nothing from the queue. -/
theorem preparePush_keeps (ran : engine.preparePush P nowMs v = (result, v')) :
    OutboxOnly v v' ∧ ∀ id, (v'.outbox.find? id).isSome = (v.outbox.find? id).isSome := by
  rcases preparePush_cases ran with ⟨rfl, _⟩ | ⟨rfl, _⟩ | ⟨rfl, _⟩ | ⟨_, _, _, _, _, _, deferred⟩
  · exact ⟨rfl, fun _ => rfl⟩
  · exact ⟨rfl, fun _ => rfl⟩
  · exact ⟨rfl, fun _ => rfl⟩
  · exact ⟨deferred.only, deferred.queued⟩

/-- Preparing keeps the invariant, also of the push it hands out. -/
theorem preparePush_clientInvariant (before : ClientInvariant P engine ⟨v, issued⟩)
    (ran : engine.preparePush P nowMs v = (result, v')) :
    ClientInvariant P engine ⟨v', issuedBy result ++ issued⟩ := by
  rcases preparePush_cases ran with ⟨rfl, rfl⟩ | ⟨rfl, push, rfl, prepared⟩ | ⟨rfl, rfl, _⟩ |
    ⟨_, _, _, rfl, _, _, deferred⟩
  · exact before
  · refine ⟨before.queue, before.legible, ?_⟩
    intro other member
    rcases List.mem_append.mp member with new | old
    · obtain rfl := List.mem_singleton.mp new
      exact prepared.issued before.queue before.legible
    · exact before.issued other old
  · exact before
  · exact deferred.unqueues.clientInvariant before

theorem PushStep.clientInvariant (step : PushStep P engine answers s s')
    (before : ClientInvariant P engine s) : ClientInvariant P engine s' := by
  cases step with
  | commit commits legible =>
    obtain ⟨entries, queues⟩ := commits.queues
    exact ⟨before.queue.queues queues, legible,
      fun push member => (before.issued push member).retained queues.retains queues.membership⟩
  | prepare ran => exact preparePush_clientInvariant before ran
  | finish _ _ ran => exact (finishPush_finished ran).unqueues.clientInvariant before

/-- A client that has signed and queued nothing yet. -/
structure PushState.Fresh (s : PushState) : Prop where
  unsigned : Unsigned s.vault
  outbox : s.vault.outbox = .empty
  issued : s.issued = []

theorem PushState.Fresh.clientInvariant (fresh : s.Fresh) : ClientInvariant P engine s where
  queue := ⟨fresh.unsigned.chainInvariant, fun id row queued => by simp [fresh.outbox] at queued⟩
  legible := fun id found row foundAt => by simp [fresh.unsigned.operationMeta] at foundAt
  issued := by simp [fresh.issued]

/-! ## Runs with the canonical codec

The codec reads back what fits the source's integer types, so that a commit of such operations
needs no assumption about reading. -/

open CanonicalCbor (OperationTyped withCodec withCodec_decodes_operation decodeSyncOperationV1_eq_ok)

/-- The numbers of every signed operation of the vault fit the source's types. -/
def SignedTyped (v : Vault) : Prop :=
  ∀ id found row, v.operationMeta.find? id = some found → v.operations.find? id = some row →
    OperationTyped row.operation

theorem ChainInvariant.legible (chains : ChainInvariant (withCodec P) v) (typed : SignedTyped v) :
    Legible (withCodec P) v := by
  intro id found row foundAt rowAt
  obtain ⟨stored, storedAt, _, described⟩ := chains.described id found foundAt
  obtain rfl := Option.some.inj (storedAt.symm.trans rowAt)
  rw [withCodec_decodes_operation, decodeSyncOperationV1_eq_ok]
  exact ⟨typed id found stored foundAt rowAt, described.encodable⟩

/-- A step of a client that commits typed operations only. -/
inductive TypedStep (commits : Vault → Vault → Prop) (step : PushState → PushState → Prop) :
    PushState → PushState → Prop where
  | commit {s : PushState} {v' : Vault} (committed : commits s.vault v') (typed : SignedTyped v') :
      TypedStep commits step s { s with vault := v' }
  | other {s s' : PushState} (taken : step s s') : TypedStep commits step s s'

/-- With the canonical codec the typed runs of a client are among its runs. -/
theorem TypedStep.run {commits : Vault → Vault → Prop} {step : PushState → PushState → Prop}
    (isLocal : ∀ {v v'}, commits v v' → LocalCommit (withCodec P) v v')
    (isPush : ∀ {s s'}, step s s' → PushStep (withCodec P) engine answers s s')
    (isStep : ∀ {s v'}, commits s.vault v' → Legible (withCodec P) v' →
      step s { s with vault := v' })
    (fresh : start.Fresh) (run : Relation.ReflTransGen (TypedStep commits step) start s) :
    Relation.ReflTransGen step start s ∧ ClientInvariant (withCodec P) engine s := by
  induction run with
  | refl => exact ⟨.refl, fresh.clientInvariant⟩
  | tail _ taken ih =>
    obtain ⟨steps, before⟩ := ih
    suffices last : step _ _ from ⟨steps.tail last, (isPush last).clientInvariant before⟩
    cases taken with
    | other taken => exact taken
    | commit committed typed =>
      obtain ⟨entries, queues⟩ := (isLocal committed).queues
      exact isStep committed ((before.queue.queues queues).chains.legible typed)

theorem pushRun_of_typed (fresh : start.Fresh) (run : Relation.ReflTransGen
      (TypedStep (LocalCommit (withCodec P)) (PushStep (withCodec P) engine answers)) start s) :
    Relation.ReflTransGen (PushStep (withCodec P) engine answers) start s :=
  (TypedStep.run (fun commits => commits) (fun step => step) .commit fresh run).1

namespace Sample

/-- A vault that stores none but the two operations of the device. -/
theorem legible_of_rows
    (rows : ∀ row ∈ v.operations.rows, row ∈ [(id 40, (⟨id 11, late⟩ : OperationRow)), (id 41, ⟨id 10, early⟩)]) :
    Legible queueWorld v := by
  intro operationId found row foundAt storedAt
  have member := rows _ ((Table.find?_eq_some _).mp storedAt)
  rw [List.mem_cons, List.mem_singleton] at member
  rcases member with member | member <;> (cases member; rfl)

theorem early_rows : ∀ row ∈ earlyCommitted.operations.rows,
    row ∈ [(id 40, (⟨id 11, late⟩ : OperationRow)), (id 41, ⟨id 10, early⟩)] :=
  fun _ member => List.mem_cons_of_mem _ member

end Sample

end ContextRelay
