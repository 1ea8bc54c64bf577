import ContextRelay.PushRuns
import ContextRelay.HostedChain
import ContextRelay.Library.Ascending

/-! The order of pushes. The outbox sends due rows by retry time, commit second and
operation id, while the hosted log takes a device's operations in the order of its chain.
The two agree in runs in which every commit and every deferral leaves the rows of a
device in turn. -/
namespace ContextRelay

open Library
open CanonicalCbor (withCodec)

variable {P : Primitives} {v v' w : Vault} {engine : SyncEngine} {scope : SyncScope}
  {entries : List QueuedOperation} {entry : QueueEntry} {push : PreparedPush}

/-! ## Rows in turn -/

/-- The highest sequence of a device's outgoing operations that are no longer queued. -/
def Vault.acknowledgedSequence (v : Vault) (workspace : WorkspaceId) (device : DeviceId) : Nat :=
  greatest (v.operationMeta.rows.filterMap (fun row =>
    if row.2.workspaceId = workspace ∧ row.2.deviceId = device ∧ row.2.direction = .outgoing ∧
      v.outbox.find? row.1 = none then some row.2.deviceSequence else none))

/-- Where a row stands among rows that are due at the same time. -/
def QueueEntry.place (entry : QueueEntry) : Nat ×ₗ OperationId :=
  toLex (entry.row.queuedAt, entry.operationId)

/-- The operation of the first row comes before that of the second in their device's chain. -/
def QueueEntry.Below (first second : QueueEntry) : Prop :=
  first.operation.deviceId = second.operation.deviceId ∧
    first.operation.deviceSequence < second.operation.deviceSequence

/-- The first row is due whenever the second is, and is sent before it. -/
structure QueueEntry.Precedes (first second : QueueEntry) : Prop where
  next : first.row.nextAttemptMs ≤ second.row.nextAttemptMs
  place : first.place < second.place
  retries : second.row.retries = true → first.row.retries = true

/-- The rows of each device are in the order of its chain, and what is no longer queued comes
before what is. -/
structure InOrder (scope : SyncScope) (v : Vault) : Prop where
  signed : ∀ id found, v.operationMeta.find? id = some found → found.direction = .outgoing ∧
    found.accountId = scope.accountId ∧ found.workspaceId = scope.workspaceId
  ordered : ∀ first ∈ v.queue, ∀ second ∈ v.queue, first.Below second → first.Precedes second
  closed : ∀ entry ∈ v.queue, ∀ operation,
    SignedBy v scope.workspaceId entry.operation.deviceId operation →
    entry.operation.deviceSequence < operation.deviceSequence →
    (v.outbox.find? operation.operationId).isSome

/-- With the earlier rows of a push's devices, the push has every row it should have. -/
def PreparedPush.ClosedIn (push : PreparedPush) (v : Vault) : Prop :=
  ∀ item ∈ push.operations, ∀ entry ∈ v.queue, entry.operation.deviceId = item.deviceId →
    entry.operation.deviceSequence < item.deviceSequence →
    entry.operationId ∈ push.operations.map CanonicalOperation.operationId

/-- Every queued row of the device is due at once and stands before a place. -/
def InTurn (v : Vault) (device : DeviceId) (place : Nat ×ₗ OperationId) : Prop :=
  ∀ entry ∈ v.queue, entry.operation.deviceId = device →
    entry.row.nextAttemptMs = 0 ∧ entry.row.retries = true ∧ entry.place < place

/-! ## Orderly runs -/

/-- What a commit queues belongs to the scope and comes after all that is queued. -/
structure Turns (scope : SyncScope) (v : Vault) (entries : List QueuedOperation) : Prop where
  inScope : ∀ entry ∈ entries, entry.built.operation.accountId = scope.accountId ∧
    entry.built.operation.workspaceId = scope.workspaceId
  waiting : ∀ entry ∈ entries, InTurn v entry.built.operation.deviceId entry.place
  ascending : entries.Pairwise (fun first second => first.place < second.place)

/-- A local commit in a scope that comes after everything its device has queued. -/
inductive OrderlyCommit (P : Primitives) (scope : SyncScope) : Vault → Vault → Prop where
  | commit {v v' : Vault} {mutation : RecordMutationV1} {built : BuiltOperation}
      {embedding : Option Embedding384} {committedAtMs queuedAt : Nat}
      {binding : Option (LocalOperationBinding × Bytes)} {disposition : CommitDisposition}
      (turns : Turns scope v [⟨built, queuedAt⟩])
      (ran : commitOutgoingOperationWithBindingAt P v mutation built embedding committedAtMs queuedAt
        binding = .ok (disposition, v')) : OrderlyCommit P scope v v'
  | review {v v' : Vault} {candidate : MemoryCandidate} {decision : BuiltOperation}
      {accepted : Option (BuiltOperation × Embedding384)} {binding : LocalOperationBinding}
      {response : Bytes} {now firstQueuedAt secondQueuedAt : Nat}
      (turns : Turns scope v (reviewEntries decision accepted firstQueuedAt secondQueuedAt))
      (ran : commitSignedCandidateReview P v candidate decision accepted binding response now
        firstQueuedAt secondQueuedAt = .ok v') : OrderlyCommit P scope v v'
  | backfill {v v' : Vault} {material : Except VaultError VaultSyncMaterial} {deviceId : DeviceId}
      {keys : DeviceKeys} {limit now : Nat} {draws : Nat → BackfillDraw} {count : Nat}
      (inScope : ∀ found, material = .ok found → found.scope = scope)
      (waiting : ∀ n, InTurn v deviceId (draws n).place)
      (ascending : ∀ n m, n < m → (draws n).place < (draws m).place)
      (ran : backfillSyncRecords P v material deviceId keys limit now draws = .ok (count, v')) :
      OrderlyCommit P scope v v'

/-- How long a row waits after a failure, with what the retry source draws for it. -/
def SyncEngine.delay (engine : SyncEngine) (random : OperationId → Nat → Nat)
    (row : DueOutboxOperation) : Nat :=
  engine.backoffPolicy.nextDelay row.attemptCount (random row.operationId row.attemptCount)

/-- Deferring a push leaves the rows of each device in turn: no later row stays behind, and a
later row of the push does not wait for less than an earlier one. -/
def KeepsTurns (engine : SyncEngine) (push : PreparedPush)
    (response : Except TransportError PushReceipt) (random : OperationId → Nat → Nat)
    (v : Vault) : Prop :=
  ∀ first ∈ v.queue, ∀ second ∈ v.queue, first.Below second →
    first.operationId ∈ push.operations.map CanonicalOperation.operationId →
    second.operationId ∈ push.operations.map CanonicalOperation.operationId ∧
      ((∃ error, response = .error error ∧ error.isRetryable = true) →
        ∀ firstRow ∈ push.due, ∀ secondRow ∈ push.due, firstRow.operationId = first.operationId →
          secondRow.operationId = second.operationId →
          engine.delay random firstRow ≤ engine.delay random secondRow)

/-- The response is a receipt for exactly the operations of the push. -/
def Acknowledges (push : PreparedPush) (response : Except TransportError PushReceipt) : Prop :=
  ∃ receipt ids, response = .ok receipt ∧
    validateReceipt (push.operations.map CanonicalOperation.operationId) receipt.accepted
      receipt.duplicates = .ok ids

/-- One step of a client that keeps the rows of each device in turn. -/
inductive OrderlyStep (P : Primitives) (engine : SyncEngine) : PushState → PushState → Prop where
  | commit {s : PushState} {v' : Vault} (commits : OrderlyCommit P engine.scope s.vault v')
      (legible : Legible P v') : OrderlyStep P engine s { s with vault := v' }
  | prepare {s : PushState} {v' : Vault} {nowMs : Nat}
      {result : Except SafeErrorCode (Option PreparedPush)}
      (ran : engine.preparePush P nowMs s.vault = (result, v')) :
      OrderlyStep P engine s ⟨v', issuedBy result ++ s.issued⟩
  | finish {s : PushState} {v' : Vault} {prepared : PreparedPush}
      {response : Except TransportError PushReceipt} {nowMs : Nat}
      {random : OperationId → Nat → Nat} {result : Except SafeErrorCode SyncCycleReport}
      (issued : prepared ∈ s.issued)
      (turns : Acknowledges prepared response ∨
        KeepsTurns engine prepared response random s.vault)
      (ran : engine.finishPush P prepared response nowMs random s.vault = (result, v')) :
      OrderlyStep P engine s { s with vault := v' }

/-! ## What commits do to the queue -/

/-- A row of the queue and the operation it queues. -/
theorem QueueInvariant.of_entry (queue : QueueInvariant P v) (member : entry ∈ v.queue) :
    entry.operation.operationId = entry.operationId ∧
      SignedBy v entry.operation.workspaceId entry.operation.deviceId entry.operation ∧
      ∃ found, v.operationMeta.find? entry.operationId = some found := by
  obtain ⟨recordId, queued, storedAt⟩ := mem_queue.mp member
  obtain ⟨found, _, foundAt, _⟩ := queue.signed _ _ queued
  obtain ⟨row, rowAt, _, described⟩ := queue.chains.described _ _ foundAt
  obtain rfl : row = ⟨recordId, entry.operation⟩ := Option.some.inj (rowAt.symm.trans storedAt)
  exact ⟨described.operationId, ⟨_, _, found, foundAt, described.workspace, described.device,
    storedAt, rfl⟩, found, foundAt⟩

/-- A write that keeps signed operations and queues nothing queues no other operation. -/
theorem QueueInvariant.queue_subset (queue : QueueInvariant P v) (retains : Retains v v')
    (rows : ∀ id row, v'.outbox.find? id = some row → v.outbox.find? id = some row)
    (member : entry ∈ v'.queue) : entry ∈ v.queue := by
  obtain ⟨recordId, queued, storedAt⟩ := mem_queue.mp member
  have before := rows _ _ queued
  obtain ⟨found, _, foundAt, _⟩ := queue.signed _ _ before
  rw [(retains _ found foundAt).2] at storedAt
  exact mem_queue.mpr ⟨recordId, before, storedAt⟩

/-- A fresh operation comes after every signed one of its device. -/
theorem Recorded.after_signed (recorded : Recorded P v v' operation row)
    (chains : ChainInvariant P v)
    (signed : SignedBy v operation.workspaceId operation.deviceId other) :
    other.deviceSequence < operation.deviceSequence := by
  obtain ⟨operations, chain⟩ := chains.chained operation.workspaceId operation.deviceId
  obtain ⟨final, linked⟩ := chain.linked
  have next := (chain.next linked recorded.chained).1
  obtain ⟨positive, place⟩ := place_of_sequences chain.sequences ((chain.members other).mpr signed)
  have inside := (List.getElem?_eq_some_iff.mp place).1
  omega

/-- The queue after persisting one operation. -/
theorem persistFresh_queue
    (valid : validateCommit P mutation built = .ok ())
    (ran : persistFresh P v mutation built embedding committedAtMs queuedAt materialize =
      .ok (disposition, change, v')) (member : entry ∈ v'.queue) :
    entry = ⟨built.operation.operationId, ⟨queuedAt, 0, 0, none⟩, built.operation⟩ ∨
      entry ∈ v.queue := by
  have recorded := persistFresh_recorded valid ran
  obtain ⟨_, outbox, _⟩ := persistFresh_queued ran
  obtain ⟨recordId, queued, storedAt⟩ := mem_queue.mp member
  rw [outbox] at queued
  rw [recorded.operations] at storedAt
  by_cases own : built.operation.operationId = entry.operationId
  · rw [own, Table.find?_upsert_self, Option.some.injEq] at queued storedAt
    simp only [OperationRow.mk.injEq] at storedAt
    left
    cases entry
    simp_all
  · rw [Table.find?_upsert_of_ne _ _ own] at queued storedAt
    exact .inr (mem_queue.mpr ⟨recordId, queued, storedAt⟩)

/-- What a commit queues comes after all that was signed before. -/
theorem Queues.queue_new (queues : Queues P v entries v') (queue : QueueInvariant P v)
    (member : entry ∈ v'.queue) :
    entry ∈ v.queue ∨ ∀ operation,
      SignedBy v entry.operation.workspaceId entry.operation.deviceId operation →
        operation.deviceSequence < entry.operation.deviceSequence := by
  induction queues with
  | done => exact .inl member
  | silent write _ ih =>
    rcases ih (queue.silent write) member with earlier | after
    · exact .inl (queue.queue_subset write.signed.retains write.queued earlier)
    · exact .inr (fun operation signed => after operation ((SignedBy.of_kept write.signed).mpr signed))
  | persist valid authorized ran _ ih =>
    have recorded := persistFresh_recorded valid ran
    rcases ih (queue.persist valid authorized ran) member with earlier | after
    · rcases persistFresh_queue valid ran earlier with rfl | before
      · exact .inr (fun operation signed => recorded.after_signed queue.chains signed)
      · exact .inl before
    · exact .inr (fun operation signed => after operation (recorded.signedBy.mpr (.inl signed)))

/-- Silent writes leave the rows in order. -/
theorem InOrder.silent (before : InOrder scope v) (queue : QueueInvariant P v) (write : Silent v v') :
    InOrder scope v' where
  signed := by
    rw [write.signed.operationMeta]
    exact before.signed
  ordered := by
    have subset : ∀ entry ∈ v'.queue, entry ∈ v.queue :=
      fun _ member => queue.queue_subset write.signed.retains write.queued member
    intro first firstIn second secondIn
    exact before.ordered first (subset _ firstIn) second (subset _ secondIn)
  closed := by
    intro entry member operation signed higher
    have signedBefore := (SignedBy.of_kept write.signed).mp signed
    have queued := before.closed entry (queue.queue_subset write.signed.retains write.queued member)
      operation signedBefore higher
    obtain ⟨id, row, found, foundAt, _, _, storedAt, rfl⟩ := signedBefore
    obtain ⟨stored, storedAgain, _, described⟩ := queue.chains.described id found foundAt
    obtain rfl : row = stored := Option.some.inj (storedAt.symm.trans storedAgain)
    rw [described.operationId] at queued ⊢
    rw [write.queue id (by simp [foundAt])]
    exact queued

theorem InTurn.silent (turn : InTurn v device place) (queue : QueueInvariant P v)
    (write : Silent v v') : InTurn v' device place :=
  fun entry member => turn entry (queue.queue_subset write.signed.retains write.queued member)

theorem Turns.silent (turns : Turns scope v entries) (queue : QueueInvariant P v)
    (write : Silent v v') : Turns scope v' entries :=
  ⟨turns.inScope, fun entry member => (turns.waiting entry member).silent queue write,
    turns.ascending⟩

/-- Persisting an operation in turn leaves the rows in order. -/
theorem InOrder.persist (before : InOrder scope v) (queue : QueueInvariant P v)
    (valid : validateCommit P mutation built = .ok ())
    (ran : persistFresh P v mutation built embedding committedAtMs queuedAt materialize =
      .ok (disposition, change, v'))
    (account : built.operation.accountId = scope.accountId)
    (workspace : built.operation.workspaceId = scope.workspaceId)
    (turn : InTurn v built.operation.deviceId (QueuedOperation.place ⟨built, queuedAt⟩)) :
    InOrder scope v' := by
  have recorded := persistFresh_recorded valid ran
  obtain ⟨_, outbox, _⟩ := persistFresh_queued ran
  have cases : ∀ entry ∈ v'.queue, _ := fun _ member => persistFresh_queue valid ran member
  -- No row that was there before is above the new one.
  have last : ∀ entry ∈ v.queue, entry.operation.deviceId = built.operation.deviceId →
      entry.operation.deviceSequence < built.operation.deviceSequence := by
    intro entry member same
    obtain ⟨_, signed, found, foundAt⟩ := queue.of_entry member
    refine recorded.after_signed queue.chains ?_
    have inScope : entry.operation.workspaceId = scope.workspaceId := by
      obtain ⟨_, row, other, otherAt, sameWorkspace, _⟩ := signed
      rw [← sameWorkspace]
      exact (before.signed _ _ otherAt).2.2
    rw [workspace, ← same, ← inScope]
    exact signed
  refine ⟨?_, ?_, ?_⟩
  · intro id found foundAt
    rw [recorded.operationMeta] at foundAt
    by_cases own : built.operation.operationId = id
    · subst own
      obtain rfl := Option.some.inj ((Table.find?_upsert_self ..).symm.trans foundAt)
      exact ⟨rfl, account, workspace⟩
    · rw [Table.find?_upsert_of_ne _ _ own] at foundAt
      exact before.signed id found foundAt
  · intro first firstIn second secondIn below
    rcases cases first firstIn with rfl | firstBefore
    · rcases cases second secondIn with rfl | secondBefore
      · exact absurd below.2 (lt_irrefl _)
      · exact absurd (last second secondBefore below.1.symm) (not_lt_of_gt below.2)
    · rcases cases second secondIn with rfl | secondBefore
      · obtain ⟨now, retries, place⟩ := turn first firstBefore below.1
        exact ⟨now.le, place, fun _ => retries⟩
      · exact before.ordered first firstBefore second secondBefore below
  · intro entry member operation signed higher
    rw [outbox]
    rcases recorded.signedBy.mp signed with signedBefore | ⟨_, _, rfl⟩
    · by_cases own : built.operation.operationId = operation.operationId
      · simp [own]
      · rw [Table.find?_upsert_of_ne _ _ own]
        rcases cases entry member with rfl | entryBefore
        · have lower := recorded.after_signed queue.chains (by rw [workspace]; exact signedBefore)
          exact absurd higher (not_lt_of_gt lower)
        · exact before.closed entry entryBefore operation signedBefore higher
    · simp

/-- The later operations of a commit stay in turn. -/
theorem Turns.persist (turns : Turns scope v (⟨built, queuedAt⟩ :: entries))
    (valid : validateCommit P mutation built = .ok ())
    (ran : persistFresh P v mutation built embedding committedAtMs queuedAt materialize =
      .ok (disposition, change, v')) : Turns scope v' entries := by
  obtain ⟨before, ascending⟩ := List.pairwise_cons.mp turns.ascending
  refine ⟨fun entry member => turns.inScope entry (by simp [member]), ?_, ascending⟩
  intro next member entry queued same
  rcases persistFresh_queue valid ran queued with rfl | earlier
  · exact ⟨rfl, rfl, before next member⟩
  · exact turns.waiting next (by simp [member]) entry earlier same

theorem Queues.inOrder (queues : Queues P v entries v') (queue : QueueInvariant P v)
    (before : InOrder scope v) (turns : Turns scope v entries) : InOrder scope v' := by
  induction queues with
  | done => exact before
  | silent write _ ih =>
    exact ih (queue.silent write) (before.silent queue write) (turns.silent queue write)
  | persist valid authorized ran _ ih =>
    obtain ⟨account, workspace⟩ := turns.inScope _ (List.mem_cons_self ..)
    exact ih (queue.persist valid authorized ran) (before.persist queue valid ran account workspace
      (turns.waiting _ (List.mem_cons_self ..))) (turns.persist valid ran)

theorem Turns.sublist (turns : Turns scope v entries) (sublist : fewer.Sublist entries) :
    Turns scope v fewer :=
  ⟨fun entry member => turns.inScope entry (sublist.subset member),
    fun entry member => turns.waiting entry (sublist.subset member),
    turns.ascending.sublist sublist⟩

/-- What an orderly commit queues is in turn. -/
theorem OrderlyCommit.queues (commits : OrderlyCommit P scope v v') :
    ∃ entries, Turns scope v entries ∧ Queues P v entries v' := by
  cases commits with
  | commit turns ran =>
    obtain ⟨entries, sublist, queues⟩ := commitOutgoing_queues ran
    exact ⟨entries, turns.sublist sublist, queues⟩
  | review turns ran =>
    obtain ⟨entries, sublist, queues⟩ := commitSignedCandidateReview_queues ran
    exact ⟨entries, turns.sublist sublist, queues⟩
  | @backfill _ deviceId _ _ _ draws _ inScope waiting ascending ran =>
    obtain ⟨entries, size, places, made, queues⟩ := backfillSyncRecords_queues ran
    refine ⟨entries, ⟨?_, ?_, ?_⟩, queues⟩
    · intro entry member
      obtain ⟨found, loaded, account, workspace, _⟩ := made entry member
      rw [inScope found loaded] at account workspace
      exact ⟨account, workspace⟩
    · intro entry member
      obtain ⟨_, _, _, _, device⟩ := made entry member
      obtain ⟨n, _, place⟩ := List.mem_map.mp (places.subset (List.mem_map_of_mem member))
      rw [device, ← place]
      exact waiting n
    · have ordered : ((List.range size).map (fun n => (draws n).place)).Pairwise (· < ·) := by
        rw [List.pairwise_map]
        exact (List.pairwise_lt_range).imp (fun lower => ascending _ _ lower)
      exact List.pairwise_map.mp (ordered.sublist places)

/-! ## What finishing does to the queue -/

/-- A row after a deferral, and what it was before. -/
theorem Deferred.queue_entry (deferred : Deferred v v' retries code) (member : entry ∈ v'.queue) :
    ∃ before ∈ v.queue, before.operationId = entry.operationId ∧
      before.operation = entry.operation ∧ before.place = entry.place ∧
      (entry.operationId ∉ retries.map Prod.fst → before = entry) ∧
      (entry.operationId ∈ retries.map Prod.fst → entry.row.safeErrorCode = some code ∧
        (entry.operationId, entry.row.nextAttemptMs) ∈ retries) := by
  obtain ⟨recordId, queued, storedAt⟩ := mem_queue.mp member
  rw [deferred.only] at storedAt
  by_cases moved : entry.operationId ∈ retries.map Prod.fst
  · obtain ⟨row, next, rowAt, listed, queuedAt, rfl, coded⟩ := deferred.moved _ _ moved queued
    refine ⟨⟨entry.operationId, row, entry.operation⟩, mem_queue.mpr ⟨recordId, rowAt, storedAt⟩, rfl,
      rfl, ?_, fun absent => absurd moved absent, fun _ => ⟨coded, listed⟩⟩
    simp [QueueEntry.place, queuedAt]
  · rw [deferred.others _ moved] at queued
    exact ⟨entry, mem_queue.mpr ⟨recordId, queued, storedAt⟩, rfl, rfl, rfl, fun _ => rfl,
      fun now => absurd now moved⟩

/-- A deferral that takes all rows of a device from some place on, in order. -/
theorem InOrder.deferred (before : InOrder scope v) (deferred : Deferred v v' retries code)
    (whole : ∀ first ∈ v.queue, ∀ second ∈ v.queue, first.Below second →
      (first.operationId ∈ retries.map Prod.fst ↔ second.operationId ∈ retries.map Prod.fst))
    (times : ∀ first ∈ v.queue, ∀ second ∈ v.queue, first.Below second → ∀ earlier later,
      (first.operationId, earlier) ∈ retries → (second.operationId, later) ∈ retries →
        earlier ≤ later) :
    InOrder scope v' where
  signed := by
    rw [deferred.only]
    exact before.signed
  ordered := by
    intro first firstIn second secondIn below
    obtain ⟨firstBefore, firstMember, firstId, firstOperation, firstPlace, firstOther, firstMoved⟩ :=
      deferred.queue_entry firstIn
    obtain ⟨secondBefore, secondMember, secondId, secondOperation, secondPlace, secondOther,
      secondMoved⟩ := deferred.queue_entry secondIn
    have belowBefore : firstBefore.Below secondBefore := by
      rw [QueueEntry.Below, firstOperation, secondOperation]
      exact below
    have precedes := before.ordered _ firstMember _ secondMember belowBefore
    have both := whole _ firstMember _ secondMember belowBefore
    rw [firstId, secondId] at both
    by_cases moved : first.operationId ∈ retries.map Prod.fst
    · obtain ⟨firstCode, firstListed⟩ := firstMoved moved
      obtain ⟨secondCode, secondListed⟩ := secondMoved (both.mp moved)
      refine ⟨?_, by rw [← firstPlace, ← secondPlace]; exact precedes.place, ?_⟩
      · exact times _ firstMember _ secondMember belowBefore _ _ (firstId ▸ firstListed)
          (secondId ▸ secondListed)
      · simp only [OutboxRow.retries, firstCode, secondCode]
        exact fun retries => retries
    · rw [← firstOther moved, ← secondOther (fun listed => moved (both.mpr listed))]
      exact precedes
  closed := by
    intro entry member operation signed higher
    obtain ⟨entryBefore, beforeMember, _, same, _⟩ := deferred.queue_entry member
    rw [← same] at signed higher
    rw [deferred.queued]
    refine before.closed entryBefore beforeMember operation ?_ higher
    rw [deferred.only] at signed
    exact signed

/-- A signed operation and the row it is stored in. -/
theorem ChainInvariant.signed_row (chains : ChainInvariant P v)
    (signed : SignedBy v workspace device operation) : ∃ recordId found,
      v.operations.find? operation.operationId = some ⟨recordId, operation⟩ ∧
        v.operationMeta.find? operation.operationId = some found ∧
        Describes P operation.operationId found operation ∧
        operation.workspaceId = workspace ∧ operation.deviceId = device := by
  obtain ⟨id, row, found, foundAt, rfl, rfl, storedAt, rfl⟩ := signed
  obtain ⟨stored, storedAgain, _, described⟩ := chains.described id found foundAt
  obtain rfl : row = stored := Option.some.inj (storedAt.symm.trans storedAgain)
  have same := described.operationId
  exact ⟨row.recordId, found, by rw [same]; exact storedAt, by rw [same]; exact foundAt,
    same.symm ▸ described, described.workspace.symm, described.device.symm⟩

/-- Acknowledging a push that has the earlier rows of its devices. -/
theorem InOrder.acknowledged (before : InOrder scope v) (queue : QueueInvariant P v)
    (issued : Issued P engine v push) (closedIn : push.ClosedIn v)
    (sent : ∀ id, id ∈ ids ↔ id ∈ push.operations.map CanonicalOperation.operationId) :
    InOrder scope (acknowledgeOutbox v ids) := by
  have remaining : ∀ entry ∈ (acknowledgeOutbox v ids).queue, entry.operationId ∉ ids ∧
      entry ∈ v.queue := by
    intro entry member
    obtain ⟨recordId, queued, storedAt⟩ := mem_queue.mp member
    rw [acknowledgeOutbox_find?] at queued
    split at queued
    · simp at queued
    · rename_i left
      exact ⟨left, mem_queue.mpr ⟨recordId, queued, storedAt⟩⟩
  refine ⟨before.signed, ?_, ?_⟩
  · intro first firstIn second secondIn
    exact before.ordered first (remaining first firstIn).2 second (remaining second secondIn).2
  · intro entry member operation signed higher
    obtain ⟨left, queuedBefore⟩ := remaining entry member
    have queued := before.closed entry queuedBefore operation signed higher
    have kept : operation.operationId ∉ ids := by
      intro acknowledged
      obtain ⟨item, itemIn, sameId⟩ := List.mem_map.mp ((sent _).mp acknowledged)
      obtain ⟨_, row, _, _, rowAt, rfl, _⟩ := issued.stored item itemIn
      obtain ⟨recordId, _, storedAt, _, _, _, device⟩ := queue.chains.signed_row signed
      rw [sameId] at rowAt
      obtain rfl : row = ⟨recordId, operation⟩ := Option.some.inj (rowAt.symm.trans storedAt)
      exact left ((sent _).mpr (closedIn _ itemIn entry queuedBefore device.symm higher))
    rw [acknowledgeOutbox_find?, if_neg kept]
    exact queued

/-! ## Preparing from rows in order -/

theorem queue_nodup (v : Vault) : v.queue.Nodup := by
  refine Table.pairwise_filterMap_rows ?_
  intro left right first second lower firstMade secondMade same
  obtain ⟨_, _, rfl⟩ := Option.map_eq_some_iff.mp firstMade
  obtain ⟨_, _, rfl⟩ := Option.map_eq_some_iff.mp secondMade
  exact absurd (congrArg QueueEntry.operationId same) lower.ne

theorem dueQueue_nodup (v : Vault) (member : Bool) (nowMs : Nat) : (v.dueQueue member nowMs).Nodup :=
  (List.perm_insertionSort ..).nodup_iff.mpr ((queue_nodup v).filter _)

theorem dueQueue_sorted (v : Vault) (member : Bool) (nowMs : Nat) :
    (v.dueQueue member nowMs).Pairwise (fun left right => left.key ≤ right.key) := by
  have total : Std.Total (fun left right : QueueEntry => left.key ≤ right.key) :=
    ⟨fun left right => le_total left.key right.key⟩
  have transitive : IsTrans QueueEntry (fun left right => left.key ≤ right.key) :=
    ⟨fun _ _ _ first second => first.trans second⟩
  exact List.pairwise_insertionSort _ _

theorem QueueEntry.Precedes.key_lt (precedes : QueueEntry.Precedes first second) :
    first.key < second.key := by
  rw [QueueEntry.key, QueueEntry.key, Prod.Lex.toLex_lt_toLex']
  exact ⟨precedes.next, fun _ => precedes.place⟩

/-- The operation of a queued row, in the chain of its device. -/
theorem InOrder.signed_entry (order : InOrder scope v) (queue : QueueInvariant P v)
    (member : entry ∈ v.queue) :
    SignedBy v scope.workspaceId entry.operation.deviceId entry.operation := by
  obtain ⟨_, signed, _⟩ := queue.of_entry member
  have workspace : entry.operation.workspaceId = scope.workspaceId := by
    obtain ⟨_, _, found, foundAt, same, _⟩ := signed
    rw [← same]
    exact (order.signed _ _ foundAt).2.2
  rw [← workspace]
  exact signed

/-- A device has one row for each number. -/
theorem InOrder.entry_unique (order : InOrder scope v) (queue : QueueInvariant P v)
    (firstIn : first ∈ v.queue) (secondIn : second ∈ v.queue)
    (device : first.operation.deviceId = second.operation.deviceId)
    (number : first.operation.deviceSequence = second.operation.deviceSequence) :
    first = second := by
  obtain ⟨operations, chain⟩ := queue.chains.chained scope.workspaceId first.operation.deviceId
  have firstPlace := place_of_sequences chain.sequences
    ((chain.members _).mpr (order.signed_entry queue firstIn))
  have secondPlace := place_of_sequences chain.sequences
    ((chain.members _).mpr (device ▸ order.signed_entry queue secondIn))
  rw [number] at firstPlace
  have same : first.operation = second.operation :=
    Option.some.inj (firstPlace.2.symm.trans secondPlace.2)
  have sameId : first.operationId = second.operationId := by
    rw [← (queue.of_entry firstIn).1, ← (queue.of_entry secondIn).1, same]
  obtain ⟨_, firstRow, _⟩ := mem_queue.mp firstIn
  obtain ⟨_, secondRow, _⟩ := mem_queue.mp secondIn
  rw [sameId] at firstRow
  have sameRow : first.row = second.row := Option.some.inj (firstRow.symm.trans secondRow)
  cases first
  cases second
  simp_all

/-- The first due rows of a vault. -/
def Vault.batch (v : Vault) (member : Bool) (nowMs count : Nat) : List QueueEntry :=
  (v.dueQueue member nowMs).take count

theorem mem_batch (taken : entry ∈ v.batch member nowMs count) : entry ∈ v.queue :=
  (mem_dueQueue.mp (List.mem_of_mem_take taken)).1

/-- With a row, the first due rows hold the earlier rows of its device. -/
theorem InOrder.batch_closed (order : InOrder scope v) (queue : QueueInvariant P v)
    (taken : second ∈ v.batch member nowMs count) (queued : first ∈ v.queue)
    (below : first.Below second) : first ∈ v.batch member nowMs count := by
  have secondDue := List.mem_of_mem_take taken
  obtain ⟨secondIn, due⟩ := mem_dueQueue.mp secondDue
  have precedes := order.ordered first queued second secondIn below
  obtain ⟨_, _, found, foundAt⟩ := queue.of_entry queued
  have firstDue : first ∈ v.dueQueue member nowMs := by
    refine mem_dueQueue.mpr ⟨queued, ?_⟩
    simp only [Vault.isDue, decide_eq_true_eq] at due ⊢
    exact ⟨precedes.next.trans due.1, .inr (by simp [foundAt]), precedes.retries due.2.2⟩
  exact mem_take_of_lower (dueQueue_sorted v member nowMs) taken firstDue
    (not_le_of_gt precedes.key_lt)

/-- The rows of one device are sent in the order of its chain. -/
theorem InOrder.batch_ascending (order : InOrder scope v) (queue : QueueInvariant P v)
    (member : Bool) (nowMs count : Nat) (device : DeviceId) :
    (((v.batch member nowMs count).filter (fun entry => entry.operation.deviceId = device)).map
      (fun entry => entry.operation.deviceSequence)).Pairwise (· < ·) := by
  have sorted : (v.batch member nowMs count).Pairwise
      (fun left right => left.key ≤ right.key ∧ left ≠ right) :=
    ((dueQueue_sorted v member nowMs).and (dueQueue_nodup v member nowMs)).sublist
      (List.take_sublist ..)
  rw [List.pairwise_map]
  refine (sorted.filter _).imp_of_mem ?_
  rintro first second firstIn secondIn ⟨lower, different⟩
  obtain ⟨firstTaken, firstOf⟩ := List.mem_filter.mp firstIn
  obtain ⟨secondTaken, secondOf⟩ := List.mem_filter.mp secondIn
  have sameDevice : first.operation.deviceId = second.operation.deviceId :=
    (of_decide_eq_true firstOf).trans (of_decide_eq_true secondOf).symm
  by_contra notLower
  rcases Nat.lt_or_eq_of_le (not_lt.mp notLower) with below | same
  · have precedes := order.ordered second (mem_batch secondTaken) first (mem_batch firstTaken)
      ⟨sameDevice.symm, below⟩
    exact absurd lower (not_le_of_gt precedes.key_lt)
  · exact different (order.entry_unique queue (mem_batch firstTaken) (mem_batch secondTaken)
      sameDevice same.symm)

theorem le_acknowledgedSequence (foundAt : v.operationMeta.find? operationId = some found)
    (outgoing : found.direction = .outgoing) (gone : v.outbox.find? operationId = none) :
    found.deviceSequence ≤ v.acknowledgedSequence found.workspaceId found.deviceId :=
  le_greatest (Table.mem_filterMap_rows.mpr ⟨operationId, found, foundAt, by simp [outgoing, gone]⟩)

theorem acknowledgedSequence_mem (positive : 0 < v.acknowledgedSequence workspace device) :
    ∃ id found, v.operationMeta.find? id = some found ∧ found.workspaceId = workspace ∧
      found.deviceId = device ∧ v.outbox.find? id = none ∧
      found.deviceSequence = v.acknowledgedSequence workspace device := by
  obtain ⟨id, found, foundAt, picked⟩ := Table.mem_filterMap_rows.mp (greatest_mem positive)
  split at picked
  · rename_i row
    exact ⟨id, found, foundAt, row.1, row.2.1, row.2.2.2, Option.some.inj picked⟩
  · simp at picked

/-- A queued operation comes after everything its device has acknowledged. -/
theorem InOrder.after_acknowledged (order : InOrder scope v) (queue : QueueInvariant P v)
    (member : entry ∈ v.queue) :
    v.acknowledgedSequence scope.workspaceId entry.operation.deviceId <
      entry.operation.deviceSequence := by
  by_contra notAfter
  obtain ⟨operations, chain⟩ := queue.chains.chained scope.workspaceId entry.operation.deviceId
  have entryPlace := place_of_sequences chain.sequences
    ((chain.members _).mpr (order.signed_entry queue member))
  have positive : 0 < v.acknowledgedSequence scope.workspaceId entry.operation.deviceId := by omega
  obtain ⟨id, found, foundAt, workspace, device, gone, number⟩ := acknowledgedSequence_mem positive
  obtain ⟨row, rowAt, _, described⟩ := queue.chains.described id found foundAt
  have signed : SignedBy v scope.workspaceId entry.operation.deviceId row.operation :=
    ⟨id, row, found, foundAt, workspace, device, rowAt, rfl⟩
  have sequence : row.operation.deviceSequence =
      v.acknowledgedSequence scope.workspaceId entry.operation.deviceId := by
    rw [← described.sequence, number]
  rcases Nat.lt_or_eq_of_le (not_lt.mp notAfter) with below | same
  · have queued := order.closed entry member row.operation signed (by omega)
    rw [described.operationId, gone] at queued
    simp at queued
  · have rowPlace := place_of_sequences chain.sequences ((chain.members _).mpr signed)
    rw [sequence, ← same] at rowPlace
    have sameOperation : entry.operation = row.operation :=
      Option.some.inj (entryPlace.2.symm.trans rowPlace.2)
    obtain ⟨_, queued, _⟩ := mem_queue.mp member
    rw [← (queue.of_entry member).1, sameOperation, described.operationId, gone] at queued
    simp at queued

/-- Between what a device has acknowledged and a queued row there are only queued rows. -/
theorem InOrder.queued_between (order : InOrder scope v) (queue : QueueInvariant P v)
    (member : entry ∈ v.queue)
    (past : v.acknowledgedSequence scope.workspaceId entry.operation.deviceId < number)
    (lower : number < entry.operation.deviceSequence) :
    ∃ earlier ∈ v.queue, earlier.operation.deviceId = entry.operation.deviceId ∧
      earlier.operation.deviceSequence = number := by
  obtain ⟨operations, chain⟩ := queue.chains.chained scope.workspaceId entry.operation.deviceId
  have place := place_of_sequences chain.sequences
    ((chain.members _).mpr (order.signed_entry queue member))
  have inside := (List.getElem?_eq_some_iff.mp place.2).1
  have numbered : number ∈ operations.map SyncOperationV1.deviceSequence := by
    rw [chain.sequences, List.mem_range'_1]
    omega
  obtain ⟨operation, inChain, rfl⟩ := List.mem_map.mp numbered
  obtain ⟨recordId, found, storedAt, foundAt, described, _, device⟩ :=
    queue.chains.signed_row ((chain.members _).mp inChain)
  obtain ⟨outgoing, _, workspace⟩ := order.signed _ _ foundAt
  cases rowAt : v.outbox.find? operation.operationId with
  | none =>
    have acknowledged := le_acknowledgedSequence foundAt outgoing rowAt
    rw [described.sequence, workspace, described.device, device] at acknowledged
    omega
  | some row =>
    exact ⟨⟨operation.operationId, row, operation⟩, mem_queue.mpr ⟨recordId, rowAt, storedAt⟩,
      device, rfl⟩

/-- The due rows of a device are consecutive from the first that is not acknowledged. -/
theorem InOrder.batch_consecutive (order : InOrder scope v) (queue : QueueInvariant P v)
    (member : Bool) (nowMs count : Nat) (device : DeviceId) :
    ((v.batch member nowMs count).filter (fun entry => entry.operation.deviceId = device)).map
        (fun entry => entry.operation.deviceSequence) =
      List.range' (v.acknowledgedSequence scope.workspaceId device + 1)
        ((v.batch member nowMs count).filter (fun entry => entry.operation.deviceId = device)).length := by
  rw [← List.length_map (fun entry : QueueEntry => entry.operation.deviceSequence)]
  refine eq_range'_of_closed (order.batch_ascending queue member nowMs count device) ?_ ?_
  · intro number listed
    obtain ⟨entry, inBatch, rfl⟩ := List.mem_map.mp listed
    obtain ⟨taken, of⟩ := List.mem_filter.mp inBatch
    rw [← of_decide_eq_true of]
    exact order.after_acknowledged queue (mem_batch taken)
  · intro number listed lower past less
    obtain ⟨entry, inBatch, rfl⟩ := List.mem_map.mp listed
    obtain ⟨taken, of⟩ := List.mem_filter.mp inBatch
    obtain rfl := of_decide_eq_true of
    obtain ⟨earlier, inQueue, sameDevice, rfl⟩ :=
      order.queued_between queue (mem_batch taken) past less
    have earlierTaken := order.batch_closed queue taken inQueue ⟨sameDevice, less⟩
    exact List.mem_map.mpr ⟨earlier, List.mem_filter.mpr ⟨earlierTaken, by simp [sameDevice]⟩, rfl⟩

/-- A prepared push carries the first due rows. -/
theorem PreparedFrom.batch_eq (prepared : PreparedFrom P engine v nowMs push)
    (queue : QueueInvariant P v) (legible : Legible P v) : ∃ member count,
      push.operations = (v.batch member (min nowMs sqliteMax) count).map
        (fun entry => canonicalOperation P entry.operation) := by
  obtain ⟨history, _, items, _⟩ := prepared.batch queue legible
  refine ⟨history.isSome, min push.operations.length maxBatch, ?_⟩
  have same : List.Forall₂ (fun item (entry : QueueEntry) => item = canonicalOperation P entry.operation)
      push.operations (v.batch history.isSome (min nowMs sqliteMax)
        (min push.operations.length maxBatch)) := by
    rw [Vault.batch, ← List.take_take]
    exact items.flip.imp (fun _ _ related => related.1)
  rw [← List.forall₂_map_right_iff (R := Eq), List.forall₂_eq_eq_eq] at same
  exact same

theorem PreparedFrom.closedIn (prepared : PreparedFrom P engine v nowMs push)
    (queue : QueueInvariant P v) (legible : Legible P v) (order : InOrder scope v) :
    push.ClosedIn v := by
  obtain ⟨member, count, items⟩ := prepared.batch_eq queue legible
  intro item itemIn entry queued device lower
  rw [items] at itemIn ⊢
  obtain ⟨second, taken, rfl⟩ := List.mem_map.mp itemIn
  have inBatch := order.batch_closed queue taken queued ⟨device, lower⟩
  rw [List.map_map]
  exact List.mem_map.mpr ⟨entry, inBatch, (queue.of_entry queued).1⟩

/-- A due row of the scope fits into an empty batch. -/
theorem InOrder.canonicalRow_ok (order : InOrder engine.scope v) (queue : QueueInvariant P v)
    (legible : Legible P v) (member : entry ∈ v.queue)
    (read : dueOperation P v endpoint entry = .ok row) :
    ∃ item, engine.canonicalRow P 0 row = .ok item := by
  obtain ⟨rfl, sameId, encodable⟩ := dueOperation_ok read
  obtain ⟨recordId, found, storedAt, foundAt, described, workspace, _⟩ :=
    queue.chains.signed_row (order.signed_entry queue member)
  have account : entry.operation.accountId = engine.scope.accountId := by
    rw [← described.account]
    exact (order.signed _ _ foundAt).2.1
  have readBack : decodeSyncOperationV1 P (P.writeOperation entry.operation) = .ok entry.operation :=
    legible _ found _ foundAt storedAt
  have small : (P.writeOperation entry.operation).length ≤ maxCborOperationBytes := by
    have decoded := readBack
    simp only [decodeSyncOperationV1, ok_iff] at decoded
    exact decoded.1
  have envelope := engine.oneEnvelope
  have request := engine.oneRequest
  refine ⟨canonicalOperation P entry.operation, ?_⟩
  simp only [SyncEngine.canonicalRow, ok_iff, Nat.zero_add]
  exact ⟨⟨by omega, by omega⟩, entry.operation, readBack, _, encodable,
    ⟨rfl, sameId, account, workspace⟩, rfl⟩

/-- Preparing from rows in order defers nothing. -/
theorem InOrder.preparePush_same (order : InOrder engine.scope v) (queue : QueueInvariant P v)
    (legible : Legible P v) (ran : engine.preparePush P nowMs v = (result, v')) :
    v' = v ∧ (result = .ok none ∨ result = .error .transient ∨
      ∃ push, result = .ok (some push) ∧ PreparedFrom P engine v nowMs push) := by
  rcases preparePush_cases ran with ⟨rfl, rfl⟩ | ⟨rfl, push, rfl, prepared⟩ | ⟨rfl, rfl, _⟩ |
    ⟨first, rest, code, rfl, read, refused, _⟩
  · exact ⟨rfl, .inl rfl⟩
  · exact ⟨rfl, .inr (.inr ⟨push, rfl, prepared⟩)⟩
  · exact ⟨rfl, .inr (.inl rfl)⟩
  · obtain ⟨_, history, _, rows⟩ := (dueOutbox_ok (by decide)).mp read
    have made := forall₂_mem_right rows (List.mem_cons_self ..)
    obtain ⟨entry, taken, readRow⟩ := made
    have inQueue := (mem_dueQueue.mp (List.mem_of_mem_take taken)).1
    obtain ⟨item, ok⟩ := order.canonicalRow_ok queue legible inQueue readRow
    exact absurd (ok.symm.trans refused) (by simp)

/-! ## Orderly runs keep the order -/

structure OrderlyInvariant (P : Primitives) (engine : SyncEngine) (s : PushState) : Prop where
  client : ClientInvariant P engine s
  order : InOrder engine.scope s.vault
  closed : ∀ push ∈ s.issued, push.ClosedIn s.vault

/-- An orderly commit is a local commit. -/
theorem OrderlyCommit.localCommit (commits : OrderlyCommit P scope v v') : LocalCommit P v v' := by
  cases commits with
  | commit _ ran => exact .commit ran
  | review _ ran => exact .review ran
  | backfill _ _ _ ran => exact .backfill ran

/-- An orderly step is a step of a client. -/
theorem OrderlyStep.pushStep (step : OrderlyStep P engine s s') :
    PushStep P engine (fun _ _ => True) s s' := by
  cases step with
  | commit commits legible => exact .commit commits.localCommit legible
  | prepare ran => exact .prepare ran
  | finish issued _ ran => exact .finish issued trivial ran

theorem orderlyRun_of_typed (fresh : start.Fresh) (run : Relation.ReflTransGen
      (TypedStep (OrderlyCommit (withCodec P) engine.scope) (OrderlyStep (withCodec P) engine))
      start s) : Relation.ReflTransGen (OrderlyStep (withCodec P) engine) start s :=
  (TypedStep.run OrderlyCommit.localCommit OrderlyStep.pushStep .commit fresh run).1

/-- What a commit queues comes after every push that was prepared before. -/
theorem PreparedPush.ClosedIn.queues (closedIn : push.ClosedIn v) (queues : Queues P v entries v')
    (queue : QueueInvariant P v) (after : InOrder engine.scope v')
    (issued : Issued P engine v push) : push.ClosedIn v' := by
  intro item itemIn entry queued device lower
  rcases queues.queue_new queue queued with earlier | later
  · exact closedIn item itemIn entry earlier device lower
  · obtain ⟨found, row, foundAt, _, rowAt, rfl, _, workspace⟩ := issued.stored item itemIn
    obtain ⟨stored, storedAt, _, described⟩ := queue.chains.described _ found foundAt
    obtain rfl : row = stored := Option.some.inj (rowAt.symm.trans storedAt)
    obtain ⟨_, _, _, _, _, entryWorkspace, _⟩ := (queue.queues queues).chains.signed_row
      (after.signed_entry (queue.queues queues) queued)
    have signed : SignedBy v entry.operation.workspaceId entry.operation.deviceId row.operation :=
      ⟨_, row, found, foundAt, by rw [described.workspace, workspace, entryWorkspace],
        by rw [described.device, device]; rfl, rowAt, rfl⟩
    exact absurd (later row.operation signed) (not_lt_of_gt lower)

/-- A write of the outbox that keeps the operations of the queue keeps pushes closed. -/
theorem Unqueues.closedIn (unqueues : Unqueues v v') (closedIn : push.ClosedIn v) :
    push.ClosedIn v' := by
  intro item itemIn entry queued device lower
  obtain ⟨recordId, rowAt, storedAt⟩ := mem_queue.mp queued
  obtain ⟨row, before⟩ := Option.isSome_iff_exists.mp
    (unqueues.queued entry.operationId (by simp [rowAt]))
  rw [unqueues.only] at storedAt
  exact closedIn item itemIn ⟨entry.operationId, row, entry.operation⟩
    (mem_queue.mpr ⟨recordId, before, storedAt⟩) device lower

/-- A push that is closed and keeps turns is deferred with all later rows of its devices. -/
theorem KeepsTurns.whole (turns : KeepsTurns engine push response random v)
    (issued : Issued P engine v push) (closedIn : push.ClosedIn v)
    (firstIn : first ∈ v.queue) (secondIn : second ∈ v.queue) (below : first.Below second) :
    first.operationId ∈ push.operations.map CanonicalOperation.operationId ↔
      second.operationId ∈ push.operations.map CanonicalOperation.operationId := by
  refine ⟨fun sent => (turns first firstIn second secondIn below sent).1, ?_⟩
  intro sent
  obtain ⟨item, itemIn, sameId⟩ := List.mem_map.mp sent
  obtain ⟨found, row, foundAt, _, rowAt, rfl, _, _⟩ := issued.stored item itemIn
  obtain ⟨recordId, _, storedAt⟩ := mem_queue.mp secondIn
  rw [sameId] at rowAt
  obtain rfl : row = ⟨recordId, second.operation⟩ := Option.some.inj (rowAt.symm.trans storedAt)
  exact closedIn _ itemIn first firstIn below.1 below.2

/-- Deferring a push for good keeps the rows in order when the push keeps turns. -/
theorem KeepsTurns.deferred_for_good (turns : KeepsTurns engine push response random v)
    (issued : Issued P engine v push) (closedIn : push.ClosedIn v) (before : InOrder scope v)
    (deferred : Deferred v v' (retriesAt (push.operations.map CanonicalOperation.operationId)
      permanentRetryMs) code) : InOrder scope v' := by
  refine before.deferred deferred ?_ ?_
  · intro first firstIn second secondIn below
    rw [retriesAt_ids]
    exact turns.whole issued closedIn firstIn secondIn below
  · intro first _ second _ _ earlier later firstTime secondTime
    simp only [retriesAt, List.mem_map, Prod.mk.injEq] at firstTime secondTime
    obtain ⟨_, _, _, rfl⟩ := firstTime
    obtain ⟨_, _, _, rfl⟩ := secondTime
    exact le_refl _

theorem retryTimes_ids (engine : SyncEngine) (due : List DueOutboxOperation) (nowMs : Nat)
    (random : OperationId → Nat → Nat) : (engine.retryTimes due nowMs random).map Prod.fst =
      due.map DueOutboxOperation.operationId := by
  simp [SyncEngine.retryTimes, Function.comp_def]

theorem mem_retryTimes : (operationId, time) ∈ engine.retryTimes due nowMs random ↔
    ∃ row ∈ due, row.operationId = operationId ∧
      time = min (min (nowMs + engine.delay random row) u64Max) permanentRetryMs := by
  simp only [SyncEngine.retryTimes, SyncEngine.delay, List.mem_map, Prod.mk.injEq, eq_comm]

/-- Finishing a push keeps the rows in order. -/
theorem Finished.inOrder (finished : Finished P engine push response nowMs random v result v')
    (before : InOrder engine.scope v) (queue : QueueInvariant P v) (issued : Issued P engine v push)
    (closedIn : push.ClosedIn v) (turns : Acknowledges push response ∨
      KeepsTurns engine push response random v) : InOrder engine.scope v' := by
  cases finished with
  | refused => exact before
  | @retried _ error failed retryable deferred =>
    rcases turns with ⟨_, _, answered, _⟩ | turns
    · exact absurd (failed.symm.trans answered) (by simp)
    · refine before.deferred deferred ?_ ?_
      · intro first firstIn second secondIn below
        rw [retryTimes_ids, issued.ids]
        exact turns.whole issued closedIn firstIn secondIn below
      · intro first firstIn second secondIn below earlier later firstTime secondTime
        have listed := List.mem_map_of_mem (f := Prod.fst) firstTime
        rw [retryTimes_ids, issued.ids] at listed
        obtain ⟨firstRow, firstDue, firstSame, rfl⟩ := mem_retryTimes.mp firstTime
        obtain ⟨secondRow, secondDue, secondSame, rfl⟩ := mem_retryTimes.mp secondTime
        have shorter := (turns first firstIn second secondIn below listed).2
          ⟨error, failed, retryable⟩ firstRow firstDue secondRow secondDue firstSame secondSame
        omega
  | failed failed _ deferred =>
    rcases turns with ⟨_, _, answered, _⟩ | turns
    · exact absurd (failed.symm.trans answered) (by simp)
    · rw [issued.ids] at deferred
      exact turns.deferred_for_good issued closedIn before deferred
  | invalid answered refused deferred =>
    rcases turns with ⟨_, _, same, valid⟩ | turns
    · obtain rfl := Except.ok.inj (answered.symm.trans same)
      exact absurd (refused.symm.trans valid) (by simp)
    · exact turns.deferred_for_good issued closedIn before deferred
  | acknowledged _ _ _ valid _ =>
    exact before.acknowledged queue issued closedIn (validateReceipt_ok valid)

theorem OrderlyStep.invariant (step : OrderlyStep P engine s s')
    (before : OrderlyInvariant P engine s) : OrderlyInvariant P engine s' := by
  have client := step.pushStep.clientInvariant before.client
  cases step with
  | commit commits _ =>
    obtain ⟨entries, turns, queues⟩ := commits.queues
    have order := queues.inOrder before.client.queue before.order turns
    exact ⟨client, order, fun push member => (before.closed push member).queues queues
      before.client.queue order (before.client.issued push member)⟩
  | prepare ran =>
    obtain ⟨rfl, rfl | rfl | ⟨push, rfl, prepared⟩⟩ :=
      before.order.preparePush_same before.client.queue before.client.legible ran
    · exact before
    · exact before
    · refine ⟨client, before.order, ?_⟩
      intro other member
      rcases List.mem_append.mp member with new | old
      · obtain rfl := List.mem_singleton.mp new
        exact prepared.closedIn before.client.queue before.client.legible before.order
      · exact before.closed other old
  | finish issued turns ran =>
    have finished := finishPush_finished ran
    exact ⟨client, finished.inOrder before.order before.client.queue
      (before.client.issued _ issued) (before.closed _ issued) turns,
      fun push member => finished.unqueues.closedIn (before.closed push member)⟩

theorem PushState.Fresh.orderlyInvariant (fresh : PushState.Fresh s) :
    OrderlyInvariant P engine s where
  client := fresh.clientInvariant
  order := by
    have empty : s.vault.queue = [] := by
      unfold Vault.queue
      rw [fresh.outbox]
      rfl
    refine ⟨?_, ?_, ?_⟩
    · intro id found foundAt
      simp [fresh.unsigned.operationMeta] at foundAt
    · simp [empty]
    · simp [empty]
  closed := by simp [fresh.issued]

theorem OrderlyRun.invariant (run : Relation.ReflTransGen (OrderlyStep P engine) start s)
    (before : OrderlyInvariant P engine start) : OrderlyInvariant P engine s := by
  induction run with
  | refl => exact before
  | tail _ step ih => exact step.invariant ih

/-! ## The theorem -/

/-- The chain of a device in the engine's scope, as the hosted log takes it. -/
theorem InOrder.numbered (order : InOrder scope v) (chains : ChainInvariant P v)
    (chain : DeviceChain P v scope.workspaceId device operations) :
    Numbered P scope device operations where
  owned := by
    intro operation member
    obtain ⟨_, found, _, foundAt, described, workspace, own⟩ :=
      chains.signed_row ((chain.members operation).mp member)
    refine ⟨?_, workspace, own⟩
    rw [← described.account]
    exact (order.signed _ _ foundAt).2.1
  sequences := chain.sequences
  linked := chain.linked
  distinct := by
    intro left leftIn right rightIn same
    obtain ⟨_, _, leftAt, _⟩ := chains.signed_row ((chain.members left).mp leftIn)
    obtain ⟨_, _, rightAt, _⟩ := chains.signed_row ((chain.members right).mp rightIn)
    rw [same] at leftAt
    exact congrArg OperationRow.operation (Option.some.inj (leftAt.symm.trans rightAt))

/-- The operations of one device in a push. -/
def PreparedPush.ofDevice (push : PreparedPush) (device : DeviceId) : List CanonicalOperation :=
  push.operations.filter (fun item => item.deviceId = device)

/-- Pushes prepared from the vault follow the chains of its devices. A push lists the
operations of a device without a gap from the first that is not acknowledged, and a
hosted log that has at least the acknowledged ones finds them in order. Under the identity they
were signed for, its answer is not one that the client takes as final for the integrity of the
rows. Preparing defers no row. -/
def PushesInOrder (P : Primitives) (engine : SyncEngine) (v : Vault) : Prop :=
  ∀ nowMs result v', engine.preparePush P nowMs v = (result, v') → v' = v ∧
    ∀ push, result = .ok (some push) → ∀ device,
      (push.ofDevice device).map CanonicalOperation.deviceSequence =
        List.range' (v.acknowledgedSequence engine.scope.workspaceId device + 1)
          (push.ofDevice device).length ∧
      ∀ batch, collect (fun item => decodeSyncOperationV1 P item.bytes) (push.ofDevice device) =
          .ok batch →
        ∀ chain, DeviceChain P v engine.scope.workspaceId device chain → ∀ log count,
          Hosts P log engine.scope device chain count →
          v.acknowledgedSequence engine.scope.workspaceId device ≤ count →
          ∀ identityContext error,
            serviceAppendSyncOperations P identityContext log batch = .error error →
              error.isDisorder = false ∧
              ∀ context, identityContext engine.scope.workspaceId device = .ok context →
                (∀ operation ∈ batch, context.Signs operation ∧ operation.Sealed P) →
                error.transportError ≠ .integrity

/-- A push lists the rows of a device as the first due rows have them. -/
theorem PreparedPush.ofDevice_eq {rows : List QueueEntry}
    (items : push.operations = rows.map (fun entry => canonicalOperation P entry.operation))
    (device : DeviceId) :
    push.ofDevice device = (rows.filter (fun entry => entry.operation.deviceId = device)).map
      (fun entry => canonicalOperation P entry.operation) := by
  rw [PreparedPush.ofDevice, items, List.filter_map]
  rfl

/-- Queued operations are read back as they are. -/
theorem decode_rows {rows : List QueueEntry} (queue : QueueInvariant P v) (legible : Legible P v)
    (queued : ∀ entry ∈ rows, entry ∈ v.queue)
    (decoded : collect (fun item => decodeSyncOperationV1 P item.bytes)
      (rows.map (fun entry => canonicalOperation P entry.operation)) = .ok batch) :
    batch = rows.map QueueEntry.operation := by
  have readBack : ∀ entry ∈ rows,
      decodeSyncOperationV1 P (P.writeOperation entry.operation) = .ok entry.operation := by
    intro entry member
    obtain ⟨recordId, rowAt, storedAt⟩ := mem_queue.mp (queued entry member)
    obtain ⟨found, _, foundAt, _⟩ := queue.signed _ _ rowAt
    exact legible _ found _ foundAt storedAt
  have read : collect (fun item => decodeSyncOperationV1 P item.bytes)
      (rows.map (fun entry => canonicalOperation P entry.operation)) =
        .ok (rows.map QueueEntry.operation) := by
    rw [collect_eq_ok, List.forall₂_map_left_iff, List.forall₂_map_right_iff, List.forall₂_same]
    exact readBack
  exact Except.ok.inj (decoded.symm.trans read)

theorem OrderlyInvariant.pushesInOrder (invariant : OrderlyInvariant P engine s) :
    PushesInOrder P engine s.vault := by
  intro nowMs result v' ran
  obtain ⟨queue, legible, _⟩ := invariant.client
  have order := invariant.order
  obtain ⟨rfl, outcomes⟩ := order.preparePush_same queue legible ran
  refine ⟨rfl, ?_⟩
  rintro push rfl device
  obtain ⟨other, same, prepared⟩ : ∃ other, Except.ok (some push) = (.ok (some other) :
      Except SafeErrorCode _) ∧ PreparedFrom P engine s.vault nowMs other := by
    simpa using outcomes
  obtain rfl : push = other := by simpa using same
  obtain ⟨member, count, items⟩ := prepared.batch_eq queue legible
  have consecutive := order.batch_consecutive queue member (min nowMs sqliteMax) count device
  rw [PreparedPush.ofDevice_eq items device]
  refine ⟨by rw [List.map_map, List.length_map]; exact consecutive, ?_⟩
  intro batch decoded chain chained log held hosts past identityContext error failed
  have inQueue : ∀ entry ∈ (s.vault.batch member (min nowMs sqliteMax) count).filter
      (fun entry => entry.operation.deviceId = device), entry ∈ s.vault.queue :=
    fun entry taken => mem_batch (List.mem_filter.mp taken).1
  have valid : ∀ operation ∈ batch, operation.validate = .ok () := by
    intro operation sent
    obtain ⟨_, _, read⟩ := collect_mem decoded sent
    exact (decodeSyncOperationV1_ok read).1
  obtain rfl := decode_rows queue legible inQueue decoded
  have numbered := order.numbered queue.chains chained
  have members : ∀ operation ∈ ((s.vault.batch member (min nowMs sqliteMax) count).filter
      (fun entry => entry.operation.deviceId = device)).map QueueEntry.operation,
      operation ∈ chain := by
    intro operation sent
    obtain ⟨entry, taken, rfl⟩ := List.mem_map.mp sent
    refine (chained.members _).mpr ?_
    have signed := order.signed_entry queue (inQueue entry taken)
    rw [of_decide_eq_true (List.mem_filter.mp taken).2] at signed
    exact signed
  have orderly := hosts.serviceAppend numbered members
    (by rw [List.map_map, List.length_map]; exact consecutive) past identityContext error failed
  refine ⟨orderly, fun context identity signed integrity => ?_⟩
  obtain ⟨operation, sent, refused⟩ := serviceAppend_integrity failed integrity orderly
    (fun operation sent => (numbered.owned operation (members operation sent)).2) identity
  exact refused (valid operation sent) (signed operation sent).1 (signed operation sent).2

/-- In every run in which each commit comes after what its device has queued, and each
failed push keeps the turns of its devices, pushes follow the device chains. -/
theorem pushes_follow_device_chains (fresh : PushState.Fresh start)
    (run : Relation.ReflTransGen (OrderlyStep P engine) start s) :
    PushesInOrder P engine s.vault :=
  (OrderlyRun.invariant run fresh.orderlyInvariant).pushesInOrder

/-! ## Two commits of one device -/

namespace Sample

def orderEngine : SyncEngine := .new ⟨account, workspace⟩ .supabase

def freshClient : PushState := ⟨Vault.empty, []⟩

/-- The late operation is committed one second after the early one. -/
def inTurn : Vault :=
  vaultOr Vault.empty (commitOutgoingOperationWithBindingAt queueWorld earlyCommitted otherTask
    (built queueWorld otherTask late) none 0 1 none)

theorem commit_in_turn : commitOutgoingOperationWithBindingAt queueWorld earlyCommitted otherTask
    (built queueWorld otherTask late) none 0 1 none = .ok (.inserted, inTurn) := rfl

theorem turns_early : Turns ⟨account, workspace⟩ Vault.empty [⟨built queueWorld firstTask early, 0⟩] where
  inScope := by
    intro entry member
    obtain rfl := List.mem_singleton.mp member
    exact ⟨rfl, rfl⟩
  waiting := by
    intro entry _ other queued
    simp [Vault.queue, Vault.empty, Table.empty] at queued
  ascending := List.pairwise_singleton ..

theorem turns_late :
    Turns ⟨account, workspace⟩ earlyCommitted [⟨built queueWorld otherTask late, 1⟩] where
  inScope := by
    intro entry member
    obtain rfl := List.mem_singleton.mp member
    exact ⟨rfl, rfl⟩
  waiting := by
    intro entry member other queued _
    obtain rfl := List.mem_singleton.mp member
    have only : earlyCommitted.queue = [⟨id 41, ⟨0, 0, 0, none⟩, early⟩] := rfl
    rw [only, List.mem_singleton] at queued
    subst queued
    refine ⟨rfl, rfl, ?_⟩
    rw [QueueEntry.place, QueuedOperation.place, Prod.Lex.toLex_lt_toLex]
    exact .inl Nat.zero_lt_one
  ascending := List.pairwise_singleton ..

/-- A push of both operations, as they stand in the queue. -/
def bothPush (operations : List SyncOperationV1) : PreparedPush where
  scope := orderEngine.scope
  provider := .supabase
  due := operations.map (fun operation =>
    ⟨operation.operationId, queueWorld.writeOperation operation, 0⟩)
  operations := operations.map (canonicalOperation queueWorld)
  moreWork := false

theorem prepare_in_turn : orderEngine.preparePush queueWorld 0 inTurn =
    (.ok (some (bothPush [early, late])), inTurn) := rfl

theorem prepare_out_of_turn : orderEngine.preparePush queueWorld 0 (bothCommitted earlyCommitted) =
    (.ok (some (bothPush [late, early])), bothCommitted earlyCommitted) := rfl

def emptyLog : HostedLog := ⟨.empty, 0, 0, 1000000⟩

/-- The session is that of the fifth device in the current epochs. -/
def fifthDevice (_ : WorkspaceId) (_ : DeviceId) : Except IdentityError IdentityContext :=
  .ok ⟨account, workspace, id 5, late.controlEpoch, late.keyEpoch⟩

theorem append_out_of_turn : serviceAppendSyncOperations queueWorld fifthDevice emptyLog [late, early] =
    .error .deviceSequenceGap := rfl

/-- Both rows are deferred for good. -/
def deferredForGood : Vault :=
  (orderEngine.finishPush queueWorld (bothPush [late, early])
    (.error AppendError.deviceSequenceGap.transportError) 0 (fun _ _ => 0)
    (bothCommitted earlyCommitted)).2

theorem finish_out_of_turn : orderEngine.finishPush queueWorld (bothPush [late, early])
    (.error AppendError.deviceSequenceGap.transportError) 0 (fun _ _ => 0)
    (bothCommitted earlyCommitted) = (.error .integrityQuarantined, deferredForGood) := rfl

end Sample

open Sample (queueWorld orderEngine freshClient bothPush early late earlyCommitted turns_early
  commit_early legible_of_rows early_rows inTurn turns_late commit_in_turn prepare_in_turn
  workspace fifthDevice emptyLog bothCommitted commit_late prepare_out_of_turn append_out_of_turn
  finish_out_of_turn)

theorem pushes_follow_device_chains_in_turn : ∃ s,
    Relation.ReflTransGen (OrderlyStep queueWorld orderEngine) freshClient s ∧
      orderEngine.preparePush queueWorld 0 s.vault =
        (.ok (some (bothPush [early, late])), s.vault) ∧
      PushesInOrder queueWorld orderEngine s.vault := by
  have first : OrderlyStep queueWorld orderEngine freshClient
      ⟨earlyCommitted, []⟩ :=
    .commit (.commit turns_early commit_early) (legible_of_rows early_rows)
  have second : OrderlyStep queueWorld orderEngine ⟨earlyCommitted, []⟩
      ⟨inTurn, []⟩ :=
    .commit (.commit turns_late commit_in_turn) (legible_of_rows (fun _ member => member))
  have run := (Relation.ReflTransGen.single first).tail second
  exact ⟨_, run, prepare_in_turn, pushes_follow_device_chains ⟨⟨rfl, rfl⟩, rfl, rfl⟩ run⟩

/-- Two commits in one second are sent by operation id, against the order of the chain. The
hosted log refuses the batch, and both operations are deferred for good. -/
theorem push_out_of_turn_is_quarantined : ∃ s,
    Relation.ReflTransGen (PushStep queueWorld orderEngine (fun _ _ => True))
        freshClient s ∧
      orderEngine.preparePush queueWorld 0 s.vault =
        (.ok (some (bothPush [late, early])), s.vault) ∧
      ((bothPush [late, early]).ofDevice (Sample.id 5)).map
        CanonicalOperation.deviceSequence = [2, 1] ∧
      s.vault.acknowledgedSequence workspace (Sample.id 5) = 0 ∧
      collect (fun item => decodeSyncOperationV1 queueWorld item.bytes)
        (bothPush [late, early]).operations = .ok [late, early] ∧
      serviceAppendSyncOperations queueWorld fifthDevice emptyLog
        [late, early] = .error .deviceSequenceGap ∧
      ∃ v', orderEngine.finishPush queueWorld
          (bothPush [late, early])
          (.error AppendError.deviceSequenceGap.transportError) 0 (fun _ _ => 0) s.vault =
            (.error .integrityQuarantined, v') ∧
        v'.outbox.find? (Sample.id 40) =
          some ⟨0, 1, permanentRetryMs, some .integrityQuarantined⟩ ∧
        v'.outbox.find? (Sample.id 41) =
          some ⟨0, 1, permanentRetryMs, some .integrityQuarantined⟩ := by
  have first : PushStep queueWorld orderEngine (fun _ _ => True) freshClient
      ⟨earlyCommitted, []⟩ := .commit (.commit commit_early) (legible_of_rows early_rows)
  have second : PushStep queueWorld orderEngine (fun _ _ => True)
      ⟨earlyCommitted, []⟩ ⟨bothCommitted earlyCommitted, []⟩ :=
    .commit (.commit commit_late) (legible_of_rows (fun _ member => member))
  have run := (Relation.ReflTransGen.single first).tail second
  exact ⟨_, run, prepare_out_of_turn, rfl, rfl, rfl, append_out_of_turn, _,
    finish_out_of_turn, rfl, rfl⟩

end ContextRelay
