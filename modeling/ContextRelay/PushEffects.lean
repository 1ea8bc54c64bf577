import ContextRelay.Push
import ContextRelay.Effects

/-! What preparing and finishing a push do to the outbox, for every outcome. -/
namespace ContextRelay

open Library

variable {P : Primitives} {v v' : Vault} {engine : SyncEngine}

/-! ## Deferring and acknowledging -/

theorem acknowledgeOutbox_find? (v : Vault) (ids : List OperationId) (id : OperationId) :
    (acknowledgeOutbox v ids).outbox.find? id = if id ∈ ids then none else v.outbox.find? id := by
  have erased := Table.find?_foldl_erase v.outbox (fun other : OperationId => other) ids id
  simpa [acknowledgeOutbox] using erased

/-- Some rows of the outbox were deferred; nothing else changed. -/
structure Deferred (v v' : Vault) (retries : List (OperationId × Nat)) (code : SafeErrorCode) :
    Prop where
  only : v' = { v with outbox := v'.outbox }
  others : ∀ id, id ∉ retries.map Prod.fst → v'.outbox.find? id = v.outbox.find? id
  queued : ∀ id, (v'.outbox.find? id).isSome = (v.outbox.find? id).isSome
  moved : ∀ id row', id ∈ retries.map Prod.fst → v'.outbox.find? id = some row' →
    ∃ row next, v.outbox.find? id = some row ∧ (id, next) ∈ retries ∧
      row'.queuedAt = row.queuedAt ∧ row'.nextAttemptMs = next ∧ row'.safeErrorCode = some code

theorem deferRow_deferred (ran : deferRow code v retry = .ok v') : Deferred v v' [retry] code := by
  obtain ⟨id, next⟩ := retry
  simp only [deferRow, ok_iff] at ran
  obtain ⟨_, ran⟩ := ran
  split at ran
  · rename_i row found
    simp only [ok_iff] at ran
    subst ran
    refine ⟨rfl, ?_, ?_, ?_⟩
    · intro other absent
      have apart : id ≠ other := fun same => absent (by simp [same])
      exact Table.find?_upsert_of_ne _ _ apart
    · intro other
      by_cases same : id = other
      · subst same
        simp [found]
      · exact congrArg _ (Table.find?_upsert_of_ne _ _ same)
    · intro other row' member found'
      obtain rfl : other = id := by simpa using member
      rw [Table.find?_upsert_self, Option.some.injEq] at found'
      exact ⟨row, next, found, by simp, by rw [← found']; rfl, by rw [← found']; rfl,
        by rw [← found']; rfl⟩
  · rename_i absent
    simp only [ok_iff] at ran
    subst ran
    refine ⟨rfl, fun _ _ => rfl, fun _ => rfl, ?_⟩
    intro other row' member found
    obtain rfl : other = id := by simpa using member
    simp [absent] at found

theorem Deferred.refl (v : Vault) (code : SafeErrorCode) : Deferred v v [] code :=
  ⟨rfl, fun _ _ => rfl, fun _ => rfl, by simp⟩

theorem Deferred.trans {middle : Vault} (first : Deferred v middle retries code)
    (second : Deferred middle v' laterRetries code) :
    Deferred v v' (retries ++ laterRetries) code where
  only := by rw [second.only, first.only]
  others := by
    intro id absent
    rw [List.map_append, List.mem_append, not_or] at absent
    rw [second.others id absent.2, first.others id absent.1]
  queued := fun id => (second.queued id).trans (first.queued id)
  moved := by
    intro id row' member found
    rw [List.map_append, List.mem_append] at member
    by_cases later : id ∈ laterRetries.map Prod.fst
    · obtain ⟨between, next, foundBetween, listed, queuedAt, nextAt, coded⟩ :=
        second.moved id row' later found
      by_cases early : id ∈ retries.map Prod.fst
      · obtain ⟨row, _, foundBefore, _, queuedBefore, _, _⟩ :=
          first.moved id between early foundBetween
        exact ⟨row, next, foundBefore, by simp [listed], queuedAt.trans queuedBefore, nextAt, coded⟩
      · rw [first.others id early] at foundBetween
        exact ⟨between, next, foundBetween, by simp [listed], queuedAt, nextAt, coded⟩
    · rw [second.others id later] at found
      obtain ⟨row, next, foundBefore, listed, queuedAt, nextAt, coded⟩ :=
        first.moved id row' (member.resolve_right later) found
      exact ⟨row, next, foundBefore, by simp [listed], queuedAt, nextAt, coded⟩

theorem deferOutboxIndividual_deferred (ran : deferOutboxIndividual v retries code = .ok v') :
    Deferred v v' retries code := by
  induction retries generalizing v with
  | nil =>
    obtain rfl : v = v' := by simpa [deferOutboxIndividual, thread] using ran
    exact .refl v code
  | cons retry rest ih =>
    simp only [deferOutboxIndividual, thread, bind_eq_ok] at ran
    obtain ⟨middle, deferred, finished⟩ := ran
    exact (deferRow_deferred deferred).trans (ih finished)

/-- Deferring fails only when a retry time does not fit its column. -/
theorem deferOutboxIndividual_succeeds (fits : ∀ retry ∈ retries, retry.2 ≤ sqliteMax) :
    ∃ v', deferOutboxIndividual v retries code = .ok v' := by
  induction retries generalizing v with
  | nil => exact ⟨v, rfl⟩
  | cons retry rest ih =>
    have one : ∃ middle, deferRow code v retry = .ok middle := by
      unfold deferRow
      rw [require_pos (fits retry (by simp)), ok_bind]
      split <;> exact ⟨_, rfl⟩
    obtain ⟨middle, deferred⟩ := one
    obtain ⟨v', finished⟩ := ih (v := middle) (fun later member => fits later (by simp [member]))
    refine ⟨v', ?_⟩
    simp only [deferOutboxIndividual, thread, deferred, ok_bind]
    exact finished

/-- The rows of some ids, each tried again at the same time. -/
def retriesAt (ids : List OperationId) (nextMs : Nat) : List (OperationId × Nat) :=
  ids.map (fun id => (id, nextMs))

@[simp] theorem retriesAt_ids : (retriesAt ids nextMs).map Prod.fst = ids := by
  simp [retriesAt, Function.comp_def]

/-- Deferring for good always goes through. -/
theorem defer_eq :
    defer ids permanentRetryMs code v = (result, v') ↔
      result = .ok () ∧ deferOutbox v ids permanentRetryMs code = .ok v' := by
  have fits : ∀ retry ∈ retriesAt ids permanentRetryMs, retry.2 ≤ sqliteMax := by
    intro retry member
    obtain ⟨_, _, rfl⟩ := List.mem_map.mp member
    exact le_refl _
  obtain ⟨deferred, ran⟩ : ∃ v', deferOutboxIndividual v (retriesAt ids permanentRetryMs) code =
    .ok v' := deferOutboxIndividual_succeeds fits
  have written : deferOutbox v ids permanentRetryMs code = .ok deferred := by
    unfold deferOutbox
    rw [require_pos (show permanentRetryMs ≤ sqliteMax from le_refl _), ok_bind]
    exact ran
  constructor
  · intro finished
    rw [defer, Session.transact, written] at finished
    simp only [Prod.mk.injEq] at finished
    exact ⟨finished.1.symm, by rw [written, finished.2]⟩
  · rintro ⟨rfl, finished⟩
    rw [defer, Session.transact, finished]

theorem deferOutbox_deferred (ran : deferOutbox v ids permanentRetryMs code = .ok v') :
    Deferred v v' (retriesAt ids permanentRetryMs) code := by
  simp only [deferOutbox, ok_iff] at ran
  exact deferOutboxIndividual_deferred ran.2

/-! ## Due rows -/

/-- The row a queue entry is read as, when it can be read. -/
theorem dueOperation_ok (read : dueOperation P v endpoint entry = .ok row) :
    row = ⟨entry.operationId, P.writeOperation entry.operation, entry.row.attemptCount⟩ ∧
      entry.operation.operationId = entry.operationId ∧ Encodable P entry.operation := by
  simp only [dueOperation, ok_iff] at read
  obtain ⟨_, sameId, bytes, encoded, _, rfl⟩ := read
  exact ⟨by rw [encodeSyncOperationV1_eq encoded], sameId, .of_encoded encoded⟩

theorem mem_queue : entry ∈ v.queue ↔ ∃ recordId, v.outbox.find? entry.operationId = some entry.row ∧
    v.operations.find? entry.operationId = some ⟨recordId, entry.operation⟩ := by
  simp only [Vault.queue, Table.mem_filterMap_rows, Option.map_eq_some_iff]
  constructor
  · rintro ⟨id, row, queued, stored, found, rfl⟩
    exact ⟨stored.recordId, queued, found⟩
  · rintro ⟨recordId, queued, found⟩
    exact ⟨_, _, queued, _, found, rfl⟩

theorem mem_dueQueue :
    entry ∈ v.dueQueue member nowMs ↔ entry ∈ v.queue ∧ v.isDue member nowMs entry = true := by
  rw [Vault.dueQueue, List.mem_insertionSort, List.mem_filter]

/-- The entries a due read goes through. -/
def Vault.dueEntries (v : Vault) (history : Option AcceptedMembership) (nowMs limit : Nat) :
    List QueueEntry :=
  (v.dueQueue history.isSome (min nowMs sqliteMax)).take limit

theorem dueOutbox_ok (positive : limit ≠ 0) :
    dueOutbox P v nowMs limit = .ok due ↔ limit ≤ sqliteMax ∧ ∃ history,
      v.membership.accepted = .ok history ∧
      List.Forall₂ (fun entry row =>
          dueOperation P v (history.map AcceptedMembership.endpoint) entry = .ok row)
        (v.dueEntries history nowMs limit) due := by
  rw [dueOutbox, if_neg positive]
  simp only [ok_iff, collect_eq_ok, Option.isSome_map, Vault.dueEntries]

/-! ## Preparing -/

/-- A due row became an operation of a batch for a scope. -/
structure Batched (P : Primitives) (scope : SyncScope) (row : DueOutboxOperation)
    (item : CanonicalOperation) : Prop where
  decoded : ∃ operation, decodeSyncOperationV1 P row.canonicalBytes = .ok operation ∧
    operation.operationId = row.operationId ∧ operation.accountId = scope.accountId ∧
    operation.workspaceId = scope.workspaceId ∧
    item = ⟨row.operationId, operation.deviceId, operation.deviceSequence, row.canonicalBytes⟩

theorem canonicalRow_batched (made : engine.canonicalRow P total row = .ok item) :
    Batched P engine.scope row item := by
  simp only [SyncEngine.canonicalRow, ok_iff] at made
  obtain ⟨_, operation, decoded, canonical, _, ⟨rfl, sameId, account, workspace⟩, rfl⟩ := made
  exact ⟨operation, decoded, sameId, account, workspace, by rw [sameId]⟩

theorem selectBatch_batched (selected : engine.selectBatch P total due = (batch, stopped)) :
    List.Forall₂ (Batched P engine.scope) (due.take batch.length) batch := by
  induction due generalizing total batch with
  | nil =>
    simp only [SyncEngine.selectBatch, Prod.mk.injEq] at selected
    rw [← selected.1]
    simp
  | cons row rest ih =>
    unfold SyncEngine.selectBatch at selected
    split at selected
    · simp only [Prod.mk.injEq] at selected
      rw [← selected.1]
      simp
    · rename_i item made
      simp only [Prod.mk.injEq] at selected
      rw [← selected.1, List.length_cons, List.take_succ_cons]
      exact .cons (canonicalRow_batched made) (ih (Prod.ext rfl selected.2))

/-- An empty batch was stopped by its first row. -/
theorem selectBatch_refuses
    (selected : engine.selectBatch P total (first :: rest) = ([], some code)) :
    engine.canonicalRow P total first = .error code := by
  unfold SyncEngine.selectBatch at selected
  split at selected
  · rename_i refused made
    simp only [Prod.mk.injEq, Option.some.injEq, true_and] at selected
    rw [made, selected]
  · simp at selected

/-- A push as an engine prepares it from a vault. -/
structure PreparedFrom (P : Primitives) (engine : SyncEngine) (v : Vault) (nowMs : Nat)
    (prepared : PreparedPush) : Prop where
  scope : prepared.scope = engine.scope
  provider : prepared.provider = engine.provider
  due : ∃ due, dueOutbox P v nowMs maxBatch = .ok due ∧
    prepared.due = due.take prepared.operations.length
  batched : List.Forall₂ (Batched P engine.scope) prepared.due prepared.operations

/-- Preparing changes the vault only when it fails on the first due row, which it defers. -/
theorem preparePush_cases (ran : engine.preparePush P nowMs v = (result, v')) :
    (v' = v ∧ result = .ok none) ∨
    (v' = v ∧ ∃ prepared, result = .ok (some prepared) ∧ PreparedFrom P engine v nowMs prepared) ∨
    (v' = v ∧ result = .error .transient ∧ ∃ failure, dueOutbox P v nowMs maxBatch = .error failure) ∨
    ∃ first rest code, result = .error code ∧ dueOutbox P v nowMs maxBatch = .ok (first :: rest) ∧
      engine.canonicalRow P 0 first = .error code ∧
      Deferred v v' (retriesAt [first.operationId] permanentRetryMs) code := by
  simp only [SyncEngine.preparePush, Session.bind_eq, Session.query_eq_ok,
    Session.query_eq_error] at ran
  rcases ran with ⟨due, middle, ⟨found, rfl⟩, ran⟩ | ⟨code, ⟨⟨failure, failed, rfl⟩, rfl⟩, rfl⟩
  · cases due with
    | nil =>
      obtain ⟨rfl, rfl⟩ := Session.pure_eq.mp ran
      exact .inl ⟨rfl, rfl⟩
    | cons first rest =>
      rcases selected : engine.selectBatch P 0 (first :: rest) with ⟨batch, stopped⟩
      by_cases refusal : batch = [] ∧ ∃ code, stopped = some code
      · obtain ⟨rfl, code, rfl⟩ := refusal
        simp only [selected, Session.bind_eq, defer_eq, Session.fail_eq] at ran
        rcases ran with ⟨_, middle, ⟨_, deferred⟩, rfl, rfl⟩ | ⟨_, ⟨failed, _⟩, _⟩
        · exact .inr (.inr (.inr ⟨first, rest, code, rfl, found, selectBatch_refuses selected,
            deferOutbox_deferred deferred⟩))
        · simp at failed
      · have taken : v' = v ∧ result = .ok (some ⟨engine.scope, engine.provider,
            (first :: rest).take batch.length, batch,
            (first :: rest).length = maxBatch ∨ stopped.isSome⟩) := by
          simp only [selected] at ran
          cases batch with
          | nil =>
            cases stopped with
            | none =>
              obtain ⟨rfl, rfl⟩ := Session.pure_eq.mp ran
              exact ⟨rfl, rfl⟩
            | some code => exact absurd ⟨rfl, code, rfl⟩ refusal
          | cons item batch =>
            obtain ⟨rfl, rfl⟩ := Session.pure_eq.mp ran
            exact ⟨rfl, rfl⟩
        obtain ⟨rfl, rfl⟩ := taken
        exact .inr (.inl ⟨rfl, _, rfl, rfl, rfl, ⟨_, found, rfl⟩, selectBatch_batched selected⟩)
  · exact .inr (.inr (.inl ⟨rfl, rfl, failure, failed⟩))

/-! ## Finishing -/

/-- The vault holds every operation of a batch, byte for byte. -/
def HoldsBatch (P : Primitives) (v : Vault) (batch : List CanonicalOperation) : Prop :=
  ∀ item ∈ batch, storedSyncOperation P v item.operationId = .ok (some item.bytes)

/-- What finishing a push can do to the vault, and with what result. -/
inductive Finished (P : Primitives) (engine : SyncEngine) (prepared : PreparedPush)
    (response : Except TransportError PushReceipt) (nowMs : Nat)
    (random : OperationId → Nat → Nat) (v : Vault) :
    Except SafeErrorCode SyncCycleReport → Vault → Prop where
  /-- The prepared push is not this engine's, or not what the vault holds. -/
  | refused {code : SafeErrorCode} :
      Finished P engine prepared response nowMs random v (.error code) v
  | retried {v' : Vault} {error : TransportError} (failed : response = .error error)
      (retryable : error.isRetryable = true)
      (deferred : Deferred v v' (engine.retryTimes prepared.due nowMs random) error.safeCode) :
      Finished P engine prepared response nowMs random v (.error error.safeCode) v'
  | failed {v' : Vault} {error : TransportError} {code failure : SafeErrorCode}
      (failed : response = .error error)
      (final : code ≠ .offline ∧ code ≠ .transient)
      (deferred : Deferred v v'
        (retriesAt (prepared.due.map DueOutboxOperation.operationId) permanentRetryMs) code) :
      Finished P engine prepared response nowMs random v (.error failure) v'
  | invalid {v' : Vault} {receipt : PushReceipt} {code : SafeErrorCode}
      (answered : response = .ok receipt)
      (refused : validateReceipt (prepared.operations.map CanonicalOperation.operationId)
        receipt.accepted receipt.duplicates = .error code)
      (deferred : Deferred v v'
        (retriesAt (prepared.operations.map CanonicalOperation.operationId) permanentRetryMs) code) :
      Finished P engine prepared response nowMs random v (.error code) v'
  /-- The batch is acknowledged; only the look at what is due next may still fail. -/
  | acknowledged {receipt : PushReceipt} {ids : List OperationId}
      {result : Except SafeErrorCode SyncCycleReport}
      (own : prepared.scope = engine.scope) (held : HoldsBatch P v prepared.operations)
      (answered : response = .ok receipt)
      (valid : validateReceipt (prepared.operations.map CanonicalOperation.operationId)
        receipt.accepted receipt.duplicates = .ok ids)
      (looked : (∃ report, result = .ok report) ∨ result = .error .transient ∧
        ∃ failure, dueOutbox P (acknowledgeOutbox v ids) nowMs 1 = .error failure) :
      Finished P engine prepared response nowMs random v result (acknowledgeOutbox v ids)

theorem checkPrepared_ok (checked : collect (checkPrepared P v) batch = .ok done) :
    HoldsBatch P v batch := by
  intro item member
  obtain ⟨_, _, held⟩ := collect_item checked member
  simp only [checkPrepared, ok_iff] at held
  obtain ⟨_, found, rfl⟩ := held
  exact found

/-- An accepted receipt names exactly the operations that were sent. -/
theorem validateReceipt_ok (valid : validateReceipt expected accepted duplicates = .ok ids) :
    ∀ id, id ∈ ids ↔ id ∈ expected := by
  simp only [validateReceipt, ok_iff] at valid
  obtain ⟨_, ⟨sent, _⟩, answered, rfl⟩ := valid
  intro id
  rw [sortIds, List.mem_insertionSort]
  exact ⟨sent id, answered id⟩

theorem not_retryable_code (final : TransportError.isRetryable error = false) :
    error.safeCode ≠ .offline ∧ error.safeCode ≠ .transient := by
  cases error <;> simp_all [TransportError.isRetryable, TransportError.safeCode]

/-- A draw of zero retries without a delay. -/
theorem BackoffPolicy.nextDelay_zero (policy : BackoffPolicy) (attempt : Nat) :
    policy.nextDelay attempt 0 = 0 := by
  unfold BackoffPolicy.nextDelay
  simp

theorem retryTimes_fit (engine : SyncEngine) (due : List DueOutboxOperation) (nowMs : Nat)
    (random : OperationId → Nat → Nat) :
    ∀ retry ∈ engine.retryTimes due nowMs random, retry.2 ≤ sqliteMax := by
  intro retry member
  obtain ⟨row, _, rfl⟩ := List.mem_map.mp member
  exact Nat.min_le_right _ _

/-- A transport failure defers the batch: until a retry, or for good. -/
theorem deferTransportFailure_cases
    (ran : engine.deferTransportFailure due nowMs error random v = (outcome, v')) :
    (error.isRetryable = true ∧ outcome = .ok () ∧
      Deferred v v' (engine.retryTimes due nowMs random) error.safeCode) ∨
    ∃ code, (code ≠ SafeErrorCode.offline ∧ code ≠ .transient) ∧
      Deferred v v' (retriesAt (due.map DueOutboxOperation.operationId) permanentRetryMs) code := by
  unfold SyncEngine.deferTransportFailure at ran
  by_cases retryable : error.isRetryable = false
  · rw [if_pos retryable, defer_eq] at ran
    exact .inr ⟨_, not_retryable_code retryable, deferOutbox_deferred ran.2⟩
  rw [if_neg retryable] at ran
  by_cases policy : succeeded engine.backoffPolicy.validate = false
  · rw [if_pos policy] at ran
    simp only [Session.bind_eq, defer_eq, Session.fail_eq] at ran
    rcases ran with ⟨_, middle, ⟨_, deferred⟩, _, rfl⟩ | ⟨_, ⟨failed, _⟩, _⟩
    · exact .inr ⟨_, by simp, deferOutbox_deferred deferred⟩
    · simp at failed
  · rw [if_neg policy] at ran
    obtain ⟨deferred, written⟩ : ∃ next, deferOutboxIndividual v
        (engine.retryTimes due nowMs random) error.safeCode = .ok next :=
      deferOutboxIndividual_succeeds (retryTimes_fit engine due nowMs random)
    simp only [Session.transact, written, Prod.mk.injEq] at ran
    obtain ⟨rfl, rfl⟩ := ran
    exact .inl ⟨by simpa using retryable, rfl, deferOutboxIndividual_deferred written⟩

theorem finishPush_finished
    (ran : engine.finishPush P prepared response nowMs random v = (result, v')) :
    Finished P engine prepared response nowMs random v result v' := by
  simp only [SyncEngine.finishPush, Session.bind_eq, Session.lift_eq, Session.query_eq_ok,
    Session.query_eq_error, require_eq_ok, id_eq, exists_eq_right] at ran
  rcases ran with ⟨_, _, ⟨own, rfl⟩, ⟨_, _, ⟨checked, rfl⟩, ran⟩ | ⟨code, ⟨_, rfl⟩, rfl⟩⟩ |
    ⟨code, ⟨_, rfl⟩, rfl⟩
  case inr => exact .refused
  case inl.inr => exact .refused
  cases response with
  | error error =>
    simp only [Session.bind_eq, Session.fail_eq] at ran
    rcases ran with ⟨_, _, deferred, rfl, rfl⟩ | ⟨failure, deferred, rfl⟩
    · rcases deferTransportFailure_cases deferred with ⟨retryable, _, moved⟩ | ⟨code, final, moved⟩
      · exact .retried rfl retryable moved
      · exact .failed rfl final moved
    · rcases deferTransportFailure_cases deferred with ⟨_, wrong, _⟩ | ⟨code, final, moved⟩
      · simp at wrong
      · exact .failed rfl final moved
  | ok receipt =>
    cases validated : validateReceipt (prepared.operations.map CanonicalOperation.operationId)
        receipt.accepted receipt.duplicates with
    | error code =>
      simp only [validated, Session.bind_eq, defer_eq, Session.fail_eq] at ran
      rcases ran with ⟨_, middle, ⟨_, deferred⟩, rfl, rfl⟩ | ⟨_, ⟨failed, _⟩, _⟩
      · exact .invalid rfl validated (deferOutbox_deferred deferred)
      · simp at failed
    | ok ids =>
      simp only [validated, Session.bind_eq, Session.transact_eq_ok, Session.transact_eq_error,
        Session.query_eq_ok, Session.query_eq_error, Session.pure_eq, pure_eq_ok,
        Except.ok.injEq] at ran
      rcases ran with ⟨_, _, rfl, ran⟩ | ⟨_, ⟨⟨_, wrong, _⟩, _⟩, _⟩
      · have held := checkPrepared_ok checked
        rcases ran with ⟨_, _, ⟨_, rfl⟩, rfl, rfl⟩ | ⟨_, ⟨⟨failure, failed, rfl⟩, rfl⟩, rfl⟩
        · exact .acknowledged own.1 held rfl validated (.inl ⟨_, rfl⟩)
        · exact .acknowledged own.1 held rfl validated (.inr ⟨rfl, failure, failed⟩)
      · simp at wrong

end ContextRelay
