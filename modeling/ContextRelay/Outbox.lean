import ContextRelay.Apply

/-! The outbox: which queued operations are due and in what order, their removal when the
provider has them, and when a failed one is tried again. -/
namespace ContextRelay

open Library

variable (P : Primitives)

/-! ## Backoff -/

def u64Max : Nat := 2 ^ 64 - 1

structure BackoffPolicy where
  baseMs : Nat
  capMs : Nat
deriving DecidableEq

/-- The one way a policy is invalid: a duration is zero. -/
inductive InvalidBackoffPolicy where
  | zeroDuration
deriving DecidableEq

def BackoffPolicy.default : BackoffPolicy := ⟨1000, 60000⟩

def BackoffPolicy.validate (policy : BackoffPolicy) : Except InvalidBackoffPolicy Unit :=
  require (policy.baseMs ≠ 0 ∧ policy.capMs ≠ 0) .zeroDuration

def BackoffPolicy.nextDelay (policy : BackoffPolicy) (attempt random : Nat) : Nat :=
  if succeeded policy.validate = false then 0
  else
    let exponential := if 64 ≤ attempt then u64Max else min (policy.baseMs * 2 ^ attempt) u64Max
    let bound := min policy.capMs exponential
    if bound = u64Max then random else random % (bound + 1)

/-! ## Due rows -/

structure DueOutboxOperation where
  operationId : OperationId
  canonicalBytes : Bytes
  attemptCount : Nat
deriving DecidableEq

/-- A row that is tried again by itself: it has not failed, or only for the moment. -/
def OutboxRow.retries (row : OutboxRow) : Bool :=
  row.safeErrorCode = none ∨ row.safeErrorCode = some .offline ∨
    row.safeErrorCode = some .transient

/-- An outbox row joined with its operation. -/
structure QueueEntry where
  operationId : OperationId
  row : OutboxRow
  operation : SyncOperationV1
deriving DecidableEq

def Vault.queue (v : Vault) : List QueueEntry :=
  v.outbox.rows.filterMap (fun entry =>
    (v.operations.find? entry.1).map (fun stored => ⟨entry.1, entry.2, stored.operation⟩))

/-- The order in which due rows are sent. -/
def QueueEntry.key (entry : QueueEntry) : Nat ×ₗ Nat ×ₗ OperationId :=
  toLex (entry.row.nextAttemptMs, toLex (entry.row.queuedAt, entry.operationId))

/-- Is the row due? Under an accepted membership only signed operations are. -/
def Vault.isDue (v : Vault) (member : Bool) (nowMs : Nat) (entry : QueueEntry) : Bool :=
  entry.row.nextAttemptMs ≤ nowMs ∧
    (member = false ∨ (v.operationMeta.find? entry.operationId).isSome) ∧ entry.row.retries = true

def Vault.dueQueue (v : Vault) (member : Bool) (nowMs : Nat) : List QueueEntry :=
  (v.queue.filter (v.isDue member nowMs)).insertionSort (fun left right => left.key ≤ right.key)

def dueOperation (v : Vault) (endpoint : Option MembershipEndpoint) (entry : QueueEntry) :
    Except VaultError DueOutboxOperation := do
  requireOperation P v entry.operation endpoint
  require (entry.operation.operationId = entry.operationId)
    (.validation "outbox operation identity does not match payload")
  let canonicalBytes ← renameFailure (encodeSyncOperationV1 P entry.operation)
    (fun failure => .validation failure.display)
  require (entry.row.attemptCount < 2 ^ 32) (.validation "invalid outbox attempt count")
  pure ⟨entry.operationId, canonicalBytes, entry.row.attemptCount⟩

def dueOutbox (v : Vault) (nowMs limit : Nat) : Except VaultError (List DueOutboxOperation) :=
  if limit = 0 then pure []
  else do
    require (limit ≤ sqliteMax) (.validation "outbox limit exceeds i64")
    let history ← v.membership.accepted
    let endpoint := history.map AcceptedMembership.endpoint
    collect (dueOperation P v endpoint)
      ((v.dueQueue endpoint.isSome (min nowMs sqliteMax)).take limit)

/-! ## Acknowledging and deferring -/

def acknowledgeOutbox (v : Vault) (accepted : List OperationId) : Vault :=
  { v with outbox := accepted.foldl (fun outbox id => outbox.erase id) v.outbox }

def OutboxRow.deferred (row : OutboxRow) (nextMs : Nat) (code : SafeErrorCode) : OutboxRow :=
  { row with
    attemptCount := row.attemptCount + 1
    nextAttemptMs := nextMs
    safeErrorCode := some code }

/-- Defer one row; an id that is not queued is passed over. -/
def deferRow (code : SafeErrorCode) (v : Vault) (retry : OperationId × Nat) :
    Except VaultError Vault := do
  require (retry.2 ≤ sqliteMax) (.validation "outbox retry time exceeds SQLite integer range")
  match v.outbox.find? retry.1 with
  | some row => pure { v with outbox := v.outbox.upsert retry.1 (row.deferred retry.2 code) }
  | none => pure v

def deferOutboxIndividual (v : Vault) (retries : List (OperationId × Nat)) (code : SafeErrorCode) :
    Except VaultError Vault :=
  thread (deferRow code) v retries

def deferOutbox (v : Vault) (ids : List OperationId) (nextMs : Nat) (code : SafeErrorCode) :
    Except VaultError Vault := do
  require (nextMs ≤ sqliteMax) (.validation "outbox retry time exceeds SQLite integer range")
  deferOutboxIndividual v (ids.map (fun id => (id, nextMs))) code

end ContextRelay
