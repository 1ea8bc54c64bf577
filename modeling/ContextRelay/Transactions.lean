import ContextRelay.Effects

/-! Transactions as sequences of elementary writes: an operation is applied, an operation is
persisted, or a write leaves the signed operations, their queue, the heads and the rows of
owned records alone. Invariants of the vault are proved once for each elementary write. -/
namespace ContextRelay

open Library

variable {P : Primitives} {v v' w : Vault} {outside : Vault → Vault → Prop}

/-! ## Rows of one record -/

/-- Both vaults hold the same rows of a record. -/
structure SameRows (v v' : Vault) (record : RecordId) : Prop where
  records : v'.records.find? record = v.records.find? record
  candidates : v'.candidates.find? record = v.candidates.find? record
  tasks : v'.tasks.find? record = v.tasks.find? record
  secretRefs : v'.secretRefs.find? record = v.secretRefs.find? record
  components : v'.components.find? record = v.components.find? record
  projects : v'.projects.find? record = v.projects.find? record

theorem SameRows.of_tables (same : v'.recordTables = v.recordTables) (record : RecordId) :
    SameRows v v' record := by
  simp only [Vault.recordTables, RecordTables.mk.injEq] at same
  obtain ⟨records, candidates, tasks, secretRefs, components, projects⟩ := same
  constructor <;> simp [*]

theorem SameRows.trans {middle : Vault} (first : SameRows v middle record)
    (second : SameRows middle v' record) : SameRows v v' record := by
  constructor
  · rw [second.records, first.records]
  · rw [second.candidates, first.candidates]
  · rw [second.tasks, first.tasks]
  · rw [second.secretRefs, first.secretRefs]
  · rw [second.components, first.components]
  · rw [second.projects, first.projects]

theorem SameRows.kinds (same : SameRows v v' record) :
    materializedRecordKinds v' record = materializedRecordKinds v record := by
  simp only [materializedRecordKinds, same.records, same.candidates, same.tasks, same.secretRefs,
    same.components, same.projects]

theorem SameRows.loaded (same : SameRows v v' record) (kind : RecordKind) :
    loadMaterializedMutation v' record kind = loadMaterializedMutation v record kind := by
  cases kind <;>
    simp only [loadMaterializedMutation, same.records, same.candidates, same.tasks,
      same.secretRefs, same.components, same.projects]

/-- The tables show a mutation: its record under its kind only, or nothing for a tombstone. -/
def Vault.Shows (v : Vault) (mutation : RecordMutationV1) : Prop :=
  match mutation.mutationKind with
  | .upsert => materializedRecordKinds v mutation.recordId = [mutation.recordKind] ∧
      loadMaterializedMutation v mutation.recordId mutation.recordKind = some mutation
  | .tombstone => materializedRecordKinds v mutation.recordId = []

/-- Only rows of one kind are there for a record. -/
def Vault.OnlyKind (v : Vault) (record : RecordId) (kind : RecordKind) : Prop :=
  ∀ found ∈ materializedRecordKinds v record, found = kind

theorem Vault.Shows.onlyKind (shows : v.Shows mutation) :
    v.OnlyKind mutation.recordId mutation.recordKind := by
  unfold Vault.Shows at shows
  unfold Vault.OnlyKind
  split at shows
  · rw [shows.1]; simp
  · rw [shows]; simp

theorem SameRows.shows (same : SameRows v v' mutation.recordId) :
    v'.Shows mutation ↔ v.Shows mutation := by
  unfold Vault.Shows
  rw [same.kinds, same.loaded]

theorem SameRows.onlyKind (same : SameRows v v' record) :
    v'.OnlyKind record kind ↔ v.OnlyKind record kind := by
  unfold Vault.OnlyKind
  rw [same.kinds]

/-- With rows of one kind only, every other table is without the record. -/
theorem Vault.OnlyKind.absent (only : v.OnlyKind record kind) :
    (kind ≠ .memoryCandidate → v.candidates.find? record = none) ∧
    (kind ≠ .task → v.tasks.find? record = none) ∧
    (kind ≠ .secretRef → v.secretRefs.find? record = none) ∧
    (kind ≠ .component → v.components.find? record = none) ∧
    (kind ≠ .project → v.projects.find? record = none) := by
  unfold Vault.OnlyKind materializedRecordKinds at only
  refine ⟨?_, ?_, ?_, ?_, ?_⟩
  all_goals
    intro different
    by_contra present
    obtain ⟨row, found⟩ := Option.ne_none_iff_exists'.mp present
    exact different (only _ (by simp [found])).symm

theorem Vault.OnlyKind.noRecord (only : v.OnlyKind record kind) (notMemory : kind ≠ .memory)
    (notInstruction : kind ≠ .instruction) : v.records.find? record = none := by
  by_contra present
  obtain ⟨row, found⟩ := Option.ne_none_iff_exists'.mp present
  have sameKind := only row.kind (by simp [materializedRecordKinds, found])
  cases row with
  | memory _ => exact notMemory sameKind.symm
  | instruction _ => exact notInstruction sameKind.symm

/-- Owned records have rows of their owner's kind only. -/
def OwnedKinds (v : Vault) : Prop :=
  ∀ record owner, v.recordOwners.find? record = some owner → v.OnlyKind record owner.recordKind

/-! ## Quiet writes -/

/-- Signed operations, their metadata and the device heads stay; unsigned operations of the
local queue may come and go. -/
structure KeepsSigned (v v' : Vault) : Prop where
  operationMeta : v'.operationMeta = v.operationMeta
  deviceHeads : v'.deviceHeads = v.deviceHeads
  operations : ∀ id, (v.operationMeta.find? id).isSome →
    v'.operations.find? id = v.operations.find? id

/-- A write that adds no operation: signed operations, heads, nonces and conflicts stay, owners
stay or are added, and owned records keep to their owner's kind. -/
structure Quiet (v v' : Vault) : Prop where
  signed : KeepsSigned v v'
  recordHeads : v'.recordHeads = v.recordHeads
  nonces : v'.nonces = v.nonces
  conflicts : v'.conflicts = v.conflicts
  owners : ∀ record owner, v.recordOwners.find? record = some owner →
    v'.recordOwners.find? record = some owner
  kinds : OwnedKinds v → OwnedKinds v'

/-- The tables whose change is not quiet by itself. -/
def Vault.syncTables (v : Vault) :=
  (v.operations, v.operationMeta, v.deviceHeads, v.recordHeads, v.nonces, v.conflicts,
    v.recordOwners, v.recordTables)

theorem Quiet.of_same (same : v'.syncTables = v.syncTables) : Quiet v v' := by
  simp only [Vault.syncTables, Prod.mk.injEq] at same
  obtain ⟨operations, operationMeta, deviceHeads, recordHeads, nonces, conflicts, owners, tables⟩ :=
    same
  refine ⟨⟨operationMeta, deviceHeads, fun _ _ => by rw [operations]⟩, recordHeads, nonces,
    conflicts, fun _ _ owned => by rw [owners]; exact owned, ?_⟩
  intro kinds record owner owned
  rw [owners] at owned
  rw [(SameRows.of_tables tables record).onlyKind]
  exact kinds record owner owned

theorem Quiet.trans (first : Quiet v w) (second : Quiet w v') : Quiet v v' where
  signed := by
    refine ⟨second.signed.operationMeta.trans first.signed.operationMeta,
      second.signed.deviceHeads.trans first.signed.deviceHeads, ?_⟩
    intro id signed
    rw [second.signed.operations id (by rw [first.signed.operationMeta]; exact signed),
      first.signed.operations id signed]
  recordHeads := second.recordHeads.trans first.recordHeads
  nonces := second.nonces.trans first.nonces
  conflicts := second.conflicts.trans first.conflicts
  owners := fun record owner owned => second.owners record owner (first.owners record owner owned)
  kinds := fun kinds => second.kinds (first.kinds kinds)

/-- A quiet write that also leaves the queue of signed operations and the membership alone.
The queue entries of unsigned operations may go. -/
structure Silent (v v' : Vault) : Prop extends Quiet v v' where
  membership : v'.membership = v.membership
  queue : ∀ id, (v.operationMeta.find? id).isSome → v'.outbox.find? id = v.outbox.find? id
  queued : ∀ id row, v'.outbox.find? id = some row → v.outbox.find? id = some row

theorem Silent.of_same (same : (v'.syncTables, v'.outbox, v'.membership) =
      (v.syncTables, v.outbox, v.membership)) : Silent v v' := by
  simp only [Prod.mk.injEq] at same
  obtain ⟨tables, outbox, membership⟩ := same
  exact ⟨.of_same tables, membership, fun _ _ => by rw [outbox],
    fun _ _ found => by rwa [outbox] at found⟩

theorem Silent.trans (first : Silent v w) (second : Silent w v') : Silent v v' where
  toQuiet := first.toQuiet.trans second.toQuiet
  membership := second.membership.trans first.membership
  queue := by
    intro id signed
    rw [second.queue id (by rw [first.signed.operationMeta]; exact signed), first.queue id signed]
  queued := fun id row found => first.queued id row (second.queued id row found)

theorem applySyncCacheUpdate_silent (v : Vault) (update : SyncCacheUpdate) :
    Silent v (applySyncCacheUpdate v update) := .of_same rfl

theorem upsertCursor_silent (v : Vault) (workspace : WorkspaceId) (provider : SyncProvider)
    (cursor : SyncCursor) : Silent v (upsertCursor v workspace provider cursor) := .of_same rfl

theorem advanceTo_silent (v : Vault) (advance : Bool) (workspace : WorkspaceId)
    (provider : SyncProvider) (cursor : SyncCursor) :
    Silent v (advanceTo v advance workspace provider cursor) := by
  cases advance <;> exact .of_same rfl

theorem quarantineSyncReceipt_silent (ran : quarantineSyncReceipt v write = .ok (disposition, v')) :
    Silent v v' := by
  simp only [quarantineSyncReceipt, ok_iff] at ran
  obtain ⟨_, _, ran⟩ := ran
  split at ran
  · simp only [ok_iff, Prod.mk.injEq] at ran
    obtain ⟨_, _, rfl⟩ := ran
    exact advanceTo_silent ..
  · simp only [ok_iff, Prod.mk.injEq] at ran
    obtain ⟨_, rfl⟩ := ran
    refine Silent.trans ?_ (advanceTo_silent ..)
    exact .of_same rfl

theorem rejectOversizedSyncReceipt_silent
    (ran : rejectOversizedSyncReceipt P v write = .ok (disposition, v')) : Silent v v' := by
  simp only [rejectOversizedSyncReceipt, ok_iff] at ran
  obtain ⟨_, _, ran⟩ := ran
  split at ran
  · simp only [ok_iff, Prod.mk.injEq] at ran
    obtain ⟨_, _, rfl⟩ := ran
    exact advanceTo_silent ..
  · simp only [ok_iff, Prod.mk.injEq] at ran
    obtain ⟨_, rfl⟩ := ran
    refine Silent.trans ?_ (advanceTo_silent ..)
    exact .of_same rfl

theorem advanceReplayCursor_silent
    (ran : advanceReplayCursor P v workspace provider receivedAt operationId membership = .ok v') :
    Silent v v' := by
  simp only [advanceReplayCursor, ok_iff] at ran
  obtain ⟨_, _, _, _, _, _, _, _, rfl⟩ := ran
  exact upsertCursor_silent ..

/-- Claiming a record that has rows of the claimed kind only. -/
theorem insertOrVerifySyncRecordOwner_silent (only : v.OnlyKind record kind)
    (ran : insertOrVerifySyncRecordOwner v account workspace record kind = .ok v') : Silent v v' := by
  unfold insertOrVerifySyncRecordOwner at ran
  split at ran
  · simp only [ok_iff] at ran
    obtain ⟨_, rfl⟩ := ran
    exact .of_same rfl
  · rename_i absent
    simp only [ok_iff] at ran
    subst ran
    refine ⟨⟨⟨rfl, rfl, fun _ _ => rfl⟩, rfl, rfl, rfl, ?_, ?_⟩, rfl, fun _ _ => rfl,
      fun _ _ found => found⟩
    · intro other owner owned
      have different : record ≠ other := by
        rintro rfl
        exact absurd (absent.symm.trans owned) (by simp)
      exact (Table.find?_upsert_of_ne _ _ different).trans owned
    · intro kinds other owner owned
      by_cases same : record = other
      · subst same
        obtain rfl := Option.some.inj ((Table.find?_upsert_self ..).symm.trans owned)
        exact only
      · exact kinds other owner ((Table.find?_upsert_of_ne _ _ same).symm.trans owned)

theorem onlyKind_of_kinds (kinds : materializedRecordKinds v record = [kind]) :
    v.OnlyKind record kind := by
  unfold Vault.OnlyKind
  rw [kinds]
  simp

theorem insertLocalOperationBinding_silent
    (ran : insertLocalOperationBinding v binding response = .ok (some v')) : Silent v v' := by
  simp only [insertLocalOperationBinding, bind_eq_ok] at ran
  obtain ⟨_, _, ran⟩ := ran
  split at ran
  · simp only [ok_iff, Option.some.injEq] at ran
    subst ran
    exact .of_same rfl
  · simp at ran

theorem bindLocalUpdateOwner_silent
    (ran : bindLocalUpdateOwner v mutation operation binding = .ok v') : Silent v v' := by
  unfold bindLocalUpdateOwner at ran
  split at ran
  · simp only [ok_iff] at ran
    exact ran ▸ .of_same rfl
  · split at ran
    · simp only [ok_iff] at ran
      exact ran ▸ .of_same rfl
    · simp only [ok_iff] at ran
      obtain ⟨_, _, ⟨_, kinds⟩, inserted⟩ := ran
      exact insertOrVerifySyncRecordOwner_silent (onlyKind_of_kinds kinds) inserted

theorem bindCommit_silent (ran : bindCommit v mutation built binding = .ok v') : Silent v v' := by
  cases binding with
  | none =>
    simp only [bindCommit, ok_iff] at ran
    exact ran ▸ .of_same rfl
  | some pair =>
    simp only [bindCommit, ok_iff] at ran
    obtain ⟨_, _, inserted, bound, rfl, owned⟩ := ran
    exact (insertLocalOperationBinding_silent inserted).trans (bindLocalUpdateOwner_silent owned)

/-- Renaming a candidate moves a row from one record nobody owns to another. -/
theorem migrateCandidate_silent (ran : migrateCandidate P v row = .ok v') : Silent v v' := by
  obtain ⟨oldId, candidate⟩ := row
  simp only [migrateCandidate, ok_iff] at ran
  obtain ⟨_, ⟨_, oldUnowned, _⟩, _, _, newId, _, ⟨_, _, newUnowned⟩, rfl⟩ := ran
  refine ⟨⟨⟨rfl, rfl, fun _ _ => rfl⟩, rfl, rfl, rfl, fun _ _ owned => owned, ?_⟩, rfl,
    fun _ _ => rfl, fun _ _ found => found⟩
  intro kinds record owner owned
  have notOld : oldId ≠ record := by
    rintro rfl
    exact absurd (oldUnowned.symm.trans owned) (by simp)
  have notNew : newId ≠ record := by
    rintro rfl
    exact absurd (newUnowned.symm.trans owned) (by simp)
  have same : SameRows v { v with
      candidates := (v.candidates.erase oldId).upsert newId { candidate with id := newId.retype }
      candidateAliases := v.candidateAliases.upsert oldId newId } record := by
    refine ⟨rfl, ?_, rfl, rfl, rfl, rfl⟩
    exact (Table.find?_upsert_of_ne _ _ notNew).trans (Table.find?_erase_of_ne _ notOld)
  rw [same.onlyKind]
  exact kinds record owner owned

theorem migrateLegacyCandidateIds_silent (ran : migrateLegacyCandidateIds P v limit = .ok v') :
    Silent v v' := by
  refine thread_invariant (fun later => Silent v later) ?_ (.of_same rfl) ran
  intro state item next _ reached stepped
  exact reached.trans (migrateCandidate_silent stepped)

/-- Retiring drops queue entries of operations that were never signed. -/
theorem retireLegacyQueueForRecord_silent
    (ran : retireLegacyQueueForRecord v record kind = .ok v') : Silent v v' := by
  refine thread_invariant (fun later => Silent v later) ?_ (.of_same rfl) ran
  intro state item next member reached stepped
  simp only [retireLegacyRow, ok_iff] at stepped
  obtain ⟨_, _, rfl⟩ := stepped
  have unsigned : v.operationMeta.find? item.1 = none := by
    have legacy := List.mem_of_mem_take member
    simp only [legacyQueue, List.mem_filter, decide_eq_true_eq, Option.isNone_iff_eq_none] at legacy
    exact legacy.2.2.2
  refine reached.trans ⟨.of_same rfl, rfl, ?_, ?_⟩
  · intro id signed
    refine Table.find?_erase_of_ne _ ?_
    rintro rfl
    simp [reached.signed.operationMeta, unsigned] at signed
  · intro id row found
    change (state.outbox.erase item.1).find? id = some row at found
    rw [Table.find?_erase] at found
    split at found
    · simp at found
    · exact found

/-! ## Queueing writes -/

/-- A built operation and the clock second its outbox row is inserted. -/
structure QueuedOperation where
  built : BuiltOperation
  queuedAt : Nat

/-- Where a queued operation stands among rows that are due at the same time. -/
def QueuedOperation.place (entry : QueuedOperation) : Nat ×ₗ OperationId :=
  toLex (entry.queuedAt, entry.built.operation.operationId)

def BackfillDraw.place (draw : BackfillDraw) : Nat ×ₗ OperationId :=
  toLex (draw.queuedAt, draw.operationId)

/-- The writes of a local commit: silent ones, and the operations it persists in order. -/
inductive Queues (P : Primitives) : Vault → List QueuedOperation → Vault → Prop where
  | done {v : Vault} : Queues P v [] v
  | silent {v w v' : Vault} {entries : List QueuedOperation} (write : Silent v w)
      (rest : Queues P w entries v') : Queues P v entries v'
  | persist {v w v' : Vault} {entries : List QueuedOperation} {mutation : RecordMutationV1}
      {built : BuiltOperation} {embedding : Option Embedding384} {committedAtMs queuedAt : Nat}
      {materialize : Bool} {disposition : CommitDisposition} {change : CacheChange}
      (valid : validateCommit P mutation built = .ok ())
      (authorized : requireOperation P v built.operation built.membershipEndpoint = .ok ())
      (ran : persistFresh P v mutation built embedding committedAtMs queuedAt materialize =
        .ok (disposition, change, w))
      (rest : Queues P w entries v') : Queues P v (⟨built, queuedAt⟩ :: entries) v'

variable {entries later : List QueuedOperation}

theorem Queues.trans (first : Queues P v entries w) (second : Queues P w later v') :
    Queues P v (entries ++ later) v' := by
  induction first with
  | done => exact second
  | silent write _ ih => exact .silent write (ih second)
  | persist valid authorized ran _ ih => exact .persist valid authorized ran (ih second)

theorem Queues.of_silent (write : Silent v v') : Queues P v [] v' := .silent write .done

theorem Queues.then_silent (first : Queues P v entries w) (write : Silent w v') :
    Queues P v entries v' := by
  simpa using first.trans (.of_silent write)

/-- An outgoing operation is an exact replay, which changes nothing, or is persisted afresh. -/
theorem persistOutgoing_cases
    (ran : persistOutgoing P v mutation built embedding committedAtMs queuedAt materialize =
      .ok (disposition, change, v')) :
    validateCommit P mutation built = .ok () ∧
      requireOperation P v built.operation built.membershipEndpoint = .ok () ∧
      (change = .none ∧ v' = v ∨
        persistFresh P v mutation built embedding committedAtMs queuedAt materialize =
          .ok (disposition, change, v')) := by
  simp only [persistOutgoing, ok_iff] at ran
  obtain ⟨valid, authorized, replay, _, ran⟩ := ran
  split at ran
  · simp only [ok_iff, Prod.mk.injEq] at ran
    exact ⟨valid, authorized, .inl ⟨ran.2.1.symm, ran.2.2.symm⟩⟩
  · exact ⟨valid, authorized, .inr ran⟩

theorem persistOutgoing_queues
    (ran : persistOutgoing P v mutation built embedding committedAtMs queuedAt materialize =
      .ok (disposition, change, v')) :
    ∃ entries, entries.Sublist [⟨built, queuedAt⟩] ∧ Queues P v entries v' := by
  obtain ⟨valid, authorized, ⟨_, rfl⟩ | fresh⟩ := persistOutgoing_cases ran
  · exact ⟨[], by simp, .done⟩
  · exact ⟨_, .refl _, .persist valid authorized fresh .done⟩

theorem commitOutgoing_queues
    (ran : commitOutgoingOperationWithBindingAt P v mutation built embedding committedAtMs queuedAt
      binding = .ok (disposition, v')) :
    ∃ entries, entries.Sublist [⟨built, queuedAt⟩] ∧ Queues P v entries v' := by
  simp only [commitOutgoingOperationWithBindingAt, ok_iff, Prod.mk.injEq] at ran
  obtain ⟨_, _, bound, ⟨_, change, persisted⟩, outgoing, rfl, rfl⟩ := ran
  obtain ⟨entries, sublist, queues⟩ := persistOutgoing_queues outgoing
  exact ⟨entries, sublist, .silent (bindCommit_silent bound)
    (queues.then_silent (applySyncCacheUpdate_silent _ _))⟩

/-- What a review queues: the decision, then the accepted memory. -/
def reviewEntries (decision : BuiltOperation) (accepted : Option (BuiltOperation × Embedding384))
    (firstQueuedAt secondQueuedAt : Nat) : List QueuedOperation :=
  ⟨decision, firstQueuedAt⟩ :: accepted.toList.map (fun pair => ⟨pair.1, secondQueuedAt⟩)

theorem commitSignedCandidateReview_queues
    (ran : commitSignedCandidateReview P v candidate decision accepted binding response now
      firstQueuedAt secondQueuedAt = .ok v') :
    ∃ entries, entries.Sublist (reviewEntries decision accepted firstQueuedAt secondQueuedAt) ∧
      Queues P v entries v' := by
  simp only [commitSignedCandidateReview, ok_iff] at ran
  obtain ⟨_, _, inserted, bound, rfl, ⟨_, _, first⟩, persisted, ran⟩ := ran
  obtain ⟨decided, sublist, queues⟩ := persistOutgoing_queues persisted
  have bound := Queues.silent (insertLocalOperationBinding_silent inserted) queues
  cases accepted with
  | none =>
    simp only [ok_iff] at ran
    exact ⟨decided, sublist, ran ▸ bound⟩
  | some pair =>
    simp only [ok_iff] at ran
    obtain ⟨_, ⟨_, change, second⟩, memory, rfl⟩ := ran
    obtain ⟨remembered, memorySublist, memoryQueues⟩ := persistOutgoing_queues memory
    exact ⟨decided ++ remembered, sublist.append memorySublist,
      (bound.trans memoryQueues).then_silent (applySyncCacheUpdate_silent _ _)⟩

/-- An operation built by an identity. -/
def SyncIdentity.Authored (identity : SyncIdentity) (operation : SyncOperationV1) : Prop :=
  operation.accountId = identity.accountId ∧ operation.workspaceId = identity.workspaceId ∧
    operation.deviceId = identity.deviceId

theorem build_authored (made : OperationBuilder.build P identity nonce request = .ok built) :
    identity.Authored built.operation ∧ built.operation.operationId = request.operationId := by
  simp only [OperationBuilder.build, ok_iff] at made
  obtain ⟨_, _, _, _, ⟨_, _⟩, _, _, _, _, _, _, _, _, _, _, _, _, rfl⟩ := made
  exact ⟨⟨rfl, rfl, rfl⟩, rfl⟩

/-- The entries of a backfill: by one identity, in the order of the draws. -/
structure Backfilled (identity : SyncIdentity) (draws : List BackfillDraw)
    (entries : List QueuedOperation) : Prop where
  places : (entries.map QueuedOperation.place).Sublist (draws.map BackfillDraw.place)
  authored : ∀ entry ∈ entries, identity.Authored entry.built.operation

theorem Backfilled.append (first : Backfilled identity draws entries)
    (second : Backfilled identity laterDraws later) :
    Backfilled identity (draws ++ laterDraws) (entries ++ later) where
  places := by
    rw [List.map_append, List.map_append]
    exact first.places.append second.places
  authored := by
    intro entry member
    rcases List.mem_append.mp member with early | late
    · exact first.authored entry early
    · exact second.authored entry late

theorem backfillRecord_queues (ran : backfillRecord P identity now state item = .ok next) :
    ∃ entries, Backfilled identity [item.2] entries ∧
      Queues P state.vault entries next.vault := by
  simp only [backfillRecord, ok_iff] at ran
  obtain ⟨kinds, _, _, _, _, _, _, _, built, made, owned, claimed, ⟨_, _, persisted⟩, outgoing,
    retired, queue, rfl⟩ := ran
  obtain ⟨authored, sameId⟩ := build_authored made
  obtain ⟨entries, sublist, queues⟩ := persistOutgoing_queues outgoing
  refine ⟨entries, ⟨?_, ?_⟩, .silent
    (insertOrVerifySyncRecordOwner_silent (onlyKind_of_kinds kinds) claimed)
    (queues.then_silent (retireLegacyQueueForRecord_silent queue))⟩
  · refine (sublist.map _).trans ?_
    simp [QueuedOperation.place, BackfillDraw.place, sameId]
  · intro entry member
    obtain rfl := List.mem_singleton.mp (sublist.subset member)
    exact authored

theorem backfillRecords_queues {items : List ((RecordId × RecordKind) × BackfillDraw)}
    (ran : thread (backfillRecord P identity now) state items = .ok final) :
    ∃ entries, Backfilled identity (items.map Prod.snd) entries ∧
      Queues P state.vault entries final.vault := by
  induction items generalizing state with
  | nil =>
    simp only [thread, Except.ok.injEq] at ran
    exact ⟨[], ⟨by simp, by simp⟩, ran ▸ .done⟩
  | cons item rest ih =>
    simp only [thread, bind_eq_ok] at ran
    obtain ⟨next, stepped, finished⟩ := ran
    obtain ⟨first, firstOf, firstQueues⟩ := backfillRecord_queues stepped
    obtain ⟨others, othersOf, othersQueue⟩ := ih finished
    exact ⟨first ++ others, firstOf.append othersOf, firstQueues.trans othersQueue⟩

theorem backfillSyncRecords_queues
    (ran : backfillSyncRecords P v material deviceId keys limit now draws = .ok (count, v')) :
    ∃ entries size, (entries.map QueuedOperation.place).Sublist
        ((List.range size).map (fun n => (draws n).place)) ∧
      (∀ entry ∈ entries, ∃ found, material = .ok found ∧
        entry.built.operation.accountId = found.scope.accountId ∧
        entry.built.operation.workspaceId = found.scope.workspaceId ∧
        entry.built.operation.deviceId = deviceId) ∧
      Queues P v entries v' := by
  unfold backfillSyncRecords at ran
  split at ran
  · simp only [ok_iff, Prod.mk.injEq] at ran
    exact ⟨[], 0, by simp, by simp, ran.2 ▸ .done⟩
  · simp only [ok_iff, Prod.mk.injEq] at ran
    obtain ⟨material, rfl, identity, identified, renamed, migrated, state, signed, final, retired,
      _, rfl⟩ := ran
    obtain ⟨entries, backfilled, queues⟩ := backfillRecords_queues signed
    have settled : Silent state.vault final := by
      refine thread_invariant (fun later => Silent state.vault later) ?_ (.of_same rfl) retired
      intro between item next _ reached stepped
      simp only [retirePending, ok_iff] at stepped
      obtain ⟨_, _, _, queue⟩ := stepped
      exact reached.trans (retireLegacyQueueForRecord_silent queue)
    refine ⟨entries, (backfillBatch renamed (min limit 32)).length, ?_, ?_,
      .silent (migrateLegacyCandidateIds_silent migrated) (queues.then_silent settled)⟩
    · have places := backfilled.places
      rw [List.map_snd_zip (by simp), List.map_map] at places
      exact places
    · intro entry member
      obtain ⟨account, workspace, device⟩ := backfilled.authored entry member
      simp only [VaultSyncMaterial.localIdentity, ok_iff] at identified
      obtain ⟨_, _, _, rfl⟩ := identified
      exact ⟨material, rfl, account, workspace, device⟩

/-! ## Elementary writes -/

/-- One elementary write, or a write of other parts of the vault that `outside` allows. -/
inductive Write (P : Primitives) (outside : Vault → Vault → Prop) : Vault → Vault → Prop where
  | applied {v v' : Vault} {admitted : AdmittedOperation} {material : Option TrustedSyncMaterial}
      {rehydrate : SyncOperationV1 → Except VaultError RecordMutationV1}
      {resolver : RepresentativeEmbeddingResolver} {appliedAtMs : Nat} {receivedAt : String}
      {decision : MergeDecision} {update : SyncCacheUpdate}
      (valid : validateAdmitted P admitted = .ok ())
      (faithful : ∀ operation mutation, rehydrate operation = .ok mutation →
        IsOf mutation operation)
      (ran : applyFresh P v admitted material rehydrate resolver appliedAtMs receivedAt =
        .ok (decision, update, v')) : Write P outside v v'
  | persisted {v v' : Vault} {mutation : RecordMutationV1} {built : BuiltOperation}
      {embedding : Option Embedding384} {committedAtMs queuedAt : Nat} {materialize : Bool}
      {disposition : CommitDisposition} {change : CacheChange}
      (valid : validateCommit P mutation built = .ok ())
      (ran : persistFresh P v mutation built embedding committedAtMs queuedAt materialize =
        .ok (disposition, change, v')) : Write P outside v v'
  | quiet {v v' : Vault} (quiet : Quiet v v') : Write P outside v v'
  | outside {v v' : Vault} (allowed : outside v v') : Write P outside v v'

/-- Elementary writes in sequence, as a transaction makes them. -/
abbrev Writes (P : Primitives) (outside : Vault → Vault → Prop) : Vault → Vault → Prop :=
  Relation.ReflTransGen (Write P outside)

theorem Queues.writes (queues : Queues P v entries v') : Writes P outside v v' := by
  induction queues with
  | done => exact .refl
  | silent write _ ih => exact .head (.quiet write.toQuiet) ih
  | persist valid _ ran _ ih => exact .head (.persisted valid ran) ih

theorem applyAdmittedOperationInner_writes
    (ran : applyAdmittedOperationInner P v admitted material receivedAt cursorProvider resolver
      appliedAtMs = .ok (decision, v')) : Writes P outside v v' := by
  simp only [applyAdmittedOperationInner, applyVerifiedInTransaction, ok_iff, Prod.mk.injEq] at ran
  obtain ⟨_, _, _, ⟨_, update, applied⟩, ⟨valid, replay, _, ran⟩, rfl, rfl⟩ := ran
  have transaction : Writes P outside v applied := by
    split at ran
    · simp only [Except.ok.injEq, Prod.mk.injEq] at ran
      obtain ⟨_, _, rfl⟩ := ran
      exact .refl
    · exact .single (.applied valid (fun _ _ => rehydrateStoredMutation_isOf) ran)
  refine .tail ?_ (.quiet (applySyncCacheUpdate_silent _ update).toQuiet)
  cases cursorProvider with
  | none => exact transaction
  | some provider => exact .tail transaction (.quiet (upsertCursor_silent ..).toQuiet)

/-! ## Steps of the vault -/

/-- One transaction of the vault, or a write of its other parts that `outside` allows. -/
inductive VaultStep (P : Primitives) (outside : Vault → Vault → Prop) : Vault → Vault → Prop where
  | commit {v v' : Vault} {mutation : RecordMutationV1} {built : BuiltOperation}
      {embedding : Option Embedding384} {committedAtMs queuedAt : Nat}
      {binding : Option (LocalOperationBinding × Bytes)} {disposition : CommitDisposition}
      (ran : commitOutgoingOperationWithBindingAt P v mutation built embedding committedAtMs queuedAt
        binding = .ok (disposition, v')) : VaultStep P outside v v'
  | review {v v' : Vault} {candidate : MemoryCandidate} {decision : BuiltOperation}
      {accepted : Option (BuiltOperation × Embedding384)} {binding : LocalOperationBinding}
      {response : Bytes} {now firstQueuedAt secondQueuedAt : Nat}
      (ran : commitSignedCandidateReview P v candidate decision accepted binding response now
        firstQueuedAt secondQueuedAt = .ok v') : VaultStep P outside v v'
  | backfill {v v' : Vault} {material : Except VaultError VaultSyncMaterial} {deviceId : DeviceId}
      {keys : DeviceKeys} {limit now : Nat} {draws : Nat → BackfillDraw} {count : Nat}
      (ran : backfillSyncRecords P v material deviceId keys limit now draws = .ok (count, v')) :
      VaultStep P outside v v'
  | applied {v v' : Vault} {admitted : AdmittedOperation} {material : TrustedSyncMaterial}
      {provider : SyncProvider} {receivedAt : String} {resolver : RepresentativeEmbeddingResolver}
      {appliedAtMs : Nat} {decision : MergeDecision}
      (ran : applyAdmittedOperationAt P v admitted material provider receivedAt resolver
        appliedAtMs = .ok (decision, v')) : VaultStep P outside v v'
  | repaired {v v' : Vault} {admitted : AdmittedOperation} {material : TrustedSyncMaterial}
      {receivedAt : String} {resolver : RepresentativeEmbeddingResolver} {appliedAtMs : Nat}
      {decision : MergeDecision}
      (ran : applyRepairedOperationAt P v admitted material receivedAt resolver appliedAtMs =
        .ok (decision, v')) : VaultStep P outside v v'
  | replayed {v v' : Vault} {workspace : WorkspaceId} {provider : SyncProvider}
      {receivedAt : String} {operationId : OperationId} {membership : Option MembershipEndpoint}
      (ran : advanceReplayCursor P v workspace provider receivedAt operationId membership = .ok v') :
      VaultStep P outside v v'
  | quarantined {v v' : Vault} {write : SyncQuarantineWrite} {disposition : ReceiptDisposition}
      (ran : quarantineSyncReceipt v write = .ok (disposition, v')) : VaultStep P outside v v'
  | rejected {v v' : Vault} {write : SyncRejectionWrite} {disposition : ReceiptDisposition}
      (ran : rejectOversizedSyncReceipt P v write = .ok (disposition, v')) : VaultStep P outside v v'
  | localWrite {v v' : Vault} (allowed : outside v v') : VaultStep P outside v v'

/-- Every transaction is a sequence of elementary writes. -/
theorem VaultStep.writes (step : VaultStep P outside v v') : Writes P outside v v' := by
  cases step with
  | commit ran =>
    obtain ⟨_, _, queues⟩ := commitOutgoing_queues ran
    exact queues.writes
  | review ran =>
    obtain ⟨_, _, queues⟩ := commitSignedCandidateReview_queues ran
    exact queues.writes
  | backfill ran =>
    obtain ⟨_, _, _, _, queues⟩ := backfillSyncRecords_queues ran
    exact queues.writes
  | applied ran =>
    simp only [applyAdmittedOperationAt, ok_iff] at ran
    exact applyAdmittedOperationInner_writes ran.2
  | repaired ran =>
    simp only [applyRepairedOperationAt, ok_iff] at ran
    exact applyAdmittedOperationInner_writes ran.2
  | replayed ran => exact .single (.quiet (advanceReplayCursor_silent ran).toQuiet)
  | quarantined ran => exact .single (.quiet (quarantineSyncReceipt_silent ran).toQuiet)
  | rejected ran => exact .single (.quiet (rejectOversizedSyncReceipt_silent ran).toQuiet)
  | localWrite allowed => exact .single (.outside allowed)

theorem Writes.invariant (holds : Vault → Prop)
    (kept : ∀ v v', Write P outside v v' → holds v → holds v') (writes : Writes P outside v v')
    (start : holds v) : holds v' := by
  induction writes with
  | refl => exact start
  | tail _ write reached => exact kept _ _ write reached

/-- What every elementary write keeps, every run of transactions keeps. -/
theorem VaultStep.run_invariant (holds : Vault → Prop)
    (kept : ∀ v v', Write P outside v v' → holds v → holds v')
    (steps : Relation.ReflTransGen (VaultStep P outside) v v') (start : holds v) : holds v' := by
  induction steps with
  | refl => exact start
  | tail _ step reached => exact step.writes.invariant holds kept reached

end ContextRelay
