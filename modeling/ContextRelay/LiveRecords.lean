import ContextRelay.Materialized

/-! Runs of sync steps only: admitted and repaired applies, replays, commits and backfilled
records. In every vault such a run reaches, the live records, the conflict rows and the
embedding cache follow the heads. -/
namespace ContextRelay

open Library

variable {P : Primitives} {keys : KeyMap} {vectors : VectorMap} {v v' : Vault}

/-- A resolver that finds the vectors of the map. -/
def Resolves (resolver : RepresentativeEmbeddingResolver) (vectors : VectorMap) : Prop :=
  ∀ operationId mutation resolved, resolver operationId mutation = .ok (some resolved) →
    resolved = vectors operationId mutation

/-- One sync step. The keys and vectors it uses are those of the run. -/
inductive SyncStep (P : Primitives) (keys : KeyMap) (vectors : VectorMap) : Vault → Vault → Prop where
  | applied {v v' : Vault} {bytes : Bytes} {material : TrustedSyncMaterial}
      {admitted : AdmittedOperation} {provider : SyncProvider} {receivedAt : String}
      {resolver : RepresentativeEmbeddingResolver} {appliedAtMs : Nat} {decision : MergeDecision}
      (admission : admitOperation P v bytes material = .ok (.admitted admitted))
      (agrees : material.Agrees keys) (resolves : Resolves resolver vectors)
      (ran : applyAdmittedOperationAt P v admitted material provider receivedAt resolver
        appliedAtMs = .ok (decision, v')) : SyncStep P keys vectors v v'
  | repaired {v v' : Vault} {bytes : Bytes} {material : TrustedSyncMaterial}
      {admitted : AdmittedOperation} {receivedAt : String}
      {resolver : RepresentativeEmbeddingResolver} {appliedAtMs : Nat} {decision : MergeDecision}
      (admission : admitOperation P v bytes material = .ok (.admitted admitted))
      (agrees : material.Agrees keys) (resolves : Resolves resolver vectors)
      (ran : applyRepairedOperationAt P v admitted material receivedAt resolver appliedAtMs =
        .ok (decision, v')) : SyncStep P keys vectors v v'
  | replayed {v v' : Vault} {workspace : WorkspaceId} {provider : SyncProvider}
      {receivedAt : String} {operationId : OperationId} {membership : Option MembershipEndpoint}
      (ran : advanceReplayCursor P v workspace provider receivedAt operationId membership = .ok v') :
      SyncStep P keys vectors v v'
  | committed {v v' : Vault} {mutation : RecordMutationV1} {built : BuiltOperation}
      {identity : SyncIdentity} {nonce : XChaChaNonce} {request : OperationBuildRequest}
      {embedding : Option Embedding384} {committedAtMs queuedAt : Nat}
      {binding : Option (LocalOperationBinding × Bytes)} {disposition : CommitDisposition}
      (made : Made P keys built mutation identity nonce request)
      (vector : ∀ resolved, embedding = some resolved →
        resolved = vectors built.operation.operationId mutation)
      (ran : commitOutgoingOperationWithBindingAt P v mutation built embedding committedAtMs queuedAt
        binding = .ok (disposition, v')) : SyncStep P keys vectors v v'
  | reviewed {v v' : Vault} {candidate : MemoryCandidate} {decision : BuiltOperation}
      {accepted : Option (BuiltOperation × Embedding384)} {binding : LocalOperationBinding}
      {response : Bytes} {now firstQueuedAt secondQueuedAt : Nat}
      (made : ∃ identity nonce request,
        Made P keys decision (.upsertMemoryCandidate candidate) identity nonce request)
      (madeAccepted : ∀ built embedding, accepted = some (built, embedding) →
        embedding = vectors built.operation.operationId (.upsertMemory candidate.proposedMemory) ∧
        ∃ identity nonce request,
          Made P keys built (.upsertMemory candidate.proposedMemory) identity nonce request)
      (ran : commitSignedCandidateReview P v candidate decision accepted binding response now
        firstQueuedAt secondQueuedAt = .ok v') : SyncStep P keys vectors v v'
  -- A backfilled record is signed as the vault holds it, with the vector it already has.
  | backfilled {identity : SyncIdentity} {now : Nat} {state next : BackfillState}
      {record : RecordId} {kind : RecordKind} {draw : BackfillDraw}
      (key : identity.contentKey = keys identity.workspaceId identity.keyEpoch)
      (held : ∀ mutation, loadMaterializedMutation state.vault record kind = some mutation →
        P.readMutation (P.writeMutation mutation) = some mutation ∧
          CachedFor state.vault.embeddingCache vectors draw.operationId mutation)
      (ran : backfillRecord P identity now state ((record, kind), draw) = .ok next) :
      SyncStep P keys vectors state.vault next.vault

/-- A vault that has nothing of the sync tables; it may hold records nobody owns. -/
structure Fresh (v : Vault) : Prop where
  operationMeta : v.operationMeta = .empty
  recordHeads : v.recordHeads = .empty
  recordOwners : v.recordOwners = .empty
  conflicts : v.conflicts = .empty

/-- A vault reached from a fresh one by sync steps. -/
def SyncReached (P : Primitives) (keys : KeyMap) (vectors : VectorMap) (v : Vault) : Prop :=
  ∃ first, Fresh first ∧ Relation.ReflTransGen (SyncStep P keys vectors) first v

/-! ## Frames -/

theorem applyFresh_sameCache (ran : applyFresh P v admitted material rehydrate resolver appliedAtMs
      receivedAt = .ok (decision, update, v')) : v'.embeddingCache = v.embeddingCache := by
  obtain ⟨claimed, _, _, _, _, claim, _, _, _, _, stored, recorded, rfl⟩ := applyFresh_ok ran
  obtain ⟨owners, aliases, rfl, _⟩ := claimRecord_effect claim
  obtain ⟨tables, rfl⟩ := materializeRepresentative_effect stored
  obtain ⟨schedule, _, _, _, _, written⟩ := recordIncoming_ok recorded
  rcases writeHeads_effect written with ⟨_, rfl⟩ | ⟨_, _, rfl⟩ | ⟨_, _, _, _, _, _, rfl⟩ <;> rfl

theorem persistFresh_sameCache (ran : persistFresh P v mutation built embedding committedAtMs
      queuedAt materialize = .ok (disposition, change, v')) :
    v'.embeddingCache = v.embeddingCache := by
  obtain ⟨claimed, _, _, claim, _, _, _, stored, recorded, rfl⟩ := persistFresh_ok ran
  obtain ⟨owners, rfl, _⟩ := ensureSyncRecordOwner_effect claim
  obtain ⟨tables, rfl⟩ := materializeOutgoing_effect stored
  obtain ⟨schedule, _, _, _, _, _, rfl⟩ := recordOutgoing_ok recorded
  rfl

theorem Displays.cursors (before : Displays P keys v)
    (cursors : Table (WorkspaceId ×ₗ SyncProvider) SyncCursor) :
    Displays P keys { v with cursors } :=
  ⟨⟨before.heads.rooted, before.heads.owned, before.heads.conflict⟩, before.kinds, before.shown,
    before.quiet⟩

theorem Follow.cursors (before : Follow P keys vectors v)
    (cursors : Table (WorkspaceId ×ₗ SyncProvider) SyncCursor) :
    Follow P keys vectors { v with cursors } :=
  ⟨before.displays.cursors cursors, before.cached⟩

theorem Follow.localBindings (before : Follow P keys vectors v)
    (localBindings : Table OperationId LocalBindingRow) :
    Follow P keys vectors { v with localBindings } :=
  ⟨⟨⟨before.displays.heads.rooted, before.displays.heads.owned, before.displays.heads.conflict⟩,
    before.displays.kinds, before.displays.shown, before.displays.quiet⟩, before.cached⟩

theorem Follow.outbox (before : Follow P keys vectors v) (outbox : Table OperationId OutboxRow) :
    Follow P keys vectors { v with outbox } :=
  ⟨⟨⟨before.displays.heads.rooted, before.displays.heads.owned, before.displays.heads.conflict⟩,
    before.displays.kinds, before.displays.shown, before.displays.quiet⟩, before.cached⟩

/-- Claiming a record that has rows of the claimed kind only. -/
theorem Follow.claim (before : Follow P keys vectors v)
    (claimed : Claimed v.recordOwners owners account workspace record kind)
    (only : v.OnlyKind record kind) : Follow P keys vectors { v with recordOwners := owners } := by
  refine ⟨⟨⟨before.displays.heads.rooted, ?_, before.displays.heads.conflict⟩, ?_,
    before.displays.shown, before.displays.quiet⟩, before.cached⟩
  · intro operation held
    have owner := before.displays.heads.owned operation held
    by_cases same : record = operation.recordId
    · subst same
      obtain ⟨sameAccount, sameWorkspace, sameKind⟩ := claimed.agreed _ owner
      simp only at sameAccount sameWorkspace sameKind
      rw [sameAccount, sameWorkspace, sameKind]
      exact claimed.owned
    · exact (claimed.others _ same).trans owner
  · intro other owner owned
    by_cases same : record = other
    · subst same
      obtain rfl := Option.some.inj (owned.symm.trans claimed.owned)
      exact only
    · exact before.displays.kinds other owner ((claimed.others _ same).symm.trans owned)

/-! ## Steps -/

theorem resolveEmbedding_vector (resolves : Resolves resolver vectors)
    (resolved : resolveEmbedding resolver operationId mutation = .ok embedding)
    (vector : Embedding384) (found : embedding = some vector) :
    vector = vectors operationId mutation := by
  subst found
  unfold resolveEmbedding at resolved
  split at resolved
  · exact resolves _ _ _ (renameFailure_eq_ok.mp resolved)
  · simp at resolved

private theorem filter_tagged {α : Type} (row : Option α) (tag kind : RecordKind) :
    (row.map (fun _ => tag)).toList.filter (fun found => decide (found = kind)) =
      if tag = kind then (row.map (fun _ => tag)).toList else [] := by
  cases row <;> simp [List.filter_cons]

/-- A row read of a record with rows of one kind only is its one row, and an upsert. -/
theorem kinds_of_loaded (only : v.OnlyKind record kind)
    (loaded : loadMaterializedMutation v record kind = some mutation) :
    materializedRecordKinds v record = [kind] ∧ mutation.mutationKind = .upsert := by
  have own : (materializedRecordKinds v record).filter (fun found => decide (found = kind)) =
      materializedRecordKinds v record :=
    List.filter_eq_self.mpr (by simpa [Vault.OnlyKind] using only)
  rw [← own]
  simp only [materializedRecordKinds, List.filter_append, filter_tagged]
  cases kind <;> simp only [loadMaterializedMutation, Option.map_eq_some_iff] at loaded
  case memory | instruction =>
    split at loaded
    · rename_i found
      obtain rfl := Option.some.inj loaded
      simp [found, RecordMutationV1.mutationKind, SearchableRecord.kind]
    · cases loaded
  all_goals
    obtain ⟨stored, found, rfl⟩ := loaded
    cases v.records.find? record with
    | none => simp [found, RecordMutationV1.mutationKind]
    | some row => cases row <;> simp [found, RecordMutationV1.mutationKind, SearchableRecord.kind]
/-- What is read of a record with rows of one kind only is shown. -/
theorem shows_of_loaded (only : v.OnlyKind mutation.recordId mutation.recordKind)
    (loaded : loadMaterializedMutation v mutation.recordId mutation.recordKind = some mutation) :
    v.Shows mutation := by
  obtain ⟨kinds, upsert⟩ := kinds_of_loaded only loaded
  unfold Vault.Shows
  rw [upsert]
  exact ⟨kinds, loaded⟩

theorem retireLegacyQueueForRecord_follow (before : Follow P keys vectors v)
    (ran : retireLegacyQueueForRecord v record kind = .ok v') : Follow P keys vectors v' := by
  refine thread_invariant (Follow P keys vectors) ?_ before ran
  intro state row next _ follows stepped
  simp only [retireLegacyRow, ok_iff] at stepped
  obtain ⟨_, _, rfl⟩ := stepped
  exact follows.outbox _

section

variable (before : Follow P keys vectors v)

include before

theorem Follow.apply (agrees : material.Agrees keys) (resolves : Resolves resolver vectors)
    (carries : Carries P keys admitted.operation admitted.mutation)
    (ran : applyVerifiedInTransaction P v admitted (some material) (rehydrateStoredMutation P material) resolver appliedAtMs receivedAt = .ok (decision, update, v')) :
    Follow P keys vectors (applySyncCacheUpdate v' update) := by
  simp only [applyVerifiedInTransaction, ok_iff] at ran
  obtain ⟨valid, replay, _, ran⟩ := ran
  split at ran
  · simp only [ok_iff, Prod.mk.injEq] at ran
    obtain ⟨_, rfl, rfl⟩ := ran
    exact before
  · have rooted := before.displays.heads.rooted
    have entered := applyFresh_entered valid rooted ran
    refine before.enter entered ?_
    rcases applyFresh_materializes valid rooted ran with ⟨leaves, sameTables, same⟩ |
      ⟨joins, first, mutation, embedding, change, materializes, source, resolved, rfl⟩
    · exact Or.inl ⟨leaves, sameTables, same, applyFresh_sameCache ran⟩
    · have firstCarries : Carries P keys first mutation := by
        rcases source with ⟨rfl, rfl⟩ | rehydrated
        · exact carries
        · exact rehydrateStoredMutation_carries agrees rehydrated
      exact Or.inr ⟨joins, first, mutation, materializes.presents entered before.displays firstCarries,
        materializes.caches entered before.displays firstCarries (applyFresh_sameCache ran)
          (resolveEmbedding_vector resolves resolved)⟩

theorem Follow.applyAdmitted
    (admission : admitOperation P v bytes material = .ok (.admitted admitted))
    (agrees : material.Agrees keys) (resolves : Resolves resolver vectors)
    (ran : applyAdmittedOperationInner P v admitted material receivedAt cursorProvider resolver appliedAtMs = .ok (decision, v')) : Follow P keys vectors v' := by
  obtain ⟨trusted, scope, key, admits⟩ := admitOperation_admitted.mp admission
  simp only [applyAdmittedOperationInner, ok_iff, Prod.mk.injEq] at ran
  obtain ⟨_, _, _, ⟨_, update, applied⟩, transaction, rfl, rfl⟩ := ran
  have followed := before.apply agrees resolves (admits.carries agrees) transaction
  cases cursorProvider with
  | none => exact followed
  | some provider => exact followed.cursors (upsertCursor applied _ provider _).cursors

theorem Follow.persist (opens : Opens P) (made : Made P keys built mutation identity nonce request)
    (vector : ∀ resolved, embedding = some resolved →
      resolved = vectors built.operation.operationId mutation)
    (ran : persistOutgoing P v mutation built embedding committedAtMs queuedAt true =
      .ok (disposition, change, v')) :
    Follow P keys vectors (applySyncCacheUpdate v' (cacheUpdate change)) := by
  obtain ⟨valid, _, ⟨rfl, rfl⟩ | fresh⟩ := persistOutgoing_cases ran
  · exact before
  · have rooted := before.displays.heads.rooted
    have entered := persistFresh_entered valid rooted fresh
    have materializes := persistFresh_materializes valid rooted fresh
    have carries := made.carries opens valid
    exact before.enter entered (Or.inr ⟨(persistFresh_heads valid rooted fresh).1, built.operation,
      mutation, materializes.presents entered before.displays carries,
      materializes.caches entered before.displays carries (persistFresh_sameCache fresh) vector⟩)

/-- Persisting a record as it was read presents it without a write to its rows or the cache. -/
theorem Follow.persistRead (opens : Opens P)
    (made : Made P keys built mutation identity nonce request)
    (cached : CachedFor v.embeddingCache vectors built.operation.operationId mutation)
    (ran : persistOutgoing P v mutation built embedding committedAtMs queuedAt false =
      .ok (disposition, change, v')) : Follow P keys vectors v' := by
  obtain ⟨valid, _, ⟨rfl, rfl⟩ | fresh⟩ := persistOutgoing_cases ran
  · exact before
  · have rooted := before.displays.heads.rooted
    have carries := made.carries opens valid
    have sameCache := persistFresh_sameCache fresh
    have entered := persistFresh_entered valid rooted fresh
    obtain ⟨joins, after⟩ := persistFresh_heads valid rooted fresh
    obtain ⟨loaded, rfl, sameTables⟩ := persistFresh_checks fresh
    have shows : v'.Shows mutation := by
      have only := entered.claimed.onlyKind entered.unowned before.displays.kinds
      rw [carries.identity.1, carries.identity.2] at only loaded
      exact (SameRows.of_tables sameTables _).shows.mpr (shows_of_loaded only loaded)
    have followed : Follow P keys vectors (applySyncCacheUpdate v' none) :=
      before.enter entered (Or.inr ⟨joins, built.operation, mutation, ⟨?_, carries, shows, fun record _ => .of_tables sameTables record⟩, ⟨?_, ?_⟩⟩)
    · exact followed
    · rw [joinedHeads_of_all_after after]
      rfl
    · exact (CachedFor.congr (by rw [← sameCache]; rfl)).mpr cached
    · intro record _
      rw [← sameCache]
      rfl

theorem insertLocalOperationBinding_follow
    (ran : insertLocalOperationBinding v binding response = .ok (some v')) :
    Follow P keys vectors v' := by
  simp only [insertLocalOperationBinding, bind_eq_ok] at ran
  obtain ⟨replay, _, ran⟩ := ran
  split at ran
  · simp only [ok_iff, Option.some.injEq] at ran
    exact ran ▸ before.localBindings _
  · simp at ran

theorem bindCommit_follow (ran : bindCommit v mutation built binding = .ok v') : Follow P keys vectors v' := by
  cases binding with
  | none =>
    simp only [bindCommit, ok_iff] at ran
    exact ran ▸ before
  | some pair =>
    obtain ⟨binding, response⟩ := pair
    simp only [bindCommit, ok_iff] at ran
    obtain ⟨_, inserted, insertion, bound, rfl, ran⟩ := ran
    have boundFollow := insertLocalOperationBinding_follow before insertion
    unfold bindLocalUpdateOwner at ran
    split at ran
    · simp only [ok_iff] at ran
      exact ran ▸ boundFollow
    · split at ran
      · simp only [ok_iff] at ran
        exact ran ▸ boundFollow
      · simp only [ok_iff] at ran
        obtain ⟨_, _, ⟨_, onlyKind⟩, claim⟩ := ran
        obtain ⟨owners, rfl, claimed⟩ := insertOrVerifySyncRecordOwner_effect claim
        exact boundFollow.claim claimed (by unfold Vault.OnlyKind; rw [onlyKind]; simp)

end

/-- A backfilled record has its owner recorded before it is persisted. -/
theorem backfillRecord_follow (before : Follow P keys vectors state.vault) (opens : Opens P)
    (key : identity.contentKey = keys identity.workspaceId identity.keyEpoch)
    (held : ∀ mutation, loadMaterializedMutation state.vault record kind = some mutation →
      P.readMutation (P.writeMutation mutation) = some mutation ∧
        CachedFor state.vault.embeddingCache vectors draw.operationId mutation)
    (ran : backfillRecord P identity now state ((record, kind), draw) = .ok next) :
    Follow P keys vectors next.vault := by
  simp only [backfillRecord, ok_iff] at ran
  obtain ⟨kinds, mutation, loaded, _, _, _, _, _, built, build, owned, claim, ⟨_, _, persisted⟩,
    persists, retired, retires, rfl⟩ := ran
  obtain ⟨readable, cached⟩ := held mutation loaded
  obtain ⟨owners, rfl, claimed⟩ := insertOrVerifySyncRecordOwner_effect claim
  have followed := before.claim claimed (onlyKind_of_kinds kinds)
  have sameId : built.operation.operationId = draw.operationId := (build_authored build).2
  rw [← sameId] at cached
  exact retireLegacyQueueForRecord_follow (followed.persistRead opens
    ⟨build, key, readable, fun _ => rfl⟩ cached persists) retires

/-- A candidate is not searchable, so persisting one changes no cache entry. -/
theorem persistOutgoing_candidate
    (ran : persistOutgoing P v (.upsertMemoryCandidate candidate) built embedding committedAtMs
      queuedAt true = .ok (disposition, change, v')) : change = .none := by
  obtain ⟨_, _, ⟨none, _⟩ | fresh⟩ := persistOutgoing_cases ran
  · exact none
  · obtain ⟨_, _, _, _, _, _, _, stored, _, _⟩ := persistFresh_ok fresh
    simp only [materializeOutgoing, if_pos, materializeMutation, ok_iff, Prod.mk.injEq] at stored
    exact stored.2.2.symm

theorem SyncStep.follow (step : SyncStep P keys vectors v v') (opens : Opens P)
    (before : Follow P keys vectors v) : Follow P keys vectors v' := by
  cases step with
  | applied admission agrees resolves ran =>
    simp only [applyAdmittedOperationAt, ok_iff] at ran
    exact before.applyAdmitted admission agrees resolves ran.2
  | repaired admission agrees resolves ran =>
    simp only [applyRepairedOperationAt, ok_iff] at ran
    exact before.applyAdmitted admission agrees resolves ran.2
  | replayed ran =>
    simp only [advanceReplayCursor, ok_iff] at ran
    obtain ⟨_, _, _, _, _, _, _, _, rfl⟩ := ran
    exact before.cursors _
  | committed made vector ran =>
    simp only [commitOutgoingOperationWithBindingAt, ok_iff, Prod.mk.injEq] at ran
    obtain ⟨_, bound, binds, ⟨_, change, persisted⟩, persists, rfl, rfl⟩ := ran
    exact (bindCommit_follow before binds).persist opens made vector persists
  | reviewed made madeAccepted ran =>
    simp only [commitSignedCandidateReview, ok_iff] at ran
    obtain ⟨_, inserted, insertion, bound, rfl, ⟨_, change, decided⟩, persists, ran⟩ := ran
    obtain ⟨identity, nonce, request, made⟩ := made
    have decidedFollow : Follow P keys vectors decided := by
      have followed := (insertLocalOperationBinding_follow before insertion).persist opens made
        (by simp) persists
      rw [persistOutgoing_candidate persists] at followed
      exact followed
    split at ran
    · simp only [ok_iff] at ran
      exact ran ▸ decidedFollow
    · simp only [ok_iff] at ran
      obtain ⟨_, ⟨_, changeAccepted, accepted⟩, persistsAccepted, rfl⟩ := ran
      obtain ⟨rfl, identity, nonce, request, madeBuilt⟩ := madeAccepted _ _ rfl
      exact decidedFollow.persist opens madeBuilt (by simp) persistsAccepted
  | backfilled key held ran => exact backfillRecord_follow before opens key held ran

theorem Fresh.follow (fresh : Fresh v) : Follow P keys vectors v := by
  have empty : ∀ operation, ¬ v.Holds operation := by
    rintro operation ⟨_, signed⟩
    simp [fresh.operationMeta] at signed
  have noHeads : ∀ workspace record, v.headOperations workspace record = [] := by
    intro workspace record
    simp [Vault.headOperations, Vault.headRows, fresh.recordHeads, Table.empty]
  refine ⟨⟨⟨?_, ?_, ?_⟩, ?_, ?_, ?_⟩, ?_⟩
  · intro workspace record id row found
    simp [fresh.recordHeads] at found
  · exact fun operation held => absurd held (empty operation)
  · exact fun operation held => absurd held (empty operation)
  · intro record owner owned
    simp [fresh.recordOwners] at owned
  · intro workspace record first isFirst
    simp [noHeads] at isFirst
  · intro record _
    simp [fresh.conflicts]
  · intro workspace record first mutation isFirst
    simp [noHeads] at isFirst

theorem SyncReached.follow (reached : SyncReached P keys vectors v) (opens : Opens P) :
    Follow P keys vectors v := by
  obtain ⟨first, fresh, steps⟩ := reached
  induction steps with
  | refl => exact fresh.follow
  | tail _ step ih => exact step.follow opens ih

/-- In every vault that sync steps reach, each record with a head shows the mutation of the
head with the least id, with the vector resolved for it in the cache, and a record has a
conflict row exactly when it has two heads or more, naming the two with the least ids. -/
theorem live_records_follow_heads (opens : Opens P) (reached : SyncReached P keys vectors v)
    (record : RecordId) :
    (∀ workspace id row, v.recordHeads.find? (toLex (workspace, toLex (record, id))) = some row →
      ∃ first mutation, (v.headOperations workspace record).head? = some first ∧
        first.operationId ≤ id ∧ Carries P keys first mutation ∧ mutation.recordId = record ∧
        v.Shows mutation ∧ CachedFor v.embeddingCache vectors first.operationId mutation) ∧
    ((v.conflicts.find? record).isSome ↔
      ∃ workspace, 2 ≤ (v.headOperations workspace record).length) ∧
    ∀ workspace left right rest, v.headOperations workspace record = left :: right :: rest →
      v.conflicts.find? record = some ⟨left, right⟩ ∧ left.operationId < right.operationId ∧
        ∀ head ∈ rest, right.operationId < head.operationId := by
  have followed := reached.follow opens
  have rooted := followed.displays.heads.rooted
  refine ⟨?_, ?_, ?_⟩
  · intro workspace id row found
    obtain ⟨head, held, rfl, rfl, rfl, rfl⟩ := rooted _ _ _ _ found
    have member := rooted.mem_headOperations.mpr ⟨held, rfl, rfl, found⟩
    obtain ⟨first, isFirst⟩ : ∃ first,
        (v.headOperations head.workspaceId head.recordId).head? = some first := by
      cases heads : v.headOperations head.workspaceId head.recordId with
      | nil => simp [heads] at member
      | cons first rest => exact ⟨first, rfl⟩
    obtain ⟨mutation, carries, shows⟩ := followed.displays.shown _ _ _ isFirst
    have firstRecord := (rooted.mem_headOperations.mp (List.mem_of_head? isFirst)).2.2.1
    exact ⟨first, mutation, isFirst, rooted.headOperations_ascending.head_le isFirst member, carries,
      carries.identity.1.symm.trans firstRecord, shows, followed.cached _ _ _ _ isFirst carries⟩
  · constructor
    · intro conflicted
      by_cases untouched : ∀ operation, v.Holds operation → operation.recordId ≠ record
      · simp [followed.displays.quiet record untouched] at conflicted
      · push Not at untouched
        obtain ⟨operation, held, rfl⟩ := untouched
        rw [followed.displays.heads.conflict operation held] at conflicted
        exact ⟨_, conflictOf_isSome.mp conflicted⟩
    · rintro ⟨workspace, two⟩
      obtain ⟨head, member⟩ : ∃ head, head ∈ v.headOperations workspace record :=
        List.exists_mem_of_length_pos (by omega)
      obtain ⟨held, rfl, rfl, _⟩ := rooted.mem_headOperations.mp member
      rw [followed.displays.heads.conflict head held]
      exact conflictOf_isSome.mpr two
  · intro workspace left right rest heads
    have member : left ∈ v.headOperations workspace record := by simp [heads]
    obtain ⟨held, rfl, rfl, _⟩ := rooted.mem_headOperations.mp member
    have ascending : Ascending SyncOperationV1.operationId
        (v.headOperations left.workspaceId left.recordId) := rooted.headOperations_ascending
    rw [heads] at ascending
    obtain ⟨belowLeft, tail⟩ := List.pairwise_cons.mp ascending
    refine ⟨?_, belowLeft right (by simp), (List.pairwise_cons.mp tail).1⟩
    rw [followed.displays.heads.conflict left held, heads]
    rfl

open Sample (pairWorld afterPull material built firstTask fifth identity request persistedFirst
  commit_fifth admit_sixth pulledSixth_ok)

theorem live_records_follow_heads_in_conflict :
    Opens pairWorld ∧
      SyncReached pairWorld (fun _ _ => ⟨1⟩) (fun _ _ => ⟨[]⟩) afterPull ∧
      ((afterPull.conflicts.find? (Sample.id 10)).isSome ↔
        ∃ workspace, 2 ≤ (afterPull.headOperations workspace (Sample.id 10)).length) := by
  have opens : Opens pairWorld := by
    intro key plaintext aad nonce payload encrypted
    obtain rfl := Option.some.inj encrypted
    rfl
  have agrees : (material [5, 6]).Agrees (fun _ _ => ⟨1⟩) := by
    constructor
    · intro workspace epoch key found
      simp only [material] at found
      split at found
      · exact (Except.ok.inj found).symm
      · cases found
    · intro historical found
      cases found
  have made : Made pairWorld (fun _ _ => ⟨1⟩)
      (built pairWorld firstTask fifth) firstTask
      (identity 5) ⟨.ofNat 9⟩ (request 5 30 20 firstTask [] none) :=
    ⟨rfl, rfl, rfl, fun _ => rfl⟩
  have commits : SyncStep pairWorld (fun _ _ => ⟨1⟩) (fun _ _ => ⟨[]⟩) Vault.empty
      (persistedFirst firstTask fifth) :=
    .committed made (by simp) commit_fifth
  have applies : SyncStep pairWorld (fun _ _ => ⟨1⟩) (fun _ _ => ⟨[]⟩)
      (persistedFirst firstTask fifth) afterPull :=
    .applied admit_sixth agrees (by intro _ _ _ found; cases found) pulledSixth_ok
  have reached : SyncReached pairWorld (fun _ _ => ⟨1⟩) (fun _ _ => ⟨[]⟩)
      afterPull :=
    ⟨Vault.empty, ⟨rfl, rfl, rfl, rfl⟩, .tail (.single commits) applies⟩
  exact ⟨opens, reached, (live_records_follow_heads opens reached (Sample.id 10)).2.1⟩

end ContextRelay
