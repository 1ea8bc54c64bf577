import ContextRelay.Applicability
import ContextRelay.Convergence

/-! Two concurrent operations on one record, delivered in either order. The second is
admitted after the first exactly when its record kind, nonce and alias still fit and, if it
is a tombstone, its project is that of the scope the first one leaves behind. Then both
orders end with the same heads and a conflict between the two. -/
namespace ContextRelay

open Library RecordMutationV1

variable {P : Primitives} {v v' : Vault}

/-! ## Deliveries -/

/-- One step of a vault that takes part in a workspace: an admitted operation is pulled or
repaired, a local one is persisted with the vault's own frontier, or a write adds no
operation. -/
inductive DeliveryStep (P : Primitives) : Vault → Vault → Prop where
  | applied {v v' : Vault} {bytes : Bytes} {material : TrustedSyncMaterial}
      {admitted : AdmittedOperation} {receivedAt : String} {cursorProvider : Option SyncProvider}
      {resolver : RepresentativeEmbeddingResolver} {appliedAtMs : Nat} {decision : MergeDecision}
      (admission : admitOperation P v bytes material = .ok (.admitted admitted))
      (ran : applyAdmittedOperationInner P v admitted material receivedAt cursorProvider resolver
        appliedAtMs = .ok (decision, v')) : DeliveryStep P v v'
  | persisted {v v' : Vault} {mutation : RecordMutationV1} {built : BuiltOperation}
      {embedding : Option Embedding384} {committedAtMs queuedAt : Nat} {materialize : Bool}
      {disposition : CommitDisposition} {change : CacheChange}
      (current : loadCheckpointFrontier v ⟨built.operation.accountId, built.operation.workspaceId⟩ =
        .ok built.operation.causalFrontier)
      (ran : persistOutgoing P v mutation built embedding committedAtMs queuedAt materialize =
        .ok (disposition, change, v')) : DeliveryStep P v v'
  | quiet {v v' : Vault} (quiet : Quiet v v') : DeliveryStep P v v'

/-- A vault reached from an unclaimed one by deliveries in any order. -/
def Delivered (P : Primitives) (v : Vault) : Prop :=
  ∃ first, Unclaimed first ∧ Relation.ReflTransGen (DeliveryStep P) first v

/-- A well-formed vault whose heads are the operations no held operation follows. -/
structure DeliveryInvariant (P : Primitives) (v : Vault) : Prop where
  wellFormed : WellFormed P v
  causal : ReplicaInvariant P v

theorem Quiet.replicaInvariant (quiet : Quiet v v') (before : ReplicaInvariant P v) :
    ReplicaInvariant P v' where
  chains := quiet.signed.preserves before.chains
  heads := quiet.headInvariant before.heads
  known := by
    intro operation held entry member
    rw [Vault.deviceHead, quiet.signed.deviceHeads]
    exact before.known operation (quiet.signed.holds.mp held) entry member
  undominated := by
    intro workspace record operation
    have held : v'.heldOn workspace record = v.heldOn workspace record := by
      ext other
      simp only [Vault.heldOn, Set.mem_ofPred_eq, quiet.signed.holds]
    rw [quiet.headOperations before.heads.rooted, held]
    exact before.undominated workspace record operation

theorem Quiet.deliveryInvariant (quiet : Quiet v v') (before : DeliveryInvariant P v) :
    DeliveryInvariant P v' :=
  ⟨quiet.wellFormed before.wellFormed, quiet.replicaInvariant before.causal⟩

/-- A fresh apply and the writes of cursor and cache that follow it. -/
theorem applyAdmittedOperationInner_fresh
    (admits : Admits P v bytes material admitted trusted scope key)
    (ran : applyAdmittedOperationInner P v admitted material receivedAt cursorProvider resolver
      appliedAtMs = .ok (decision, v')) :
    ∃ applied update, applyFresh P v admitted (some material) (rehydrateStoredMutation P material)
        resolver appliedAtMs receivedAt = .ok (decision, update, applied) ∧
      ∃ cursors cache, v' = { applied with cursors := cursors, embeddingCache := cache } := by
  have replay : exactIncomingReplay P v admitted = .ok false := by
    simp [exactIncomingReplay, admits.fresh]
  simp only [applyAdmittedOperationInner, applyVerifiedInTransaction, replay, ok_bind,
    Bool.false_eq_true, if_false, ok_iff, Prod.mk.injEq] at ran
  obtain ⟨_, _, _, ⟨_, update, applied⟩, ⟨_, fresh⟩, rfl, rfl⟩ := ran
  refine ⟨applied, update, fresh, ?_⟩
  cases cursorProvider with
  | none => exact ⟨_, _, rfl⟩
  | some provider => exact ⟨_, _, rfl⟩

theorem applyFresh_deliveryInvariant (before : DeliveryInvariant P v)
    (admits : Admits P v bytes material admitted trusted scope key)
    (ran : applyFresh P v admitted (some material) (rehydrateStoredMutation P material) resolver
      appliedAtMs receivedAt = .ok (decision, update, v')) : DeliveryInvariant P v' where
  wellFormed := applyFresh_wellFormed before.wellFormed admits.validateAdmitted
    (fun _ _ => rehydrateStoredMutation_isOf) ran
  causal := (applyFresh_entered admits.validateAdmitted before.causal.heads.rooted
    ran).replicaInvariant before.causal admits.knows

theorem DeliveryStep.preserves (step : DeliveryStep P v v') (before : DeliveryInvariant P v) :
    DeliveryInvariant P v' := by
  cases step with
  | applied admission ran =>
    obtain ⟨trusted, scope, key, admits⟩ := admitOperation_admitted.mp admission
    obtain ⟨applied, update, fresh, _, _, rfl⟩ := applyAdmittedOperationInner_fresh admits ran
    refine Quiet.deliveryInvariant ?_ (applyFresh_deliveryInvariant before admits fresh)
    exact .of_same rfl
  | persisted current ran =>
    obtain ⟨valid, _, ⟨_, rfl⟩ | fresh⟩ := persistOutgoing_cases ran
    · exact before
    · exact ⟨persistFresh_wellFormed before.wellFormed valid fresh,
        (persistFresh_entered valid before.causal.heads.rooted fresh).replicaInvariant before.causal
          (loadCheckpointFrontier_known current)⟩
  | quiet quiet => exact quiet.deliveryInvariant before

theorem Delivered.invariant (delivered : Delivered P v) : DeliveryInvariant P v := by
  obtain ⟨first, unclaimed, steps⟩ := delivered
  induction steps with
  | refl =>
    have empty : EmptyWorkspaces first := ⟨unclaimed.toUnsigned, unclaimed.recordHeads⟩
    exact ⟨unclaimed.wellFormed, empty.replicaInvariant⟩
  | tail _ step reached => exact step.preserves reached

/-! ## The scope left behind -/

/-- The scope of a project, or the global one. -/
def scopeOf (projectId : Option ProjectId) : ScopeRef := projectId.elim .global .project

@[simp] theorem scopeProject_scopeOf (projectId : Option ProjectId) :
    scopeProject (scopeOf projectId) = projectId := by
  cases projectId <;> rfl

theorem scopeOf_inj : scopeOf left = scopeOf right ↔ left = right := by
  cases left <;> cases right <;> simp [scopeOf]

/-- The row of a shown upsert has the project its operation signs. -/
theorem materializedScope_of_shows (shows : v.Shows mutation)
    (upsert : mutation.mutationKind = .upsert)
    (inScope : scopeMatches projectId mutation = true) :
    ∃ scope, materializedScope v mutation.recordId mutation.recordKind = some scope ∧
      scopeProject scope = projectId := by
  simp only [Vault.Shows, upsert] at shows
  have loaded := shows.2
  cases mutation
  case tombstone record kind => cases upsert
  case' upsertMemory record =>
    simp only [loadMaterializedMutation, recordKind] at loaded
    split at loaded <;> cases loaded
    rename_i found
  case' upsertInstruction record =>
    simp only [loadMaterializedMutation, recordKind] at loaded
    split at loaded <;> cases loaded
    rename_i found
  case' upsertMemoryCandidate | upsertTask | upsertSecretRef | upsertComponent | upsertProject =>
    obtain ⟨stored, found, same⟩ := Option.map_eq_some_iff.mp loaded
    cases same
  -- The row that was found is the mutation's own, and the check compared its project.
  all_goals
    simp only [scopeMatches, beq_iff_eq, Option.isNone_iff_eq_none] at inScope
    subst inScope
    exact ⟨_, by simp only [materializedScope, recordKind, found]; rfl, rfl⟩

theorem materializedScope_eq_none (empty : materializedRecordKinds v record = []) :
    materializedScope v record kind = none := by
  simp only [materializedRecordKinds, List.append_eq_nil_iff, Option.toList_eq_nil_iff,
    Option.map_eq_none_iff] at empty
  obtain ⟨⟨⟨⟨⟨records, candidates⟩, tasks⟩, secretRefs⟩, components⟩, projects⟩ := empty
  cases kind <;>
    simp [materializedScope, records, candidates, tasks, secretRefs, components, projects]

/-- An opened operation's scope is that of its project. -/
theorem operationScope_ok (sameKind : operation.recordKind = mutation.recordKind)
    (sameRecord : operation.recordId = mutation.recordId)
    (inScope : scopeMatches operation.projectId mutation = true) :
    operationScope operation = .ok (scopeOf operation.projectId) := by
  unfold operationScope scopeOf
  rw [sameKind]
  cases mutation with
  | tombstone record kind =>
    cases kind <;> cases project : operation.projectId <;>
      simp_all [scopeMatches, recordKind, recordId, present,
        Option.filter]
  | _ =>
    cases project : operation.projectId <;>
      simp_all [scopeMatches, recordKind, recordId, present,
        Option.filter]

/-- Heads that load with a scope of their own agree exactly when they share a project. -/
theorem agreedScope_some
    (valid : ∀ head ∈ heads, head.recordKind = kind ∧ head.operation.recordId = record ∧
      operationScope head.operation = .ok (scopeOf head.operation.projectId)) :
    agreedScope record kind (some (scopeOf projectId)) heads = .ok result ↔
      (∀ head ∈ heads, head.operation.projectId = projectId) ∧
        result = some (scopeOf projectId) := by
  induction heads with
  | nil => simp [agreedScope, eq_comm]
  | cons head rest ih =>
    obtain ⟨sameKind, sameRecord, scope⟩ := valid head (by simp)
    have tail := ih (fun later member => valid later (by simp [member]))
    simp only [agreedScope, sameKind, sameRecord, scope, and_self, ok_iff, exists_eq_left',
      Option.all_some, decide_eq_true_eq, scopeOf_inj, true_and, List.forall_mem_cons]
    constructor
    · rintro ⟨rfl, agreed⟩
      exact ⟨⟨rfl, (tail.mp agreed).1⟩, (tail.mp agreed).2⟩
    · rintro ⟨⟨rfl, agreed⟩, same⟩
      exact ⟨rfl, tail.mpr ⟨agreed, same⟩⟩

theorem agreedScope_none
    (valid : ∀ head ∈ heads, head.recordKind = kind ∧ head.operation.recordId = record ∧
      operationScope head.operation = .ok (scopeOf head.operation.projectId)) :
    (∃ scope, agreedScope record kind none heads = .ok (some scope) ∧
      scopeProject scope = projectId) ↔
        heads ≠ [] ∧ ∀ head ∈ heads, head.operation.projectId = projectId := by
  cases heads with
  | nil => simp [agreedScope]
  | cons head rest =>
    obtain ⟨sameKind, sameRecord, scope⟩ := valid head (by simp)
    have start : agreedScope record kind none (head :: rest) =
        agreedScope record kind (some (scopeOf head.operation.projectId)) rest := by
      simp [agreedScope, sameKind, sameRecord, scope, require]
    have tail : ∀ later ∈ rest, later.recordKind = kind ∧ later.operation.recordId = record ∧
        operationScope later.operation = .ok (scopeOf later.operation.projectId) :=
      fun later member => valid later (by simp [member])
    rw [start]
    simp only [agreedScope_some tail, List.forall_mem_cons, ne_eq, reduceCtorEq, not_false_eq_true, true_and, Option.some.injEq]
    constructor
    · rintro ⟨_, ⟨agreed, rfl⟩, rfl⟩
      exact ⟨(scopeProject_scopeOf _).symm, fun later member =>
        (agreed later member).trans (scopeProject_scopeOf _).symm⟩
    · rintro ⟨rfl, agreed⟩
      exact ⟨_, ⟨agreed, rfl⟩, scopeProject_scopeOf _⟩

/-- What a tombstone is checked against: the project of the first head when that is an upsert,
and the project all heads share when it is a tombstone. -/
def ScopeAgrees (heads : List SyncOperationV1) (projectId : Option ProjectId) : Prop :=
  ∀ first, heads.head? = some first →
    if first.mutationKind = .upsert then first.projectId = projectId
    else ∀ head ∈ heads, head.projectId = projectId

instance (heads : List SyncOperationV1) (projectId : Option ProjectId) :
    Decidable (ScopeAgrees heads projectId) := by
  unfold ScopeAgrees
  infer_instance

/-- Where the first head is shown, the stored scope of the record is that of its heads. -/
theorem materializedRecordScope_iff (wellFormed : WellFormed P v)
    (owned : ∀ head ∈ v.headOperations workspace record, head.recordKind = kind)
    (isFirst : (v.headOperations workspace record).head? = some first)
    (opened : openMutation P key first = .ok mutation) (shows : v.Shows mutation)
    (readable : Readable P v material workspace record) :
    (∃ scope, materializedRecordScope P v workspace record kind = .ok (some scope) ∧
      scopeProject scope = projectId) ↔ ScopeAgrees (v.headOperations workspace record) projectId := by
  have member := List.mem_of_head? isFirst
  obtain ⟨_, _, sameRecord, _⟩ := wellFormed.heads.rooted.mem_headOperations.mp member
  obtain ⟨ownRecord, ownKind, ownMutation, inScope, _⟩ := openMutation_ok opened
  rw [sameRecord] at ownRecord
  rw [owned first member] at ownKind
  have agrees : ScopeAgrees (v.headOperations workspace record) projectId ↔
      if first.mutationKind = .upsert then first.projectId = projectId
      else ∀ head ∈ v.headOperations workspace record, head.projectId = projectId := by
    unfold ScopeAgrees
    simp [isFirst]
  rw [agrees]
  cases kindOf : mutation.mutationKind with
  | upsert =>
    obtain ⟨scope, stored, project⟩ := materializedScope_of_shows shows kindOf inScope
    rw [← ownRecord, ← ownKind] at stored
    rw [if_pos (ownMutation.trans kindOf)]
    simp only [materializedRecordScope, stored, ok_iff, Option.some.injEq, exists_eq_left', project]
  | tombstone =>
    have empty : materializedRecordKinds v record = [] := by
      simpa [Vault.Shows, kindOf, ownRecord] using shows
    rw [if_neg (by rw [ownMutation, kindOf]; simp)]
    simp only [materializedRecordScope, materializedScope_eq_none empty, durableRecordScope]
    obtain ⟨current, loaded, described⟩ := loadRecordHeads_succeeds wellFormed.chains
      wellFormed.heads.rooted workspace record
    obtain ⟨sameHeads, _⟩ := loadRecordHeads_ok loaded
    simp only [loaded, ok_bind]
    rw [agreedScope_none, ← sameHeads]
    · have nonempty : current ≠ [] := by
        rintro rfl
        rw [← sameHeads] at member
        cases member
      simp [nonempty]
    · intro head headMember
      obtain ⟨isHead, _, kinds, _⟩ := described head headMember
      obtain ⟨_, _, headRecord, _⟩ := wellFormed.heads.rooted.mem_headOperations.mp isHead
      obtain ⟨carried, rehydrated⟩ := readable head.operation isHead
      obtain ⟨headKey, headOpened⟩ := rehydrateStoredMutation_opens rehydrated
      obtain ⟨carriedRecord, carriedKind, _, carriedScope, _⟩ := openMutation_ok headOpened
      exact ⟨kinds.trans (owned _ isHead), headRecord,
        operationScope_ok carriedKind carriedRecord carriedScope⟩

/-! ## What the first delivery leaves -/

section FirstDelivery

variable {first second : AdmittedOperation} {material : TrustedSyncMaterial}

/-- Parts of the vault a fresh apply takes over from the claim of the record. -/
theorem applyFresh_frame (ran : applyFresh P v first (some material) rehydrate resolver appliedAtMs
      receivedAt = .ok (decision, update, v')) :
    v'.membership = v.membership ∧ ∃ claimed, claimRecord P v first (some material) = .ok claimed ∧
      v'.recordOwners = claimed.recordOwners ∧ v'.candidateAliases = claimed.candidateAliases := by
  obtain ⟨claimed, current, chosen, materialized, change, claim, _, _, _, _, stored, recorded,
    rfl⟩ := applyFresh_ok ran
  obtain ⟨owners, aliases, rfl, _⟩ := claimRecord_effect claim
  obtain ⟨tables, rfl⟩ := materializeRepresentative_effect stored
  obtain ⟨schedule, _, _, _, _, written⟩ := recordIncoming_ok recorded
  rcases writeHeads_effect written with ⟨_, rfl⟩ | ⟨_, _, rfl⟩ | ⟨_, _, _, _, _, _, rfl⟩ <;>
    exact ⟨rfl, _, claim, rfl, rfl⟩

variable (before : DeliveryInvariant P v)
  (admits : Admits P v bytes material first trusted scope key)
  (ran : applyFresh P v first (some material) (rehydrateStoredMutation P material) resolver
    appliedAtMs receivedAt = .ok (decision, update, v'))

include before admits ran

theorem applyFresh_joinedHeads :
    v'.headOperations first.operation.workspaceId first.operation.recordId =
      joinedHeads first.operation
        (v.headOperations first.operation.workspaceId first.operation.recordId) := by
  have entered := applyFresh_entered admits.validateAdmitted before.causal.heads.rooted ran
  exact entered.headOperations_joined before.causal.heads.rooted (entered.joins before.causal)

/-- The first of the new heads is shown, as its ciphertext opens. -/
theorem applyFresh_shows :
    (∃ head mutation opening,
      (v'.headOperations first.operation.workspaceId first.operation.recordId).head? = some head ∧
      openMutation P opening head = .ok mutation ∧ v'.Shows mutation) ∧
    ∀ record, first.operation.recordId ≠ record → SameRows v v' record := by
  have entered := applyFresh_entered admits.validateAdmitted before.causal.heads.rooted ran
  rcases applyFresh_materializes admits.validateAdmitted before.causal.heads.rooted ran with
    ⟨leaves, _⟩ | ⟨_, head, mutation, embedding, change, materializes, source, _, _⟩
  · exact absurd leaves (before.causal.not_leaves admits.chained)
  · obtain ⟨opening, opened⟩ : ∃ opening, openMutation P opening head = .ok mutation := by
      rcases source with ⟨rfl, rfl⟩ | rehydrated
      · exact ⟨key, verifyOperationEnvelope_opens admits.opened⟩
      · exact rehydrateStoredMutation_opens rehydrated
    obtain ⟨sameRecord, sameKind, _⟩ := openMutation_ok opened
    obtain ⟨shows, _, _, others⟩ := materializes.shows entered before.causal.heads
      before.wellFormed.kinds ⟨sameRecord, sameKind⟩
    refine ⟨⟨head, mutation, opening, ?_, opened, shows⟩, others⟩
    rw [applyFresh_joinedHeads before admits ran]
    exact materializes.isFirst

/-- Heads that could be read before can still be read, the new one included. -/
theorem applyFresh_readable
    (readable : Readable P v material first.operation.workspaceId first.operation.recordId) :
    Readable P v' material first.operation.workspaceId first.operation.recordId := by
  intro head member
  rw [applyFresh_joinedHeads before admits ran] at member
  rcases mem_joinedHeads.mp member with ⟨old, _⟩ | rfl
  · exact readable head old
  · refine ⟨first.mutation, ?_⟩
    simp only [rehydrateStoredMutation, admits.keyed]
    exact rehydrateMutationWithKey_ok.mpr (verifyOperationEnvelope_opens admits.opened)

end FirstDelivery

/-! ## Admitting the second operation -/

/-- What admission of the second of two concurrent operations needs of the first. -/
structure AdmissibleAfter (P : Primitives) (v : Vault) (first second : AdmittedOperation) : Prop where
  otherId : second.operation.operationId ≠ first.operation.operationId
  sameKind : second.operation.recordKind = first.operation.recordKind
  inScope : second.operation.mutationKind = .tombstone → ScopeAgrees (joinedHeads first.operation
    (v.headOperations first.operation.workspaceId first.operation.recordId))
    second.operation.projectId

/-- What admitting and applying the second of two concurrent operations needs of the first. -/
structure FitsAfter (P : Primitives) (v : Vault) (first second : AdmittedOperation) : Prop
    extends AdmissibleAfter P v first second where
  otherNonce : (second.operation.keyEpoch, second.operation.nonce) ≠
    (first.operation.keyEpoch, first.operation.nonce)
  sameMemory : ∀ left right, first.mutation = .upsertMemoryCandidate left →
    second.mutation = .upsertMemoryCandidate right → NeedsAlias P v left → NeedsAlias P v right →
      left.proposedMemory.id = right.proposedMemory.id

/-- Two operations of different devices on one record of a workspace. -/
structure SameRecord (first second : AdmittedOperation) : Prop where
  account : second.operation.accountId = first.operation.accountId
  workspace : second.operation.workspaceId = first.operation.workspaceId
  record : second.operation.recordId = first.operation.recordId
  device : second.operation.deviceId ≠ first.operation.deviceId

theorem Recorded.deviceHead_other (recorded : Recorded P v v' operation row)
    (other : operation.deviceId ≠ device) (workspace : WorkspaceId) :
    v'.deviceHead workspace device = v.deviceHead workspace device := by
  rw [Vault.deviceHead, recorded.deviceHeads, Table.find?_upsert_of_ne]
  · rfl
  · simp [other]

theorem Recorded.metaAt_other {sequence : Nat} (recorded : Recorded P v v' operation row)
    (chains : ChainInvariant P v) (chainsAfter : ChainInvariant P v')
    (other : operation.deviceId ≠ device)
    (unused : v.metaAt workspace device sequence = none) :
    v'.metaAt workspace device sequence = none := by
  by_contra taken
  obtain ⟨⟨id, found⟩, search⟩ := Option.ne_none_iff_exists'.mp taken
  obtain ⟨held, isHeld, rfl, rfl, rfl, _⟩ := chainsAfter.metaAt_eq_some search
  rcases recorded.holds.mp isHeld with old | rfl
  · obtain ⟨_, _, searchBefore⟩ := chains.metaAt_isSome old
    rw [unused] at searchBefore
    cases searchBefore
  · exact other rfl

/-- A frontier that was known stays known. -/
theorem Recorded.frontier (recorded : Recorded P v v' operation row)
    (frontier : validateFrontierAgainstVault v other = .ok ()) :
    validateFrontierAgainstVault v' other = .ok () := by
  simp only [validateFrontierAgainstVault, ok_iff] at frontier ⊢
  refine ⟨frontier.1, ?_⟩
  intro entry member
  have known := frontier.2 entry member
  cases found : v.deviceHead other.workspaceId entry.deviceId with
  | none => simp [found] at known
  | some head =>
    obtain ⟨later, foundLater, grown⟩ := recorded.deviceHead_le found
    have low : entry.sequence ≤ head.sequence := by simpa [found] using known
    simpa [foundLater] using low.trans grown

/-- A verified tombstone was checked against a scope of its own project. -/
theorem verifyOperationEnvelope_scoped
    (verified : verifyOperationEnvelope P operation (trustedContext trusted previous scope) key =
      .ok mutation) :
    operation.mutationKind = .tombstone → ∃ found, scope = some found ∧
      scopeProject found = operation.projectId := by
  intro isTombstone
  simp only [verifyOperationEnvelope, validateTombstoneScope, isTombstone, ne_eq, not_true_eq_false,
    if_false, ok_iff, trustedContext] at verified
  obtain ⟨_, _, ⟨found, same, project, _⟩, _⟩ := verified
  exact ⟨found, same, project⟩

/-- Verification looks at the scope of a tombstone only, and only at its project. -/
theorem verifyOperationEnvelope_rescope
    (verified : verifyOperationEnvelope P operation (trustedContext trusted previous scope) key =
      .ok mutation)
    (matched : operation.mutationKind = .tombstone → ∃ found, other = some found ∧
      scopeProject found = operation.projectId) :
    verifyOperationEnvelope P operation (trustedContext trusted previous other) key =
      .ok mutation := by
  simp only [verifyOperationEnvelope, ok_iff] at verified ⊢
  obtain ⟨valid, fields, tombstone, rest⟩ := verified
  refine ⟨valid, fields, ?_, rest⟩
  by_cases isTombstone : operation.mutationKind = .tombstone
  · obtain ⟨found, rfl, project⟩ := matched isTombstone
    simp only [validateTombstoneScope, isTombstone, ne_eq, not_true_eq_false, if_false, ok_iff,
      trustedContext] at tombstone ⊢
    obtain ⟨_, _, _, ownProject⟩ := tombstone
    exact ⟨found, rfl, project, ownProject⟩
  · simp [validateTombstoneScope, isTombstone]

/-- A claim records the alias of a candidate that needs one, and leaves the aliases otherwise. -/
theorem claimRecord_aliases (claim : claimRecord P v first material = .ok claimed) :
    (∀ candidate, first.mutation = .upsertMemoryCandidate candidate → NeedsAlias P v candidate →
      claimed.candidateAliases = v.candidateAliases.upsert candidate.proposedMemory.id.retype
        candidate.id.retype) ∧
    ((∀ candidate, first.mutation = .upsertMemoryCandidate candidate →
      ¬ NeedsAlias P v candidate) → claimed.candidateAliases = v.candidateAliases) := by
  simp only [claimRecord, bind_eq_ok] at claim
  obtain ⟨_, ensure, claim⟩ := claim
  obtain ⟨owners, rfl, _⟩ := ensureSyncRecordOwner_effect ensure
  split at claim
  · rename_i candidate isCandidate
    rw [isCandidate]
    constructor
    · rintro _ ⟨rfl⟩ needed
      rcases (restoreReceivedCandidateAlias_ok.mp claim).2 with ⟨_, rfl⟩ | ⟨unneeded, _⟩
      · rfl
      · exact absurd needed unneeded
    · intro unneeded
      rcases (restoreReceivedCandidateAlias_ok.mp claim).2 with ⟨needed, _⟩ | ⟨_, rfl⟩
      · exact absurd needed (unneeded candidate rfl)
      · rfl
  · rename_i notCandidate
    simp only [ok_iff] at claim
    subst claim
    exact ⟨fun candidate is => absurd is (notCandidate candidate), fun _ => rfl⟩

section SecondDelivery

variable {first second : AdmittedOperation} {material : TrustedSyncMaterial}
  (before : DeliveryInvariant P v)
  (admits : Admits P v bytes material first trusted scope key)
  (ran : applyFresh P v first (some material) (rehydrateStoredMutation P material) resolver
    appliedAtMs receivedAt = .ok (decision, update, v'))
  (same : SameRecord first second)

include before admits ran same

/-- The alias rule still lets a record of the first operation's kind in. -/
theorem candidateAliasAllowsScope_after
    (allowed : candidateAliasAllowsScope v second.operation.accountId second.operation.workspaceId
      second.operation.recordId first.operation.recordKind = true) :
    candidateAliasAllowsScope v' second.operation.accountId second.operation.workspaceId
      second.operation.recordId first.operation.recordKind = true := by
  obtain ⟨_, claimed, claim, owners, aliases⟩ := applyFresh_frame ran
  have entered := applyFresh_entered admits.validateAdmitted before.causal.heads.rooted ran
  by_cases isCandidate : ∃ candidate, first.mutation = .upsertMemoryCandidate candidate
  · obtain ⟨candidate, isCandidate⟩ := isCandidate
    have kind : first.operation.recordKind = .memoryCandidate := by
      rw [admits.isOf.2, isCandidate]
      rfl
    have belongs := admits.belongs
    rw [kind] at belongs
    have resolves := claimRecord_resolves claim admits.isOf
      (recordBelongsToSyncScope_resolves belongs)
    rw [← same.record] at resolves
    rw [resolveCandidateId] at resolves
    simp only [candidateAliasAllowsScope, resolveCandidateId, aliases, resolves, if_true]
  · have aliasesKept := (claimRecord_aliases claim).2
      (fun candidate is _ => isCandidate ⟨candidate, is⟩)
    simp only [candidateAliasAllowsScope, resolveCandidateId, storedSyncRecordOwner, aliases,
      aliasesKept] at allowed ⊢
    split
    · rfl
    · rename_i moved
      simp only [moved, if_false] at allowed
      rw [entered.claimed.others _ (by rw [← same.record]; exact Ne.symm moved)]
      exact allowed

theorem recordBelongsToSyncScope_after
    (belongs : recordBelongsToSyncScope P v material second.operation.accountId
      second.operation.workspaceId second.operation.recordId second.operation.recordKind =
        .ok true) :
    recordBelongsToSyncScope P v' material second.operation.accountId
      second.operation.workspaceId second.operation.recordId second.operation.recordKind =
        .ok true ↔ second.operation.recordKind = first.operation.recordKind := by
  have entered := applyFresh_entered admits.validateAdmitted before.causal.heads.rooted ran
  have owner := entered.claimed.owned
  rw [← same.account, ← same.workspace, ← same.record] at owner
  have allowed := recordBelongsToSyncScope_allowed belongs
  constructor
  · intro belongsAfter
    by_contra different
    simp only [recordBelongsToSyncScope, storedSyncRecordOwner, owner, Prod.mk.injEq, true_and,
      ne_eq, Ne.symm different, not_false_eq_true, if_true] at belongsAfter
    split at belongsAfter <;> cases belongsAfter
  · intro sameKind
    rw [sameKind] at allowed
    have allowedAfter := candidateAliasAllowsScope_after before admits ran same allowed
    simp [recordBelongsToSyncScope, storedSyncRecordOwner, owner, sameKind, allowedAfter]

/-- A tombstone is checked against the scope of the heads the first operation left. -/
theorem existingRecordScope_after
    (readable : Readable P v material first.operation.workspaceId first.operation.recordId)
    (sameKind : second.operation.recordKind = first.operation.recordKind)
    (isTombstone : second.operation.mutationKind = .tombstone) :
    (∃ found, existingRecordScope P v' second.operation = .ok (some found) ∧
      scopeProject found = second.operation.projectId) ↔
      ScopeAgrees (joinedHeads first.operation
        (v.headOperations first.operation.workspaceId first.operation.recordId))
        second.operation.projectId := by
  have after := applyFresh_deliveryInvariant before admits ran
  have entered := applyFresh_entered admits.validateAdmitted before.causal.heads.rooted ran
  obtain ⟨⟨head, mutation, opening, isFirst, opened, shows⟩, _⟩ := applyFresh_shows before admits ran
  rw [← applyFresh_joinedHeads before admits ran]
  have owned : ∀ head ∈ v'.headOperations first.operation.workspaceId first.operation.recordId,
      head.recordKind = first.operation.recordKind := by
    intro head member
    obtain ⟨held, _, sameRecord, _⟩ := after.causal.heads.rooted.mem_headOperations.mp member
    have owner := after.causal.heads.owned head held
    rw [sameRecord, entered.claimed.owned, Option.some.injEq] at owner
    exact (congrArg StoredSyncRecordOwner.recordKind owner).symm
  rw [← materializedRecordScope_iff after.wellFormed owned isFirst opened shows
    (applyFresh_readable before admits ran readable)]
  rw [existingRecordScope, if_pos isTombstone, same.workspace, same.record, sameKind]
  simp only [ok_iff, Option.some.injEq]
  constructor
  · rintro ⟨_, ⟨_, stored, _, rfl, rfl⟩, project⟩
    exact ⟨_, stored, project⟩
  · rintro ⟨found, stored, project⟩
    exact ⟨found, ⟨_, stored, found, rfl, rfl⟩, project⟩

/-- The second operation is admitted after the first exactly when it still fits. -/
theorem admits_after
    (readable : Readable P v material first.operation.workspaceId first.operation.recordId)
    (secondAdmits : Admits P v secondBytes material second secondTrusted secondScope secondKey) :
    (∃ trusted scope key, Admits P v' secondBytes material second trusted scope key) ↔
      AdmissibleAfter P v first second := by
  have after := applyFresh_deliveryInvariant before admits ran
  have recorded := applyFresh_recorded admits.validateAdmitted ran
  obtain ⟨membership, _⟩ := applyFresh_frame ran
  have sameHead := recorded.deviceHead_other (Ne.symm same.device) second.operation.workspaceId
  constructor
  · rintro ⟨trusted, scope, key, admitsAfter⟩
    have sameKind := (recordBelongsToSyncScope_after before admits ran same
      secondAdmits.belongs).mp admitsAfter.belongs
    refine ⟨?_, sameKind, ?_⟩
    · intro sameId
      have fresh := admitsAfter.fresh
      rw [recorded.operations, sameId, Table.find?_upsert_self] at fresh
      cases fresh
    · intro isTombstone
      obtain ⟨found, rfl, project⟩ :=
        (verifyOperationEnvelope_scoped admitsAfter.opened) isTombstone
      exact (existingRecordScope_after before admits ran same readable sameKind isTombstone).mp
        ⟨found, admitsAfter.inScope, project⟩
  · intro fits
    obtain ⟨scope, inScope, matched⟩ : ∃ scope,
        existingRecordScope P v' second.operation = .ok scope ∧
          (second.operation.mutationKind = .tombstone → ∃ found, scope = some found ∧
            scopeProject found = second.operation.projectId) := by
      by_cases isTombstone : second.operation.mutationKind = .tombstone
      · obtain ⟨found, inScope, project⟩ := (existingRecordScope_after before admits ran same readable
          fits.sameKind isTombstone).mpr (fits.inScope isTombstone)
        exact ⟨some found, inScope, fun _ => ⟨found, rfl, project⟩⟩
      · exact ⟨none, by rw [existingRecordScope, if_neg isTombstone]; rfl,
          fun impossible => absurd impossible isTombstone⟩
    refine ⟨secondTrusted, scope, secondKey, secondAdmits.decoded, ?_, secondAdmits.device,
      secondAdmits.identity, ?_, ?_, ?_, ?_, ?_, ?_, ?_, inScope, secondAdmits.keyed, ?_,
      secondAdmits.canonicalBytes, secondAdmits.canonicalHash, secondAdmits.endpoint⟩
    · have member := secondAdmits.member
      simp only [requireOperation, requireCurrent, membership] at member ⊢
      exact member
    · rw [sameHead]
      exact secondAdmits.authentic
    · rw [recorded.operations, Table.find?_upsert_of_ne _ _ fits.otherId.symm]
      exact secondAdmits.fresh
    · refine Option.map_eq_none_iff.mpr (recorded.metaAt_other before.causal.chains
        after.causal.chains (Ne.symm same.device) ?_)
      exact Option.map_eq_none_iff.mp secondAdmits.unused
    · rw [sameHead]
      exact secondAdmits.successor
    · rw [sameHead]
      exact secondAdmits.linked
    · exact recorded.frontier secondAdmits.frontier
    · exact (recordBelongsToSyncScope_after before admits ran same secondAdmits.belongs).mpr
        fits.sameKind
    · rw [sameHead]
      exact verifyOperationEnvelope_rescope secondAdmits.opened matched

/-- The alias of the second candidate can be restored after the first one when it could before
and the two do not need aliases for different memories. -/
theorem aliasRestorable_after (sameCandidate : second.operation.recordId = candidate.id.retype) :
    AliasRestorable P v' candidate second.operation.accountId second.operation.workspaceId ↔
      AliasRestorable P v candidate second.operation.accountId second.operation.workspaceId ∧
        ∀ other, first.mutation = .upsertMemoryCandidate other → NeedsAlias P v other →
          NeedsAlias P v candidate → other.proposedMemory.id = candidate.proposedMemory.id := by
  have entered := applyFresh_entered admits.validateAdmitted before.causal.heads.rooted ran
  obtain ⟨_, claimed, claim, owners, aliases⟩ := applyFresh_frame ran
  have rows := (applyFresh_shows before admits ran).2
  rw [← same.record, sameCandidate] at rows
  have otherOwners := entered.claimed.others
  rw [← same.record, sameCandidate] at otherOwners
  by_cases added : ∃ other, first.mutation = .upsertMemoryCandidate other ∧ NeedsAlias P v other
  · obtain ⟨other, isOther, otherNeeds⟩ := added
    have sameId : (other.id.retype : RecordId) = candidate.id.retype := by
      have ownRecord := admits.isOf.1
      rw [isOther, ← same.record, sameCandidate] at ownRecord
      exact ownRecord.symm
    have free := ((claimRecord_ok admits.belongs admits.isOf).mp ⟨claimed, claim⟩ other
      isOther).free otherNeeds
    rw [(claimRecord_aliases claim).1 other isOther otherNeeds] at aliases
    have otherUnnamed := free.unnamed
    rw [sameId] at otherUnnamed aliases
    have needs : NeedsAlias P v candidate ↔ derivedRecordUuid P candidate.proposedMemory.id.uuid
        legacyCandidateDomain = some candidate.id.uuid := by
      refine ⟨And.left, fun derived => ⟨derived, ?_⟩⟩
      intro resolved
      cases found : v.candidateAliases.find? candidate.proposedMemory.id.retype with
      | none =>
        rw [resolveCandidateId, found] at resolved
        exact derivedRecordUuid_ne derived (congrArg Id.uuid resolved).symm
      | some target =>
        rw [resolveCandidateId, found] at resolved
        exact (otherUnnamed _ ((Table.find?_eq_some _).mp found)).2.2.2 resolved
    by_cases sameMemory : other.proposedMemory.id = candidate.proposedMemory.id
    · -- The alias the first operation recorded is the one the second needs.
      have settled : ¬ NeedsAlias P v' candidate := by
        rintro ⟨_, missing⟩
        apply missing
        rw [resolveCandidateId, aliases, sameMemory, Table.find?_upsert_self]
        rfl
      have freeToo : AliasFree v candidate second.operation.accountId
          second.operation.workspaceId := by
        rw [same.account, same.workspace]
        obtain ⟨unnamed, onlyMemory, owner, unowned⟩ := free
        rw [sameId] at unnamed
        rw [sameMemory] at unnamed onlyMemory owner unowned
        exact ⟨unnamed, onlyMemory, owner, unowned⟩
      constructor
      · rintro ⟨derivable, _⟩
        refine ⟨⟨derivable, fun _ => freeToo⟩, ?_⟩
        rintro _ isOther' _ _
        rw [isOther] at isOther'
        cases isOther'
        exact sameMemory
      · rintro ⟨⟨derivable, _⟩, _⟩
        exact ⟨derivable, fun needed => absurd needed settled⟩
    · have needsAfter : NeedsAlias P v candidate → NeedsAlias P v' candidate := by
        rintro ⟨derived, missing⟩
        refine ⟨derived, ?_⟩
        rw [resolveCandidateId, aliases, Table.find?_upsert_of_ne]
        · exact missing
        · intro equal
          exact sameMemory (Id.retype_injective equal)
      constructor
      · rintro ⟨derivable, restorable⟩
        have unneeded : ¬ NeedsAlias P v candidate := by
          intro needed
          have unnamed := (restorable (needsAfter needed)).unnamed
          rw [aliases] at unnamed
          exact (unnamed _ ((Table.find?_eq_some _).mp (Table.find?_upsert_self ..))).2.2.2 rfl
        exact ⟨⟨derivable, fun needed => absurd needed unneeded⟩,
          fun _ _ _ needed => absurd needed unneeded⟩
      · rintro ⟨⟨derivable, _⟩, compatible⟩
        refine ⟨derivable, ?_⟩
        rintro ⟨derived, _⟩
        exact absurd (compatible other isOther otherNeeds (needs.mpr derived)) sameMemory
  · have unchanged : v'.candidateAliases = v.candidateAliases := by
      rw [aliases]
      exact (claimRecord_aliases claim).2 (fun other is needed => added ⟨other, is, needed⟩)
    rw [AliasRestorable.congr unchanged rows otherOwners]
    refine ⟨fun restorable => ⟨restorable, ?_⟩, And.left⟩
    exact fun other is needed => absurd ⟨other, is, needed⟩ added

theorem applicable_after (isOf : IsOf second.mutation second.operation) :
    Applicable P v' second ↔ Applicable P v second ∧
      (second.operation.keyEpoch, second.operation.nonce) ≠
        (first.operation.keyEpoch, first.operation.nonce) ∧
      ∀ left right, first.mutation = .upsertMemoryCandidate left →
        second.mutation = .upsertMemoryCandidate right → NeedsAlias P v left →
          NeedsAlias P v right → left.proposedMemory.id = right.proposedMemory.id := by
  have recorded := applyFresh_recorded admits.validateAdmitted ran
  have nonce : v'.nonces.find? (toLex (second.operation.keyEpoch, second.operation.nonce)) = none ↔
      v.nonces.find? (toLex (second.operation.keyEpoch, second.operation.nonce)) = none ∧
        (second.operation.keyEpoch, second.operation.nonce) ≠
          (first.operation.keyEpoch, first.operation.nonce) := by
    rw [recorded.nonces, Table.find?_upsert]
    by_cases used : toLex (first.operation.keyEpoch, first.operation.nonce) =
        toLex (second.operation.keyEpoch, second.operation.nonce)
    · rw [if_pos used]
      simp [toLex_inj.mp used]
    · rw [if_neg used]
      exact ⟨fun fresh => ⟨fresh, fun equal => used (congrArg toLex equal.symm)⟩, And.left⟩
  have restorable : ∀ candidate, second.mutation = .upsertMemoryCandidate candidate →
      second.operation.recordId = candidate.id.retype := by
    intro candidate isCandidate
    rw [isOf.1, isCandidate]
    rfl
  constructor
  · rintro ⟨freshNonce, restorableAfter⟩
    obtain ⟨fresh, otherNonce⟩ := nonce.mp freshNonce
    refine ⟨⟨fresh, ?_⟩, otherNonce, ?_⟩
    · intro candidate isCandidate
      exact ((aliasRestorable_after before admits ran same (restorable candidate isCandidate)).mp
        (restorableAfter candidate isCandidate)).1
    · intro left right isLeft isRight leftNeeds rightNeeds
      exact ((aliasRestorable_after before admits ran same (restorable right isRight)).mp
        (restorableAfter right isRight)).2 left isLeft leftNeeds rightNeeds
  · rintro ⟨⟨fresh, restorableBefore⟩, otherNonce, sameMemory⟩
    refine ⟨nonce.mpr ⟨fresh, otherNonce⟩, ?_⟩
    intro candidate isCandidate
    refine (aliasRestorable_after before admits ran same (restorable candidate isCandidate)).mpr
      ⟨restorableBefore candidate isCandidate, ?_⟩
    intro left isLeft leftNeeds needs
    exact sameMemory left candidate isLeft isCandidate leftNeeds needs

end SecondDelivery

/-! ## One order -/

/-- The first operation is applied, then the second is admitted and applied. -/
def DeliversInOrder (P : Primitives) (v : Vault) (material : TrustedSyncMaterial)
    (provider : SyncProvider) (resolver : RepresentativeEmbeddingResolver)
    (receivedAt : OperationId → String) (appliedAtMs : OperationId → Nat)
    (first second : AdmittedOperation) (secondBytes : Bytes) (final : Vault) : Prop :=
  ∃ firstDecision middle secondDecision,
    applyAdmittedOperationAt P v first material provider (receivedAt first.operation.operationId)
      resolver (appliedAtMs first.operation.operationId) = .ok (firstDecision, middle) ∧
    admitOperation P middle secondBytes material = .ok (.admitted second) ∧
    applyAdmittedOperationAt P middle second material provider
      (receivedAt second.operation.operationId) resolver
      (appliedAtMs second.operation.operationId) = .ok (secondDecision, final)

section

variable {cursors : Table (WorkspaceId ×ₗ SyncProvider) SyncCursor}
  {cache : Table RecordId CachedEmbedding}

/-- Cursors and the embedding cache play no part in admission. -/
theorem Admits.frame :
    Admits P { v with cursors := cursors, embeddingCache := cache } bytes material admitted trusted
      scope key ↔ Admits P v bytes material admitted trusted scope key := by
  constructor <;>
  · rintro ⟨decoded, member, device, identity, authentic, fresh, unused, successor, linked, frontier,
      belongs, inScope, keyed, opened, canonicalBytes, canonicalHash, endpoint⟩
    exact ⟨decoded, member, device, identity, authentic, fresh, unused, successor, linked, frontier,
      belongs, inScope, keyed, opened, canonicalBytes, canonicalHash, endpoint⟩

theorem Applicable.frame :
    Applicable P { v with cursors := cursors, embeddingCache := cache } admitted ↔
      Applicable P v admitted := by
  have restorable : ∀ candidate account workspace,
      AliasRestorable P { v with cursors := cursors, embeddingCache := cache } candidate account
        workspace ↔ AliasRestorable P v candidate account workspace := fun _ _ _ =>
    AliasRestorable.congr rfl (fun _ _ => ⟨rfl, rfl, rfl, rfl, rfl, rfl⟩) (fun _ _ => rfl)
  constructor
  · rintro ⟨fresh, restored⟩
    exact ⟨fresh, fun candidate is => (restorable ..).mp (restored candidate is)⟩
  · rintro ⟨fresh, restored⟩
    exact ⟨fresh, fun candidate is => (restorable ..).mpr (restored candidate is)⟩

end

/-- An applied operation leaves a vault that differs from the fresh apply in cursor and cache. -/
theorem applyAdmittedOperationAt_fresh
    (admits : Admits P v bytes material admitted trusted scope key)
    (ran : applyAdmittedOperationAt P v admitted material provider receivedAt resolver appliedAtMs =
      .ok (decision, v')) :
    ∃ applied update, applyFresh P v admitted (some material) (rehydrateStoredMutation P material)
        resolver appliedAtMs receivedAt = .ok (decision, update, applied) ∧
      ∃ cursors cache, v' = { applied with cursors := cursors, embeddingCache := cache } := by
  simp only [applyAdmittedOperationAt, ok_iff] at ran
  exact applyAdmittedOperationInner_fresh admits ran.2

section Order

variable {first second : AdmittedOperation} {material : TrustedSyncMaterial}
  {receivedAt : OperationId → String} {appliedAtMs : OperationId → Nat}
  (before : DeliveryInvariant P v)
  (admits : Admits P v bytes material first trusted scope key)
  (secondAdmits : Admits P v secondBytes material second secondTrusted secondScope secondKey)
  (same : SameRecord first second)

include before admits secondAdmits same

/-- Both operations go through in this order exactly when each could be applied alone and the
second fits after the first. -/
theorem deliversInOrder_iff (positions : ∀ id, validateReceivedAt (receivedAt id) = .ok ())
    (vectors : Vectorizes resolver)
    (readable : Readable P v material first.operation.workspaceId first.operation.recordId) :
    (∃ final, DeliversInOrder P v material provider resolver receivedAt appliedAtMs first second
      secondBytes final) ↔
      Applicable P v first ∧ Applicable P v second ∧ FitsAfter P v first second := by
  have applies : (∃ outcome, applyAdmittedOperationAt P v first material provider
      (receivedAt first.operation.operationId) resolver
      (appliedAtMs first.operation.operationId) = .ok outcome) ↔ Applicable P v first :=
    applyAdmittedOperationAt_ok before.wellFormed admits (positions _) vectors readable
  -- After the first delivery the second one is judged by the same two criteria.
  have later : ∀ decision middle, applyAdmittedOperationAt P v first material provider
      (receivedAt first.operation.operationId) resolver
      (appliedAtMs first.operation.operationId) = .ok (decision, middle) →
      ((∃ trusted scope key, Admits P middle secondBytes material second trusted scope key) ↔
        AdmissibleAfter P v first second) ∧
      (Applicable P middle second ↔ Applicable P v second ∧
        (second.operation.keyEpoch, second.operation.nonce) ≠
          (first.operation.keyEpoch, first.operation.nonce) ∧
        ∀ left right, first.mutation = .upsertMemoryCandidate left →
          second.mutation = .upsertMemoryCandidate right → NeedsAlias P v left →
            NeedsAlias P v right → left.proposedMemory.id = right.proposedMemory.id) ∧
      WellFormed P middle ∧
      Readable P middle material second.operation.workspaceId second.operation.recordId := by
    intro decision middle ran
    obtain ⟨applied, update, fresh, cursors, cache, rfl⟩ := applyAdmittedOperationAt_fresh admits ran
    have after := applyFresh_deliveryInvariant before admits fresh
    refine ⟨?_, ?_, ?_, ?_⟩
    · simp only [Admits.frame]
      exact admits_after before admits fresh same readable secondAdmits
    · rw [Applicable.frame]
      exact applicable_after before admits fresh same secondAdmits.isOf
    · refine Quiet.wellFormed ?_ after.wellFormed
      exact .of_same rfl
    · rw [same.workspace, same.record]
      have readableAfter := applyFresh_readable before admits fresh readable
      exact readableAfter
  constructor
  · rintro ⟨final, decision, middle, secondDecision, ran, admission, secondRan⟩
    obtain ⟨admissible, applicable, wellFormed, readableAfter⟩ := later decision middle ran
    obtain ⟨trusted, scope, key, admitsAfter⟩ := admitOperation_admitted.mp admission
    have fits := admissible.mp ⟨trusted, scope, key, admitsAfter⟩
    obtain ⟨secondApplicable, otherNonce, sameMemory⟩ := applicable.mp
      ((applyAdmittedOperationAt_ok wellFormed admitsAfter (positions _) vectors readableAfter).mp
        ⟨_, secondRan⟩)
    exact ⟨applies.mp ⟨_, ran⟩, secondApplicable, fits, otherNonce, sameMemory⟩
  · rintro ⟨firstApplicable, secondApplicable, fits⟩
    obtain ⟨⟨decision, middle⟩, ran⟩ := applies.mpr firstApplicable
    obtain ⟨admissible, applicable, wellFormed, readableAfter⟩ := later decision middle ran
    obtain ⟨trusted, scope, key, admitsAfter⟩ := admissible.mpr fits.toAdmissibleAfter
    obtain ⟨⟨secondDecision, final⟩, secondRan⟩ :=
      (applyAdmittedOperationAt_ok wellFormed admitsAfter (positions _) vectors readableAfter).mpr
        (applicable.mpr ⟨secondApplicable, fits.otherNonce, fits.sameMemory⟩)
    exact ⟨final, decision, middle, secondDecision, ran,
      admitOperation_admitted.mpr ⟨trusted, scope, key, admitsAfter⟩, secondRan⟩

omit secondAdmits in
/-- Delivered in order, the two operations are what the vault holds more than before, and both
are heads of their record. -/
theorem DeliversInOrder.outcome
    (concurrent : compareOperations second.operation first.operation = .concurrent)
    (delivers : DeliversInOrder P v material provider resolver receivedAt appliedAtMs first second
      secondBytes final) :
    DeliveryInvariant P final ∧
      (∀ operation, final.Holds operation ↔
        v.Holds operation ∨ operation = first.operation ∨ operation = second.operation) ∧
      first.operation ∈ final.headOperations first.operation.workspaceId first.operation.recordId ∧
      second.operation ∈
        final.headOperations first.operation.workspaceId first.operation.recordId := by
  obtain ⟨decision, middle, secondDecision, ran, admission, secondRan⟩ := delivers
  obtain ⟨applied, update, fresh, cursors, cache, rfl⟩ := applyAdmittedOperationAt_fresh admits ran
  have after := applyFresh_deliveryInvariant before admits fresh
  have middleInvariant : DeliveryInvariant P
      { applied with cursors := cursors, embeddingCache := cache } := by
    refine Quiet.deliveryInvariant ?_ after
    exact .of_same rfl
  obtain ⟨trusted, scope, key, admitsAfter⟩ := admitOperation_admitted.mp admission
  obtain ⟨appliedSecond, secondUpdate, secondFresh, lastCursors, lastCache, rfl⟩ :=
    applyAdmittedOperationAt_fresh admitsAfter secondRan
  have last := applyFresh_deliveryInvariant middleInvariant admitsAfter secondFresh
  have firstRecorded := applyFresh_recorded admits.validateAdmitted fresh
  have secondRecorded := applyFresh_recorded admitsAfter.validateAdmitted secondFresh
  have heads := applyFresh_joinedHeads middleInvariant admitsAfter secondFresh
  rw [same.workspace, same.record] at heads
  refine ⟨?_, ?_, ?_, ?_⟩
  · refine Quiet.deliveryInvariant ?_ last
    exact .of_same rfl
  · intro operation
    have held : Vault.Holds { applied with cursors := cursors, embeddingCache := cache } operation ↔
        v.Holds operation ∨ operation = first.operation := firstRecorded.holds
    rw [← or_assoc, ← held]
    exact secondRecorded.holds
  · have member : first.operation ∈ appliedSecond.headOperations first.operation.workspaceId
        first.operation.recordId := by
      rw [heads, mem_joinedHeads]
      refine Or.inl ⟨?_, by rw [concurrent]; simp⟩
      have joined := applyFresh_joinedHeads before admits fresh
      have isHead : first.operation ∈ applied.headOperations first.operation.workspaceId
          first.operation.recordId := by
        rw [joined]
        exact mem_joinedHeads.mpr (Or.inr rfl)
      exact isHead
    exact member
  · have member : second.operation ∈ appliedSecond.headOperations first.operation.workspaceId
        first.operation.recordId := by
      rw [heads]
      exact mem_joinedHeads.mpr (Or.inr rfl)
    exact member

end Order

theorem compareOperations_concurrent_symm
    (concurrent : compareOperations left right = .concurrent) :
    compareOperations right left = .concurrent ∧ left.deviceId ≠ right.deviceId := by
  unfold compareOperations at concurrent ⊢
  split at concurrent
  · split at concurrent
    · cases concurrent
    · split at concurrent <;> cases concurrent
  · rename_i different
    rw [if_neg (Ne.symm different)]
    refine ⟨?_, different⟩
    cases knowsRight : decide (right.deviceSequence ≤ knownSequence left right.deviceId) <;>
      cases knowsLeft : decide (left.deviceSequence ≤ knownSequence right left.deviceId) <;>
        simp [knowsRight, knowsLeft] at concurrent ⊢

private theorem two_le_length_of_mem {items : List α} (left : first ∈ items)
    (right : second ∈ items) (distinct : first ≠ second) : 2 ≤ items.length := by
  match items, left, right with
  | [item], left, right =>
    rw [List.mem_singleton] at left right
    exact absurd (left.trans right.symm) distinct
  | _ :: _ :: _, _, _ => simp

/-! ## Either order -/

/-- Two concurrent operations that go through in either order. -/
structure Compatible (P : Primitives) (v : Vault) (left right : AdmittedOperation) : Prop where
  leftApplicable : Applicable P v left
  rightApplicable : Applicable P v right
  leftAfter : FitsAfter P v right left
  rightAfter : FitsAfter P v left right

/-- Two concurrent operations on one record, each admitted by the vault, go through in both
orders if and only if they are compatible; both orders then end with the same heads, the two
operations among them, and with a conflict on the record. -/
theorem concurrent_operations_admitted_in_either_order_iff (delivered : Delivered P v)
    (leftAdmission : admitOperation P v leftBytes material = .ok (.admitted left))
    (rightAdmission : admitOperation P v rightBytes material = .ok (.admitted right))
    (sameAccount : right.operation.accountId = left.operation.accountId)
    (sameWorkspace : right.operation.workspaceId = left.operation.workspaceId)
    (sameRecord : right.operation.recordId = left.operation.recordId)
    (concurrent : compareOperations left.operation right.operation = .concurrent)
    (positions : ∀ id, validateReceivedAt (receivedAt id) = .ok ()) (vectors : Vectorizes resolver)
    (readable : Readable P v material left.operation.workspaceId left.operation.recordId)
    (provider : SyncProvider) (appliedAtMs : OperationId → Nat) :
    (∃ leftFirst rightFirst,
      DeliversInOrder P v material provider resolver receivedAt appliedAtMs left right rightBytes
        leftFirst ∧
      DeliversInOrder P v material provider resolver receivedAt appliedAtMs right left leftBytes
        rightFirst ∧
      (∀ record, leftFirst.headOperations left.operation.workspaceId record =
        rightFirst.headOperations left.operation.workspaceId record) ∧
      left.operation ∈
        leftFirst.headOperations left.operation.workspaceId left.operation.recordId ∧
      right.operation ∈
        leftFirst.headOperations left.operation.workspaceId left.operation.recordId ∧
      (leftFirst.conflicts.find? left.operation.recordId).isSome) ↔ Compatible P v left right := by
  have before := delivered.invariant
  obtain ⟨_, _, _, leftAdmits⟩ := admitOperation_admitted.mp leftAdmission
  obtain ⟨_, _, _, rightAdmits⟩ := admitOperation_admitted.mp rightAdmission
  obtain ⟨concurrentToo, otherDevice⟩ := compareOperations_concurrent_symm concurrent
  have rightAfterLeft : SameRecord left right :=
    ⟨sameAccount, sameWorkspace, sameRecord, otherDevice.symm⟩
  have leftAfterRight : SameRecord right left :=
    ⟨sameAccount.symm, sameWorkspace.symm, sameRecord.symm, otherDevice⟩
  have leftOrder : (∃ final, DeliversInOrder P v material provider resolver receivedAt appliedAtMs
      left right rightBytes final) ↔
        Applicable P v left ∧ Applicable P v right ∧ FitsAfter P v left right :=
    deliversInOrder_iff before leftAdmits rightAdmits rightAfterLeft positions vectors readable
  have rightOrder : (∃ final, DeliversInOrder P v material provider resolver receivedAt appliedAtMs
      right left leftBytes final) ↔
        Applicable P v right ∧ Applicable P v left ∧ FitsAfter P v right left := by
    apply deliversInOrder_iff before rightAdmits leftAdmits leftAfterRight positions vectors
    rw [sameWorkspace, sameRecord]
    exact readable
  constructor
  · rintro ⟨leftFirst, rightFirst, leftDelivers, rightDelivers, _⟩
    obtain ⟨leftApplicable, rightApplicable, rightAfter⟩ := leftOrder.mp ⟨_, leftDelivers⟩
    obtain ⟨_, _, leftAfter⟩ := rightOrder.mp ⟨_, rightDelivers⟩
    exact ⟨leftApplicable, rightApplicable, leftAfter, rightAfter⟩
  · intro compatible
    obtain ⟨leftFirst, leftDelivers⟩ := leftOrder.mpr
      ⟨compatible.leftApplicable, compatible.rightApplicable, compatible.rightAfter⟩
    obtain ⟨rightFirst, rightDelivers⟩ := rightOrder.mpr
      ⟨compatible.rightApplicable, compatible.leftApplicable, compatible.leftAfter⟩
    obtain ⟨leftInvariant, leftHolds, leftHead, rightHead⟩ :=
      leftDelivers.outcome before leftAdmits rightAfterLeft concurrentToo
    obtain ⟨rightInvariant, rightHolds, _, _⟩ :=
      rightDelivers.outcome before rightAdmits leftAfterRight concurrent
    have same : SameOperations leftFirst rightFirst left.operation.workspaceId := by
      intro operation _
      rw [leftHolds, rightHolds, or_comm (a := operation = right.operation)]
    refine ⟨leftFirst, rightFirst, leftDelivers, rightDelivers,
      agree_headOperations leftInvariant.causal rightInvariant.causal same, leftHead, rightHead, ?_⟩
    rw [leftInvariant.causal.heads.conflict left.operation ((leftHolds _).mpr (Or.inr (Or.inl rfl))),
      conflictOf_isSome]
    have distinct : left.operation ≠ right.operation := by
      intro equal
      exact otherDevice (congrArg SyncOperationV1.deviceId equal)
    exact two_le_length_of_mem leftHead rightHead distinct

namespace Sample

def receivedUpdate (project : Fin 256) : AdmittedOperation :=
  received (editWorld project) (moved project) (update project)

def receivedDeletion (project : Fin 256) : AdmittedOperation :=
  received (editWorld project) deleted (deletion project)

/-- The reader after the update. -/
def updatedReader (project : Fin 256) : Vault :=
  vaultOr Vault.empty (applyAdmittedOperationAt (editWorld project) (reader project)
    (receivedUpdate project) (material [5, 6]) .memory "1" oneEmbedding 0)

theorem apply_created (project : Fin 256) (known : project = 20 ∨ project = 21) :
    applyAdmittedOperationInner (editWorld project) Vault.empty
      (received (editWorld project) firstTask (created project)) (material [5, 6]) "1"
      (some .memory) oneEmbedding 0 = .ok (.replaceHeads [], reader project) := by
  rcases known with rfl | rfl <;> rfl

theorem admit_update (project : Fin 256) (known : project = 20 ∨ project = 21) :
    admitOperation (editWorld project) (reader project)
      ((editWorld project).writeOperation (update project)) (material [5, 6]) =
        .ok (.admitted (receivedUpdate project)) := by
  rcases known with rfl | rfl <;> rfl

theorem admit_deletion (project : Fin 256) (known : project = 20 ∨ project = 21) :
    admitOperation (editWorld project) (reader project)
      ((editWorld project).writeOperation (deletion project)) (material [5, 6]) =
        .ok (.admitted (receivedDeletion project)) := by
  rcases known with rfl | rfl <;> rfl

theorem reader_heads (project : Fin 256) (known : project = 20 ∨ project = 21) :
    (reader project).headRows workspace (id 10) =
      [(id 30, headRow (created project) (operationDigest (editWorld project) (created project)),
        created project)] := by
  rcases known with rfl | rfl <;> rfl

theorem reader_delivered (project : Fin 256) (known : project = 20 ∨ project = 21) :
    Delivered (editWorld project) (reader project) :=
  ⟨Vault.empty, ⟨⟨rfl, rfl⟩, rfl, rfl, rfl⟩,
    .single (.applied (admit_created project known) (apply_created project known))⟩

theorem reader_readable (project : Fin 256) (known : project = 20 ∨ project = 21) :
    Readable (editWorld project) (reader project) (material [5, 6]) workspace (id 10) := by
  simp only [Readable, Vault.headOperations, reader_heads project known, List.map_cons,
    List.map_nil, List.mem_singleton, forall_eq]
  refine ⟨firstTask, ?_⟩
  rcases known with rfl | rfl <;> rfl

/-- An update and a delete within one project are compatible. -/
theorem edits_compatible : Compatible (editWorld 20) (reader 20) (receivedUpdate 20)
    (receivedDeletion 20) where
  leftApplicable := ⟨rfl, fun _ impossible => nomatch impossible⟩
  rightApplicable := ⟨rfl, fun _ impossible => nomatch impossible⟩
  leftAfter :=
    { otherId := by decide
      sameKind := rfl
      inScope := fun impossible => nomatch impossible
      otherNonce := by decide
      sameMemory := fun _ _ impossible => nomatch impossible }
  rightAfter :=
    { otherId := by decide
      sameKind := rfl
      inScope := by
        intro _ first isFirst
        obtain rfl : update 20 = first := Option.some.inj isFirst
        rfl
      otherNonce := by decide
      sameMemory := fun _ _ impossible => nomatch impossible }

end Sample

open Sample (editWorld reader material oneEmbedding receivedUpdate receivedDeletion deletion
  update reader_delivered admit_update admit_deletion oneEmbedding_vectorizes reader_readable
  edits_compatible workspace updatedReader)

theorem concurrent_update_and_delete_conflict :
    Delivered (editWorld 20) (reader 20) ∧
      ∃ updateFirst deletionFirst,
        DeliversInOrder (editWorld 20) (reader 20) (material [5, 6]) .memory
          oneEmbedding (fun _ => "1") (fun _ => 0) (receivedUpdate 20)
          (receivedDeletion 20)
          ((editWorld 20).writeOperation (deletion 20)) updateFirst ∧
        DeliversInOrder (editWorld 20) (reader 20) (material [5, 6]) .memory
          oneEmbedding (fun _ => "1") (fun _ => 0) (receivedDeletion 20)
          (receivedUpdate 20)
          ((editWorld 20).writeOperation (update 20)) deletionFirst := by
  have delivered := reader_delivered 20 (Or.inl rfl)
  have positions : ∀ _ : OperationId, validateReceivedAt "1" = .ok () := fun _ => rfl
  obtain ⟨updateFirst, deletionFirst, updated, deleted, _⟩ :=
    (concurrent_operations_admitted_in_either_order_iff delivered
      (admit_update 20 (Or.inl rfl)) (admit_deletion 20 (Or.inl rfl)) rfl rfl rfl rfl
      positions oneEmbedding_vectorizes (reader_readable 20 (Or.inl rfl)) .memory
      (fun _ => 0)).mpr edits_compatible
  exact ⟨delivered, updateFirst, deletionFirst, updated, deleted⟩

/-- An update that moves a record to another project shuts out a concurrent delete, although
each of the two is admitted alone. -/
theorem concurrent_move_shuts_out_delete :
    Delivered (editWorld 21) (reader 21) ∧
      admitOperation (editWorld 21) (reader 21)
        ((editWorld 21).writeOperation (update 21)) (material [5, 6]) =
          .ok (.admitted (receivedUpdate 21)) ∧
      admitOperation (editWorld 21) (reader 21)
        ((editWorld 21).writeOperation (deletion 21)) (material [5, 6]) =
          .ok (.admitted (receivedDeletion 21)) ∧
      compareOperations (update 21) (deletion 21) = .concurrent ∧
      Vectorizes oneEmbedding ∧
      Readable (editWorld 21) (reader 21) (material [5, 6]) workspace
        (Sample.id 10) ∧
      applyAdmittedOperationAt (editWorld 21) (reader 21) (receivedUpdate 21)
        (material [5, 6]) .memory "1" oneEmbedding 0 =
          .ok (.replaceHeads [Sample.id 30], updatedReader 21) ∧
      admitOperation (editWorld 21) (updatedReader 21)
        ((editWorld 21).writeOperation (deletion 21)) (material [5, 6]) =
          .error .invalidScope :=
  ⟨reader_delivered 21 (Or.inr rfl), admit_update 21 (Or.inr rfl),
    admit_deletion 21 (Or.inr rfl), rfl, oneEmbedding_vectorizes,
    reader_readable 21 (Or.inr rfl), rfl, rfl⟩

end ContextRelay
