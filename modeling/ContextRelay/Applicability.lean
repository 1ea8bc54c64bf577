import ContextRelay.Materialized

/-! Which admitted operations can be applied. Admission and the apply transaction check
different things: on a well-formed vault the transaction fails on an admitted operation
exactly when its nonce was used before in its key epoch, or when the alias of a received
candidate cannot be restored. -/
namespace ContextRelay

open Library

variable {P : Primitives} {v v' : Vault}

/-! ## Well-formed vaults -/

/-- What every run of transactions keeps: intact chains, rooted heads of owned records, rows
that keep to their owner's kind, and nonces of signed operations only. -/
structure WellFormed (P : Primitives) (v : Vault) : Prop where
  chains : ChainInvariant P v
  heads : HeadInvariant P v
  kinds : OwnedKinds v
  nonces : ∀ key id, v.nonces.find? key = some id → (v.operationMeta.find? id).isSome

/-- A vault in which nothing has been signed or claimed yet, whatever records it holds. -/
structure Unclaimed (v : Vault) : Prop extends Unsigned v where
  recordHeads : v.recordHeads = .empty
  recordOwners : v.recordOwners = .empty
  nonces : v.nonces = .empty

theorem Unclaimed.wellFormed (unclaimed : Unclaimed v) : WellFormed P v := by
  have holdsNothing : ∀ operation, ¬ v.Holds operation := by
    rintro operation ⟨_, signed⟩
    simp [unclaimed.operationMeta] at signed
  refine ⟨unclaimed.chainInvariant, ⟨?_, ?_, ?_⟩, ?_, ?_⟩
  · intro workspace record id row isHead
    simp [unclaimed.recordHeads] at isHead
  · exact fun operation held => absurd held (holdsNothing operation)
  · exact fun operation held => absurd held (holdsNothing operation)
  · intro record owner owned
    simp [unclaimed.recordOwners] at owned
  · intro key id used
    simp [unclaimed.nonces] at used

theorem Recorded.noncesSigned (recorded : Recorded P v v' operation row)
    (before : ∀ key id, v.nonces.find? key = some id → (v.operationMeta.find? id).isSome) :
    ∀ key id, v'.nonces.find? key = some id → (v'.operationMeta.find? id).isSome := by
  intro key id used
  rw [recorded.nonces, Table.find?_upsert] at used
  rw [recorded.operationMeta, Table.find?_upsert]
  split at used
  · rw [if_pos (Option.some.inj used)]
    rfl
  · split
    · rfl
    · exact before key id used

theorem WellFormed.enter (before : WellFormed P v) (entered : Entered P v v' operation)
    (kinds : OwnedKinds v') : WellFormed P v' := by
  obtain ⟨row, recorded⟩ := entered.recorded
  exact ⟨recorded.preserves before.chains, entered.headInvariant before.heads, kinds,
    recorded.noncesSigned before.nonces⟩

theorem Quiet.wellFormed (quiet : Quiet v v') (before : WellFormed P v) : WellFormed P v' where
  chains := quiet.signed.preserves before.chains
  heads := quiet.headInvariant before.heads
  kinds := quiet.kinds before.kinds
  nonces := by
    rw [quiet.nonces, quiet.signed.operationMeta]
    exact before.nonces

theorem validateAdmitted_isOf (valid : validateAdmitted P admitted = .ok ()) :
    IsOf admitted.mutation admitted.operation := by
  obtain ⟨_, _, _, sameRecord, sameKind, _⟩ := validateAdmitted_ok valid
  exact ⟨sameRecord, sameKind⟩

theorem applyFresh_wellFormed (before : WellFormed P v)
    (valid : validateAdmitted P admitted = .ok ())
    (faithful : ∀ operation mutation, rehydrate operation = .ok mutation → IsOf mutation operation)
    (ran : applyFresh P v admitted material rehydrate resolver appliedAtMs receivedAt =
      .ok (decision, update, v')) : WellFormed P v' := by
  have entered := applyFresh_entered valid before.heads.rooted ran
  apply before.enter entered
  rcases applyFresh_materializes valid before.heads.rooted ran with ⟨_, sameTables, _⟩ |
    ⟨_, first, mutation, embedding, change, materializes, source, _, _⟩
  · exact before.kinds.enter_same entered sameTables
  · apply before.kinds.enter_materialized entered before.heads materializes
    rcases source with ⟨rfl, rfl⟩ | rehydrated
    · exact validateAdmitted_isOf valid
    · exact faithful first mutation rehydrated

theorem persistFresh_wellFormed (before : WellFormed P v)
    (valid : validateCommit P mutation built = .ok ())
    (ran : persistFresh P v mutation built embedding committedAtMs queuedAt materialize =
      .ok (disposition, change, v')) : WellFormed P v' := by
  have entered := persistFresh_entered valid before.heads.rooted ran
  apply before.enter entered
  obtain ⟨_, _, _, sameRecord, sameKind, _⟩ := validateCommit_ok valid
  cases materialize with
  | true =>
    exact before.kinds.enter_materialized entered before.heads
      (persistFresh_materializes valid before.heads.rooted ran) ⟨sameRecord, sameKind⟩
  | false => exact before.kinds.enter_same entered (persistFresh_checks ran).2.2

theorem Write.wellFormed (write : Write P Quiet v v') (before : WellFormed P v) :
    WellFormed P v' := by
  cases write with
  | applied valid faithful ran => exact applyFresh_wellFormed before valid faithful ran
  | persisted valid ran => exact persistFresh_wellFormed before valid ran
  | quiet quiet => exact quiet.wellFormed before
  | outside quiet => exact quiet.wellFormed before

/-- A vault reached from an unclaimed one by transactions in any order, with other writes
between them that add no operation and respect the kinds of owned records. -/
def Managed (P : Primitives) (v : Vault) : Prop :=
  ∃ first, Unclaimed first ∧ Relation.ReflTransGen (VaultStep P Quiet) first v

theorem Managed.wellFormed (managed : Managed P v) : WellFormed P v := by
  obtain ⟨first, unclaimed, steps⟩ := managed
  exact VaultStep.run_invariant (WellFormed P) (fun _ _ write => write.wellFormed) steps
    unclaimed.wellFormed

/-! ## Claiming the record -/

/-- A received candidate needs an alias when its id derives from its memory's id and that id
does not lead to it yet. -/
def NeedsAlias (P : Primitives) (v : Vault) (candidate : MemoryCandidate) : Prop :=
  derivedRecordUuid P candidate.proposedMemory.id.uuid legacyCandidateDomain =
      some candidate.id.uuid ∧
    resolveCandidateId v candidate.proposedMemory.id.retype ≠ candidate.id.retype

/-- The alias of a candidate can be recorded: no alias names either id, and the old id is free
or a verified memory of the scope. -/
structure AliasFree (v : Vault) (candidate : MemoryCandidate) (account : AccountId)
    (workspace : WorkspaceId) : Prop where
  unnamed : ∀ row ∈ v.candidateAliases.rows,
    row.1 ≠ candidate.proposedMemory.id.retype ∧ row.1 ≠ candidate.id.retype ∧
      row.2 ≠ candidate.proposedMemory.id.retype ∧ row.2 ≠ candidate.id.retype
  onlyMemory : v.OnlyKind candidate.proposedMemory.id.retype .memory
  owner : ∀ owner, v.recordOwners.find? candidate.proposedMemory.id.retype = some owner →
    owner = ⟨account, workspace, .memory, .verified⟩
  unowned : v.recordOwners.find? candidate.proposedMemory.id.retype = none →
    materializedRecordKinds v candidate.proposedMemory.id.retype = []

/-- What restoring the alias of a received candidate asks of the vault. -/
structure AliasRestorable (P : Primitives) (v : Vault) (candidate : MemoryCandidate)
    (account : AccountId) (workspace : WorkspaceId) : Prop where
  derivable : ∃ derived,
    derivedRecordUuid P candidate.proposedMemory.id.uuid legacyCandidateDomain = some derived
  free : NeedsAlias P v candidate → AliasFree v candidate account workspace

/-- Restoring leaves the aliases or adds the one that is needed. -/
theorem restoreReceivedCandidateAlias_ok :
    restoreReceivedCandidateAlias P v candidate account workspace = .ok v' ↔
      AliasRestorable P v candidate account workspace ∧
        (NeedsAlias P v candidate ∧ v' = { v with
            candidateAliases := v.candidateAliases.upsert candidate.proposedMemory.id.retype
              candidate.id.retype } ∨
          ¬ NeedsAlias P v candidate ∧ v' = v) := by
  unfold restoreReceivedCandidateAlias storedSyncRecordOwner
  simp only [bind_eq_ok, present_eq_ok]
  constructor
  · rintro ⟨derived, isDerived, ran⟩
    split at ran
    · rename_i settled
      simp only [pure_eq_ok, Except.ok.injEq] at ran
      have unneeded : ¬ NeedsAlias P v candidate := by
        rintro ⟨own, missing⟩
        rw [isDerived, Option.some.injEq] at own
        rcases settled with other | found
        · exact other own.symm
        · exact missing found
      exact ⟨⟨⟨derived, isDerived⟩, fun needed => absurd needed unneeded⟩,
        Or.inr ⟨unneeded, ran.symm⟩⟩
    · rename_i unsettled
      simp only [bind_eq_ok, require_eq_ok, exists_unit, pure_eq_ok, Except.ok.injEq] at ran
      obtain ⟨⟨unused, kinds, owner, free⟩, rfl⟩ := ran
      obtain ⟨own, missing⟩ := not_or.mp unsettled
      have needed : NeedsAlias P v candidate := ⟨by rw [isDerived, not_not.mp own], missing⟩
      refine ⟨⟨⟨derived, isDerived⟩, fun _ => ⟨?_, kinds, ?_, ?_⟩⟩, Or.inl ⟨needed, rfl⟩⟩
      · simpa [not_or] using unused
      · intro found isOwner
        simpa [isOwner] using owner
      · intro unowned
        simpa [unowned] using free
  · rintro ⟨⟨⟨derived, isDerived⟩, free⟩, outcome⟩
    refine ⟨derived, isDerived, ?_⟩
    rcases outcome with ⟨needed, rfl⟩ | ⟨unneeded, rfl⟩
    · obtain ⟨own, missing⟩ := needed
      have sameId : candidate.id.uuid = derived := Option.some.inj (own.symm.trans isDerived)
      obtain ⟨unused, kinds, owner, empty⟩ := free ⟨own, missing⟩
      rw [if_neg (by simp [sameId, missing])]
      simp only [bind_eq_ok, require_eq_ok, exists_unit]
      refine ⟨⟨?_, kinds, ?_, ?_⟩, rfl⟩
      · simpa [not_or] using unused
      · cases found : v.recordOwners.find? candidate.proposedMemory.id.retype with
        | none => rfl
        | some stored => simpa using owner stored found
      · cases found : v.recordOwners.find? candidate.proposedMemory.id.retype with
        | none => exact Or.inr (by simp [empty found])
        | some stored => exact Or.inl rfl
    · have settled : candidate.id.uuid ≠ derived ∨
          resolveCandidateId v' candidate.proposedMemory.id.retype = candidate.id.retype := by
        by_contra unsettled
        obtain ⟨own, missing⟩ := not_or.mp unsettled
        exact unneeded ⟨by rw [isDerived, not_not.mp own], missing⟩
      rw [if_pos settled]
      rfl

theorem restoreReceivedCandidateAlias_succeeds :
    (∃ v', restoreReceivedCandidateAlias P v candidate account workspace = .ok v') ↔
      AliasRestorable P v candidate account workspace := by
  simp only [restoreReceivedCandidateAlias_ok]
  constructor
  · rintro ⟨_, restorable, _⟩
    exact restorable
  · intro restorable
    by_cases needed : NeedsAlias P v candidate
    · exact ⟨_, restorable, Or.inl ⟨needed, rfl⟩⟩
    · exact ⟨_, restorable, Or.inr ⟨needed, rfl⟩⟩

theorem derivedRecordUuid_ne (derived : derivedRecordUuid P source domain = some result) :
    result ≠ source := by
  unfold derivedRecordUuid at derived
  dsimp only at derived
  split at derived
  · cases derived
  · rename_i different
    obtain rfl := Option.some.inj derived
    exact different

/-- A candidate that needs an alias does not have its memory's id. -/
theorem NeedsAlias.ids_ne {candidate : MemoryCandidate} (needed : NeedsAlias P v candidate) :
    (candidate.id.retype : RecordId) ≠ candidate.proposedMemory.id.retype := by
  intro same
  exact derivedRecordUuid_ne needed.1 (congrArg Id.uuid same)

/-- Whether an alias can be restored depends on the aliases and on the rows and the owner of the
memory's id. -/
theorem AliasRestorable.congr {candidate : MemoryCandidate}
    (aliases : v'.candidateAliases = v.candidateAliases)
    (rows : ∀ other, (candidate.id.retype : RecordId) ≠ other → SameRows v v' other)
    (owners : ∀ other, candidate.id.retype ≠ other →
      v'.recordOwners.find? other = v.recordOwners.find? other) :
    AliasRestorable P v' candidate account workspace ↔
      AliasRestorable P v candidate account workspace := by
  have needs : NeedsAlias P v' candidate ↔ NeedsAlias P v candidate := by
    simp only [NeedsAlias, resolveCandidateId, aliases]
  have free : NeedsAlias P v candidate →
      (AliasFree v' candidate account workspace ↔ AliasFree v candidate account workspace) := by
    intro needed
    have sameRows := rows _ needed.ids_ne
    have sameOwner := owners _ needed.ids_ne
    constructor
    · rintro ⟨unnamed, onlyMemory, owner, unowned⟩
      rw [aliases] at unnamed
      rw [sameOwner] at owner unowned
      rw [sameRows.kinds] at unowned
      exact ⟨unnamed, sameRows.onlyKind.mp onlyMemory, owner, unowned⟩
    · rintro ⟨unnamed, onlyMemory, owner, unowned⟩
      rw [← aliases] at unnamed
      rw [← sameOwner] at owner unowned
      rw [← sameRows.kinds] at unowned
      exact ⟨unnamed, sameRows.onlyKind.mpr onlyMemory, owner, unowned⟩
  constructor
  · rintro ⟨derivable, restorable⟩
    exact ⟨derivable, fun needed => (free needed).mp (restorable (needs.mpr needed))⟩
  · rintro ⟨derivable, restorable⟩
    exact ⟨derivable, fun needed => (free (needs.mp needed)).mpr (restorable (needs.mp needed))⟩

/-- On a record that belongs to the scope, the claim always succeeds. -/
theorem ensureSyncRecordOwner_of_belongs
    (belongs : recordBelongsToSyncScope P v material account workspace record kind = .ok true) :
    ∃ claimed, ensureSyncRecordOwner P v (some material) account workspace record kind =
      .ok claimed := by
  unfold recordBelongsToSyncScope at belongs
  split at belongs
  · cases belongs
  · rename_i allowed
    replace allowed : candidateAliasAllowsScope v account workspace record kind = true := by
      simpa using allowed
    cases found : storedSyncRecordOwner v record with
    | some owner =>
      simp only [found] at belongs
      simp only [ensureSyncRecordOwner, found, bind_eq_ok, require_eq_ok, exists_unit]
      split at belongs
      · cases belongs
      · rename_i agreed
        split at belongs
        · rename_i verified
          exact ⟨v, allowed, not_not.mp agreed, by rw [if_pos verified]; rfl⟩
        · rename_i legacy
          refine ⟨{ v with
            recordOwners := v.recordOwners.upsert record { owner with state := .verified } },
            allowed, not_not.mp agreed, ?_⟩
          rw [if_neg legacy]
          simp only [bind_eq_ok, present_eq_ok, require_eq_ok, exists_unit]
          exact ⟨material, rfl, true, belongs, rfl, rfl⟩
    | none =>
      simp only [found] at belongs
      simp only [ensureSyncRecordOwner, found, bind_eq_ok, require_eq_ok, exists_unit,
        insertOrVerifySyncRecordOwner]
      exact ⟨_, allowed, Except.ok.inj belongs, rfl⟩

/-- On a record that belongs to the scope, the claim fails only for want of the alias. -/
theorem claimRecord_ok
    (belongs : recordBelongsToSyncScope P v material admitted.operation.accountId
      admitted.operation.workspaceId admitted.operation.recordId admitted.operation.recordKind =
        .ok true)
    (isOf : IsOf admitted.mutation admitted.operation) :
    (∃ claimed, claimRecord P v admitted (some material) = .ok claimed) ↔
      ∀ candidate, admitted.mutation = .upsertMemoryCandidate candidate →
        AliasRestorable P v candidate admitted.operation.accountId
          admitted.operation.workspaceId := by
  obtain ⟨ensured, ensure⟩ := ensureSyncRecordOwner_of_belongs belongs
  obtain ⟨owners, rfl, claim⟩ := ensureSyncRecordOwner_effect ensure
  simp only [claimRecord, ensure, ok_bind]
  have sameRecord := isOf.1
  cases mutationIs : admitted.mutation with
  | upsertMemoryCandidate candidate =>
    rw [mutationIs] at sameRecord
    simp only [restoreReceivedCandidateAlias_succeeds]
    have unchanged : AliasRestorable P { v with recordOwners := owners } candidate
        admitted.operation.accountId admitted.operation.workspaceId ↔
          AliasRestorable P v candidate admitted.operation.accountId
            admitted.operation.workspaceId := by
      refine AliasRestorable.congr rfl (fun _ _ => ⟨rfl, rfl, rfl, rfl, rfl, rfl⟩) ?_
      intro other different
      exact claim.others other (by rw [sameRecord]; exact different)
    rw [unchanged]
    constructor
    · rintro restorable _ ⟨rfl⟩
      exact restorable
    · intro restorable
      exact restorable candidate rfl
  | _ => simp

theorem claimRecord_unowned (claim : claimRecord P v admitted material = .ok claimed)
    (unowned : v.recordOwners.find? admitted.operation.recordId = none) :
    materializedRecordKinds v admitted.operation.recordId = [] := by
  simp only [claimRecord, bind_eq_ok] at claim
  obtain ⟨_, ensured, _⟩ := claim
  exact ensureSyncRecordOwner_unowned ensured unowned

/-- A claimed candidate record still resolves to itself. -/
theorem claimRecord_resolves (claim : claimRecord P v admitted material = .ok claimed)
    (isOf : IsOf admitted.mutation admitted.operation)
    (resolves : resolveCandidateId v admitted.operation.recordId = admitted.operation.recordId) :
    resolveCandidateId claimed admitted.operation.recordId = admitted.operation.recordId := by
  simp only [claimRecord, bind_eq_ok] at claim
  obtain ⟨_, ensure, claim⟩ := claim
  obtain ⟨owners, rfl, _⟩ := ensureSyncRecordOwner_effect ensure
  have sameRecord := isOf.1
  split at claim
  · rename_i candidate isCandidate
    rcases (restoreReceivedCandidateAlias_ok.mp claim).2 with ⟨needed, rfl⟩ | ⟨_, rfl⟩
    · rw [isCandidate] at sameRecord
      unfold resolveCandidateId at resolves ⊢
      dsimp only
      rw [Table.find?_upsert_of_ne _ _ (by rw [sameRecord]; exact needed.ids_ne.symm)]
      exact resolves
    · exact resolves
  · simp only [ok_iff] at claim
    subst claim
    exact resolves

/-! ## The stages of the transaction -/

/-- On intact chains every head loads. -/
theorem loadRecordHeads_succeeds (chains : ChainInvariant P v) (rooted : Rooted P v)
    (workspace : WorkspaceId) (record : RecordId) :
    ∃ heads, loadRecordHeads P v workspace record = .ok heads ∧
      ∀ head ∈ heads, head.operation ∈ v.headOperations workspace record ∧
        head.operationId = head.operation.operationId ∧
        head.recordKind = head.operation.recordKind ∧
        head.mutationKind = head.operation.mutationKind := by
  have loads : ∀ row ∈ v.headRows workspace record, storedRecordHead P row =
      .ok ⟨row.1, row.2.2.recordKind, row.2.2.mutationKind, operationDigest P row.2.2, row.2.2⟩ ∧
        row.2.2.operationId = row.1 := by
    rintro ⟨id, head, operation⟩ member
    obtain ⟨isHead, stored, storedAt, rfl⟩ := mem_headRows.mp member
    obtain ⟨operation, ⟨storedAgain, signed⟩, _, _, rfl, rfl⟩ := rooted _ _ _ _ isHead
    obtain rfl := Option.some.inj (storedAt.symm.trans storedAgain)
    obtain ⟨found, foundAt⟩ := Option.isSome_iff_exists.mp signed
    obtain ⟨row, rowAt, _, described⟩ := chains.described _ _ foundAt
    obtain rfl := Option.some.inj (storedAgain.symm.trans rowAt)
    refine ⟨?_, rfl⟩
    simp only [storedRecordHead, ok_iff]
    refine ⟨encodeSyncOperationV1_valid described.encodable, _, described.encodable, ?_, rfl⟩
    simp [headRow, operationDigest]
  refine ⟨_, collect_ok_map (fun row member => (loads row member).1), ?_⟩
  intro head member
  obtain ⟨row, rowMember, rfl⟩ := List.mem_map.mp member
  exact ⟨List.mem_map_of_mem rowMember, (loads row rowMember).2.symm, rfl, rfl⟩

theorem decideMerge_succeeds
    (isOf : IsOf incoming.mutation incoming.operation)
    (sameMutation : incoming.operation.mutationKind = incoming.mutation.mutationKind)
    (valid : ∀ head ∈ current, validateHead incoming head = .ok ()) :
    ∃ decision, decideMerge incoming current = .ok decision := by
  simp only [decideMerge, ok_iff, validateIncoming]
  have collected : collect (validateHead incoming) current = .ok (current.map fun _ => ()) :=
    collect_ok_map valid
  simp only [collected, Except.ok.injEq, exists_eq_left']
  split
  · exact ⟨_, ⟨isOf.1, isOf.2, sameMutation⟩, rfl⟩
  · split
    · exact ⟨_, ⟨isOf.1, isOf.2, sameMutation⟩, rfl⟩
    · split
      · exact ⟨_, ⟨isOf.1, isOf.2, sameMutation⟩, rfl⟩
      · exact ⟨_, ⟨isOf.1, isOf.2, sameMutation⟩, rfl⟩

theorem representative_succeeds
    (rehydrates : ∀ head ∈ current, ∃ mutation, rehydrate head.operation = .ok mutation) :
    ∃ chosen, representative admitted current rehydrate decision = .ok chosen := by
  cases decision with
  | noLiveChange => exact ⟨_, rfl⟩
  | replaceHeads remove => exact ⟨_, rfl⟩
  | resolveConflict remove => exact ⟨_, rfl⟩
  | addConflictHead remove =>
    simp only [representative, bind_eq_ok, present_eq_ok]
    obtain ⟨first, isFirst⟩ : ∃ first, (conflictHeads admitted current remove).head? = some first := by
      have nonempty : conflictHeads admitted current remove ≠ [] :=
        List.ne_nil_of_mem (a := admitted.operation) (by simp [conflictHeads])
      exact ⟨_, List.head?_eq_some_head nonempty⟩
    have member : first ∈ conflictHeads admitted current remove := List.mem_of_head? isFirst
    simp only [conflictHeads, List.mem_insertionSort, List.mem_append, List.mem_map,
      List.mem_filter, List.mem_singleton] at member
    rcases member with ⟨head, ⟨headMember, _⟩, rfl⟩ | rfl
    · obtain ⟨mutation, rehydrated⟩ := rehydrates head headMember
      by_cases own : head.operation.operationId = admitted.operation.operationId
      · exact ⟨_, _, isFirst, by rw [if_pos own]; rfl⟩
      · refine ⟨some (head.operation.operationId, mutation), _, isFirst, ?_⟩
        rw [if_neg own, rehydrated]
        rfl
    · exact ⟨_, _, isFirst, by rw [if_pos rfl]; rfl⟩

theorem materializeMutation_succeeds (only : v.OnlyKind mutation.recordId mutation.recordKind)
    (vector : isSearchable mutation = true → ∃ found, embedding = some found)
    (resolves : mutation.recordKind = .memoryCandidate →
      resolveCandidateId v mutation.recordId = mutation.recordId) :
    ∃ stored, materializeMutation v mutation embedding = .ok stored := by
  have sameKind : ∀ row, v.records.find? mutation.recordId = some row →
      row.kind = mutation.recordKind := by
    intro row found
    exact only row.kind (by simp [materializedRecordKinds, found])
  cases mutation with
  | upsertMemory record =>
    obtain ⟨found, rfl⟩ := vector rfl
    have keeps : (v.records.find? record.id.retype).all (fun existing =>
        existing.kind = (SearchableRecord.memory record).kind) = true := by
      rw [Option.all_eq_true]
      exact fun row stored => decide_eq_true (sameKind row stored)
    simp [materializeMutation, present, upsertSearchableRecord, require, keeps]
  | upsertInstruction record =>
    obtain ⟨found, rfl⟩ := vector rfl
    have keeps : (v.records.find? record.id).all (fun existing =>
        existing.kind = (SearchableRecord.instruction record).kind) = true := by
      rw [Option.all_eq_true]
      exact fun row stored => decide_eq_true (sameKind row stored)
    simp [materializeMutation, present, upsertSearchableRecord, require, keeps]
  | upsertMemoryCandidate record =>
    have itself : resolveCandidateId v record.id.retype = record.id.retype := resolves rfl
    simp [materializeMutation, require, itself]
  | _ => exact ⟨_, rfl⟩

/-- A searchable mutation the resolver has a vector for, or one that needs none. -/
theorem materializeRepresentative_succeeds
    (vectors : ∀ id mutation, isSearchable mutation = true →
      ∃ found, resolver id mutation = .ok (some found))
    (fits : ∀ id mutation, chosen = some (id, mutation) →
      v.OnlyKind mutation.recordId mutation.recordKind ∧
        (mutation.recordKind = .memoryCandidate →
          resolveCandidateId v mutation.recordId = mutation.recordId)) :
    ∃ stored, materializeRepresentative v resolver chosen = .ok stored := by
  cases chosen with
  | none => exact ⟨_, rfl⟩
  | some pair =>
    obtain ⟨id, mutation⟩ := pair
    obtain ⟨only, resolves⟩ := fits id mutation rfl
    obtain ⟨embedding, resolved, vector⟩ : ∃ embedding,
        resolveEmbedding resolver id mutation = .ok embedding ∧
          (isSearchable mutation = true → ∃ found, embedding = some found) := by
      unfold resolveEmbedding
      split
      · rename_i searchable
        obtain ⟨found, resolved⟩ := vectors id mutation searchable
        exact ⟨some found, by rw [resolved]; rfl, fun _ => ⟨found, rfl⟩⟩
      · rename_i plain
        exact ⟨none, rfl, fun searchable => absurd searchable plain⟩
    obtain ⟨stored, ran⟩ := materializeMutation_succeeds only vector resolves
    refine ⟨stored, ?_⟩
    simp only [materializeRepresentative, resolved, ok_bind]
    exact ran

theorem recordIncoming_succeeds
    (fresh : v.operations.find? admitted.operation.operationId = none)
    (unused : v.metaAt admitted.operation.workspaceId admitted.operation.deviceId
      admitted.operation.deviceSequence = none)
    (freshMeta : v.operationMeta.find? admitted.operation.operationId = none)
    (unnamed : ∀ row ∈ v.nonces.rows, row.2 ≠ admitted.operation.operationId)
    (freshNonce : v.nonces.find?
      (toLex (admitted.operation.keyEpoch, admitted.operation.nonce)) = none)
    (headless : v.recordHeads.find?
      (headKey admitted.operation admitted.operation.operationId) = none)
    (paired : ∀ remove, decision = .addConflictHead remove →
      2 ≤ (conflictHeads admitted current remove).length) :
    ∃ v', recordIncoming v admitted current decision appliedAtMs receivedAt = .ok v' := by
  have inserted : insertOperation v admitted.operation (incomingMeta admitted receivedAt) =
      .ok { v with
        operations := v.operations.upsert admitted.operation.operationId
          ⟨admitted.operation.recordId, admitted.operation⟩
        operationMeta := v.operationMeta.upsert admitted.operation.operationId
          (incomingMeta admitted receivedAt) } := by
    simp only [insertOperation, ok_iff, Table.insert?_eq_some]
    exact ⟨_, ⟨fresh, rfl⟩, unused, _, ⟨freshMeta, rfl⟩, rfl⟩
  have nonced : ∀ w : Vault, w.nonces = v.nonces → ∃ w', insertNonce w admitted.operation = .ok w' ∧
      w'.recordHeads = w.recordHeads := by
    intro w same
    refine ⟨{ w with
      nonces := w.nonces.upsert (toLex (admitted.operation.keyEpoch, admitted.operation.nonce))
        admitted.operation.operationId }, ?_, rfl⟩
    simp only [insertNonce, ok_iff, Table.insert?_eq_some, same]
    exact ⟨unnamed, _, ⟨freshNonce, rfl⟩, rfl⟩
  have headed : ∀ (w : Vault) remove, w.recordHeads = v.recordHeads →
      ∃ w', insertRecordHead (removeHeads w admitted.operation remove) admitted.operation
        admitted.canonicalHash = .ok w' := by
    intro w remove same
    simp only [insertRecordHead, ok_iff, Table.insert?_eq_some, removeHeads,
      Table.find?_foldl_erase, same, headless]
    exact ⟨_, _, ⟨by simp, rfl⟩, rfl⟩
  have written : ∀ w : Vault, w.recordHeads = v.recordHeads →
      ∃ w', writeHeads w admitted current decision = .ok w' := by
    intro w same
    cases decision with
    | noLiveChange => exact ⟨_, rfl⟩
    | replaceHeads remove =>
      obtain ⟨w', ran⟩ := headed w remove same
      exact ⟨_, by simp only [writeHeads, ran, ok_bind]; rfl⟩
    | resolveConflict remove =>
      obtain ⟨w', ran⟩ := headed w remove same
      exact ⟨_, by simp only [writeHeads, ran, ok_bind]; rfl⟩
    | addConflictHead remove =>
      obtain ⟨w', ran⟩ := headed w remove same
      obtain ⟨left, right, rest, shape⟩ : ∃ left right rest,
          conflictHeads admitted current remove = left :: right :: rest := by
        have two := paired remove rfl
        obtain ⟨left, others, shape⟩ := List.exists_cons_of_length_pos (Nat.lt_of_succ_lt two)
        rw [shape, List.length_cons] at two
        obtain ⟨right, rest, rfl⟩ := List.exists_cons_of_length_pos (Nat.lt_of_succ_lt_succ two)
        exact ⟨left, right, rest, shape⟩
      exact ⟨_, by simp only [writeHeads, ran, ok_bind, shape]; rfl⟩
  obtain ⟨nonce, noncedAs, sameHeads⟩ := nonced (noteCheckpointOperation { v with
      operations := v.operations.upsert admitted.operation.operationId
        ⟨admitted.operation.recordId, admitted.operation⟩
      operationMeta := v.operationMeta.upsert admitted.operation.operationId
        (incomingMeta admitted receivedAt) } admitted.operation.accountId
      admitted.operation.workspaceId appliedAtMs) rfl
  obtain ⟨final, ran⟩ := written (setDeviceHead nonce admitted.operation admitted.canonicalHash)
    sameHeads
  exact ⟨final, by simp only [recordIncoming, inserted, noncedAs, ok_bind]; exact ran⟩

/-! ## What admission established -/

section

variable (admits : Admits P v bytes material admitted trusted scope key)

include admits

theorem Admits.isOf :
    IsOf admitted.mutation admitted.operation := by
  obtain ⟨sameRecord, sameKind, _⟩ := openMutation_ok (verifyOperationEnvelope_opens admits.opened)
  exact ⟨sameRecord, sameKind⟩

theorem Admits.sameMutation :
    admitted.operation.mutationKind = admitted.mutation.mutationKind :=
  (openMutation_ok (verifyOperationEnvelope_opens admits.opened)).2.2.1

theorem Admits.validateAdmitted :
    validateAdmitted P admitted = .ok () := by
  obtain ⟨valid, encoded⟩ := decodeSyncOperationV1_ok admits.decoded
  obtain ⟨_, _, _, _, validMutation⟩ := openMutation_ok (verifyOperationEnvelope_opens admits.opened)
  simp only [ContextRelay.validateAdmitted, ok_iff]
  exact ⟨valid, validMutation, ⟨admits.isOf.1, admits.isOf.2, admits.sameMutation⟩, bytes, encoded,
    admits.canonicalBytes.symm, admits.canonicalHash.symm⟩

/-- What admission found next on the device's chain, the chain check finds too. -/
theorem Admits.chained :
    validateDeviceChain v admitted.operation = .ok () := by
  have successor := admits.successor
  have linked := admits.linked
  unfold validateDeviceChain
  cases head : v.deviceHead admitted.operation.workspaceId admitted.operation.deviceId with
  | none =>
    simp only [head, missingRange, ok_iff] at successor
    obtain ⟨_, _, rfl, _, next⟩ := successor
    rw [head] at linked
    simp only [require_eq_ok]
    refine ⟨?_, linked⟩
    by_contra other
    simp [other] at next
  | some stored =>
    simp only [head, missingRange, ok_iff] at successor
    obtain ⟨_, expected, isNext, _, next⟩ := successor
    rw [head] at linked
    simp only [ok_iff]
    refine ⟨expected, isNext, ?_, linked⟩
    by_contra other
    simp [other] at next

end

theorem recordBelongsToSyncScope_allowed
    (belongs : recordBelongsToSyncScope P v material account workspace record kind = .ok true) :
    candidateAliasAllowsScope v account workspace record kind = true := by
  cases allowed : candidateAliasAllowsScope v account workspace record kind with
  | true => rfl
  | false => simp [recordBelongsToSyncScope, allowed] at belongs

/-- A record that belongs to the scope as a candidate has no alias of its own. -/
theorem recordBelongsToSyncScope_resolves
    (belongs : recordBelongsToSyncScope P v material account workspace record .memoryCandidate =
      .ok true) : resolveCandidateId v record = record := by
  have allowed := recordBelongsToSyncScope_allowed belongs
  by_contra aliased
  simp [candidateAliasAllowsScope, aliased] at allowed

/-! ## Applicability -/

/-- The resolver has a vector for every memory and instruction. -/
def Vectorizes (resolver : RepresentativeEmbeddingResolver) : Prop :=
  ∀ id mutation, isSearchable mutation = true → ∃ found, resolver id mutation = .ok (some found)

/-- The trusted material opens every head of a record. -/
def Readable (P : Primitives) (v : Vault) (material : TrustedSyncMaterial) (workspace : WorkspaceId)
    (record : RecordId) : Prop :=
  ∀ head ∈ v.headOperations workspace record, ∃ mutation,
    rehydrateStoredMutation P material head = .ok mutation

/-- What the apply transaction asks for and admission does not check. -/
structure Applicable (P : Primitives) (v : Vault) (admitted : AdmittedOperation) : Prop where
  freshNonce : v.nonces.find? (toLex (admitted.operation.keyEpoch, admitted.operation.nonce)) = none
  restorable : ∀ candidate, admitted.mutation = .upsertMemoryCandidate candidate →
    AliasRestorable P v candidate admitted.operation.accountId admitted.operation.workspaceId

theorem Admits.not_held (admits : Admits P v bytes material admitted trusted scope key)
    (held : v.Holds operation) : operation.operationId ≠ admitted.operation.operationId := by
  intro same
  have stored := held.1
  rw [same, admits.fresh] at stored
  cases stored

/-- The heads of a claimed record load and pass the checks of the merge decision. -/
theorem WellFormed.heads_valid (wellFormed : WellFormed P v)
    (claims : Claimed v.recordOwners owners admitted.operation.accountId
      admitted.operation.workspaceId admitted.operation.recordId admitted.operation.recordKind) :
    ∃ current, loadRecordHeads P v admitted.operation.workspaceId admitted.operation.recordId =
        .ok current ∧
      ∀ head ∈ current, validateHead admitted head = .ok () ∧ head.operation ∈
        v.headOperations admitted.operation.workspaceId admitted.operation.recordId := by
  obtain ⟨current, loaded, described⟩ := loadRecordHeads_succeeds wellFormed.chains
    wellFormed.heads.rooted admitted.operation.workspaceId admitted.operation.recordId
  refine ⟨current, loaded, ?_⟩
  intro head member
  obtain ⟨isHead, ids, kinds, mutations⟩ := described head member
  obtain ⟨held, sameWorkspace, sameRecord, _⟩ :=
    wellFormed.heads.rooted.mem_headOperations.mp isHead
  have owner := wellFormed.heads.owned _ held
  rw [sameRecord] at owner
  simp only [validateHead, require_eq_ok]
  exact ⟨⟨ids, kinds, mutations, sameWorkspace, sameRecord,
    kinds.trans (claims.agreed _ owner).2.2⟩, isHead⟩

/-- The chosen representative carries a mutation of the admitted operation's record. -/
theorem Admits.representative_isOf (admits : Admits P v bytes material admitted trusted scope key)
    (rooted : Rooted P v)
    (loaded : loadRecordHeads P v admitted.operation.workspaceId admitted.operation.recordId =
      .ok current)
    (valid : ∀ head ∈ current, validateHead admitted head = .ok ())
    (decided : decideMerge admitted current = .ok decision)
    (represented : representative admitted current (rehydrateStoredMutation P material) decision =
      .ok (some (chosenId, mutation))) : IsOf mutation admitted.operation := by
  have fresh : ∀ head ∈ v.headOperations admitted.operation.workspaceId
      admitted.operation.recordId, head.operationId ≠ admitted.operation.operationId :=
    fun head member => admits.not_held (rooted.mem_headOperations.mp member).1
  rcases representative_ok rooted loaded decided fresh represented with
    ⟨_, impossible⟩ | ⟨_, first, _, same, isFirst, source⟩
  · cases impossible
  · cases same
    rcases source with ⟨rfl, rfl⟩ | rehydrated
    · exact admits.isOf
    · have isOf := rehydrateStoredMutation_isOf rehydrated
      rcases mem_joinedHeads.mp (List.mem_of_head? isFirst) with ⟨member, _⟩ | rfl
      · rw [← (loadRecordHeads_ok loaded).1] at member
        obtain ⟨head, headMember, rfl⟩ := List.mem_map.mp member
        have checked := valid head headMember
        simp only [validateHead, require_eq_ok] at checked
        obtain ⟨_, kinds, _, _, sameRecord, sameKind⟩ := checked
        exact ⟨sameRecord.symm.trans isOf.1, (sameKind.symm.trans kinds).trans isOf.2⟩
      · exact isOf

/-- A head in conflict with the operation makes two conflict heads. -/
theorem conflictHeads_paired (rooted : Rooted P v)
    (loaded : loadRecordHeads P v admitted.operation.workspaceId admitted.operation.recordId =
      .ok current)
    (decided : decideMerge admitted current = .ok (.addConflictHead remove)) :
    2 ≤ (conflictHeads admitted current remove).length := by
  rcases decideMerge_ok decided with ⟨impossible, _⟩ |
    ⟨_, _, removes, ⟨impossible | impossible, _⟩ | ⟨same, head, member, concurrent⟩⟩
  · cases impossible
  · cases impossible
  · cases impossible
  · cases same
    rw [conflictHeads_eq rooted loaded removes, joinedHeads, List.length_insertionSort,
      List.length_append, List.length_singleton, ← (loadRecordHeads_ok loaded).1]
    have spared : head.operation ∈ sparedHeads admitted.operation
        (current.map StoredRecordHead.operation) := by
      simp only [sparedHeads, List.mem_filter, concurrent]
      exact ⟨List.mem_map_of_mem member, rfl⟩
    have := List.length_pos_of_mem spared
    omega

/-- With a fresh nonce, recording an admitted operation succeeds. -/
theorem Admits.recordIncoming (admits : Admits P v bytes material admitted trusted scope key)
    (wellFormed : WellFormed P v) (freshNonce : v.nonces.find?
      (toLex (admitted.operation.keyEpoch, admitted.operation.nonce)) = none)
    (paired : ∀ remove, decision = .addConflictHead remove →
      2 ≤ (conflictHeads admitted current remove).length)
    (owners : Table RecordId StoredSyncRecordOwner) (aliases : Table RecordId RecordId)
    (tables : RecordTables) :
    ∃ final, recordIncoming (Vault.withRecordTables
      { v with recordOwners := owners, candidateAliases := aliases } tables) admitted current
      decision appliedAtMs receivedAt = .ok final := by
  have freshMeta : v.operationMeta.find? admitted.operation.operationId = none := by
    by_contra signed
    obtain ⟨found, foundAt⟩ := Option.ne_none_iff_exists'.mp signed
    obtain ⟨row, storedAt, _⟩ := wellFormed.chains.described _ _ foundAt
    rw [admits.fresh] at storedAt
    cases storedAt
  refine recordIncoming_succeeds admits.fresh (Option.map_eq_none_iff.mp admits.unused) freshMeta
    ?_ freshNonce ?_ paired
  · intro row member used
    have signed := wellFormed.nonces row.1 row.2 ((Table.find?_eq_some _).mpr member)
    rw [used, freshMeta] at signed
    cases signed
  · by_contra isHead
    obtain ⟨row, foundHead⟩ := Option.ne_none_iff_exists'.mp isHead
    obtain ⟨operation, held, _, _, same, _⟩ := wellFormed.heads.rooted _ _ _ _ foundHead
    exact admits.not_held held same

theorem applyFresh_succeeds (wellFormed : WellFormed P v)
    (admits : Admits P v bytes material admitted trusted scope key) (vectors : Vectorizes resolver)
    (readable : Readable P v material admitted.operation.workspaceId admitted.operation.recordId)
    (applicable : Applicable P v admitted) (appliedAtMs : Nat) (receivedAt : String) :
    ∃ outcome, applyFresh P v admitted (some material) (rehydrateStoredMutation P material) resolver
      appliedAtMs receivedAt = .ok outcome := by
  have rooted := wellFormed.heads.rooted
  obtain ⟨claimed, claim⟩ := (claimRecord_ok admits.belongs admits.isOf).mpr applicable.restorable
  have unowned := claimRecord_unowned claim
  have resolves : admitted.operation.recordKind = .memoryCandidate →
      resolveCandidateId claimed admitted.operation.recordId = admitted.operation.recordId := by
    intro isCandidate
    have belongs := admits.belongs
    rw [isCandidate] at belongs
    exact claimRecord_resolves claim admits.isOf (recordBelongsToSyncScope_resolves belongs)
  obtain ⟨owners, aliases, rfl, claims⟩ := claimRecord_effect claim
  have only := claims.onlyKind unowned wellFormed.kinds
  obtain ⟨current, loaded, valid⟩ := wellFormed.heads_valid claims
  obtain ⟨decision, decided⟩ := decideMerge_succeeds admits.isOf admits.sameMutation
    (fun head member => (valid head member).1)
  obtain ⟨chosen, represented⟩ : ∃ chosen, representative admitted current
      (rehydrateStoredMutation P material) decision = .ok chosen :=
    representative_succeeds (fun head member => readable _ (valid head member).2)
  obtain ⟨⟨materialized, change⟩, stored⟩ : ∃ stored, materializeRepresentative
      { v with recordOwners := owners, candidateAliases := aliases } resolver chosen =
        .ok stored := by
    apply materializeRepresentative_succeeds vectors
    rintro id mutation rfl
    have isOf := admits.representative_isOf rooted loaded (fun head member => (valid head member).1)
      decided represented
    rw [← isOf.1, ← isOf.2]
    exact ⟨only, resolves⟩
  obtain ⟨tables, rfl⟩ := materializeRepresentative_effect stored
  obtain ⟨final, recorded⟩ : ∃ final, recordIncoming (Vault.withRecordTables
      { v with recordOwners := owners, candidateAliases := aliases } tables) admitted current
      decision appliedAtMs receivedAt = .ok final := by
    apply admits.recordIncoming wellFormed applicable.freshNonce
    rintro remove rfl
    exact conflictHeads_paired rooted loaded decided
  refine ⟨(decision, cacheUpdate change, final), ?_⟩
  simp only [applyFresh, ok_iff]
  exact ⟨_, claim, current, loaded, decision, decided, admits.chained, chosen, represented,
    _, stored, final, recorded, rfl⟩

/-- On a well-formed vault an admitted operation can be applied exactly when its nonce is
fresh and, for a candidate, its alias can be restored. -/
theorem applyAdmittedOperationAt_ok (wellFormed : WellFormed P v)
    (admits : Admits P v bytes material admitted trusted scope key)
    (validPosition : validateReceivedAt receivedAt = .ok ()) (vectors : Vectorizes resolver)
    (readable : Readable P v material admitted.operation.workspaceId admitted.operation.recordId) :
    (∃ outcome, applyAdmittedOperationAt P v admitted material provider receivedAt resolver
      appliedAtMs = .ok outcome) ↔ Applicable P v admitted := by
  have valid := admits.validateAdmitted
  have replay : exactIncomingReplay P v admitted = .ok false := by
    simp [exactIncomingReplay, admits.fresh]
  have memberAgain := admits.member
  rw [← admits.endpoint] at memberAgain
  simp only [applyAdmittedOperationAt, applyAdmittedOperationInner, applyVerifiedInTransaction,
    validPosition, valid, admits.member, memberAgain, replay, ok_bind, Bool.false_eq_true, if_false]
  constructor
  · rintro ⟨outcome, ran⟩
    simp only [bind_eq_ok] at ran
    obtain ⟨⟨decision, update, applied⟩, ran, _⟩ := ran
    obtain ⟨claimed, _, _, _, _, claim, _⟩ := applyFresh_ok ran
    exact ⟨(applyFresh_recorded valid ran).freshNonce,
      (claimRecord_ok admits.belongs admits.isOf).mp ⟨claimed, claim⟩⟩
  · intro applicable
    obtain ⟨outcome, ran⟩ := applyFresh_succeeds wellFormed admits vectors readable applicable
      appliedAtMs receivedAt
    exact ⟨_, by rw [ran]; rfl⟩

/-- In every managed vault an operation that admission admits can be applied if and only if the
pair of its key epoch and nonce is unused and, for a candidate, its alias can be restored. -/
theorem admitted_operation_applies_iff (managed : Managed P v)
    (admission : admitOperation P v bytes material = .ok (.admitted admitted))
    (validPosition : validateReceivedAt receivedAt = .ok ()) (vectors : Vectorizes resolver)
    (readable : Readable P v material admitted.operation.workspaceId admitted.operation.recordId)
    (provider : SyncProvider) (appliedAtMs : Nat) :
    (∃ outcome, applyAdmittedOperationAt P v admitted material provider receivedAt resolver
      appliedAtMs = .ok outcome) ↔ Applicable P v admitted := by
  obtain ⟨trusted, scope, key, admits⟩ := admitOperation_admitted.mp admission
  exact applyAdmittedOperationAt_ok managed.wellFormed admits validPosition vectors readable

namespace Sample

/-- The sixth device's operation, sealed with the nonce the fifth device used. -/
def renonced : SyncOperationV1 :=
  sealedOperation (primitives [] tasks []) 6 9 1 .zero (request 6 31 20 secondTask [] none)

def nonceWorld : Primitives := primitives [fifth, renonced] tasks []

theorem nonceWorld_commit_fifth : commitOutgoingOperationWithBindingAt nonceWorld Vault.empty
    firstTask (built nonceWorld firstTask fifth) none 0 0 none =
      .ok (.inserted, persistedFirst firstTask fifth) := rfl

theorem admit_renonced : admitOperation nonceWorld (persistedFirst firstTask fifth)
    (nonceWorld.writeOperation renonced) (material [5, 6]) =
      .ok (.admitted (received nonceWorld secondTask renonced)) := rfl

theorem apply_renonced : applyAdmittedOperationAt nonceWorld (persistedFirst firstTask fifth)
    (received nonceWorld secondTask renonced) (material [5, 6]) .memory "1" oneEmbedding 0 =
      .error .database := rfl

theorem oneEmbedding_vectorizes : Vectorizes oneEmbedding := fun _ _ _ => ⟨_, rfl⟩

theorem readable_fifth : Readable P (persistedFirst firstTask fifth) (material [5, 6]) workspace
    (id 10) ↔ ∃ mutation, rehydrateStoredMutation P (material [5, 6]) fifth = .ok mutation := by
  have heads : (persistedFirst firstTask fifth).headOperations workspace (id 10) = [fifth] := rfl
  simp [Readable, heads]

end Sample

open Sample (pairWorld persistedFirst firstTask fifth received secondTask sixth commit_fifth
  admit_sixth oneEmbedding_vectorizes readable_fifth pulledSixth_ok nonceWorld renonced material
  oneEmbedding workspace nonceWorld_commit_fifth admit_renonced apply_renonced)

theorem admitted_operation_applies_to_sixth :
    Managed pairWorld (persistedFirst firstTask fifth) ∧
      Applicable pairWorld (persistedFirst firstTask fifth)
        (received pairWorld secondTask sixth) := by
  have managed : Managed pairWorld (persistedFirst firstTask fifth) :=
    ⟨Vault.empty, ⟨⟨rfl, rfl⟩, rfl, rfl, rfl⟩, .single (.commit commit_fifth)⟩
  have position : validateReceivedAt "1" = .ok () := rfl
  refine ⟨managed, ?_⟩
  refine (admitted_operation_applies_iff managed admit_sixth position
    oneEmbedding_vectorizes (readable_fifth.mpr ⟨_, rfl⟩) .memory 0).mp ?_
  exact ⟨_, pulledSixth_ok⟩

/-- An operation that reuses a nonce is admitted and then fails on the nonce table. -/
theorem admitted_operation_with_used_nonce_fails :
    Managed nonceWorld (persistedFirst firstTask fifth) ∧
      admitOperation nonceWorld (persistedFirst firstTask fifth)
        (nonceWorld.writeOperation renonced) (material [5, 6]) =
          .ok (.admitted (received nonceWorld secondTask renonced)) ∧
      validateReceivedAt "1" = .ok () ∧ Vectorizes oneEmbedding ∧
      Readable nonceWorld (persistedFirst firstTask fifth)
        (material [5, 6]) workspace (Sample.id 10) ∧
      applyAdmittedOperationAt nonceWorld
        (persistedFirst firstTask fifth)
        (received nonceWorld secondTask renonced)
        (material [5, 6]) .memory "1" oneEmbedding 0 = .error .database :=
  ⟨⟨Vault.empty, ⟨⟨rfl, rfl⟩, rfl, rfl, rfl⟩, .single (.commit nonceWorld_commit_fifth)⟩,
    admit_renonced, rfl, oneEmbedding_vectorizes,
    readable_fifth.mpr ⟨_, rfl⟩, apply_renonced⟩

end ContextRelay
