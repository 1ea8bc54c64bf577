import ContextRelay.RecordHeads

/-! The live record tables follow the heads: a record shows the mutation its first head
carries, and nothing when that mutation is a tombstone. What an operation carries is what
its ciphertext opens to under the content key of its epoch; hash collisions are excluded
only between the mutation a commit is given and the one its operation was built from. -/
namespace ContextRelay

open Library

variable {P : Primitives} {v v' : Vault}

/-! ## Materializing a mutation -/

/-- Deleting a record leaves the rows of the others. -/
theorem deleteMaterialized_sameRows (kind : RecordKind) (different : record ≠ other) :
    SameRows v (deleteMaterialized v record kind) other := by
  cases kind <;> constructor <;>
    first
      | rfl
      | exact Table.find?_erase_of_ne _ different

theorem deleteMaterialized_kinds (only : v.OnlyKind record kind) :
    materializedRecordKinds (deleteMaterialized v record kind) record = [] := by
  obtain ⟨candidates, tasks, secretRefs, components, projects⟩ := only.absent
  have noRecord := only.noRecord
  cases kind <;>
    simp_all [materializedRecordKinds, deleteMaterialized]

section

attribute [local simp] Vault.Shows RecordMutationV1.mutationKind RecordMutationV1.recordId
  RecordMutationV1.recordKind materializedRecordKinds loadMaterializedMutation SearchableRecord.kind

/-- Materializing a mutation shows it and leaves the rows of other records. -/
theorem materializeMutation_shows (only : v.OnlyKind mutation.recordId mutation.recordKind)
    (ran : materializeMutation v mutation embedding = .ok (v', change)) :
    v'.Shows mutation ∧ ∀ record, mutation.recordId ≠ record → SameRows v v' record := by
  obtain ⟨candidates, tasks, secretRefs, components, projects⟩ := only.absent
  have noRecord := only.noRecord
  cases mutation <;>
    simp only [materializeMutation, ok_iff, Prod.mk.injEq] at ran
  case tombstone record kind =>
    obtain ⟨rfl, _⟩ := ran
    exact ⟨deleteMaterialized_kinds only, fun _ different => deleteMaterialized_sameRows kind different⟩
  case upsertMemory record =>
    obtain ⟨_, _, _, stored, rfl, _⟩ := ran
    obtain ⟨rfl, _⟩ := upsertSearchableRecord_effect stored
    refine ⟨?_, fun _ different => ⟨Table.find?_upsert_of_ne _ _ different, rfl, rfl, rfl, rfl, rfl⟩⟩
    simp_all
  case upsertInstruction record =>
    obtain ⟨_, _, _, stored, rfl, _⟩ := ran
    obtain ⟨rfl, _⟩ := upsertSearchableRecord_effect stored
    refine ⟨?_, fun _ different => ⟨Table.find?_upsert_of_ne _ _ different, rfl, rfl, rfl, rfl, rfl⟩⟩
    simp_all
  case upsertMemoryCandidate record =>
    obtain ⟨_, rfl, _⟩ := ran
    refine ⟨?_, fun _ different => ⟨rfl, Table.find?_upsert_of_ne _ _ different, rfl, rfl, rfl, rfl⟩⟩
    simp_all
  case upsertTask record =>
    obtain ⟨rfl, _⟩ := ran
    refine ⟨?_, fun _ different => ⟨rfl, rfl, Table.find?_upsert_of_ne _ _ different, rfl, rfl, rfl⟩⟩
    simp_all
  case upsertSecretRef record =>
    obtain ⟨rfl, _⟩ := ran
    refine ⟨?_, fun _ different => ⟨rfl, rfl, rfl, Table.find?_upsert_of_ne _ _ different, rfl, rfl⟩⟩
    simp_all
  case upsertComponent record =>
    obtain ⟨rfl, _⟩ := ran
    refine ⟨?_, fun _ different => ⟨rfl, rfl, rfl, rfl, Table.find?_upsert_of_ne _ _ different, rfl⟩⟩
    simp_all
  case upsertProject record =>
    obtain ⟨rfl, _⟩ := ran
    refine ⟨?_, fun _ different => ⟨rfl, rfl, rfl, rfl, rfl, Table.find?_upsert_of_ne _ _ different⟩⟩
    simp_all

end

/-! ## What an operation carries -/

/-- The content key of each workspace and key epoch. -/
abbrev KeyMap := WorkspaceId → Nat → ContentKey

variable {keys : KeyMap}

/-- The mutation an operation's ciphertext opens to. -/
def Carries (P : Primitives) (keys : KeyMap) (operation : SyncOperationV1)
    (mutation : RecordMutationV1) : Prop :=
  openMutation P (keys operation.workspaceId operation.keyEpoch) operation = .ok mutation

/-- Trusted material that hands out only the keys of the map. -/
structure TrustedSyncMaterial.Agrees (material : TrustedSyncMaterial) (keys : KeyMap) : Prop where
  current : ∀ workspace epoch key, material.contentKey workspace epoch = .ok key →
    key = keys workspace epoch
  historical : ∀ historical, material.historicalReadMaterial = some historical →
    ∀ operation key, historical.authenticate operation = .ok () →
      historical.keys.find? operation.keyEpoch = some key →
        key = keys operation.workspaceId operation.keyEpoch

theorem rehydrateStoredMutation_carries (agrees : material.Agrees keys)
    (rehydrated : rehydrateStoredMutation P material operation = .ok mutation) :
    Carries P keys operation mutation := by
  unfold rehydrateStoredMutation at rehydrated
  split at rehydrated
  · rename_i key found
    rw [Carries, ← agrees.current _ _ _ found]
    exact rehydrateMutationWithKey_ok.mp rehydrated
  · simp only [ok_iff, HistoricalReadMaterial.rehydrate] at rehydrated
    obtain ⟨historical, isHistorical, authentic, key, found, opened⟩ := rehydrated
    rw [Carries, ← agrees.historical _ isHistorical _ _ authentic found]
    exact rehydrateMutationWithKey_ok.mp opened

theorem verifyOperationEnvelope_opens
    (verified : verifyOperationEnvelope P operation trusted key = .ok mutation) :
    openMutation P key operation = .ok mutation := by
  simp only [verifyOperationEnvelope, ok_iff] at verified
  exact verified.2.2.2.2.2.2

theorem Admits.carries (agrees : material.Agrees keys)
    (admits : Admits P v bytes material admitted trusted scope key) :
    Carries P keys admitted.operation admitted.mutation := by
  rw [Carries, ← agrees.current _ _ _ admits.keyed]
  exact verifyOperationEnvelope_opens admits.opened

/-- The cipher opens what it sealed. -/
def Opens (P : Primitives) : Prop :=
  ∀ key plaintext aad nonce payload, P.encryptWithNonce key plaintext aad nonce = some payload →
    P.decrypt key payload aad = some plaintext

/-- An operation the builder made for a mutation under the keys of the map. The codec reads the
built mutation back, and the digest tells the given mutation from the built one. -/
structure Made (P : Primitives) (keys : KeyMap) (built : BuiltOperation)
    (mutation : RecordMutationV1) (identity : SyncIdentity) (nonce : XChaChaNonce)
    (request : OperationBuildRequest) : Prop where
  build : OperationBuilder.build P identity nonce request = .ok built
  key : identity.contentKey = keys identity.workspaceId identity.keyEpoch
  readable : P.readMutation (P.writeMutation request.mutation) = some request.mutation
  distinguished : P.sha256 (P.writeMutation mutation) = P.sha256 (P.writeMutation request.mutation) →
    mutation = request.mutation

theorem encodeRecordMutationV1_eq (encoded : encodeRecordMutationV1 P mutation = .ok bytes) :
    mutation.validate = .ok () ∧ bytes = P.writeMutation mutation ∧
      bytes.length ≤ maxCborOperationBytes := by
  simp only [encodeRecordMutationV1, boundedCbor, ok_iff] at encoded
  obtain ⟨valid, small, rfl⟩ := encoded
  exact ⟨valid, rfl, small⟩

theorem decodeRecordMutationV1_encoded (encoded : encodeRecordMutationV1 P mutation = .ok bytes)
    (readable : P.readMutation (P.writeMutation mutation) = some mutation) :
    decodeRecordMutationV1 P bytes = .ok mutation := by
  obtain ⟨valid, rfl, small⟩ := encodeRecordMutationV1_eq encoded
  simp only [decodeRecordMutationV1, ok_iff]
  exact ⟨small, mutation, readable, valid, _, encoded, rfl, rfl⟩

/-- A built operation carries the mutation it was committed with. -/
theorem Made.carries (made : Made P keys built mutation identity nonce request)
    (opens : Opens P) (valid : validateCommit P mutation built = .ok ()) :
    Carries P keys built.operation mutation := by
  have ran := made.build
  simp only [OperationBuilder.build, ok_iff] at ran
  obtain ⟨_, inScope, _, _, ⟨sequence, previousHash⟩, _, _, _, plaintext, encoded, payload, sealed, _,
    _, _, _, _, rfl⟩ := ran
  have same : mutation = request.mutation := by
    simp only [validateCommit, BuiltOperation.validateForPersistence, ok_iff] at valid
    obtain ⟨⟨_, encodedGiven, sameHash, _⟩, _⟩ := valid
    apply made.distinguished
    rw [← (encodeRecordMutationV1_eq encodedGiven).2.1, ← (encodeRecordMutationV1_eq encoded).2.1]
    exact sameHash
  subst same
  simp only [Carries, openMutation, ok_iff]
  refine ⟨plaintext, ?_, request.mutation, decodeRecordMutationV1_encoded encoded made.readable,
    ⟨rfl, rfl, rfl, inScope⟩, rfl⟩
  have decrypted := opens _ _ _ _ _ sealed
  rw [made.key] at decrypted
  exact decrypted

/-! ## The representative -/

/-- The chosen representative is the first of the joined heads, with the mutation admission
opened or the one its ciphertext rehydrates to. -/
theorem representative_ok (rooted : Rooted P v)
    (loaded : loadRecordHeads P v admitted.operation.workspaceId admitted.operation.recordId =
      .ok current)
    (decided : decideMerge admitted current = .ok decision)
    (fresh : ∀ head ∈ v.headOperations admitted.operation.workspaceId admitted.operation.recordId,
      head.operationId ≠ admitted.operation.operationId)
    (represented : representative admitted current rehydrate decision = .ok chosen) :
    (decision = .noLiveChange ∧ chosen = none) ∨
    decision ≠ .noLiveChange ∧ ∃ first mutation, chosen = some (first.operationId, mutation) ∧
      (joinedHeads admitted.operation
        (v.headOperations admitted.operation.workspaceId admitted.operation.recordId)).head? =
          some first ∧
      (first = admitted.operation ∧ mutation = admitted.mutation ∨
        rehydrate first = .ok mutation) := by
  obtain ⟨sameHeads, _⟩ := loadRecordHeads_ok loaded
  rcases decideMerge_ok decided with ⟨rfl, _⟩ | ⟨remove, _, removes, ⟨which, all⟩ | ⟨rfl, _⟩⟩
  · simp only [representative, ok_iff] at represented
    exact Or.inl ⟨rfl, represented.symm⟩
  · have alone : joinedHeads admitted.operation
        (v.headOperations admitted.operation.workspaceId admitted.operation.recordId) =
          [admitted.operation] := by
      apply joinedHeads_of_all_after
      rw [← sameHeads]
      simpa using all
    refine Or.inr ⟨?_, admitted.operation, admitted.mutation, ?_, by rw [alone]; rfl,
      Or.inl ⟨rfl, rfl⟩⟩
    · rcases which with rfl | rfl <;> simp
    · rcases which with rfl | rfl <;>
        simpa [representative, eq_comm] using represented
  · refine Or.inr ⟨by simp, ?_⟩
    simp only [representative, ok_iff, conflictHeads_eq rooted loaded removes] at represented
    obtain ⟨first, isFirst, chosenAs⟩ := represented
    have ascending := joinedHeads_ascending rooted.headOperations_ascending fresh
    have member : first ∈ joinedHeads admitted.operation
        (v.headOperations admitted.operation.workspaceId admitted.operation.recordId) :=
      List.mem_of_head? isFirst
    split at chosenAs
    · rename_i sameId
      simp only [ok_iff] at chosenAs
      have isNew := ascending.eq_of_key_eq member (mem_joinedHeads.mpr (Or.inr rfl)) sameId
      exact ⟨first, admitted.mutation, chosenAs.symm, isFirst, Or.inl ⟨isNew, rfl⟩⟩
    · simp only [ok_iff] at chosenAs
      obtain ⟨mutation, rehydrated, same⟩ := chosenAs
      exact ⟨first, mutation, same.symm, isFirst, Or.inr rehydrated⟩

/-- What a write did to the record tables and the cache: nothing when the heads were left
alone, otherwise the first head's mutation was materialized with its vector. -/
structure Materializes (v v' : Vault) (operation first : SyncOperationV1)
    (mutation : RecordMutationV1) (embedding : Option Embedding384) (change : CacheChange) :
    Prop where
  isFirst : (joinedHeads operation
    (v.headOperations operation.workspaceId operation.recordId)).head? = some first
  ran : ∃ claimed materialized, claimed.recordTables = v.recordTables ∧
    materializeMutation claimed mutation embedding = .ok (materialized, change) ∧
    v'.recordTables = materialized.recordTables

theorem applyFresh_materializes (valid : validateAdmitted P admitted = .ok ()) (rooted : Rooted P v)
    (ran : applyFresh P v admitted material rehydrate resolver appliedAtMs receivedAt =
      .ok (decision, update, v')) :
    (LeavesHeads v v' admitted.operation ∧ v'.recordTables = v.recordTables ∧ update = none) ∨
    Joins P v v' admitted.operation ∧ ∃ first mutation embedding change,
      Materializes v v' admitted.operation first mutation embedding change ∧
      (first = admitted.operation ∧ mutation = admitted.mutation ∨ rehydrate first = .ok mutation) ∧
      resolveEmbedding resolver first.operationId mutation = .ok embedding ∧
      update = cacheUpdate change := by
  have heads := applyFresh_heads valid rooted ran
  have recordedAs := applyFresh_recorded valid ran
  obtain ⟨claimed, current, chosen, materialized, change, claim, loaded, decided, _, represented,
    stored, recorded, rfl⟩ := applyFresh_ok ran
  obtain ⟨owners, aliases, rfl, _⟩ := claimRecord_effect claim
  obtain ⟨tables, rfl⟩ := materializeRepresentative_effect stored
  obtain ⟨schedule, _, _, _, _, written⟩ := recordIncoming_ok recorded
  have sameTables : v'.recordTables = tables := by
    rcases writeHeads_effect written with ⟨_, rfl⟩ | ⟨_, _, rfl⟩ | ⟨_, _, _, _, _, _, rfl⟩ <;> rfl
  have fresh : ∀ head ∈ v.headOperations admitted.operation.workspaceId
      admitted.operation.recordId, head.operationId ≠ admitted.operation.operationId :=
    fun head member => recordedAs.not_holds (rooted.mem_headOperations.mp member).1
  replace loaded : loadRecordHeads P v admitted.operation.workspaceId
    admitted.operation.recordId = .ok current := loaded
  rcases representative_ok rooted loaded decided fresh represented with ⟨rfl, rfl⟩ |
      ⟨changes, first, mutation, rfl, isFirst, source⟩
  · simp only [materializeRepresentative, ok_iff, Prod.mk.injEq] at stored
    obtain ⟨same, rfl⟩ := stored
    refine Or.inl ⟨?_, ?_, rfl⟩
    · rcases heads with ⟨_, leaves⟩ | ⟨impossible, _⟩
      · exact leaves
      · exact absurd rfl impossible
    · rw [sameTables]
      exact congrArg Vault.recordTables same.symm
  · simp only [materializeRepresentative, bind_eq_ok] at stored
    obtain ⟨embedding, resolved, materializedAs⟩ := stored
    refine Or.inr ⟨?_, first, mutation, embedding, change, ⟨isFirst, _, _, ?_, materializedAs, ?_⟩,
      source, resolved, rfl⟩
    · rcases heads with ⟨impossible, _⟩ | ⟨_, joins⟩
      · exact absurd impossible changes
      · exact joins
    · rfl
    · rw [sameTables]
      rfl

theorem persistFresh_materializes (valid : validateCommit P mutation built = .ok ())
    (rooted : Rooted P v)
    (ran : persistFresh P v mutation built embedding committedAtMs queuedAt true =
      .ok (disposition, change, v')) :
    Materializes v v' built.operation built.operation mutation embedding change where
  isFirst := by
    rw [joinedHeads_of_all_after (persistFresh_heads valid rooted ran).2]
    rfl
  ran := by
    obtain ⟨claimed, heads, materialized, claim, _, _, _, stored, recorded, rfl⟩ :=
      persistFresh_ok ran
    obtain ⟨owners, rfl, _⟩ := ensureSyncRecordOwner_effect claim
    obtain ⟨schedule, _, _, _, _, _, rfl⟩ := recordOutgoing_ok recorded
    refine ⟨_, materialized, ?_, stored, rfl⟩
    rfl

/-- Without materialization the transaction only checks the rows. -/
theorem persistFresh_checks
    (ran : persistFresh P v mutation built embedding committedAtMs queuedAt false =
      .ok (disposition, change, v')) :
    loadMaterializedMutation v built.operation.recordId built.operation.recordKind = some mutation ∧
      change = .none ∧ v'.recordTables = v.recordTables := by
  obtain ⟨claimed, heads, materialized, claim, _, _, _, stored, recorded, rfl⟩ :=
    persistFresh_ok ran
  obtain ⟨owners, rfl, _⟩ := ensureSyncRecordOwner_effect claim
  obtain ⟨schedule, _, _, _, _, _, rfl⟩ := recordOutgoing_ok recorded
  simp only [materializeOutgoing, Bool.false_eq_true, if_false, ok_iff, Prod.mk.injEq] at stored
  obtain ⟨loaded, rfl, none⟩ := stored
  exact ⟨loaded, none.symm, rfl⟩

/-! ## The invariant -/

/-- The tables show the first head of every record, an owned record has rows of the owner's
kind only, and only records with operations are in conflict. -/
structure Displays (P : Primitives) (keys : KeyMap) (v : Vault) : Prop where
  heads : HeadInvariant P v
  kinds : OwnedKinds v
  shown : ∀ workspace record first, (v.headOperations workspace record).head? = some first →
    ∃ mutation, Carries P keys first mutation ∧ v.Shows mutation
  quiet : ∀ record, (∀ operation, v.Holds operation → operation.recordId ≠ record) →
    v.conflicts.find? record = none

/-- Before a record is claimed it has rows of the claimed kind only. -/
theorem Claimed.onlyKind (claimed : Claimed v.recordOwners owners account workspace record kind)
    (unowned : v.recordOwners.find? record = none → materializedRecordKinds v record = [])
    (kinds : OwnedKinds v) : v.OnlyKind record kind := by
  cases owned : v.recordOwners.find? record with
  | none =>
    intro kind member
    rw [unowned owned] at member
    cases member
  | some owner =>
    rw [← (claimed.agreed owner owned).2.2]
    exact kinds _ owner owned

theorem Carries.identity (carries : Carries P keys operation mutation) :
    IsOf mutation operation := by
  obtain ⟨sameRecord, sameKind, _⟩ := openMutation_ok carries
  exact ⟨sameRecord, sameKind⟩

/-- Operations on one record have one workspace and kind, the entering one included. -/
theorem Entered.sameOwner (entered : Entered P v v' operation) (before : HeadInvariant P v)
    (held : v.Holds other) (sameRecord : other.recordId = operation.recordId) :
    other.workspaceId = operation.workspaceId ∧ other.recordKind = operation.recordKind := by
  have owner := before.owned other held
  rw [sameRecord] at owner
  exact (entered.claimed.agreed _ owner).2

/-- The first of the joined heads is on the entering operation's record and of its kind. -/
theorem Entered.first_identity (entered : Entered P v v' operation) (before : HeadInvariant P v)
    (isFirst : (joinedHeads operation
      (v.headOperations operation.workspaceId operation.recordId)).head? = some first) :
    first.recordId = operation.recordId ∧ first.recordKind = operation.recordKind := by
  rcases mem_joinedHeads.mp (List.mem_of_head? isFirst) with ⟨member, _⟩ | rfl
  · obtain ⟨held, _, sameRecord, _⟩ := before.rooted.mem_headOperations.mp member
    exact ⟨sameRecord, (entered.sameOwner before held sameRecord).2⟩
  · exact ⟨rfl, rfl⟩

/-- Materializing the first head shows it and leaves the rows of other records. -/
theorem Materializes.shows (materializes : Materializes v v' operation first mutation embedding change)
    (entered : Entered P v v' operation) (heads : HeadInvariant P v) (kinds : OwnedKinds v)
    (isOf : IsOf mutation first) :
    v'.Shows mutation ∧ mutation.recordId = operation.recordId ∧
      mutation.recordKind = operation.recordKind ∧
      ∀ record, operation.recordId ≠ record → SameRows v v' record := by
  obtain ⟨claimed, materialized, sameBefore, ran, sameAfter⟩ := materializes.ran
  obtain ⟨firstRecord, firstKind⟩ := entered.first_identity heads materializes.isFirst
  have sameRecord : mutation.recordId = operation.recordId := isOf.1.symm.trans firstRecord
  have sameKind : mutation.recordKind = operation.recordKind := isOf.2.symm.trans firstKind
  have only : claimed.OnlyKind mutation.recordId mutation.recordKind := by
    rw [(SameRows.of_tables sameBefore _).onlyKind, sameRecord, sameKind]
    exact entered.claimed.onlyKind entered.unowned kinds
  obtain ⟨shows, others⟩ := materializeMutation_shows only ran
  refine ⟨(SameRows.of_tables sameAfter _).shows.mpr shows, sameRecord, sameKind, ?_⟩
  intro other different
  exact ((SameRows.of_tables sameBefore other).trans
    (others other (by rw [sameRecord]; exact different))).trans (SameRows.of_tables sameAfter other)

/-- An entering operation that leaves its own record with rows of its kind only, and the rows
of the others alone. -/
theorem OwnedKinds.enter (kinds : OwnedKinds v) (entered : Entered P v v' operation)
    (own : v'.OnlyKind operation.recordId operation.recordKind)
    (others : ∀ record, operation.recordId ≠ record → SameRows v v' record) : OwnedKinds v' := by
  intro record owner owned
  by_cases same : operation.recordId = record
  · subst same
    obtain rfl := Option.some.inj (owned.symm.trans entered.claimed.owned)
    exact own
  · rw [(others record same).onlyKind]
    rw [entered.claimed.others record same] at owned
    exact kinds record owner owned

theorem OwnedKinds.enter_same (kinds : OwnedKinds v) (entered : Entered P v v' operation)
    (sameTables : v'.recordTables = v.recordTables) : OwnedKinds v' := by
  refine kinds.enter entered ?_ (fun record _ => .of_tables sameTables record)
  rw [(SameRows.of_tables sameTables _).onlyKind]
  exact entered.claimed.onlyKind entered.unowned kinds

theorem OwnedKinds.enter_materialized (kinds : OwnedKinds v) (entered : Entered P v v' operation)
    (heads : HeadInvariant P v)
    (materializes : Materializes v v' operation first mutation embedding change)
    (isOf : IsOf mutation first) : OwnedKinds v' := by
  obtain ⟨shows, sameRecord, sameKind, others⟩ := materializes.shows entered heads kinds isOf
  have only := shows.onlyKind
  rw [sameRecord, sameKind] at only
  exact kinds.enter entered only others

/-- The first head's mutation is shown after an operation entered, and the rows of the other
records are as they were. -/
structure Presents (P : Primitives) (keys : KeyMap) (v v' : Vault)
    (operation first : SyncOperationV1) (mutation : RecordMutationV1) : Prop where
  isFirst : (joinedHeads operation
    (v.headOperations operation.workspaceId operation.recordId)).head? = some first
  carries : Carries P keys first mutation
  shows : v'.Shows mutation
  others : ∀ record, operation.recordId ≠ record → SameRows v v' record

theorem Materializes.presents
    (materializes : Materializes v v' operation first mutation embedding change)
    (entered : Entered P v v' operation) (before : Displays P keys v)
    (carries : Carries P keys first mutation) : Presents P keys v v' operation first mutation := by
  obtain ⟨shows, _, _, others⟩ :=
    materializes.shows entered before.heads before.kinds carries.identity
  exact ⟨materializes.isFirst, carries, shows, others⟩

/-- Where an entering operation can have changed rows: nowhere, or on its own record. -/
inductive Outcome (P : Primitives) (keys : KeyMap) (v v' : Vault) (operation : SyncOperationV1) :
    Prop where
  | left (leaves : LeavesHeads v v' operation) (sameTables : v'.recordTables = v.recordTables)
  | joined {first : SyncOperationV1} {mutation : RecordMutationV1} (joins : Joins P v v' operation)
      (presents : Presents P keys v v' operation first mutation)

theorem Displays.enter (before : Displays P keys v) (entered : Entered P v v' operation)
    (outcome : Outcome P keys v v' operation) : Displays P keys v' := by
  obtain ⟨row, recorded⟩ := entered.recorded
  have otherRows : ∀ record, operation.recordId ≠ record → SameRows v v' record := by
    cases outcome with
    | left _ sameTables => exact fun record _ => .of_tables sameTables record
    | joined _ presents => exact presents.others
  refine ⟨entered.headInvariant before.heads, ?_, ?_, ?_⟩
  · cases outcome with
    | left _ sameTables => exact before.kinds.enter_same entered sameTables
    | joined _ presents =>
      obtain ⟨firstRecord, firstKind⟩ := entered.first_identity before.heads presents.isFirst
      have only := presents.shows.onlyKind
      rw [← presents.carries.identity.1, ← presents.carries.identity.2, firstRecord, firstKind] at only
      exact before.kinds.enter entered only otherRows
  · intro workspace record first isFirst
    by_cases own : workspace = operation.workspaceId ∧ record = operation.recordId
    · obtain ⟨rfl, rfl⟩ := own
      cases outcome with
      | left leaves sameTables =>
        rw [entered.headOperations_left before.heads.rooted leaves] at isFirst
        obtain ⟨mutation, carries, shows⟩ := before.shown _ _ _ isFirst
        exact ⟨mutation, carries, (SameRows.of_tables sameTables _).shows.mpr shows⟩
      | joined joins presents =>
        rw [entered.headOperations_joined before.heads.rooted joins] at isFirst
        obtain rfl := Option.some.inj (isFirst.symm.trans presents.isFirst)
        exact ⟨_, presents.carries, presents.shows⟩
    · rw [entered.headOperations_other before.heads.rooted own] at isFirst
      obtain ⟨mutation, carries, shows⟩ := before.shown _ _ _ isFirst
      refine ⟨mutation, carries, (SameRows.shows ?_).mpr shows⟩
      obtain ⟨held, sameWorkspace, sameRecord, _⟩ :=
        before.heads.rooted.mem_headOperations.mp (List.mem_of_head? isFirst)
      rw [← carries.identity.1, sameRecord]
      apply otherRows
      rintro rfl
      exact own ⟨sameWorkspace.symm.trans (entered.sameOwner before.heads held sameRecord).1, rfl⟩
  · intro record untouched
    have different : operation.recordId ≠ record :=
      untouched operation (recorded.holds.mpr (Or.inr rfl))
    have same : v'.conflicts.find? record = v.conflicts.find? record := by
      cases outcome with
      | left leaves _ => rw [leaves.conflicts]
      | joined joins _ => exact joins.otherConflicts record different
    rw [same]
    exact before.quiet record (fun other held => untouched other (recorded.holds.mpr (Or.inl held)))

/-! ## The embedding cache -/

/-- The vector of each operation's mutation. -/
abbrev VectorMap := OperationId → RecordMutationV1 → Embedding384

variable {vectors : VectorMap}

/-- The cache entry of a representative: the vector resolved for it, and none for a tombstone
of a searchable record. -/
def CachedFor (cache : Table RecordId CachedEmbedding) (vectors : VectorMap)
    (operationId : OperationId) (mutation : RecordMutationV1) : Prop :=
  match mutation with
  | .upsertMemory record => cache.find? mutation.recordId =
      some (cachedEmbedding record.scope record.archived (vectors operationId mutation))
  | .upsertInstruction record => cache.find? mutation.recordId =
      some (cachedEmbedding record.scope record.archived (vectors operationId mutation))
  | .tombstone _ kind => kind = .memory ∨ kind = .instruction →
      cache.find? mutation.recordId = none
  | _ => True

theorem CachedFor.congr (same : other.find? mutation.recordId = cache.find? mutation.recordId) :
    CachedFor other vectors operationId mutation ↔ CachedFor cache vectors operationId mutation := by
  cases mutation <;> simp only [CachedFor, same]

/-- The cache change of a materialized mutation caches its vector and touches no other
record. -/
theorem materializeMutation_cached
    (ran : materializeMutation v mutation embedding = .ok (v', change))
    (vector : ∀ resolved, embedding = some resolved → resolved = vectors operationId mutation)
    (stored : Vault) :
    CachedFor (applySyncCacheUpdate stored (cacheUpdate change)).embeddingCache vectors operationId
        mutation ∧
      ∀ record, mutation.recordId ≠ record →
        (applySyncCacheUpdate stored (cacheUpdate change)).embeddingCache.find? record =
          stored.embeddingCache.find? record := by
  cases mutation <;>
    simp only [materializeMutation, ok_iff, Prod.mk.injEq] at ran
  case upsertMemory record =>
    obtain ⟨resolved, given, _, _, _, rfl⟩ := ran
    rw [vector resolved given]
    exact ⟨Table.find?_upsert_self .., fun _ different => Table.find?_upsert_of_ne _ _ different⟩
  case upsertInstruction record =>
    obtain ⟨resolved, given, _, _, _, rfl⟩ := ran
    rw [vector resolved given]
    exact ⟨Table.find?_upsert_self .., fun _ different => Table.find?_upsert_of_ne _ _ different⟩
  case tombstone record kind =>
    obtain ⟨_, rfl⟩ := ran
    by_cases searchable : kind = .memory ∨ kind = .instruction
    · rw [if_pos searchable]
      exact ⟨fun _ => Table.find?_erase_self .., fun _ different => Table.find?_erase_of_ne _ different⟩
    · rw [if_neg searchable]
      exact ⟨fun holds => absurd holds searchable, fun _ _ => rfl⟩
  case upsertMemoryCandidate record =>
    obtain ⟨_, _, rfl⟩ := ran
    exact ⟨trivial, fun _ _ => rfl⟩
  all_goals
    obtain ⟨_, rfl⟩ := ran
    exact ⟨trivial, fun _ _ => rfl⟩

/-- The tables and the cache follow the heads. -/
structure Follow (P : Primitives) (keys : KeyMap) (vectors : VectorMap) (v : Vault) : Prop where
  displays : Displays P keys v
  cached : ∀ workspace record first mutation,
    (v.headOperations workspace record).head? = some first → Carries P keys first mutation →
      CachedFor v.embeddingCache vectors first.operationId mutation

/-- A cache update caches the vector of the presented mutation and touches no other record. -/
structure Caches (v v' : Vault) (vectors : VectorMap) (operation first : SyncOperationV1)
    (mutation : RecordMutationV1) : Prop where
  own : CachedFor v'.embeddingCache vectors first.operationId mutation
  others : ∀ record, operation.recordId ≠ record →
    v'.embeddingCache.find? record = v.embeddingCache.find? record

/-- A cache update that follows an entering operation. -/
theorem Follow.enter (before : Follow P keys vectors v) (entered : Entered P v v' operation)
    (outcome : LeavesHeads v v' operation ∧ v'.recordTables = v.recordTables ∧ update = none ∧
        v'.embeddingCache = v.embeddingCache ∨
      Joins P v v' operation ∧ ∃ first mutation, Presents P keys v v' operation first mutation ∧
        Caches v (applySyncCacheUpdate v' update) vectors operation first mutation) :
    Follow P keys vectors (applySyncCacheUpdate v' update) := by
  have displays : Displays P keys v' := by
    apply before.displays.enter entered
    rcases outcome with ⟨leaves, sameTables, _⟩ | ⟨joins, _, _, presents, _⟩
    · exact .left leaves sameTables
    · exact .joined joins presents
  refine ⟨⟨⟨displays.heads.rooted, displays.heads.owned, displays.heads.conflict⟩, displays.kinds,
    displays.shown, displays.quiet⟩, ?_⟩
  intro workspace record first mutation isFirst carries
  replace isFirst : (v'.headOperations workspace record).head? = some first := isFirst
  rcases outcome with ⟨leaves, _, rfl, sameCache⟩ | ⟨joins, newFirst, newMutation, presents, caches⟩
  · rw [entered.headOperations_left before.displays.heads.rooted leaves] at isFirst
    have cached := before.cached _ _ _ _ isFirst carries
    rw [← sameCache] at cached
    exact cached
  · by_cases own : workspace = operation.workspaceId ∧ record = operation.recordId
    · obtain ⟨rfl, rfl⟩ := own
      rw [entered.headOperations_joined before.displays.heads.rooted joins] at isFirst
      obtain rfl := Option.some.inj (isFirst.symm.trans presents.isFirst)
      obtain rfl := Except.ok.inj (presents.carries.symm.trans carries)
      exact caches.own
    · rw [entered.headOperations_other before.displays.heads.rooted own] at isFirst
      obtain ⟨held, sameWorkspace, sameRecord, _⟩ :=
        before.displays.heads.rooted.mem_headOperations.mp (List.mem_of_head? isFirst)
      refine (CachedFor.congr (caches.others _ ?_)).mpr (before.cached _ _ _ _ isFirst carries)
      rw [← carries.identity.1, sameRecord]
      rintro rfl
      exact own ⟨sameWorkspace.symm.trans
        (entered.sameOwner before.displays.heads held sameRecord).1, rfl⟩

/-- Materializing the first head with its vector caches the vector. -/
theorem Materializes.caches
    (materializes : Materializes v v' operation first mutation embedding change)
    (entered : Entered P v v' operation) (before : Displays P keys v)
    (carries : Carries P keys first mutation)
    (sameCache : v'.embeddingCache = v.embeddingCache)
    (vector : ∀ resolved, embedding = some resolved → resolved = vectors first.operationId mutation) :
    Caches v (applySyncCacheUpdate v' (cacheUpdate change)) vectors operation first mutation := by
  have changed := (materializes.shows entered before.heads before.kinds carries.identity).2.1
  obtain ⟨claimed, materialized, _, ran, _⟩ := materializes.ran
  obtain ⟨own, others⟩ := materializeMutation_cached ran vector v'
  refine ⟨own, fun record different => ?_⟩
  rw [others record (by rwa [changed]), sameCache]

end ContextRelay
