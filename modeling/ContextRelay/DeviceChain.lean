import ContextRelay.Transactions
import ContextRelay.Library.Chain

/-! Device hash chains. Every write path records an operation only at the end of its
device's chain, so in every reachable vault a device's signed operations are numbered
from one without a gap, each names the digest of the one before it, and the device head
is the last of them. -/
namespace ContextRelay

open Library

variable {P : Primitives}

/-- An operation of a device that is stored with metadata. -/
def SignedBy (v : Vault) (workspace : WorkspaceId) (device : DeviceId)
    (operation : SyncOperationV1) : Prop :=
  ∃ id row found, v.operationMeta.find? id = some found ∧ found.workspaceId = workspace ∧
    found.deviceId = device ∧ v.operations.find? id = some row ∧ row.operation = operation

/-- A metadata row says of an operation what is in it. -/
structure Describes (P : Primitives) (id : OperationId) (found : OperationMeta)
    (operation : SyncOperationV1) : Prop where
  operationId : operation.operationId = id
  account : found.accountId = operation.accountId
  workspace : found.workspaceId = operation.workspaceId
  device : found.deviceId = operation.deviceId
  sequence : found.deviceSequence = operation.deviceSequence
  digest : found.canonicalSha256 = operationDigest P operation
  encodable : Encodable P operation

/-- `operations` is the chain of a device: exactly its signed operations, numbered from one,
hash-linked from the zero digest, ending at the stored head. -/
structure DeviceChain (P : Primitives) (v : Vault) (workspace : WorkspaceId) (device : DeviceId)
    (operations : List SyncOperationV1) : Prop where
  members : ∀ operation, operation ∈ operations ↔ SignedBy v workspace device operation
  sequences : operations.map SyncOperationV1.deviceSequence = List.range' 1 operations.length
  linked : ∃ final, Linked SyncOperationV1.previousDeviceHash (operationDigest P) .zero
    operations final
  head : v.deviceHead workspace device = operations.getLast?.map (fun operation =>
    ⟨operation.deviceSequence, operationDigest P operation⟩)

/-- Metadata rows describe their operations, and every device has a chain. -/
structure ChainInvariant (P : Primitives) (v : Vault) : Prop where
  described : ∀ id found, v.operationMeta.find? id = some found → ∃ row,
    v.operations.find? id = some row ∧ row.recordId = row.operation.recordId ∧
      Describes P id found row.operation
  chained : ∀ workspace device, ∃ operations, DeviceChain P v workspace device operations

/-! ## The invariant -/

theorem SignedBy.of_kept (kept : KeepsSigned v v') :
    SignedBy v' workspace device operation ↔ SignedBy v workspace device operation := by
  constructor
  · rintro ⟨id, row, found, stored, sameWorkspace, sameDevice, operationRow, same⟩
    rw [kept.operationMeta] at stored
    rw [kept.operations id (by simp [stored])] at operationRow
    exact ⟨id, row, found, stored, sameWorkspace, sameDevice, operationRow, same⟩
  · rintro ⟨id, row, found, stored, sameWorkspace, sameDevice, operationRow, same⟩
    refine ⟨id, row, found, ?_, sameWorkspace, sameDevice, ?_, same⟩
    · rw [kept.operationMeta]; exact stored
    · rw [kept.operations id (by simp [stored])]; exact operationRow

theorem KeepsSigned.preserves (kept : KeepsSigned v v') (invariant : ChainInvariant P v) :
    ChainInvariant P v' where
  described := by
    intro id found stored
    rw [kept.operationMeta] at stored
    obtain ⟨row, operationRow, described⟩ := invariant.described id found stored
    exact ⟨row, by rw [kept.operations id (by simp [stored])]; exact operationRow, described⟩
  chained := by
    intro workspace device
    obtain ⟨operations, chain⟩ := invariant.chained workspace device
    refine ⟨operations, ?_, chain.sequences, chain.linked, ?_⟩
    · intro operation
      rw [chain.members, SignedBy.of_kept kept]
    · rw [Vault.deviceHead, kept.deviceHeads]
      exact chain.head

/-- The signed operations after recording one: those before it, and itself on its own device. -/
theorem Recorded.signedBy (recorded : Recorded P v v' operation row) :
    SignedBy v' workspace device other ↔ SignedBy v workspace device other ∨
      workspace = operation.workspaceId ∧ device = operation.deviceId ∧ other = operation := by
  simp only [SignedBy, recorded.operations, recorded.operationMeta]
  constructor
  · rintro ⟨id, stored, found, foundAt, rfl, rfl, storedAt, rfl⟩
    by_cases same : id = operation.operationId
    · subst same
      rw [Table.find?_upsert_self, Option.some.injEq] at foundAt storedAt
      subst foundAt storedAt
      exact .inr ⟨recorded.sameWorkspace, recorded.sameDevice, rfl⟩
    · rw [Table.find?_upsert_of_ne _ _ (Ne.symm same)] at foundAt storedAt
      exact .inl ⟨id, stored, found, foundAt, rfl, rfl, storedAt, rfl⟩
  · rintro (⟨id, stored, found, foundAt, sameWorkspace, sameDevice, storedAt, same⟩ |
      ⟨rfl, rfl, rfl⟩)
    · have other : id ≠ operation.operationId := by
        rintro rfl
        simp [recorded.freshMeta] at foundAt
      refine ⟨id, stored, found, ?_, sameWorkspace, sameDevice, ?_, same⟩
      · rw [Table.find?_upsert_of_ne _ _ other.symm]; exact foundAt
      · rw [Table.find?_upsert_of_ne _ _ other.symm]; exact storedAt
    · exact ⟨_, _, row, Table.find?_upsert_self .., recorded.sameWorkspace, recorded.sameDevice,
        Table.find?_upsert_self .., rfl⟩

/-- What the head of a chain says: its length and the digest it ends at. -/
theorem DeviceChain.head_eq (chain : DeviceChain P v workspace device operations)
    (linked : Linked SyncOperationV1.previousDeviceHash (operationDigest P) .zero operations final)
    (found : v.deviceHead workspace device = some stored) :
    stored.sequence = operations.length ∧ stored.canonicalHash = final := by
  rw [chain.head, Option.map_eq_some_iff] at found
  obtain ⟨last, isLast, rfl⟩ := found
  have position := congrArg List.getLast? chain.sequences
  rw [List.getLast?_map, isLast, List.getLast?_range'] at position
  refine ⟨?_, by rw [linked.final_eq, isLast]; rfl⟩
  split at position <;> simp_all

/-- An operation the chain check accepts is the next one of its device's chain. -/
theorem DeviceChain.next (chain : DeviceChain P v operation.workspaceId operation.deviceId operations)
    (linked : Linked SyncOperationV1.previousDeviceHash (operationDigest P) .zero operations final)
    (valid : validateDeviceChain v operation = .ok ()) :
    operation.deviceSequence = operations.length + 1 ∧ operation.previousDeviceHash = final := by
  unfold validateDeviceChain at valid
  split at valid
  case h_1 head stored =>
    obtain ⟨sequence, digest⟩ := chain.head_eq linked stored
    simp only [ok_iff, checkedSucc_eq_some] at valid
    obtain ⟨_, ⟨_, rfl⟩, sameSequence, sameHash⟩ := valid
    exact ⟨by omega, by rw [sameHash, digest]⟩
  case h_2 absent =>
    rw [chain.head, Option.map_eq_none_iff, List.getLast?_eq_none_iff] at absent
    subst absent
    cases linked
    simpa using valid

theorem DeviceChain.extend
    (chain : DeviceChain P v operation.workspaceId operation.deviceId operations)
    (recorded : Recorded P v v' operation row) :
    DeviceChain P v' operation.workspaceId operation.deviceId (operations ++ [operation]) := by
  obtain ⟨final, linked⟩ := chain.linked
  obtain ⟨sequence, previous⟩ := chain.next linked recorded.chained
  constructor
  case members =>
    intro other
    rw [recorded.signedBy, List.mem_append, chain.members]
    simp
  case sequences =>
    rw [List.map_append, chain.sequences, List.length_append, List.length_singleton,
      List.range'_concat]
    simp [sequence, Nat.add_comm]
  case linked => exact ⟨_, linked.snoc previous⟩
  case head => simp [Vault.deviceHead, recorded.deviceHeads]

theorem Recorded.preserves (recorded : Recorded P v v' operation row)
    (invariant : ChainInvariant P v) : ChainInvariant P v' where
  described := by
    intro id found foundAt
    rw [recorded.operationMeta] at foundAt
    rw [recorded.operations]
    by_cases same : id = operation.operationId
    · subst same
      rw [Table.find?_upsert_self, Option.some.injEq] at foundAt
      subst foundAt
      exact ⟨_, Table.find?_upsert_self .., rfl, rfl, recorded.sameAccount,
        recorded.sameWorkspace, recorded.sameDevice, recorded.sameSequence, recorded.sameDigest,
        recorded.encodable⟩
    · rw [Table.find?_upsert_of_ne _ _ (Ne.symm same)] at foundAt ⊢
      exact invariant.described id found foundAt
  chained := by
    intro workspace device
    obtain ⟨operations, chain⟩ := invariant.chained workspace device
    by_cases own : workspace = operation.workspaceId ∧ device = operation.deviceId
    · obtain ⟨rfl, rfl⟩ := own
      exact ⟨_, chain.extend recorded⟩
    · refine ⟨operations, ?_, chain.sequences, chain.linked, ?_⟩
      · intro other
        rw [chain.members, recorded.signedBy]
        tauto
      · have elsewhere : toLex (workspace, device) ≠
            toLex (operation.workspaceId, operation.deviceId) := by
          simpa using own
        rw [Vault.deviceHead, recorded.deviceHeads, Table.find?_upsert_of_ne _ _ elsewhere.symm]
        exact chain.head

theorem Write.preserves (write : Write P KeepsSigned v v') (invariant : ChainInvariant P v) :
    ChainInvariant P v' := by
  cases write with
  | applied valid _ ran => exact (applyFresh_recorded valid ran).preserves invariant
  | persisted valid ran => exact (persistFresh_recorded valid ran).preserves invariant
  | quiet quiet => exact quiet.signed.preserves invariant
  | outside kept => exact kept.preserves invariant

/-- A vault in which nothing has been signed yet, whatever records it holds. -/
structure Unsigned (v : Vault) : Prop where
  operationMeta : v.operationMeta = .empty
  deviceHeads : v.deviceHeads = .empty

theorem Unsigned.chainInvariant (unsigned : Unsigned v) : ChainInvariant P v where
  described := by
    intro id found foundAt
    simp [unsigned.operationMeta] at foundAt
  chained := by
    intro workspace device
    refine ⟨[], ?_, rfl, ⟨_, .nil _⟩, ?_⟩
    · intro operation
      simp [SignedBy, unsigned.operationMeta]
    · simp [Vault.deviceHead, unsigned.deviceHeads]

/-- A vault reached from an unsigned one by transactions in any order, with any other writes
that touch no signed operation between them. -/
def Reachable (P : Primitives) (v : Vault) : Prop :=
  ∃ first, Unsigned first ∧ Relation.ReflTransGen (VaultStep P KeepsSigned) first v

theorem Reachable.chainInvariant (reachable : Reachable P v) : ChainInvariant P v := by
  obtain ⟨first, unsigned, steps⟩ := reachable
  exact VaultStep.run_invariant (ChainInvariant P) (fun _ _ write => write.preserves) steps
    unsigned.chainInvariant

/-- The operation numbered `n` of numbered operations stands at place `n - 1`. -/
theorem place_of_sequences {operations : List SyncOperationV1}
    (sequences : operations.map SyncOperationV1.deviceSequence = List.range' 1 operations.length)
    (member : operation ∈ operations) :
    1 ≤ operation.deviceSequence ∧ operations[operation.deviceSequence - 1]? = some operation := by
  obtain ⟨place, inside, rfl⟩ := List.getElem_of_mem member
  have numbered : operations[place].deviceSequence = 1 + place := by
    have entry := congrArg (fun sequences => sequences[place]?) sequences
    simpa [List.getElem?_range', inside] using entry
  refine ⟨by omega, ?_⟩
  rw [numbered, Nat.add_sub_cancel_left]
  exact List.getElem?_eq_getElem inside

/-- In every reachable vault a device's operations form one hash chain that ends at the stored
head, and each metadata row is that of the operation at its place in the chain. -/
theorem device_chains_intact (reachable : Reachable P v) (workspace : WorkspaceId)
    (device : DeviceId) :
    ∃ operations, DeviceChain P v workspace device operations ∧
      (∀ operation ∈ operations,
        encodeSyncOperationV1 P operation = .ok (P.writeOperation operation)) ∧
      ∀ id found, v.operationMeta.find? id = some found → found.workspaceId = workspace →
        found.deviceId = device → ∃ operation, 1 ≤ found.deviceSequence ∧
          operations[found.deviceSequence - 1]? = some operation ∧ operation.operationId = id ∧
          v.operations.find? id = some ⟨operation.recordId, operation⟩ := by
  have invariant := reachable.chainInvariant
  obtain ⟨operations, chain⟩ := invariant.chained workspace device
  refine ⟨operations, chain, ?_, ?_⟩
  · intro operation member
    obtain ⟨id, row, found, foundAt, _, _, storedAt, rfl⟩ := (chain.members operation).mp member
    obtain ⟨stored, storedAgain, _, described⟩ := invariant.described id found foundAt
    obtain rfl : row = stored := Option.some.inj (storedAt.symm.trans storedAgain)
    exact described.encodable
  · intro id found foundAt sameWorkspace sameDevice
    obtain ⟨row, storedAt, sameRecord, described⟩ := invariant.described id found foundAt
    have member : row.operation ∈ operations :=
      (chain.members _).mpr ⟨id, row, found, foundAt, sameWorkspace, sameDevice, storedAt, rfl⟩
    obtain ⟨positive, atPlace⟩ := place_of_sequences chain.sequences member
    refine ⟨row.operation, ?_, ?_, described.operationId, ?_⟩
    · rw [described.sequence]; exact positive
    · rw [described.sequence]; exact atPlace
    · rw [storedAt, ← sameRecord]

open Sample (queueWorld early late earlyCommitted bothCommitted commit_early commit_late)

/-- The two operations of a device that committed twice are its chain. -/
theorem device_chains_intact_after_two_commits :
    Reachable queueWorld (bothCommitted earlyCommitted) ∧
      ∃ operations, DeviceChain queueWorld (bothCommitted earlyCommitted) Sample.workspace
        (Sample.id 5) operations ∧ operations[0]? = some early ∧ operations[1]? = some late := by
  have reachable : Reachable queueWorld (bothCommitted earlyCommitted) :=
    ⟨Vault.empty, ⟨rfl, rfl⟩, .tail (.single (.commit commit_early)) (.commit commit_late)⟩
  obtain ⟨operations, chain, _, placed⟩ := device_chains_intact reachable Sample.workspace
    (Sample.id 5)
  obtain ⟨first, _, atFirst, _, storedFirst⟩ := placed early.operationId _ rfl rfl rfl
  obtain ⟨second, _, atSecond, _, storedSecond⟩ := placed late.operationId _ rfl rfl rfl
  have isFirst : some (⟨early.recordId, early⟩ : OperationRow) = some ⟨_, first⟩ := storedFirst
  have isSecond : some (⟨late.recordId, late⟩ : OperationRow) = some ⟨_, second⟩ := storedSecond
  obtain rfl := congrArg OperationRow.operation (Option.some.inj isFirst)
  obtain rfl := congrArg OperationRow.operation (Option.some.inj isSecond)
  exact ⟨reachable, operations, chain, atFirst, atSecond⟩

end ContextRelay
