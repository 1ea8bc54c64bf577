import ContextRelay.HostedLog
import ContextRelay.DeviceChain

/-! A device's chain in the hosted log. A log that holds the first operations of a chain
takes the next ones in the order of the chain, and passes over those it has. -/
namespace ContextRelay

open Library

variable {P : Primitives} {log : HostedLog} {scope : SyncScope} {device : DeviceId}
  {chain : List SyncOperationV1} {count : Nat}

/-- The operation is of a device in a scope. -/
def Owned (scope : SyncScope) (device : DeviceId) (operation : SyncOperationV1) : Prop :=
  operation.accountId = scope.accountId ∧ operation.workspaceId = scope.workspaceId ∧
    operation.deviceId = device

/-- The operations of one device in a scope, numbered from one and hash-linked. -/
structure Numbered (P : Primitives) (scope : SyncScope) (device : DeviceId)
    (chain : List SyncOperationV1) : Prop where
  owned : ∀ operation ∈ chain, Owned scope device operation
  sequences : chain.map SyncOperationV1.deviceSequence = List.range' 1 chain.length
  linked : ∃ final, Linked SyncOperationV1.previousDeviceHash (operationDigest P) .zero chain final
  distinct : ∀ left ∈ chain, ∀ right ∈ chain, left.operationId = right.operationId → left = right

section

variable (numbered : Numbered P scope device chain)

include numbered

/-- Each number up to the length is that of an operation. -/
theorem Numbered.at (positive : 1 ≤ number) (within : number ≤ chain.length) : ∃ operation ∈ chain, operation.deviceSequence = number := by
  have member : number ∈ chain.map SyncOperationV1.deviceSequence := by
    rw [numbered.sequences, List.mem_range'_1]
    omega
  obtain ⟨operation, inChain, same⟩ := List.mem_map.mp member
  exact ⟨operation, inChain, same⟩

theorem Numbered.bounds (member : operation ∈ chain) :
    1 ≤ operation.deviceSequence ∧ operation.deviceSequence ≤ chain.length := by
  have inside : operation.deviceSequence ∈ chain.map SyncOperationV1.deviceSequence :=
    List.mem_map_of_mem member
  rw [numbered.sequences, List.mem_range'_1] at inside
  omega

/-- Two operations of one number are the same. -/
theorem Numbered.unique (left : first ∈ chain) (right : second ∈ chain)
    (same : first.deviceSequence = second.deviceSequence) :
    first = second := by
  have distinct : (chain.map SyncOperationV1.deviceSequence).Nodup := by
    rw [numbered.sequences]
    exact List.nodup_range'
  exact List.inj_on_of_nodup_map distinct left right same

/-- The first operation names no other. -/
theorem Numbered.starts (member : operation ∈ chain) (number : operation.deviceSequence = 1) : operation.previousDeviceHash = .zero := by
  obtain ⟨final, linked⟩ := numbered.linked
  have place := (place_of_sequences numbered.sequences member).2
  rw [number] at place
  exact linked.first place

/-- An operation names the digest of the one before it. -/
theorem Numbered.follows (left : first ∈ chain) (right : second ∈ chain)
    (next : second.deviceSequence = first.deviceSequence + 1) :
    second.previousDeviceHash = operationDigest P first := by
  obtain ⟨final, linked⟩ := numbered.linked
  obtain ⟨positive, before⟩ := place_of_sequences numbered.sequences left
  have after := (place_of_sequences numbered.sequences right).2
  refine linked.consecutive before ?_
  rw [← after, next]
  congr 1
  omega

end

/-- The log holds the first `count` operations of a chain, and no other of its device. -/
structure Hosts (P : Primitives) (log : HostedLog) (scope : SyncScope) (device : DeviceId)
    (chain : List SyncOperationV1) (count : Nat) : Prop where
  within : count ≤ chain.length
  held : ∀ operation ∈ chain, operation.deviceSequence ≤ count →
    log.operations.find? operation.operationId = some ⟨operation, operationDigest P operation⟩
  free : ∀ operation ∈ chain, count < operation.deviceSequence →
    log.operations.find? operation.operationId = none
  only : ∀ id row, log.operations.find? id = some row → Owned scope device row.operation →
    row.operation ∈ chain ∧ row.operation.deviceSequence ≤ count ∧
      row.canonicalSha256 = operationDigest P row.operation

section

variable (hosts : Hosts P log scope device chain count) (numbered : Numbered P scope device chain)

include hosts numbered

/-- The greatest row of the device is the last operation of the chain that the log holds. -/
theorem Hosts.head (context : IdentityContext) (account : context.accountId = scope.accountId)
    (workspace : context.workspaceId = scope.workspaceId) (own : context.deviceId = device) :
    (count = 0 ∧ log.deviceHead context = none) ∨
      ∃ operation ∈ chain, operation.deviceSequence = count ∧
        log.deviceHead context = some ⟨operation, operationDigest P operation⟩ := by
  have owns : ∀ row, context.owns row = true ↔ Owned scope device row.operation := by
    intro row
    simp [IdentityContext.owns, Owned, account, workspace, own]
  have rows : ∀ row, row ∈ log.operations.values.filter context.owns ↔
      ∃ operation ∈ chain, operation.deviceSequence ≤ count ∧
        row = ⟨operation, operationDigest P operation⟩ := by
    intro row
    rw [List.mem_filter, owns]
    constructor
    · rintro ⟨member, owned⟩
      obtain ⟨⟨id, stored⟩, inRows, rfl⟩ := List.mem_map.mp member
      have found := (Table.find?_eq_some _).mpr inRows
      obtain ⟨inChain, low, digest⟩ := hosts.only id stored found owned
      exact ⟨stored.operation, inChain, low, by rw [← digest]⟩
    · rintro ⟨operation, inChain, low, rfl⟩
      have found := hosts.held operation inChain low
      exact ⟨List.mem_map.mpr ⟨_, (Table.find?_eq_some _).mp found, rfl⟩,
        numbered.owned operation inChain⟩
  unfold HostedLog.deviceHead
  rcases Nat.eq_zero_or_pos count with none | some
  · refine .inl ⟨none, List.argmax_eq_none.mpr (List.eq_nil_iff_forall_not_mem.mpr ?_)⟩
    intro row member
    obtain ⟨operation, inChain, low, _⟩ := (rows row).mp member
    have positive := (numbered.bounds inChain).1
    omega
  · right
    obtain ⟨last, inChain, number⟩ := numbered.at some hosts.within
    have listed := (rows ⟨last, operationDigest P last⟩).mpr ⟨last, inChain, number.le, rfl⟩
    cases found : (log.operations.values.filter context.owns).argmax
        (fun row => row.operation.deviceSequence) with
    | none =>
      rw [List.argmax_eq_none] at found
      rw [found] at listed
      cases listed
    | some greatest =>
      obtain ⟨operation, member, low, rfl⟩ := (rows greatest).mp (List.argmax_mem found)
      have high := List.le_of_mem_argmax listed found
      dsimp only at high
      have same : operation.deviceSequence = count := by omega
      exact ⟨operation, member, same, rfl⟩

/-- Inserting the next operation of the chain. -/
theorem Hosts.insert (member : operation ∈ chain) (next : operation.deviceSequence = count + 1) :
    Hosts P (log.insert operation (operationDigest P operation)) scope device chain (count + 1) where
  within := by
    have bound := (numbered.bounds member).2
    omega
  held := by
    intro other inChain low
    by_cases same : operation.operationId = other.operationId
    · obtain rfl := numbered.distinct operation member other inChain same
      exact Table.find?_upsert_self ..
    · refine (Table.find?_upsert_of_ne _ _ same).trans (hosts.held other inChain ?_)
      by_contra high
      exact same (congrArg _ (numbered.unique member inChain (by omega)))
  free := by
    intro other inChain high
    have apart : operation.operationId ≠ other.operationId := by
      intro same
      obtain rfl := numbered.distinct operation member other inChain same
      omega
    exact (Table.find?_upsert_of_ne _ _ apart).trans (hosts.free other inChain (by omega))
  only := by
    intro id row found owned
    by_cases same : operation.operationId = id
    · subst same
      obtain rfl := Option.some.inj ((Table.find?_upsert_self ..).symm.trans found)
      exact ⟨member, next.le, rfl⟩
    · have before := (Table.find?_upsert_of_ne _ _ same).symm.trans found
      obtain ⟨inChain, low, digest⟩ := hosts.only id row before owned
      exact ⟨inChain, by omega, digest⟩

/-- The chain check takes the next operation of the chain. -/
theorem Hosts.checkSuccessor (context : IdentityContext)
    (account : context.accountId = scope.accountId)
    (workspace : context.workspaceId = scope.workspaceId) (own : context.deviceId = device)
    (member : operation ∈ chain) (next : operation.deviceSequence = count + 1) :
    checkSuccessor (log.deviceHead context) operation = .ok () := by
  rcases hosts.head numbered context account workspace own with ⟨rfl, none⟩ |
    ⟨last, inChain, number, found⟩
  · simp only [none, ContextRelay.checkSuccessor, ok_iff]
    exact ⟨next, numbered.starts member next⟩
  · simp only [found, ContextRelay.checkSuccessor, ok_iff]
    exact ⟨by rw [next, number], numbered.follows inChain member (by omega)⟩

end

/-- Appending an operation that the log has or that is next in its chain. -/
theorem Hosts.appendOperation (hosts : Hosts P state.log scope device chain count)
    (numbered : Numbered P scope device chain) (member : operation ∈ chain)
    (near : operation.deviceSequence ≤ count + 1) :
    (∀ error, appendOperation P context state operation = .error error →
      error.isDisorder = false) ∧
      ∀ next, appendOperation P context state operation = .ok next →
        ∃ later, Hosts P next.log scope device chain later ∧ operation.deviceSequence ≤ later := by
  obtain ⟨account, workspace, own⟩ := numbered.owned operation member
  by_cases known : operation.deviceSequence ≤ count
  · have found := hosts.held operation member known
    unfold ContextRelay.appendOperation
    simp only [found, bind_eq_error, require_eq_error, reduceCtorEq, ok_iff, and_false,
      exists_const, or_false]
    refine ⟨?_, ?_⟩
    · rintro error (⟨_, rfl⟩ | ⟨⟨sameAccount, sameWorkspace, _⟩, mismatch, _⟩)
      · rfl
      · exact absurd ⟨sameAccount, sameWorkspace, rfl⟩ mismatch
    · rintro next ⟨_, _, rfl⟩
      exact ⟨count, hosts, known⟩
  · have next : operation.deviceSequence = count + 1 := by omega
    have fresh := hosts.free operation member (by omega)
    unfold ContextRelay.appendOperation
    simp only [fresh, bind_eq_error, require_eq_error, reduceCtorEq, ok_iff, and_false,
      exists_const, or_false]
    refine ⟨?_, ?_⟩
    · rintro error (⟨_, rfl⟩ | ⟨⟨sameAccount, sameWorkspace, sameDevice, _⟩, failed⟩)
      · rfl
      · have follows := hosts.checkSuccessor numbered context (sameAccount ▸ account)
          (sameWorkspace ▸ workspace) (sameDevice ▸ own) member next
        rcases failed with gap | ⟨_, ⟨_, rfl⟩ | ⟨_, _, rfl⟩⟩
        · simp [follows] at gap
        · rfl
        · rfl
    · rintro after ⟨_, _, _, _, rfl⟩
      exact ⟨count + 1, hosts.insert numbered member next, next.le⟩

/-- A log takes consecutive operations of a chain from one it has or lacks first. -/
theorem Hosts.appendOperations (hosts : Hosts P state.log scope device chain count)
    (numbered : Numbered P scope device chain) (members : ∀ operation ∈ batch, operation ∈ chain)
    (consecutive : batch.map SyncOperationV1.deviceSequence = List.range' (start + 1) batch.length)
    (near : start ≤ count) :
    ∀ error, thread (ContextRelay.appendOperation P context) state batch = .error error →
      error.isDisorder = false := by
  intro error failed
  induction batch generalizing state count start with
  | nil => simp [thread] at failed
  | cons operation rest ih =>
    rw [List.map_cons, List.length_cons, List.range'_succ, List.cons.injEq] at consecutive
    obtain ⟨number, others⟩ := consecutive
    obtain ⟨orderly, stays⟩ : _ ∧ _ := hosts.appendOperation numbered
      (members operation (by simp)) (by omega)
    rcases bind_eq_error.mp failed with refused | ⟨next, appended, failed⟩
    · exact orderly error refused
    · obtain ⟨later, hostsLater, past⟩ := stays next appended
      exact ih hostsLater (fun other member => members other (by simp [member])) others (by omega)
        failed

/-- What the builder seals is sealed as the log asks. -/
theorem build_sealed (built : OperationBuilder.build P identity nonce request = .ok result) :
    result.operation.Sealed P := by
  simp only [OperationBuilder.build, ok_iff, Prod.exists] at built
  obtain ⟨_, _, _, _, _, _, _, _, _, _, _, encrypted, _, fits, _, _, _, _, rfl⟩ := built
  exact ⟨fits, rfl⟩

/-- A failure that is final and no disorder is that of an envelope. -/
theorem appendOperation_integrity
    (failed : appendOperation P context state operation = .error error)
    (integrity : error.transportError = .integrity) (orderly : error.isDisorder = false)
    (valid : operation.validate = .ok ()) (signs : context.Signs operation) :
    ¬ operation.Sealed P := by
  rintro ⟨fits, hash⟩
  have schema : operation.schemaVersion = 1 := by
    simp only [SyncOperationV1.validate, ok_iff] at valid
    exact valid.1
  obtain ⟨account, workspace, device, control, key⟩ := signs
  unfold appendOperation at failed
  rw [require_pos ⟨account, workspace, device, control, key, schema, fits, hash⟩, ok_bind] at failed
  split at failed
  · simp only [bind_eq_error, require_eq_error, reduceCtorEq, pure_eq_ok, and_false, exists_false,
      or_false] at failed
    obtain ⟨_, rfl⟩ := failed
    cases orderly
  · simp only [bind_eq_error, require_eq_error, reduceCtorEq, pure_eq_ok, and_false, exists_false,
      or_false] at failed
    rcases failed with gap | ⟨_, _, ⟨_, rfl⟩ | ⟨_, _, _, rfl⟩⟩
    · unfold checkSuccessor at gap
      split at gap <;> simp only [bind_eq_error, require_eq_error] at gap <;>
        rcases gap with ⟨_, rfl⟩ | ⟨_, _, _, rfl⟩ <;> cases orderly
    · cases integrity
    · cases integrity

/-- A failure of a whole batch that is final and no disorder is that of an operation's envelope. -/
theorem serviceAppend_integrity {device : DeviceId}
    (failed : serviceAppendSyncOperations P identityContext log batch = .error error)
    (integrity : error.transportError = .integrity) (orderly : error.isDisorder = false)
    (own : ∀ operation ∈ batch, operation.workspaceId = workspace ∧ operation.deviceId = device)
    (identity : identityContext workspace device = .ok context) :
    ∃ operation ∈ batch, operation.validate = .ok () → context.Signs operation →
      ¬ operation.Sealed P := by
  simp only [serviceAppendSyncOperations, bind_eq_error, require_eq_error, present_eq_error,
    renameFailure_eq_error, reduceCtorEq, pure_eq_ok, and_false, exists_false, or_false] at failed
  rcases failed with ⟨_, rfl⟩ | ⟨_, _, ⟨_, rfl⟩ | ⟨first, found, failed⟩⟩
  · cases integrity
  · cases integrity
  have same : identityContext first.workspaceId first.deviceId = .ok context := by
    obtain ⟨sameWorkspace, sameDevice⟩ := own first (List.mem_of_head? (present_eq_ok.mp found))
    rw [sameWorkspace, sameDevice]
    exact identity
  rcases failed with ⟨_, unknown, _⟩ | ⟨other, known, failed⟩
  · cases unknown.symm.trans same
  · obtain rfl := Except.ok.inj ((renameFailure_eq_ok.mp known).symm.trans same)
    obtain ⟨before, operation, sent, failed⟩ := thread_fails failed
    exact ⟨operation, sent, appendOperation_integrity failed integrity orderly⟩

/-- The hosted append finds consecutive operations of a chain in order. -/
theorem Hosts.serviceAppend (hosts : Hosts P log scope device chain count)
    (numbered : Numbered P scope device chain) (members : ∀ operation ∈ batch, operation ∈ chain)
    (consecutive : batch.map SyncOperationV1.deviceSequence = List.range' (start + 1) batch.length)
    (near : start ≤ count)
    (identityContext : WorkspaceId → DeviceId → Except IdentityError IdentityContext) :
    ∀ error, serviceAppendSyncOperations P identityContext log batch = .error error →
      error.isDisorder = false := by
  intro error failed
  simp only [serviceAppendSyncOperations, bind_eq_error, require_eq_error, present_eq_error,
    renameFailure_eq_error, reduceCtorEq, pure_eq_ok, and_false, exists_false, or_false] at failed
  rcases failed with ⟨_, rfl⟩ | ⟨_, _, ⟨_, rfl⟩ | ⟨first, _, ⟨reason, _, rfl⟩ | ⟨context, _, failed⟩⟩⟩
  · rfl
  · rfl
  · cases reason <;> rfl
  · have start : Hosts P (AppendState.mk log [] []).log scope device chain count := hosts
    exact start.appendOperations numbered members consecutive near error failed

end ContextRelay
