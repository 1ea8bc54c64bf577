import ContextRelay.PushOrder

/-! Runs of the hosted log. Whatever batches the sessions of any accounts send, no row changes and
the rows of a device in a workspace stay one chain. So a batch that was appended can be sent again
after its reply was lost. -/
namespace ContextRelay

open Library

variable {P : Primitives} {log log' : HostedLog} {state next : AppendState}
  {context : IdentityContext} {operation : SyncOperationV1} {scope : SyncScope} {device : DeviceId}
  {chain batch : List SyncOperationV1} {receipt : PushReceipt}
  {identityContext : WorkspaceId → DeviceId → Except IdentityError IdentityContext}

/-- The rows of a device in a scope are the whole of a chain. -/
structure Whole (P : Primitives) (log : HostedLog) (scope : SyncScope) (device : DeviceId)
    (chain : List SyncOperationV1) : Prop where
  numbered : Numbered P scope device chain
  hosts : Hosts P log scope device chain chain.length

/-- The log has a row of which the operation is a duplicate. -/
def IdentityContext.Repeats (P : Primitives) (context : IdentityContext) (log : HostedLog)
    (operation : SyncOperationV1) : Prop :=
  ∃ row, log.operations.find? operation.operationId = some row ∧
    ∀ state : AppendState, state.log.operations.find? operation.operationId = some row →
      appendOperation P context state operation =
        .ok { state with duplicates := state.duplicates ++ [operation.operationId] }

/-- What the first log has is in the second, and each chain of it is continued there. -/
structure Grows (P : Primitives) (log log' : HostedLog) : Prop where
  rows : ∀ id row, log.operations.find? id = some row → log'.operations.find? id = some row
  chains : ∀ scope device chain, Whole P log scope device chain →
    ∃ more, Whole P log' scope device (chain ++ more)

theorem Grows.refl : Grows P log log :=
  ⟨fun _ _ found => found, fun _ _ _ whole => ⟨[], by simpa using whole⟩⟩

theorem Grows.trans (first : Grows P log middle) (second : Grows P middle log') :
    Grows P log log' where
  rows id row found := second.rows id row (first.rows id row found)
  chains scope device chain whole := by
    obtain ⟨more, whole⟩ := first.chains scope device chain whole
    obtain ⟨evenMore, whole⟩ := second.chains _ _ _ whole
    exact ⟨more ++ evenMore, by simpa using whole⟩

section

variable (whole : Whole P log scope device chain)
  (fresh : log.operations.find? operation.operationId = none)

include whole fresh

theorem Whole.ne_of_fresh (member : other ∈ chain) : operation.operationId ≠ other.operationId := by
  intro same
  have held := whole.hosts.held other member (whole.numbered.bounds member).2
  rw [← same, fresh] at held
  cases held

/-- The chain check takes only what continues the chain of its device. -/
theorem Whole.append (owned : Owned scope device operation)
    (account : context.accountId = scope.accountId)
    (workspace : context.workspaceId = scope.workspaceId) (own : context.deviceId = device)
    (successor : checkSuccessor (log.deviceHead context) operation = .ok ()) :
    Whole P (log.insert operation (operationDigest P operation)) scope device
      (chain ++ [operation]) := by
  have apart {other} (member : other ∈ chain) := whole.ne_of_fresh fresh member
  obtain ⟨numbered, hosts⟩ := whole
  obtain ⟨final, linked⟩ := numbered.linked
  have next : operation.deviceSequence = chain.length + 1 ∧ operation.previousDeviceHash = final := by
    rw [linked.final_eq]
    rcases hosts.head numbered context account workspace own with ⟨none, found⟩ |
      ⟨last, member, number, found⟩ <;> simp only [found, checkSuccessor, ok_iff] at successor
    · rwa [List.length_eq_zero_iff.mp none]
    · have place := (place_of_sequences numbered.sequences member).2
      rw [number] at place successor
      rwa [List.getLast?_eq_getElem?, place]
  have longer : Numbered P scope device (chain ++ [operation]) := by
    refine ⟨List.forall_mem_append.mpr ⟨numbered.owned, List.forall_mem_singleton.mpr owned⟩, ?_,
      ⟨_, linked.snoc next.2⟩, ?_⟩
    · simp [numbered.sequences, next.1, List.range'_1_concat, Nat.add_comm]
    · simp only [List.mem_append, List.mem_singleton]
      rintro left (leftMember | rfl) right (rightMember | rfl) same
      · exact numbered.distinct left leftMember right rightMember same
      · exact absurd same.symm (apart leftMember)
      · exact absurd same (apart rightMember)
      · rfl
  have before : Hosts P log scope device (chain ++ [operation]) chain.length :=
    ⟨by simp, List.forall_mem_append.mpr ⟨hosts.held, List.forall_mem_singleton.mpr (by omega)⟩,
      List.forall_mem_append.mpr ⟨hosts.free, List.forall_mem_singleton.mpr fun _ => fresh⟩,
      fun id row found mine => (hosts.only id row found mine).imp_left (List.mem_append_left _)⟩
  exact ⟨longer, by simpa using before.insert longer (by simp) next.1⟩

/-- An insertion leaves the chains of other devices and workspaces. -/
theorem Whole.frame (foreign : ¬ Owned scope device operation) :
    Whole P (log.insert operation (operationDigest P operation)) scope device chain := by
  refine ⟨whole.numbered, le_rfl, ?_, ?_, ?_⟩
  · intro other member low
    exact (Table.find?_upsert_of_ne _ _ (whole.ne_of_fresh fresh member)).trans
      (whole.hosts.held other member low)
  · intro other member high
    have := (whole.numbered.bounds member).2
    omega
  · intro id row found owned
    refine whole.hosts.only id row ((Table.find?_upsert_of_ne _ _ ?_).symm.trans found) owned
    rintro rfl
    obtain rfl := Option.some.inj ((Table.find?_upsert_self ..).symm.trans found)
    exact foreign owned

end

theorem appendOperation_grows (ran : appendOperation P context state operation = .ok next) :
    Grows P state.log next.log ∧ context.Repeats P next.log operation := by
  simp only [appendOperation, ok_iff] at ran
  obtain ⟨envelope, ran⟩ := ran
  split at ran <;> rename_i found <;> simp only [ok_iff] at ran
  · obtain ⟨same, rfl⟩ := ran
    refine ⟨.refl, _, found, fun state found => ?_⟩
    simp [appendOperation, require_pos envelope, found, require_pos same]
  · obtain ⟨successor, _, _, rfl⟩ := ran
    refine ⟨⟨?_, ?_⟩, _, Table.find?_upsert_self .., fun state found => ?_⟩
    · intro id row known
      refine (Table.find?_upsert_of_ne _ _ ?_).trans known
      rintro rfl
      cases found.symm.trans known
    · intro scope device chain whole
      by_cases owned : Owned scope device operation
      · exact ⟨[operation], whole.append found owned (envelope.1 ▸ owned.1)
          (envelope.2.1 ▸ owned.2.1) (envelope.2.2.1 ▸ owned.2.2) successor⟩
      · exact ⟨[], (List.append_nil chain).symm ▸ whole.frame found owned⟩
    · simp [appendOperation, found, require, envelope]

theorem appendOperations_grow (ran : thread (appendOperation P context) state batch = .ok next) :
    Grows P state.log next.log ∧ ∀ operation ∈ batch, context.Repeats P next.log operation := by
  refine thread_invariant_done (fun done reached => Grows P state.log reached.log ∧
    ∀ operation ∈ done, context.Repeats P reached.log operation) ?_ ⟨.refl, by simp⟩ ran
  rintro done reached operation after ⟨grows, repeats⟩ ran
  obtain ⟨more, repeated⟩ := appendOperation_grows ran
  refine ⟨grows.trans more, List.forall_mem_append.mpr ⟨fun other member => ?_,
    List.forall_mem_singleton.mpr repeated⟩⟩
  obtain ⟨row, found, again⟩ := repeats other member
  exact ⟨row, more.rows _ _ found, again⟩

/-- A call of some session, or a write to the byte counts of an account. -/
inductive HostedStep (P : Primitives) : HostedLog → HostedLog → Prop where
  | append {log log' : HostedLog} {batch : List SyncOperationV1} {receipt : PushReceipt}
      {identityContext : WorkspaceId → DeviceId → Except IdentityError IdentityContext}
      (ran : serviceAppendSyncOperations P identityContext log batch = .ok (receipt, log')) :
      HostedStep P log log'
  | counts {log log' : HostedLog} (kept : log'.operations = log.operations) : HostedStep P log log'

theorem HostedStep.run_grows (run : Relation.ReflTransGen (HostedStep P) log log') :
    Grows P log log' := by
  induction run with
  | refl => exact .refl
  | tail _ step ih =>
    refine ih.trans ?_
    cases step with
    | append ran =>
      simp only [serviceAppendSyncOperations, ok_iff, Prod.mk.injEq] at ran
      obtain ⟨_, _, _, _, _, final, ran, _, rfl⟩ := ran
      exact (appendOperations_grow ran).1
    | counts kept =>
      refine ⟨fun id row found => kept ▸ found, fun _ _ chain whole => ⟨[], ?_⟩⟩
      exact (List.append_nil chain).symm ▸ ⟨whole.numbered, le_rfl, kept ▸ whole.hosts.held,
        kept ▸ whole.hosts.free, kept ▸ whole.hosts.only⟩

theorem Sample.append_in_turn : ∃ log',
    serviceAppendSyncOperations queueWorld fifthDevice emptyLog [early, late] =
      .ok (⟨[early.operationId, late.operationId], []⟩, log') := ⟨_, rfl⟩

open Sample (queueWorld emptyLog fifthDevice early late)

/-- Of a log that started without rows, the rows of every device are a chain: no number is missing
or given twice, and each operation names the digest of the one before. What is appended later
continues the chain. -/
theorem hosted_chains_only_grow (run : Relation.ReflTransGen (HostedStep P) log log') :
    (log.operations = .empty → ∀ scope device, ∃ chain, Whole P log' scope device chain) ∧
    ∀ scope device chain, Whole P log scope device chain →
      ∃ more, Whole P log' scope device (chain ++ more) := by
  have grows := HostedStep.run_grows run
  refine ⟨fun empty scope device => grows.chains scope device [] ?_, grows.chains⟩
  refine ⟨⟨by simp, rfl, ⟨_, .nil _⟩, by simp⟩, le_rfl, by simp, by simp, fun id row found => ?_⟩
  rw [empty] at found
  cases found

theorem hosted_chains_only_grow_in_turn : ∃ log', HostedStep queueWorld emptyLog log' ∧
    ∀ scope device, ∃ chain, Whole queueWorld log' scope device chain := by
  obtain ⟨log', ran⟩ := Sample.append_in_turn
  exact ⟨log', .append ran, (hosted_chains_only_grow (.single (.append ran))).1 rfl⟩

/-- A batch sent again after its reply was lost is all duplicates and changes nothing, whatever
was appended in between. -/
theorem repeated_batch_is_duplicates {later : HostedLog}
    (ran : serviceAppendSyncOperations P identityContext log batch = .ok (receipt, log'))
    (run : Relation.ReflTransGen (HostedStep P) log' later) :
    serviceAppendSyncOperations P identityContext later batch =
      .ok (⟨[], batch.map SyncOperationV1.operationId⟩, later) := by
  simp only [serviceAppendSyncOperations, ok_iff, Prod.mk.injEq] at ran
  obtain ⟨bounds, first, starts, context, identity, final, ran, _, rfl⟩ := ran
  have again : ∀ items duplicates, (∀ operation ∈ items, context.Repeats P final.log operation) →
      thread (appendOperation P context) ⟨later, [], duplicates⟩ items =
        .ok ⟨later, [], duplicates ++ items.map SyncOperationV1.operationId⟩ := by
    intro items
    induction items with
    | nil => simp [thread]
    | cons operation rest ih =>
      intro duplicates repeats
      obtain ⟨⟨row, found, repeated⟩, others⟩ := List.forall_mem_cons.mp repeats
      rw [thread, repeated _ ((HostedStep.run_grows run).rows _ _ found), ok_bind, ih _ others]
      simp
  simp [serviceAppendSyncOperations, require_pos bounds, starts, present_some, identity,
    renameFailure, again batch [] (appendOperations_grow ran).2]

theorem repeated_batch_is_duplicates_in_turn : ∃ log',
    serviceAppendSyncOperations queueWorld fifthDevice log' [early, late] =
      .ok (⟨[], [early.operationId, late.operationId]⟩, log') := by
  obtain ⟨log', ran⟩ := Sample.append_in_turn
  exact ⟨log', repeated_batch_is_duplicates ran .refl⟩

end ContextRelay
