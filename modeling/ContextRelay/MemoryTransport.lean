import ContextRelay.Push
import ContextRelay.Effects

/-! The in-memory provider: a log of operations for each scope, with an index by id and by
place in a device's chain. A push is checked as a whole before anything of it is stored. -/
namespace ContextRelay

open Library

variable (P : Primitives)

/-- The log of a scope under `(received_at, operation_id)`, and its indexes. -/
structure ScopeStore where
  operations : Table (String ×ₗ OperationId) CanonicalOperation
  byId : Table OperationId CanonicalOperation
  bySequence : Table (DeviceId ×ₗ Nat) OperationId

def ScopeStore.empty : ScopeStore := ⟨.empty, .empty, .empty⟩

/-- `transientPushes` is how many of the next pushes the fault schedule makes fail. -/
structure InMemoryTransport where
  scopes : Table (AccountId ×ₗ WorkspaceId) ScopeStore
  nextReceipt : Nat
  transientPushes : Nat

def InMemoryTransport.new : InMemoryTransport := ⟨.empty, 0, 0⟩

def scopeKey (scope : SyncScope) : AccountId ×ₗ WorkspaceId :=
  toLex (scope.accountId, scope.workspaceId)

def InMemoryTransport.store (transport : InMemoryTransport) (scope : SyncScope) : ScopeStore :=
  (transport.scopes.find? (scopeKey scope)).getD .empty

/-- The receipt time of the batch with some number, padded so that text order is number order. -/
def memoryReceivedAt (receipt : Nat) : String :=
  let digits := Nat.toDigits 10 receipt
  "memory-" ++ String.ofList (List.replicate (20 - digits.length) '0' ++ digits)

def validateCanonicalOperation (scope : SyncScope) (item : CanonicalOperation) :
    Except TransportError Unit := do
  let decoded ← orFail (decodeSyncOperationV1 P item.bytes) .integrity
  orFail decoded.validate .integrity
  let canonical ← orFail (encodeSyncOperationV1 P decoded) .integrity
  require (canonical = item.bytes ∧ decoded.operationId = item.operationId ∧
    decoded.deviceId = item.deviceId ∧ decoded.deviceSequence = item.deviceSequence ∧
    decoded.accountId = scope.accountId ∧ decoded.workspaceId = scope.workspaceId) .integrity

/-- How far the check of a batch has got. -/
structure PushProgress where
  accepted : List OperationId
  duplicates : List OperationId
  seen : Table OperationId CanonicalOperation
  newSequences : Table (DeviceId ×ₗ Nat) OperationId

def PushProgress.start : PushProgress := ⟨[], [], .empty, .empty⟩

def pushItem (scope : SyncScope) (store : ScopeStore) (progress : PushProgress)
    (item : CanonicalOperation) : Except TransportError PushProgress := do
  validateCanonicalOperation P scope item
  match progress.seen.find? item.operationId with
  | some prior => do
    require (prior = item) .integrity
    pure progress
  | none =>
    let seen := progress.seen.upsert item.operationId item
    match store.byId.find? item.operationId with
    | some existing => do
      require (existing = item) .integrity
      pure { progress with
        seen
        duplicates := progress.duplicates ++ [item.operationId] }
    | none => do
      let sequence := toLex (item.deviceId, item.deviceSequence)
      require (store.bySequence.find? sequence = none ∧
        progress.newSequences.find? sequence = none) .integrity
      pure { progress with
        seen
        newSequences := progress.newSequences.upsert sequence item.operationId
        accepted := progress.accepted ++ [item.operationId] }

/-- Store one accepted operation of a batch. -/
def ScopeStore.insert (receivedAt : String) (store : ScopeStore) (item : CanonicalOperation) :
    ScopeStore where
  operations := store.operations.upsert (toLex (receivedAt, item.operationId)) item
  byId := store.byId.upsert item.operationId item
  bySequence := store.bySequence.upsert (toLex (item.deviceId, item.deviceSequence)) item.operationId

/-- The accepted operations of a checked batch. -/
def PushProgress.items (progress : PushProgress) : List CanonicalOperation :=
  progress.accepted.filterMap progress.seen.find?

def batchBytes (batch : List CanonicalOperation) : Nat :=
  (batch.map (fun item => item.bytes.length)).sum

/-- Write a checked batch to the log of its scope under a new receipt time. -/
def InMemoryTransport.append (transport : InMemoryTransport) (scope : SyncScope)
    (progress : PushProgress) : InMemoryTransport :=
  let receipt := min (transport.nextReceipt + 1) u64Max
  { transport with
    scopes := transport.scopes.upsert (scopeKey scope)
      (progress.items.foldl (ScopeStore.insert (memoryReceivedAt receipt)) (transport.store scope))
    nextReceipt := receipt }

def InMemoryTransport.pushOperations (transport : InMemoryTransport) (scope : SyncScope)
    (batch : List CanonicalOperation) : Except TransportError PushReceipt × InMemoryTransport :=
  if maxBatchOperations < batch.length ∨ maxBatch < batch.length then
    (.error .configuration, transport)
  else if maxRequestBytes < batchBytes batch then (.error .configuration, transport)
  else if transport.transientPushes ≠ 0 then
    (.error .transient, { transport with transientPushes := transport.transientPushes - 1 })
  else
    let store := transport.store scope
    -- The scope has a store from now on, also when the batch is refused.
    let transport := { transport with scopes := transport.scopes.upsert (scopeKey scope) store }
    match thread (pushItem P scope store) .start batch with
    | .error failure => (.error failure, transport)
    | .ok progress =>
      let receipt : PushReceipt := ⟨progress.accepted, progress.duplicates⟩
      if progress.accepted = [] then (.ok receipt, transport)
      else (.ok receipt, transport.append scope progress)

/-! ## What a push leaves in the log -/

variable {P} {transport transport' : InMemoryTransport} {scope : SyncScope}

/-- The log of a scope holds an operation with these bytes. -/
def InMemoryTransport.Logged (transport : InMemoryTransport) (scope : SyncScope)
    (id : OperationId) (bytes : Bytes) : Prop :=
  ∃ receivedAt item, (transport.store scope).operations.find? (toLex (receivedAt, id)) = some item ∧
    item.operationId = id ∧ item.bytes = bytes

/-- The log and its index by id hold the same operations. -/
structure ScopeStore.Indexed (store : ScopeStore) : Prop where
  logged : ∀ id item, store.byId.find? id = some item → item.operationId = id ∧
    ∃ receivedAt, store.operations.find? (toLex (receivedAt, id)) = some item
  indexed : ∀ receivedAt id item, store.operations.find? (toLex (receivedAt, id)) = some item →
    store.byId.find? id = some item

def InMemoryTransport.Indexed (transport : InMemoryTransport) : Prop :=
  ∀ scope, (transport.store scope).Indexed

theorem ScopeStore.Indexed.empty : ScopeStore.empty.Indexed :=
  ⟨fun _ _ found => by simp [ScopeStore.empty] at found,
    fun _ _ _ found => by simp [ScopeStore.empty] at found⟩

/-- One store keeps everything another one logs. -/
def ScopeStore.Keeps (store later : ScopeStore) : Prop :=
  ∀ key item, store.operations.find? key = some item → later.operations.find? key = some item

section

variable {store : ScopeStore} {item : CanonicalOperation} {progress : PushProgress}

theorem ScopeStore.insert_indexed (indexed : store.Indexed)
    (fresh : store.byId.find? item.operationId = none) (receivedAt : String) :
    (store.insert receivedAt item).Indexed ∧ store.Keeps (store.insert receivedAt item) := by
  have unlogged : ∀ other, store.operations.find? (toLex (other, item.operationId)) = none := by
    intro other
    by_contra present
    obtain ⟨_, found⟩ := Option.ne_none_iff_exists'.mp present
    exact absurd (fresh.symm.trans (indexed.indexed _ _ _ found)) (by simp)
  refine ⟨⟨?_, ?_⟩, ?_⟩
  · intro id found foundAt
    by_cases same : item.operationId = id
    · subst same
      obtain rfl := Option.some.inj ((Table.find?_upsert_self ..).symm.trans foundAt)
      exact ⟨rfl, receivedAt, Table.find?_upsert_self ..⟩
    · have before := (Table.find?_upsert_of_ne _ _ same).symm.trans foundAt
      obtain ⟨sameId, at', logged⟩ := indexed.logged id found before
      have apart : toLex (receivedAt, item.operationId) ≠ toLex (at', id) := by simp [same]
      exact ⟨sameId, at', (Table.find?_upsert_of_ne _ _ apart).trans logged⟩
  · intro at' id found foundAt
    by_cases same : item.operationId = id
    · subst same
      by_cases now : receivedAt = at'
      · subst now
        obtain rfl := Option.some.inj ((Table.find?_upsert_self ..).symm.trans foundAt)
        exact Table.find?_upsert_self ..
      · have apart : toLex (receivedAt, item.operationId) ≠ toLex (at', item.operationId) := by
          simp [now]
        have before := (Table.find?_upsert_of_ne _ _ apart).symm.trans foundAt
        exact absurd ((unlogged at').symm.trans before) (by simp)
    · have apart : toLex (receivedAt, item.operationId) ≠ toLex (at', id) := by simp [same]
      have before := (Table.find?_upsert_of_ne _ _ apart).symm.trans foundAt
      exact (Table.find?_upsert_of_ne _ _ same).trans (indexed.indexed _ _ _ before)
  · intro key found foundAt
    have apart : toLex (receivedAt, item.operationId) ≠ key := by
      rintro rfl
      exact absurd ((unlogged receivedAt).symm.trans foundAt) (by simp)
    exact (Table.find?_upsert_of_ne _ _ apart).trans foundAt

/-- Storing new operations one after the other keeps the log and adds each of them. -/
theorem ScopeStore.insertAll_indexed {items : List CanonicalOperation} (indexed : store.Indexed)
    (distinct : (items.map CanonicalOperation.operationId).Nodup)
    (fresh : ∀ item ∈ items, store.byId.find? item.operationId = none) (receivedAt : String) :
    (items.foldl (ScopeStore.insert receivedAt) store).Indexed ∧
      store.Keeps (items.foldl (ScopeStore.insert receivedAt) store) ∧
      ∀ item ∈ items, (items.foldl (ScopeStore.insert receivedAt) store).operations.find?
        (toLex (receivedAt, item.operationId)) = some item := by
  induction items generalizing store with
  | nil => exact ⟨indexed, fun _ _ found => found, by simp⟩
  | cons item rest ih =>
    rw [List.map_cons, List.nodup_cons] at distinct
    obtain ⟨stored, kept⟩ := ScopeStore.insert_indexed indexed (fresh item (by simp)) receivedAt
    have freshAfter : ∀ later ∈ rest,
        (store.insert receivedAt item).byId.find? later.operationId = none := by
      intro later member
      have apart : item.operationId ≠ later.operationId :=
        fun same => distinct.1 (same ▸ List.mem_map_of_mem member)
      exact (Table.find?_upsert_of_ne _ _ apart).trans (fresh later (by simp [member]))
    obtain ⟨final, keptAfter, logged⟩ := ih stored distinct.2 freshAfter
    refine ⟨final, fun key found foundAt => keptAfter _ _ (kept _ _ foundAt), ?_⟩
    intro other member
    rcases List.mem_cons.mp member with rfl | later
    · exact keptAfter _ _ (Table.find?_upsert_self ..)
    · exact logged other later

/-- What the check of a batch knows after the items it has gone through. -/
structure PushProgress.Covers (progress : PushProgress) (store : ScopeStore)
    (done : List CanonicalOperation) : Prop where
  seen : ∀ item ∈ done, progress.seen.find? item.operationId = some item
  named : ∀ id item, progress.seen.find? id = some item → item.operationId = id
  known : ∀ id item, progress.seen.find? id = some item →
    store.byId.find? id = some item ∨ id ∈ progress.accepted
  fresh : ∀ id ∈ progress.accepted, store.byId.find? id = none ∧ (progress.seen.find? id).isSome
  distinct : progress.accepted.Nodup

theorem PushProgress.Covers.start : PushProgress.start.Covers store [] :=
  ⟨by simp, by simp [PushProgress.start], by simp [PushProgress.start],
    by simp [PushProgress.start], by simp [PushProgress.start]⟩

/-- Going through an item whose id is new to the batch. -/
theorem PushProgress.Covers.see {next : PushProgress} (covers : progress.Covers store done)
    (unseen : progress.seen.find? item.operationId = none)
    (seen : next.seen = progress.seen.upsert item.operationId item)
    (sorted : next.accepted = progress.accepted ∧
        store.byId.find? item.operationId = some item ∨
      next.accepted = progress.accepted ++ [item.operationId] ∧
        store.byId.find? item.operationId = none) : next.Covers store (done ++ [item]) := by
  have kept : ∀ id ∈ progress.accepted, id ∈ next.accepted := by
    intro id member
    rcases sorted with ⟨same, _⟩ | ⟨more, _⟩
    · exact same ▸ member
    · rw [more]; simp [member]
  have added : ∀ id ∈ next.accepted, id ∈ progress.accepted ∨
      id = item.operationId ∧ store.byId.find? id = none := by
    intro id member
    rcases sorted with ⟨same, _⟩ | ⟨more, fresh⟩
    · exact .inl (same ▸ member)
    · rw [more, List.mem_append, List.mem_singleton] at member
      exact member.imp_right (fun same => ⟨same, same ▸ fresh⟩)
  constructor
  case seen =>
    intro other member
    rw [seen, Table.find?_upsert]
    rcases List.mem_append.mp member with early | last
    · have found := covers.seen other early
      split
      · rename_i same
        rw [← same, unseen] at found
        simp at found
      · exact found
    · obtain rfl := List.mem_singleton.mp last
      simp
  case named =>
    intro id other found
    rw [seen, Table.find?_upsert] at found
    split at found
    · rename_i same
      obtain rfl := Option.some.inj found
      exact same
    · exact covers.named id other found
  case known =>
    intro id other found
    rw [seen, Table.find?_upsert] at found
    split at found
    · rename_i same
      obtain rfl := Option.some.inj found
      subst same
      rcases sorted with ⟨_, stored⟩ | ⟨more, _⟩
      · exact .inl stored
      · exact .inr (by rw [more]; simp)
    · exact (covers.known id other found).imp_right (kept id)
  case fresh =>
    intro id member
    rw [seen, Table.find?_upsert]
    rcases added id member with early | ⟨rfl, fresh⟩
    · obtain ⟨fresh, found⟩ := covers.fresh id early
      refine ⟨fresh, ?_⟩
      split
      · simp
      · exact found
    · exact ⟨fresh, by simp⟩
  case distinct =>
    rcases sorted with ⟨same, _⟩ | ⟨more, _⟩
    · exact same ▸ covers.distinct
    · rw [more, List.nodup_append]
      refine ⟨covers.distinct, by simp, ?_⟩
      rintro id early other last rfl
      obtain rfl := List.mem_singleton.mp last
      simpa [unseen] using (covers.fresh _ early).2

theorem pushItem_covers {next : PushProgress} (covers : progress.Covers store done)
    (ran : pushItem P scope store progress item = .ok next) : next.Covers store (done ++ [item]) := by
  simp only [pushItem, ok_iff] at ran
  obtain ⟨_, ran⟩ := ran
  split at ran
  · rename_i prior found
    simp only [ok_iff] at ran
    obtain ⟨rfl, rfl⟩ := ran
    refine ⟨?_, covers.named, covers.known, covers.fresh, covers.distinct⟩
    intro other member
    rcases List.mem_append.mp member with early | last
    · exact covers.seen other early
    · obtain rfl := List.mem_singleton.mp last
      exact found
  · rename_i unseen
    split at ran
    · rename_i existing stored
      simp only [ok_iff] at ran
      obtain ⟨rfl, rfl⟩ := ran
      exact covers.see unseen rfl (.inl ⟨rfl, stored⟩)
    · rename_i fresh
      simp only [ok_iff] at ran
      obtain ⟨_, rfl⟩ := ran
      exact covers.see unseen rfl (.inr ⟨rfl, fresh⟩)

theorem pushItems_cover (covers : progress.Covers store done)
    (ran : thread (pushItem P scope store) progress batch = .ok final) :
    final.Covers store (done ++ batch) := by
  induction batch generalizing progress done with
  | nil =>
    obtain rfl : progress = final := by simpa [thread] using ran
    simpa using covers
  | cons item rest ih =>
    simp only [thread, bind_eq_ok] at ran
    obtain ⟨next, stepped, finished⟩ := ran
    simpa using ih (pushItem_covers covers stepped) finished

theorem PushProgress.Covers.items (covers : progress.Covers store done) :
    progress.items.map CanonicalOperation.operationId = progress.accepted := by
  have named : ∀ ids : List OperationId, (∀ id ∈ ids, (progress.seen.find? id).isSome) →
      (ids.filterMap progress.seen.find?).map CanonicalOperation.operationId = ids := by
    intro ids present
    induction ids with
    | nil => rfl
    | cons id rest ih =>
      obtain ⟨item, found⟩ := Option.isSome_iff_exists.mp (present id (by simp))
      rw [List.filterMap_cons, found]
      simp only [List.map_cons, covers.named id item found]
      rw [ih (fun later member => present later (by simp [member]))]
  exact named _ (fun id member => (covers.fresh id member).2)

end

/-- Looking up a scope's store after writing one. -/
theorem store_upsert (transport : InMemoryTransport) (scope other : SyncScope) (store : ScopeStore)
    (receipt faults : Nat) :
    InMemoryTransport.store ⟨transport.scopes.upsert (scopeKey scope) store, receipt, faults⟩ other =
      if scope = other then store else transport.store other := by
  unfold InMemoryTransport.store
  rw [Table.find?_upsert]
  have sameKey : scopeKey scope = scopeKey other ↔ scope = other := by
    cases scope
    cases other
    simp [scopeKey]
  by_cases same : scope = other
  · simp [same]
  · rw [if_neg (fun key => same (sameKey.mp key)), if_neg same]

/-- One transport keeps every log of another and its own indexes. -/
structure InMemoryTransport.Extends (transport transport' : InMemoryTransport) : Prop where
  indexed : transport'.Indexed
  keeps : ∀ scope, (transport.store scope).Keeps (transport'.store scope)

theorem InMemoryTransport.Extends.of_same (indexed : transport.Indexed)
    (same : ∀ scope, transport'.store scope = transport.store scope) :
    transport.Extends transport' where
  indexed := fun scope => by rw [same]; exact indexed scope
  keeps := fun scope _ _ found => by rw [same]; exact found

theorem InMemoryTransport.Extends.logged (extended : transport.Extends transport')
    (logged : transport.Logged scope operationId bytes) :
    transport'.Logged scope operationId bytes := by
  obtain ⟨receivedAt, item, found, sameId, sameBytes⟩ := logged
  exact ⟨receivedAt, item, extended.keeps scope _ _ found, sameId, sameBytes⟩

/-- An item the index by id holds is in the log. -/
theorem InMemoryTransport.Indexed.logged (indexed : transport.Indexed)
    (found : (transport.store scope).byId.find? operationId = some item) :
    transport.Logged scope operationId item.bytes := by
  obtain ⟨sameId, receivedAt, logged⟩ := (indexed scope).logged _ _ found
  exact ⟨receivedAt, item, logged, sameId, rfl⟩

theorem append_logs (indexed : transport.Indexed)
    (covers : progress.Covers (transport.store scope) batch) :
    transport.Extends (transport.append scope progress) ∧
      ∀ item ∈ batch, (transport.append scope progress).Logged scope item.operationId item.bytes := by
  have fresh : ∀ item ∈ progress.items,
      (transport.store scope).byId.find? item.operationId = none := by
    intro item member
    have accepted : item.operationId ∈ progress.accepted :=
      covers.items ▸ List.mem_map_of_mem member
    exact (covers.fresh _ accepted).1
  have distinct : (progress.items.map CanonicalOperation.operationId).Nodup := by
    rw [covers.items]
    exact covers.distinct
  have stored := ScopeStore.insertAll_indexed (indexed scope) distinct fresh
    (memoryReceivedAt (min (transport.nextReceipt + 1) u64Max))
  obtain ⟨newIndexed, kept, logged⟩ := stored
  have store_eq : ∀ other, (transport.append scope progress).store other =
      if scope = other then progress.items.foldl (ScopeStore.insert
        (memoryReceivedAt (min (transport.nextReceipt + 1) u64Max))) (transport.store scope)
      else transport.store other := fun other => store_upsert ..
  have extended : transport.Extends (transport.append scope progress) := by
    constructor
    · intro other
      rw [store_eq]
      split
      · exact newIndexed
      · exact indexed other
    · intro other key item found
      rw [store_eq]
      split
      · rename_i same
        exact kept key item (same ▸ found)
      · exact found
  refine ⟨extended, ?_⟩
  intro item member
  rcases covers.known _ _ (covers.seen item member) with held | accepted
  · exact extended.logged (indexed.logged held)
  · have listed : item ∈ progress.items :=
      List.mem_filterMap.mpr ⟨_, accepted, covers.seen item member⟩
    have found := logged item listed
    exact ⟨_, item, by rw [store_eq, if_pos rfl]; exact found, rfl, rfl⟩

/-- A push keeps every log; one that is answered has logged its whole batch. -/
theorem pushOperations_logs (indexed : transport.Indexed)
    (ran : transport.pushOperations P scope batch = (response, transport')) :
    transport.Extends transport' ∧ ∀ receipt, response = .ok receipt → ∀ item ∈ batch,
      transport'.Logged scope item.operationId item.bytes := by
  unfold InMemoryTransport.pushOperations at ran
  split at ran
  · simp only [Prod.mk.injEq] at ran
    obtain ⟨rfl, rfl⟩ := ran
    exact ⟨.of_same indexed (fun _ => rfl), by simp⟩
  split at ran
  · simp only [Prod.mk.injEq] at ran
    obtain ⟨rfl, rfl⟩ := ran
    exact ⟨.of_same indexed (fun _ => rfl), by simp⟩
  split at ran
  · simp only [Prod.mk.injEq] at ran
    obtain ⟨rfl, rfl⟩ := ran
    exact ⟨.of_same indexed (fun _ => rfl), by simp⟩
  dsimp only at ran
  have opened : transport.Extends { transport with
      scopes := transport.scopes.upsert (scopeKey scope) (transport.store scope) } := by
    refine .of_same indexed (fun other => ?_)
    refine (store_upsert ..).trans ?_
    split
    · rename_i same
      rw [same]
    · rfl
  split at ran
  · simp only [Prod.mk.injEq] at ran
    obtain ⟨rfl, rfl⟩ := ran
    exact ⟨opened, by simp⟩
  · rename_i progress checked
    have covers := pushItems_cover (.start) checked
    rw [List.nil_append] at covers
    split at ran
    · rename_i nothing
      simp only [Prod.mk.injEq] at ran
      obtain ⟨rfl, rfl⟩ := ran
      refine ⟨opened, ?_⟩
      intro receipt _ item member
      rcases covers.known _ _ (covers.seen item member) with held | accepted
      · exact opened.logged (indexed.logged held)
      · simp [nothing] at accepted
    · simp only [Prod.mk.injEq] at ran
      obtain ⟨rfl, rfl⟩ := ran
      have store_eq : InMemoryTransport.store { transport with
          scopes := transport.scopes.upsert (scopeKey scope) (transport.store scope) } scope =
          transport.store scope := by
        refine (store_upsert ..).trans ?_
        simp
      obtain ⟨extended, logged⟩ := append_logs opened.indexed (by rw [store_eq]; exact covers)
      refine ⟨⟨extended.indexed, ?_⟩, fun _ _ => logged⟩
      intro other key item found
      exact extended.keeps other key item (opened.keeps other key item found)

end ContextRelay
