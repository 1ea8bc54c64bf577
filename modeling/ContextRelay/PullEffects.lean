import ContextRelay.Pull
import ContextRelay.Effects

/-! What taking received rows does to the vault: which rows it accounts for, and where the
pull cursor goes. -/
namespace ContextRelay

open Library Session

variable {P : Primitives} {v v' w : Vault} {engine : SyncEngine} {row : ReceivedOperation}
  {material : TrustedSyncMaterial} {resolver : RepresentativeEmbeddingResolver} {nowMs : Nat}

/-! ## Rows that are accounted for -/

/-- Stored operations, quarantined and rejected rows stay. -/
structure KeepsReceipts (v v' : Vault) : Prop where
  operations : ∀ id row, v.operations.find? id = some row → v'.operations.find? id = some row
  quarantine : ∀ key row, v.quarantine.find? key = some row → v'.quarantine.find? key = some row
  rejections : ∀ key row, v.rejections.find? key = some row → v'.rejections.find? key = some row

theorem KeepsReceipts.refl (v : Vault) : KeepsReceipts v v :=
  ⟨fun _ _ found => found, fun _ _ found => found, fun _ _ found => found⟩

theorem KeepsReceipts.trans (first : KeepsReceipts v w) (second : KeepsReceipts w v') :
    KeepsReceipts v v' where
  operations := fun id row found => second.operations id row (first.operations id row found)
  quarantine := fun key row found => second.quarantine key row (first.quarantine key row found)
  rejections := fun key row found => second.rejections key row (first.rejections key row found)

theorem KeepsReceipts.of_same (operations : v'.operations = v.operations)
    (quarantine : v'.quarantine = v.quarantine) (rejections : v'.rejections = v.rejections) :
    KeepsReceipts v v' := by
  constructor
  · rw [operations]; exact fun _ _ found => found
  · rw [quarantine]; exact fun _ _ found => found
  · rw [rejections]; exact fun _ _ found => found

/-- The key of a row's receipt. -/
def SyncEngine.receipt (engine : SyncEngine) (row : ReceivedOperation) : ReceiptKey :=
  receiptKey engine.scope.accountId engine.scope.workspaceId engine.provider row.cursor.receivedAt
    row.cursor.operationId

/-- The exact bytes of the row are stored as an operation. -/
def StoredRow (P : Primitives) (v : Vault) (row : ReceivedOperation) : Prop :=
  ∃ stored, v.operations.find? row.operation.operationId = some stored ∧
    encodeSyncOperationV1 P stored.operation = .ok row.operation.bytes

/-- The row is in quarantine, with its bytes. -/
def QuarantinedRow (engine : SyncEngine) (v : Vault) (row : ReceivedOperation) : Prop :=
  ∃ stored, v.quarantine.find? (engine.receipt row) = some stored ∧
    stored.routedOperationId = row.operation.operationId ∧
    stored.deviceId = row.operation.deviceId ∧
    stored.deviceSequence = row.operation.deviceSequence ∧ stored.envelope = row.operation.bytes

/-- The row is rejected, with the length and the digest of its bytes. -/
def RejectedRow (P : Primitives) (engine : SyncEngine) (v : Vault) (row : ReceivedOperation) : Prop :=
  ∃ stored, v.rejections.find? (engine.receipt row) = some stored ∧
    stored.routedOperationId = row.operation.operationId ∧
    stored.deviceId = row.operation.deviceId ∧
    stored.deviceSequence = row.operation.deviceSequence ∧
    stored.claimedByteLength = row.operation.bytes.length ∧
    stored.receivedSha256 = P.sha256 row.operation.bytes

def Accounted (P : Primitives) (engine : SyncEngine) (v : Vault) (row : ReceivedOperation) : Prop :=
  StoredRow P v row ∨ QuarantinedRow engine v row ∨ RejectedRow P engine v row

theorem Accounted.kept (accounted : Accounted P engine v row) (kept : KeepsReceipts v v') :
    Accounted P engine v' row := by
  rcases accounted with ⟨stored, found, same⟩ | ⟨stored, found, same⟩ | ⟨stored, found, same⟩
  · exact .inl ⟨stored, kept.operations _ _ found, same⟩
  · exact .inr (.inl ⟨stored, kept.quarantine _ _ found, same⟩)
  · exact .inr (.inr ⟨stored, kept.rejections _ _ found, same⟩)

/-! ## The cursor -/

/-- The cursor of the engine's workspace and provider. -/
def SyncEngine.cursorOf (engine : SyncEngine) (v : Vault) : Option SyncCursor :=
  v.syncCursor engine.scope.workspaceId engine.provider

/-- A cursor moved to a position, if that is forward. -/
def advanced (cursor : Option SyncCursor) (position : SyncCursor) : Option SyncCursor :=
  if cursor.all (fun stored => stored.key < position.key) then some position else cursor

theorem upsertCursor_cursorOf (v : Vault) (engine : SyncEngine) (position : SyncCursor) :
    engine.cursorOf (upsertCursor v engine.scope.workspaceId engine.provider position) =
      advanced (engine.cursorOf v) position := by
  unfold SyncEngine.cursorOf Vault.syncCursor upsertCursor advanced
  dsimp only
  split
  · exact Table.find?_upsert_self ..
  · rfl

/-- The second cursor is not before the first. -/
def CursorLe (first second : Option SyncCursor) : Prop :=
  ∀ cursor, first = some cursor → ∃ later, second = some later ∧ cursor.key ≤ later.key

theorem CursorLe.refl (cursor : Option SyncCursor) : CursorLe cursor cursor :=
  fun found same => ⟨found, same, le_refl _⟩

theorem CursorLe.trans (first : CursorLe a b) (second : CursorLe b c) : CursorLe a c := by
  intro cursor same
  obtain ⟨later, found, lower⟩ := first cursor same
  obtain ⟨last, foundLast, lowerStill⟩ := second later found
  exact ⟨last, foundLast, lower.trans lowerStill⟩

theorem cursorLe_advanced (cursor : Option SyncCursor) (position : SyncCursor) :
    CursorLe cursor (advanced cursor position) := by
  intro found same
  subst same
  unfold advanced
  split
  · rename_i forward
    exact ⟨position, rfl, le_of_lt (by simpa using forward)⟩
  · exact ⟨found, rfl, le_refl _⟩

/-- A row that is not after the earlier cursor is not after the later one. -/
theorem CursorLe.not_after (le : CursorLe first second) (passed : row.after first = false) :
    row.after second = false := by
  cases first with
  | none => simp [ReceivedOperation.after] at passed
  | some cursor =>
    obtain ⟨later, rfl, lower⟩ := le cursor rfl
    simp only [ReceivedOperation.after, Option.all_some, decide_eq_false_iff_not, not_lt] at passed ⊢
    exact passed.trans lower

/-- Moving the cursor to a position passes exactly the rows up to it. -/
theorem not_after_advanced :
    row.after (advanced cursor position) = false ↔
      row.after cursor = false ∨ row.cursor.key ≤ position.key := by
  unfold advanced
  cases cursor with
  | none => simp [ReceivedOperation.after]
  | some stored =>
    by_cases forward : stored.key < position.key
    · simp only [ReceivedOperation.after, Option.all_some, forward, decide_true, if_true,
        decide_eq_false_iff_not, not_lt]
      exact ⟨.inr, fun either => either.elim (fun low => low.trans forward.le) id⟩
    · simp only [ReceivedOperation.after, Option.all_some, forward, decide_false,
        Bool.false_eq_true, if_false, decide_eq_false_iff_not, not_lt]
      exact ⟨.inl, fun either => either.elim id (fun low => low.trans (not_lt.mp forward))⟩

/-! ## The writes of a pull -/

/-- A row was taken: it is accounted for, and the cursor is moved to it. -/
structure Takes (P : Primitives) (engine : SyncEngine) (row : ReceivedOperation) (v v' : Vault) :
    Prop where
  kept : KeepsReceipts v v'
  cursor : engine.cursorOf v' = advanced (engine.cursorOf v) row.cursor
  accounted : Accounted P engine v' row

/-- A write that keeps receipts and the pull cursor. -/
structure KeepsCursor (v v' : Vault) : Prop where
  kept : KeepsReceipts v v'
  cursors : v'.cursors = v.cursors

theorem KeepsCursor.refl (v : Vault) : KeepsCursor v v := ⟨.refl v, rfl⟩

theorem KeepsCursor.trans (first : KeepsCursor v w) (second : KeepsCursor w v') :
    KeepsCursor v v' :=
  ⟨first.kept.trans second.kept, second.cursors.trans first.cursors⟩

theorem KeepsCursor.cursorOf (kept : KeepsCursor v v') (engine : SyncEngine) :
    engine.cursorOf v' = engine.cursorOf v := by
  unfold SyncEngine.cursorOf Vault.syncCursor
  rw [kept.cursors]

/-- The vault after a receipt was written, before its cursor is moved. -/
theorem quarantineSyncReceipt_ok (ran : quarantineSyncReceipt v write = .ok (disposition, v')) :
    ∃ middle stored, KeepsCursor v middle ∧ middle.quarantine.find? write.key = some stored ∧
      { stored with quarantinedAtMs := write.quarantinedAtMs } = write.row ∧
      v' = advanceTo middle write.advanceCursor write.workspaceId write.provider
        ⟨write.receivedAt, write.receiptOperationId⟩ := by
  simp only [quarantineSyncReceipt, ok_iff] at ran
  obtain ⟨_, _, ran⟩ := ran
  split at ran
  · rename_i stored found
    simp only [ok_iff, Prod.mk.injEq] at ran
    obtain ⟨same, _, rfl⟩ := ran
    exact ⟨v, stored, .refl v, found, same, rfl⟩
  · rename_i absent
    simp only [ok_iff, Prod.mk.injEq] at ran
    obtain ⟨_, rfl⟩ := ran
    refine ⟨{ v with quarantine := v.quarantine.upsert write.key write.row }, write.row,
      ⟨⟨fun _ _ found => found, ?_, fun _ _ found => found⟩, rfl⟩, Table.find?_upsert_self .., rfl, rfl⟩
    intro key row found
    have apart : write.key ≠ key := by
      rintro rfl
      simp [absent] at found
    exact (Table.find?_upsert_of_ne _ _ apart).trans found

theorem rejectOversizedSyncReceipt_ok
    (ran : rejectOversizedSyncReceipt P v write = .ok (disposition, v')) :
    ∃ middle stored, KeepsCursor v middle ∧ middle.rejections.find? write.key = some stored ∧
      { stored with rejectedAtMs := write.rejectedAtMs } = write.row P ∧
      v' = advanceTo middle write.advanceCursor write.workspaceId write.provider
        ⟨write.receivedAt, write.receiptOperationId⟩ := by
  simp only [rejectOversizedSyncReceipt, ok_iff] at ran
  obtain ⟨_, _, ran⟩ := ran
  split at ran
  · rename_i stored found
    simp only [ok_iff, Prod.mk.injEq] at ran
    obtain ⟨same, _, rfl⟩ := ran
    exact ⟨v, stored, .refl v, found, same, rfl⟩
  · rename_i absent
    simp only [ok_iff, Prod.mk.injEq] at ran
    obtain ⟨_, rfl⟩ := ran
    refine ⟨{ v with rejections := v.rejections.upsert write.key (write.row P) }, write.row P,
      ⟨⟨fun _ _ found => found, fun _ _ found => found, ?_⟩, rfl⟩, Table.find?_upsert_self .., rfl, rfl⟩
    intro key row found
    have apart : write.key ≠ key := by
      rintro rfl
      simp [absent] at found
    exact (Table.find?_upsert_of_ne _ _ apart).trans found

/-- Moving the cursor keeps every receipt. -/
theorem upsertCursor_kept (v : Vault) (workspace : WorkspaceId) (provider : SyncProvider)
    (cursor : SyncCursor) : KeepsReceipts v (upsertCursor v workspace provider cursor) :=
  .of_same rfl rfl rfl

theorem persistQuarantine_takes
    (ran : engine.persistQuarantine row code nowMs true v = (.ok done, v')) :
    Takes P engine row v v' := by
  simp only [SyncEngine.persistQuarantine, Session.bind_eq_ok, Session.perform_eq_ok,
    Session.pure_eq] at ran
  obtain ⟨_, _, written, _, rfl⟩ := ran
  obtain ⟨middle, stored, kept, found, same, rfl⟩ := quarantineSyncReceipt_ok written
  refine ⟨kept.kept.trans (upsertCursor_kept ..), ?_, ?_⟩
  · rw [← kept.cursorOf engine]
    exact upsertCursor_cursorOf middle engine row.cursor
  · refine .inr (.inl ⟨stored, found, ?_⟩)
    simp only [SyncQuarantineWrite.row, SyncEngine.quarantineWrite, StoredSyncQuarantine.mk.injEq]
      at same
    exact ⟨same.1, same.2.1, same.2.2.1, same.2.2.2.2.1⟩

theorem persistQuarantine_keeps (row : ReceivedOperation) (code : SafeErrorCode) (nowMs : Nat) :
    (engine.persistQuarantine row code nowMs false).Within KeepsCursor := by
  refine .bind (fun _ _ _ => .trans) ?_ (fun _ => .pure .refl _)
  refine .perform .refl _ ?_
  intro state value final written
  obtain ⟨middle, _, kept, _, _, rfl⟩ := quarantineSyncReceipt_ok written
  exact kept

theorem persistRejection_takes
    (ran : engine.persistRejection P row nowMs true v = (.ok done, v')) :
    Takes P engine row v v' := by
  simp only [SyncEngine.persistRejection, Session.bind_eq_ok, Session.perform_eq_ok,
    Session.pure_eq] at ran
  obtain ⟨_, _, written, _, rfl⟩ := ran
  obtain ⟨middle, stored, kept, found, same, rfl⟩ := rejectOversizedSyncReceipt_ok written
  refine ⟨kept.kept.trans (upsertCursor_kept ..), ?_, ?_⟩
  · rw [← kept.cursorOf engine]
    exact upsertCursor_cursorOf middle engine row.cursor
  · refine .inr (.inr ⟨stored, found, ?_⟩)
    simp only [SyncRejectionWrite.row, SyncEngine.rejectionWrite, StoredSyncRejection.mk.injEq]
      at same
    exact ⟨same.1, same.2.1, same.2.2.1, same.2.2.2.2.1, same.2.2.2.2.2.1⟩

theorem persistRejection_keeps (row : ReceivedOperation) (nowMs : Nat) :
    (engine.persistRejection P row nowMs false).Within KeepsCursor := by
  refine .bind (fun _ _ _ => .trans) ?_ (fun _ => .pure .refl _)
  refine .perform .refl _ ?_
  intro state value final written
  obtain ⟨middle, _, kept, _, _, rfl⟩ := rejectOversizedSyncReceipt_ok written
  exact kept

theorem applyFresh_keepsCursor (valid : validateAdmitted P admitted = .ok ())
    (ran : applyFresh P v admitted source rehydrate resolver appliedAtMs receivedAt =
      .ok (decision, update, v')) : KeepsCursor v v' := by
  have recorded := applyFresh_recorded valid ran
  have same : v'.quarantine = v.quarantine ∧ v'.rejections = v.rejections ∧
      v'.cursors = v.cursors := by
    obtain ⟨claimed, current, chosen, materialized, change, claim, _, _, _, _, stored, written,
      rfl⟩ := applyFresh_ok ran
    obtain ⟨owners, aliases, rfl, _⟩ := claimRecord_effect claim
    obtain ⟨tables, rfl⟩ := materializeRepresentative_effect stored
    obtain ⟨schedule, _, _, _, _, headed⟩ := recordIncoming_ok written
    rcases writeHeads_effect headed with ⟨_, rfl⟩ | ⟨_, _, rfl⟩ | ⟨_, _, _, _, _, _, rfl⟩ <;>
      exact ⟨rfl, rfl, rfl⟩
  obtain ⟨quarantine, rejections, cursors⟩ := same
  refine ⟨⟨?_, ?_, ?_⟩, cursors⟩
  · intro id row found
    have apart : admitted.operation.operationId ≠ id := by
      rintro rfl
      simp [recorded.fresh] at found
    rw [recorded.operations]
    exact (Table.find?_upsert_of_ne _ _ apart).trans found
  · rw [quarantine]
    exact fun _ _ found => found
  · rw [rejections]
    exact fun _ _ found => found

/-- Applying stores the operation's bytes, or finds them stored. -/
theorem applyVerifiedInTransaction_stores
    (ran : applyVerifiedInTransaction P v admitted source rehydrate resolver appliedAtMs receivedAt =
      .ok (decision, update, v')) :
    KeepsCursor v v' ∧ ∃ stored, v'.operations.find? admitted.operation.operationId = some stored ∧
      encodeSyncOperationV1 P stored.operation = .ok admitted.canonicalBytes := by
  simp only [applyVerifiedInTransaction, ok_iff] at ran
  obtain ⟨valid, replay, replayed, ran⟩ := ran
  cases replay with
  | true =>
    simp only [if_true, ok_iff, Prod.mk.injEq] at ran
    obtain ⟨_, _, rfl⟩ := ran
    refine ⟨.refl v, ?_⟩
    unfold exactIncomingReplay at replayed
    split at replayed
    · simp at replayed
    · rename_i stored found
      simp only [ok_iff] at replayed
      obtain ⟨canonical, encoded, rfl, _⟩ := replayed
      exact ⟨stored, found, encoded⟩
  | false =>
    simp only [Bool.false_eq_true, if_false] at ran
    have recorded := applyFresh_recorded valid ran
    refine ⟨applyFresh_keepsCursor valid ran, _, by
      rw [recorded.operations, Table.find?_upsert_self], ?_⟩
    rw [(validateAdmitted_ok valid).2.1]
    exact recorded.encodable

theorem applyAdmittedOperationAt_takes
    (ran : applyAdmittedOperationAt P v admitted material engine.provider row.cursor.receivedAt
      resolver nowMs = .ok (decision, v'))
    (workspace : admitted.operation.workspaceId = engine.scope.workspaceId)
    (sameId : admitted.operation.operationId = row.operation.operationId)
    (position : row.cursor.operationId = row.operation.operationId)
    (bytes : admitted.canonicalBytes = row.operation.bytes) : Takes P engine row v v' := by
  simp only [applyAdmittedOperationAt, applyAdmittedOperationInner, ok_iff, Prod.mk.injEq] at ran
  obtain ⟨_, _, _, _, ⟨_, update, applied⟩, verified, _, rfl⟩ := ran
  obtain ⟨kept, stored, found, encoded⟩ := applyVerifiedInTransaction_stores verified
  rw [workspace]
  refine ⟨kept.kept.trans (.of_same rfl rfl rfl), ?_, .inl ⟨stored, sameId ▸ found, bytes ▸ encoded⟩⟩
  have cursor : row.cursor = ⟨row.cursor.receivedAt, admitted.operation.operationId⟩ := by
    rw [sameId, ← position]
  rw [← kept.cursorOf engine, cursor]
  exact upsertCursor_cursorOf applied engine _

theorem applyRepairedOperationAt_keepsCursor
    (ran : applyRepairedOperationAt P v admitted material receivedAt resolver nowMs =
      .ok (decision, v')) : KeepsCursor v v' := by
  simp only [applyRepairedOperationAt, applyAdmittedOperationInner, ok_iff, Prod.mk.injEq] at ran
  obtain ⟨_, _, _, _, ⟨_, update, applied⟩, verified, _, rfl⟩ := ran
  exact (applyVerifiedInTransaction_stores verified).1.trans ⟨.of_same rfl rfl rfl, rfl⟩

theorem advanceReplayCursor_takes
    (ran : advanceReplayCursor P v engine.scope.workspaceId engine.provider row.cursor.receivedAt
      row.operation.operationId membership = .ok v')
    (position : row.cursor.operationId = row.operation.operationId) (stored : StoredRow P v row) :
    Takes P engine row v v' := by
  simp only [advanceReplayCursor, ok_iff] at ran
  obtain ⟨_, _, _, _, _, _, _, _, rfl⟩ := ran
  refine ⟨upsertCursor_kept .., ?_, .inl stored⟩
  rw [← position]
  exact upsertCursor_cursorOf v engine row.cursor

/-! ## Taking one row -/

/-- A replay was found by its bytes. -/
theorem admitOperation_replay (admission : admitOperation P v bytes material =
      .ok (.exactReplay operationId)) :
    ∃ stored, v.operations.find? operationId = some stored ∧
      encodeSyncOperationV1 P stored.operation = .ok bytes := by
  simp only [admitOperation, ok_iff] at admission
  obtain ⟨operation, _, _, _, canonical, _, rfl, _, _, _, _, found, read, ran⟩ := admission
  cases found with
  | none =>
    simp only [ok_iff] at ran
    obtain ⟨_, range, _, ran⟩ := ran
    cases range with
    | some range => simp at ran
    | none =>
      obtain ⟨_, _, _, _, _, _, _, _, _, wrong⟩ := admitSuccessor_ok.mp ran
      simp at wrong
  | some stored =>
    simp only [ok_iff, AdmissionDecision.exactReplay.injEq] at ran
    obtain ⟨rfl, rfl⟩ := ran
    unfold storedSyncOperation at read
    split at read
    · simp at read
    · rename_i row found
      simp only [ok_iff, Option.some.injEq, exists_eq_right] at read
      exact ⟨row, found, read⟩

/-- What a row says of its operation is what its bytes say. -/
theorem validateReceived_ok (valid : validateReceived P scope row = .ok done) :
    ∃ operation, decodeSyncOperationV1 P row.operation.bytes = .ok operation ∧
      operation.operationId = row.operation.operationId ∧
      operation.workspaceId = scope.workspaceId := by
  simp only [validateReceived, ok_iff] at valid
  obtain ⟨operation, decoded, _, _, _, sameId, _, _, _, workspace⟩ := valid
  exact ⟨operation, decoded, sameId, workspace⟩

/-- A pull that stopped at a row waits for a repair with that row and the rows behind it, or
is over. -/
def AwaitsRepair (engine : SyncEngine) (v : Vault) (row : ReceivedOperation)
    (rest : List ReceivedOperation) : PullProgress → Prop
  | .complete _ => True
  | .request prepared => prepared.expectedCursor = engine.cursorOf v ∧
      (∃ device first last, prepared.request = .deviceRange device first last) ∧
      ∃ repair, prepared.state.repair = some repair ∧ repair.blocker = row ∧
        prepared.state.rows = rest

/-- What taking a row can lead to: the vault stays and the pull fails or stops at the row, or
the row is taken. -/
inductive RowOutcome (P : Primitives) (engine : SyncEngine) (row : ReceivedOperation)
    (rest : List ReceivedOperation) (v : Vault) :
    Except SafeErrorCode SyncEngine.RowStep → Vault → Prop where
  | failed {code : SafeErrorCode} : RowOutcome P engine row rest v (.error code) v
  | stopped {progress : PullProgress} (awaits : AwaitsRepair engine v row rest progress) :
      RowOutcome P engine row rest v (.ok (.stop progress)) v
  | taken {state : PullState} {v' : Vault} (takes : Takes P engine row v v') :
      RowOutcome P engine row rest v (.ok (.next state)) v'

variable {rest : List ReceivedOperation} {state : PullState}

/-- A row is set aside and the next one taken, or the write fails. -/
theorem RowOutcome.of_setAside
    (ran : (write >>= fun _ => pure (SyncEngine.RowStep.next state) : Cycle SyncEngine.RowStep) v = (result, v'))
    (takes : ∀ final, write v = (.ok (), final) → Takes P engine row v final)
    (fails : ∀ code final, write v = (.error code, final) → v = final) :
    RowOutcome P engine row rest v result v' := by
  rcases bind_eq.mp ran with ⟨_, middle, written, next⟩ | ⟨code, failed, rfl⟩
  · obtain ⟨rfl, rfl⟩ := pure_eq.mp next
    exact .taken (takes middle written)
  · obtain rfl := fails code v' failed
    exact .failed

theorem persistQuarantine_failed
    (failed : engine.persistQuarantine row code nowMs advance v = (.error reason, v')) : v = v' := by
  simp only [SyncEngine.persistQuarantine, bind_eq, perform_eq_error,
    pure_eq] at failed
  rcases failed with ⟨_, _, _, wrong, _⟩ | ⟨_, ⟨_, same⟩, _⟩
  · simp at wrong
  · exact same

theorem persistRejection_failed
    (failed : engine.persistRejection P row nowMs advance v = (.error reason, v')) : v = v' := by
  simp only [SyncEngine.persistRejection, bind_eq, perform_eq_error,
    pure_eq] at failed
  rcases failed with ⟨_, _, _, wrong, _⟩ | ⟨_, ⟨_, same⟩, _⟩
  · simp at wrong
  · exact same

theorem quarantine_outcome
    (ran : (engine.persistQuarantine row code nowMs true >>=
      fun _ => pure (SyncEngine.RowStep.next state) : Cycle SyncEngine.RowStep) v = (result, v')) :
    RowOutcome P engine row rest v result v' :=
  .of_setAside ran (fun _ => persistQuarantine_takes) (fun _ _ => persistQuarantine_failed)

theorem rejection_outcome
    (ran : (engine.persistRejection P row nowMs true >>=
      fun _ => pure (SyncEngine.RowStep.next state) : Cycle SyncEngine.RowStep) v = (result, v')) :
    RowOutcome P engine row rest v result v' :=
  .of_setAside ran (fun _ => persistRejection_takes) (fun _ _ => persistRejection_failed)

/-- A check ahead of the rest of a row's treatment. -/
theorem RowOutcome.of_check (ran : (lift check >>= next) v = (result, v'))
    (go : ∀ value, check = .ok value → next value v = (result, v') → RowOutcome P engine row rest v result v') : RowOutcome P engine row rest v result v' := by
  rcases bind_eq.mp ran with ⟨value, middle, checked, ran⟩ | ⟨code, failed, rfl⟩
  · obtain ⟨ok, rfl⟩ := lift_eq.mp checked
    exact go value ok ran
  · obtain ⟨_, rfl⟩ := lift_eq.mp failed
    exact .failed

theorem requestPull_ok (ran : engine.requestPull state request v = (result, v')) :
    v = v' ∧ result = .ok (.request ⟨state, request, engine.cursorOf v⟩) := by
  simp only [SyncEngine.requestPull, SyncEngine.cursor, bind_eq, look_eq,
    pure_eq] at ran
  rcases ran with ⟨_, _, ⟨found, rfl⟩, rfl, rfl⟩ | ⟨_, ⟨wrong, _⟩, _⟩
  · obtain rfl := Except.ok.inj found
    exact ⟨rfl, rfl⟩
  · simp at wrong

theorem nextRepair_awaits (repairing : state.repair = some repair)
    (ran : engine.nextRepair state v = (result, v')) :
    v = v' ∧ ∃ progress, result = .ok progress ∧
      AwaitsRepair engine v repair.blocker state.rows progress := by
  unfold SyncEngine.nextRepair at ran
  split at ran
  · obtain ⟨rfl, rfl⟩ := pure_eq.mp ran
    exact ⟨rfl, _, rfl, trivial⟩
  · simp only [repairing, present, bind_eq, lift_eq] at ran
    rcases ran with ⟨_, _, ⟨found, rfl⟩, ran⟩ | ⟨_, ⟨wrong, _⟩, _⟩
    · obtain rfl := Except.ok.inj found
      obtain ⟨rfl, rfl⟩ := requestPull_ok ran
      exact ⟨rfl, _, rfl, rfl, ⟨_, _, _, rfl⟩, repair, repairing, rfl, rfl⟩
    · simp at wrong

theorem admitRow_outcome (position : row.cursor.operationId = row.operation.operationId)
    (valid : validateReceived P engine.scope row = .ok done) (behind : state.rows = rest)
    (ran : engine.admitRow P material resolver nowMs row wasRepaired state v = (result, v')) :
    RowOutcome P engine row rest v result v' := by
  obtain ⟨operation, decoded, sameId, workspace⟩ := validateReceived_ok valid
  simp only [SyncEngine.admitRow, bind_eq, look_eq] at ran
  rcases ran with ⟨_, _, ⟨found, rfl⟩, ran⟩ | ⟨_, ⟨wrong, _⟩, _⟩
  case inr => simp at wrong
  obtain rfl := Except.ok.inj found
  cases admission : admitOperation P v row.operation.bytes material with
  | error reason =>
    simp only [admission] at ran
    exact .of_check ran (fun _ _ ran => quarantine_outcome ran)
  | ok decision =>
    simp only [admission] at ran
    cases decision with
    | exactReplay operationId =>
      refine .of_check ran ?_
      intro _ same ran
      obtain rfl := require_eq_ok.mp same
      refine .of_setAside ran ?_ ?_
      · intro final written
        exact advanceReplayCursor_takes (transact_eq_ok.mp written) position
          (admitOperation_replay admission)
      · intro code final failed
        exact (transact_eq_error.mp failed).2
    | gap first last =>
      cases wasRepaired with
      | true =>
        obtain ⟨rfl, rfl⟩ := pure_eq.mp ran
        exact .stopped trivial
      | false =>
        rcases bind_eq.mp ran with ⟨progress, middle, asked, next⟩ | ⟨code, failed, rfl⟩
        · obtain ⟨rfl, _, same, awaits⟩ := nextRepair_awaits rfl asked
          obtain rfl := Except.ok.inj same
          obtain ⟨rfl, rfl⟩ := pure_eq.mp next
          exact .stopped (behind ▸ awaits)
        · obtain ⟨rfl, _⟩ := nextRepair_awaits rfl failed
          exact .failed
    | admitted admitted =>
      obtain ⟨_, _, _, admits⟩ := admitOperation_admitted.mp admission
      obtain rfl : operation = admitted.operation :=
        Except.ok.inj (decoded.symm.trans admits.decoded)
      rcases bind_eq.mp ran with ⟨decision, middle, applied, next⟩ | ⟨code, failed, rfl⟩
      · obtain ⟨rfl, rfl⟩ := pure_eq.mp next
        exact .taken (applyAdmittedOperationAt_takes (perform_eq_ok.mp applied) workspace
          sameId position admits.canonicalBytes)
      · obtain ⟨_, rfl⟩ := perform_eq_error.mp failed
        exact .failed

theorem takeRow_outcome (position : row.cursor.operationId = row.operation.operationId)
    (behind : state.rows = rest)
    (ran : engine.takeRow P material resolver nowMs row wasRepaired state v = (result, v')) :
    RowOutcome P engine row rest v result v' := by
  unfold SyncEngine.takeRow at ran
  by_cases oversized : maxCborOperationBytes < row.operation.bytes.length
  · rw [if_pos oversized] at ran
    exact rejection_outcome ran
  rw [if_neg oversized] at ran
  cases reserved : reserveBytes state.processedBytes row.operation.bytes.length engine.maxBytes with
  | none =>
    simp only [reserved] at ran
    obtain ⟨rfl, rfl⟩ := pure_eq.mp ran
    exact .stopped trivial
  | some total =>
    simp only [reserved] at ran
    cases valid : validateReceived P engine.scope row with
    | error code =>
      simp only [valid, succeeded, if_true] at ran
      exact quarantine_outcome ran
    | ok done =>
      simp only [valid, succeeded, Bool.true_eq_false, if_false] at ran
      have kept : ({ state with processedBytes := total } : PullState).rows = rest := behind
      exact admitRow_outcome position valid kept ran

theorem existingQuarantine_eq
    (ran : engine.existingQuarantine row v = (result, v')) : v = v' := by
  cases result with
  | ok found => exact (query_eq_ok.mp ran).2
  | error code => exact (query_eq_error.mp ran).2

theorem existingRejection_eq (ran : engine.existingRejection row v = (result, v')) : v = v' := by
  cases result with
  | ok found => exact (query_eq_ok.mp ran).2
  | error code => exact (query_eq_error.mp ran).2

theorem pullRow_outcome
    (ran : engine.pullRow P material resolver nowMs row rest state v = (result, v')) :
    RowOutcome P engine row rest v result v' := by
  unfold SyncEngine.pullRow at ran
  refine .of_check ran ?_
  intro _ bound ran
  simp only [validateReceiptBinding, ok_iff] at bound
  split at ran
  · obtain ⟨rfl, rfl⟩ := pure_eq.mp ran
    exact .stopped trivial
  rcases bind_eq.mp ran with ⟨stored, _, looked, ran⟩ | ⟨_, failed, rfl⟩
  case inr =>
    obtain rfl := existingQuarantine_eq failed
    exact .failed
  obtain rfl := existingQuarantine_eq looked
  cases stored with
  | some stored => exact .of_check ran (fun _ _ ran => quarantine_outcome ran)
  | none =>
    rcases bind_eq.mp ran with ⟨stored, _, looked, ran⟩ | ⟨_, failed, rfl⟩
    case inr =>
      obtain rfl := existingRejection_eq failed
      exact .failed
    obtain rfl := existingRejection_eq looked
    cases stored with
    | some stored => exact .of_check ran (fun _ _ ran => rejection_outcome ran)
    | none => exact takeRow_outcome bound.1 rfl ran

/-! ## Applying repair rows -/

theorem existingQuarantine_keeps (row : ReceivedOperation) :
    (engine.existingQuarantine row).Within KeepsCursor :=
  .query .refl _ _

theorem existingRejection_keeps (row : ReceivedOperation) :
    (engine.existingRejection row).Within KeepsCursor :=
  .query .refl _ _

theorem admitRepairRow_keeps (row : ReceivedOperation) (state : PullState) :
    (engine.admitRepairRow P material resolver nowMs row state).Within KeepsCursor := by
  refine .bind (fun _ _ _ => .trans) (.look .refl _) ?_
  intro admission
  cases admission with
  | error reason =>
    refine .bind (fun _ _ _ => .trans) (.lift .refl _) (fun _ => ?_)
    exact .bind (fun _ _ _ => .trans) (persistQuarantine_keeps _ _ _) (fun _ => .pure .refl _)
  | ok decision =>
    cases decision with
    | gap first last => exact .fail .refl _
    | exactReplay operationId =>
      by_cases same : operationId = row.operation.operationId
      · simp only [same, if_true]
        exact .pure .refl _
      · simp only [same, if_false]
        exact .fail .refl _
    | admitted admitted =>
      refine .bind (fun _ _ _ => .trans) (.perform .refl _ ?_) (fun _ => .pure .refl _)
      intro state value final applied
      exact applyRepairedOperationAt_keepsCursor applied

theorem takeRepairRow_keeps (row : ReceivedOperation) (state : PullState) :
    (engine.takeRepairRow P material resolver nowMs row state).Within KeepsCursor := by
  unfold SyncEngine.takeRepairRow
  split
  · exact .bind (fun _ _ _ => .trans) (persistRejection_keeps _ _) (fun _ => .pure .refl _)
  split
  · exact .pure .refl _
  dsimp only
  split
  · exact .bind (fun _ _ _ => .trans) (persistQuarantine_keeps _ _ _) (fun _ => .pure .refl _)
  · exact admitRepairRow_keeps _ _

theorem repairRow_keeps (row : ReceivedOperation) (state : PullState) :
    (engine.repairRow P material resolver nowMs row state).Within KeepsCursor := by
  refine .bind (fun _ _ _ => .trans) (existingQuarantine_keeps row) ?_
  intro stored
  cases stored with
  | some stored => exact .bind (fun _ _ _ => .trans) (.lift .refl _) (fun _ => .pure .refl _)
  | none =>
    refine .bind (fun _ _ _ => .trans) (existingRejection_keeps row) ?_
    intro stored
    cases stored with
    | some stored => exact .bind (fun _ _ _ => .trans) (.lift .refl _) (fun _ => .pure .refl _)
    | none => exact takeRepairRow_keeps _ _

theorem repairRows_keeps (rows : List ReceivedOperation) (state : PullState) :
    (engine.repairRows P material resolver nowMs rows state).Within KeepsCursor := by
  induction rows generalizing state with
  | nil => exact .pure .refl _
  | cons row rest ih =>
    refine .bind (fun _ _ _ => .trans) (repairRow_keeps row state) ?_
    rintro ⟨outcome, next⟩
    cases outcome with
    | none => exact ih next
    | some outcome => exact .pure .refl _

/-- Applying repair rows never moves the cursor. -/
theorem applyRepairRows_keeps (state : PullState) (device : DeviceId) (first last : Nat)
    (rows : List ReceivedOperation) :
    (engine.applyRepairRows P material resolver nowMs state device first last rows).Within
      KeepsCursor := by
  unfold SyncEngine.applyRepairRows
  dsimp only
  split
  · exact .pure .refl _
  · exact .bind (fun _ _ _ => .trans) (.lift .refl _) (fun _ => repairRows_keeps _ _)

/-- The blocking row and the rows behind it stay as they are. -/
def SameWait (state next : PullState) : Prop :=
  next.repair = state.repair ∧ next.rows = state.rows

/-- What taking a repair row leaves of the state: the rows that wait stay, a stored row is
counted, and the reserved bytes stay within the limit. -/
structure Repairs (engine : SyncEngine) (state : PullState)
    (result : Option SyncEngine.GapRepairOutcome × PullState) : Prop where
  waits : SameWait state result.2
  unended : result.1 ≠ some .complete
  counted : result.2.processed = state.processed + if result.1 = none then 1 else 0
  reserved : state.processedBytes ≤ engine.maxBytes → result.2.processedBytes ≤ engine.maxBytes

theorem Repairs.blocked (engine : SyncEngine) (state : PullState) :
    Repairs engine state (some (SyncEngine.blocked state).1, (SyncEngine.blocked state).2) :=
  ⟨⟨rfl, rfl⟩, by simp [SyncEngine.blocked], rfl, id⟩

theorem admitRepairRow_returns (row : ReceivedOperation) (state : PullState) :
    (engine.admitRepairRow P material resolver nowMs row state).Returns (Repairs engine state) := by
  refine .bind .any fun admission _ => ?_
  cases admission with
  | error reason => exact .bind .any fun _ _ => .bind .any fun _ _ => .pure (.blocked engine state)
  | ok decision =>
    cases decision with
    | gap first last => exact .fail
    | exactReplay operationId =>
      dsimp only
      split
      · exact .pure ⟨⟨rfl, rfl⟩, nofun, rfl, id⟩
      · exact .fail
    | admitted admitted => exact .bind .any fun _ _ => .pure ⟨⟨rfl, rfl⟩, nofun, rfl, id⟩

theorem reserveBytes_eq_some :
    reserveBytes total addition maximum = some reserved ↔
      total + addition = reserved ∧ reserved ≤ maximum := by
  unfold reserveBytes
  split
  · simp only [Option.some.injEq]
    omega
  · simp only [reduceCtorEq, false_iff]
    omega

theorem takeRepairRow_returns (row : ReceivedOperation) (state : PullState) :
    (engine.takeRepairRow P material resolver nowMs row state).Returns (Repairs engine state) := by
  unfold SyncEngine.takeRepairRow
  split
  · exact .bind .any fun _ _ => .pure (.blocked engine state)
  split
  · exact .pure ⟨⟨rfl, rfl⟩, by simp, rfl, id⟩
  rename_i total reserved
  have within := (reserveBytes_eq_some.mp reserved).2
  dsimp only
  split
  · exact .bind .any fun _ _ => .pure ⟨⟨rfl, rfl⟩, by simp [SyncEngine.blocked], rfl, fun _ => within⟩
  · refine (admitRepairRow_returns row _).mono ?_
    rintro result ⟨waits, unended, counted, reserved⟩
    exact ⟨waits, unended, counted, fun _ => reserved within⟩

theorem repairRow_returns (row : ReceivedOperation) (state : PullState) :
    (engine.repairRow P material resolver nowMs row state).Returns (Repairs engine state) := by
  refine .bind .any fun stored _ => ?_
  cases stored with
  | some stored => exact .bind .any fun _ _ => .pure (.blocked engine state)
  | none =>
    refine .bind .any fun stored _ => ?_
    cases stored with
    | some stored => exact .bind .any fun _ _ => .pure (.blocked engine state)
    | none => exact takeRepairRow_returns row state

/-- What taking the rows of a range leaves of the state. All of them are counted when the range
is complete. -/
structure RepairsRange (engine : SyncEngine) (state : PullState) (count : Nat)
    (result : SyncEngine.GapRepairOutcome × PullState) : Prop where
  waits : SameWait state result.2
  counted : state.processed ≤ result.2.processed ∧ result.2.processed ≤ state.processed + count
  all : result.1 = .complete → result.2.processed = state.processed + count
  reserved : state.processedBytes ≤ engine.maxBytes → result.2.processedBytes ≤ engine.maxBytes

theorem repairRows_returns (rows : List ReceivedOperation) (state : PullState) :
    (engine.repairRows P material resolver nowMs rows state).Returns
      (RepairsRange engine state rows.length) := by
  induction rows generalizing state with
  | nil => exact .pure ⟨⟨rfl, rfl⟩, ⟨le_refl _, le_refl _⟩, fun _ => rfl, id⟩
  | cons row rest ih =>
    refine .bind (repairRow_returns row state) ?_
    rintro ⟨ended, next⟩ ⟨⟨repair, behind⟩, unended, counted, reserved⟩
    cases ended with
    | none =>
      refine (ih next).mono ?_
      rintro result ⟨waits, ⟨least, most⟩, all, reservedAll⟩
      dsimp only at repair behind counted reserved
      rw [if_pos rfl] at counted
      refine ⟨⟨waits.1.trans repair, waits.2.trans behind⟩, ⟨by omega, ?_⟩, ?_,
        fun within => reservedAll (reserved within)⟩
      · simp only [List.length_cons]
        omega
      · intro complete
        rw [all complete, counted, List.length_cons]
        omega
    | some ended =>
      have same : next.processed = state.processed := by simpa using counted
      exact .pure ⟨⟨repair, behind⟩, ⟨same.ge, same.le.trans (Nat.le_add_right _ _)⟩,
        fun complete => absurd (congrArg some complete) unended, reserved⟩

/-- A range is taken up when it holds the requested number of rows. -/
theorem applyRepairRows_returns (state : PullState) (device : DeviceId) (first last : Nat)
    (rows : List ReceivedOperation) :
    (engine.applyRepairRows P material resolver nowMs state device first last rows).Returns
      (RepairsRange engine state (last - first + 1)) := by
  unfold SyncEngine.applyRepairRows
  dsimp only
  split
  · exact .pure ⟨⟨rfl, rfl⟩, ⟨le_refl _, Nat.le_add_right _ _⟩, nofun, id⟩
  · rename_i count
    rw [← not_ne_iff.mp count]
    exact .bind .any fun _ _ => repairRows_returns _ state

end ContextRelay
