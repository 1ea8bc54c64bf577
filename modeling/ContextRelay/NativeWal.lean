import ContextRelay.LocalVault

/-! The write-ahead log of native transactions. A native transaction changes files outside the
vault; before each change it journals the target, the object it expects there and the object it
installs, and every row moves through prepared, applied, restore-prepared, restored or conflict.
One transaction is modelled: its row, its log by target sequence (a row's sequence is its
position, since a row is only ever inserted at the count of the rows) and the before images. The
decoder that reads the rows back enforces which object tokens may stand in which state; the seven
writers enforce parts of that, each for itself. -/
namespace ContextRelay.Native

open Library

/-! ## Targets and object tokens -/

def sameNativeTarget (left right : WireNativeValue) : Prop :=
  left.platform = right.platform ∧ left.bytes = right.bytes

instance : Decidable (sameNativeTarget left right) :=
  inferInstanceAs (Decidable (_ ∧ _))

/-- What identifies a native object: its volume, its file identity, and its reparse tag with the
identity of its parent. -/
structure NativeObjectToken where
  volume : Bytes
  object : Bytes
  topology : Bytes
deriving DecidableEq

namespace NativeObjectToken

/-- The non-empty columns every writer asks for. -/
def Complete (token : NativeObjectToken) : Prop :=
  token.volume ≠ [] ∧ token.object ≠ [] ∧ token.topology ≠ []

instance : Decidable (Complete token) := inferInstanceAs (Decidable (_ ∧ _))

def HasSameParentBinding (token expected : NativeObjectToken) : Prop :=
  token.volume = expected.volume ∧ token.topology.length = 29 ∧ expected.topology.length = 29 ∧
    token.topology[0]? = some 1 ∧ expected.topology[0]? = some 1 ∧
    token.topology.drop 5 = expected.topology.drop 5

instance : Decidable (HasSameParentBinding token expected) := inferInstanceAs (Decidable (_ ∧ _))

/-- The token of an absent target: it names a generation of the parent, no object. -/
def IsAbsenceGeneration (token : NativeObjectToken) : Prop :=
  token.topology.length = 29 ∧ token.topology[0]? = some 1 ∧
    (token.topology.drop 1).take 4 = [0xff, 0xff, 0xff, 0xff]

instance : Decidable (IsAbsenceGeneration token) := inferInstanceAs (Decidable (_ ∧ _))

end NativeObjectToken

/-! ## Rows -/

abbrev RestorableStateFingerprint := Sha256Digest

/-- A plan's identifier, compared only. -/
abbrev PlanId := Nat

inductive MutationKind where
  | payload | executableDisabled | activationReference
deriving DecidableEq

inductive NativeWalState where
  | prepared | applied | restorePrepared | restored | conflict
deriving DecidableEq

/-- The durable note that a restore changed the absence token of an earlier row's target. -/
structure NativeWalAbsenceRebind where
  targetSequence : Nat
  oldToken : NativeObjectToken
  newToken : NativeObjectToken
deriving DecidableEq

/-- A row of the log; its target sequence is its position. -/
structure NativeWalRecord where
  target : WireNativeValue
  objectToken : NativeObjectToken
  appliedObjectToken : Option NativeObjectToken
  restoredObjectToken : Option NativeObjectToken
  absenceRebind : Option NativeWalAbsenceRebind
  beforeImageId : String
  operationKind : MutationKind
  expected : RestorableStateFingerprint
  intendedApplied : RestorableStateFingerprint
  intendedRestored : RestorableStateFingerprint
  state : NativeWalState
deriving DecidableEq

/-- The mutation changes its target. -/
def NativeWalRecord.Written (row : NativeWalRecord) : Prop :=
  row.expected ≠ row.intendedApplied

instance : Decidable (NativeWalRecord.Written row) := inferInstanceAs (Decidable (_ ≠ _))

structure NativeWalWrite where
  targetSequence : Nat
  target : WireNativeValue
  objectToken : NativeObjectToken
  beforeImageId : String
  operationKind : MutationKind
  expected : RestorableStateFingerprint
  intendedApplied : RestorableStateFingerprint
  intendedRestored : RestorableStateFingerprint
deriving DecidableEq

inductive NativeTransactionStatus where
  | pending | committed | restoring | restored | conflict
deriving DecidableEq

inductive NativeSandboxCleanupState where
  | pending | cleaned | conflict
deriving DecidableEq

structure BeforeImageRow where
  id : String
  planId : Option PlanId
  payload : Bytes
deriving DecidableEq

/-- What the vault holds of one native transaction, with the table of before images. -/
structure NativeJournal where
  planId : PlanId
  status : NativeTransactionStatus
  currentStep : Nat
  enteredStep : Nat
  sandboxCleanupState : NativeSandboxCleanupState
  wal : List NativeWalRecord
  beforeImages : List BeforeImageRow
deriving DecidableEq

/-! ## Reading rows back -/

/-- Read a row back, checking each of its tokens and which of them its state allows. -/
def decodeWalRecord (sequence : Nat) (row : NativeWalRecord) :
    Except VaultError NativeWalRecord := do
  renameFailure row.target.validate fun failure => .validation failure.display
  require row.objectToken.Complete (.validation "native WAL object token is incomplete")
  require (∀ token ∈ row.appliedObjectToken, token.Complete)
    (.validation "native WAL applied object token is incomplete")
  require (∀ token ∈ row.restoredObjectToken, token.Complete)
    (.validation "native WAL restored object token is incomplete")
  require (∀ rebind ∈ row.absenceRebind, rebind.oldToken.Complete ∧ rebind.newToken.Complete)
    (.validation "native WAL absence rebind is incomplete")
  require (∀ rebind ∈ row.absenceRebind,
      rebind.targetSequence < sequence ∧ rebind.oldToken.IsAbsenceGeneration ∧
        rebind.newToken.IsAbsenceGeneration ∧ rebind.newToken.HasSameParentBinding rebind.oldToken)
    (.validation "native WAL absence rebind is invalid")
  require (¬ ((row.state = .applied ∨ row.state = .restorePrepared) ∧ row.Written ∧
      row.appliedObjectToken = none))
    (.validation "written native WAL state is missing applied object provenance")
  require (¬ (row.state = .restored ∧ row.Written ∧ row.restoredObjectToken = none))
    (.validation "restored native WAL state is missing restored object provenance")
  require (¬ ((row.state = .prepared ∨ row.state = .applied) ∧ row.restoredObjectToken ≠ none))
    (.validation "native WAL has restored provenance before restore preparation")
  require (row.absenceRebind = none ∨ row.state = .restorePrepared ∨ row.state = .restored ∨
      row.state = .conflict)
    (.validation "native WAL absence rebind is attached to an invalid state")
  pure row

def loadNativeWalRecord (j : NativeJournal) (sequence : Nat) :
    Except VaultError (Option NativeWalRecord) :=
  match j.wal[sequence]? with
  | none => .ok none
  | some row => do
    let record ← decodeWalRecord sequence row
    pure (some record)

def loadNativeWal (j : NativeJournal) : Except VaultError (List NativeWalRecord) :=
  collect (fun row => decodeWalRecord row.2 row.1) j.wal.zipIdx

def entryMissing : VaultError := .validation "native WAL entry does not exist"

/-- The row of a sequence, which has to exist and to be readable. -/
def existingRecord (j : NativeJournal) (sequence : Nat) : Except VaultError NativeWalRecord := do
  let found ← loadNativeWalRecord j sequence
  present found entryMissing

/-! ## Writing rows -/

/-- Change the row of a sequence. -/
def NativeJournal.setRow (j : NativeJournal) (sequence : Nat) (row : NativeWalRecord) :
    NativeJournal :=
  { j with wal := j.wal.set sequence row }

def walWriteMatches (existing : NativeWalRecord) (write : NativeWalWrite) : Prop :=
  existing.target = write.target ∧ existing.objectToken = write.objectToken ∧
    existing.beforeImageId = write.beforeImageId ∧
    existing.operationKind = write.operationKind ∧ existing.expected = write.expected ∧
    existing.intendedApplied = write.intendedApplied ∧
    existing.intendedRestored = write.intendedRestored

instance : Decidable (walWriteMatches existing write) := inferInstanceAs (Decidable (_ ∧ _))

/-- The row a prepared write inserts. -/
def NativeWalWrite.row (write : NativeWalWrite) : NativeWalRecord where
  target := write.target
  objectToken := write.objectToken
  appliedObjectToken := none
  restoredObjectToken := none
  absenceRebind := none
  beforeImageId := write.beforeImageId
  operationKind := write.operationKind
  expected := write.expected
  intendedApplied := write.intendedApplied
  intendedRestored := write.intendedRestored
  state := .prepared

def prepareNativeWal (j : NativeJournal) (write : NativeWalWrite) :
    Except VaultError NativeJournal := do
  renameFailure write.target.validate fun failure => .validation failure.display
  require (write.beforeImageId.toList.all isWhitespace = false)
    (.validation "native WAL before-image id cannot be empty")
  require write.objectToken.Complete (.validation "native WAL object token is incomplete")
  require (j.status = .pending)
    (.validation "native WAL can only be prepared for a pending transaction")
  require ((j.beforeImages.find? (·.id = write.beforeImageId)).bind (·.planId) = some j.planId)
    (.validation "native WAL before image does not belong to its plan")
  match ← loadNativeWalRecord j write.targetSequence with
  | some existing => do
    require (walWriteMatches existing write)
      (.validation "native WAL target sequence is immutable")
    pure j
  | none => do
    require (write.targetSequence = j.wal.length)
      (.validation "native WAL target sequence must be contiguous")
    let records ← loadNativeWal j
    require (¬ ∃ record ∈ records, sameNativeTarget record.target write.target)
      (.validation "native WAL target cannot appear more than once")
    pure { j with wal := j.wal ++ [write.row] }

/-- The moves between different states. -/
def transitionAllowed : NativeWalState → NativeWalState → Bool
  | .prepared, .applied => true
  | .prepared, .restorePrepared => true
  | .prepared, .restored => true
  | .prepared, .conflict => true
  | .applied, .restorePrepared => true
  | .applied, .conflict => true
  | .restorePrepared, .restored => true
  | .restorePrepared, .conflict => true
  | _, _ => false

def transitionNativeWal (j : NativeJournal) (sequence : Nat) (next : NativeWalState) :
    Except VaultError NativeJournal := do
  let existing ← existingRecord j sequence
  if existing.state = next then pure j
  else do
    require (¬ (existing.state = .prepared ∧ next = .applied ∧ existing.Written ∧
        existing.appliedObjectToken = none))
      (.validation "written native WAL must persist applied provenance atomically")
    require (¬ (existing.state = .prepared ∧ next = .restorePrepared ∧
        existing.appliedObjectToken = none))
      (.validation "prepared native WAL cannot restore without a durable candidate")
    require (¬ (existing.state = .restorePrepared ∧ next = .restored ∧ existing.Written ∧
        existing.restoredObjectToken = none))
      (.validation "restored native WAL must persist restored provenance first")
    require (transitionAllowed existing.state next)
      (.validation "native WAL state transition is not monotonic")
    pure (j.setRow sequence { existing with state := next })

def recordNativeWalCandidate (j : NativeJournal) (sequence : Nat) (token : NativeObjectToken) :
    Except VaultError NativeJournal := do
  require token.Complete (.validation "native WAL candidate object token is empty")
  let existing ← existingRecord j sequence
  require (existing.state = .prepared)
    (.validation "native WAL candidate can only be recorded while prepared")
  require existing.Written (.validation "unchanged native WAL cannot have an install candidate")
  match existing.appliedObjectToken with
  | some recorded => do
    require (recorded = token) (.validation "native WAL candidate object token is immutable")
    pure j
  | none => pure (j.setRow sequence { existing with appliedObjectToken := some token })

/-- The moves that record the installed object with the state. -/
def tokenTransitionAllowed : NativeWalState → NativeWalState → Bool
  | .prepared, .applied => true
  | .prepared, .conflict => true
  | _, _ => false

def transitionNativeWalWithAppliedObjectToken (j : NativeJournal) (sequence : Nat)
    (next : NativeWalState) (token : NativeObjectToken) : Except VaultError NativeJournal := do
  require token.Complete (.validation "native WAL object token is empty")
  let existing ← existingRecord j sequence
  require (∀ recorded ∈ existing.appliedObjectToken, recorded = token)
    (.validation "native WAL applied object token is immutable")
  if existing.state = next then do
    require (existing.appliedObjectToken = some token)
      (.validation "native WAL applied object token changed after transition")
    pure j
  else do
    require (tokenTransitionAllowed existing.state next)
      (.validation "native WAL token transition is not monotonic")
    pure (j.setRow sequence { existing with appliedObjectToken := some token, state := next })

def recordNativeWalRestoredCandidate (j : NativeJournal) (sequence : Nat)
    (token : NativeObjectToken) : Except VaultError NativeJournal := do
  require token.Complete (.validation "native WAL restored candidate object token is empty")
  let existing ← existingRecord j sequence
  require (existing.state = .restorePrepared)
    (.validation "restored candidate requires restore-prepared WAL state")
  require existing.Written (.validation "unchanged native WAL cannot have a restored candidate")
  match existing.restoredObjectToken with
  | some recorded => do
    require (recorded = token)
      (.validation "native WAL restored candidate object token is immutable")
    pure j
  | none => pure (j.setRow sequence { existing with restoredObjectToken := some token })

/-- The sequence of the nearest later row that has installed an object under the same parent. -/
def nearestLater (records : List NativeWalRecord) (sequence : Nat) (parent : NativeObjectToken) :
    Option Nat :=
  (records.zipIdx.find? fun record =>
    sequence < record.2 ∧ record.1.appliedObjectToken ≠ none ∧
      record.1.objectToken.HasSameParentBinding parent).map Prod.snd

def validateAbsenceRebindEdge (records : List NativeWalRecord) (sequence later : Nat)
    (oldToken newToken : NativeObjectToken) :
    Except VaultError (NativeWalRecord × NativeWalRecord) := do
  require (sequence < later)
    (.validation "native WAL absence rebind requires a descending restore edge")
  require (oldToken.IsAbsenceGeneration ∧ newToken.IsAbsenceGeneration ∧
      newToken.HasSameParentBinding oldToken)
    (.validation "native WAL absence rebind token is not a matching parent generation")
  let existing ← present records[sequence]? entryMissing
  let restoring ← present records[later]?
    (.validation "later native WAL restore entry does not exist")
  require (existing.state = .restorePrepared)
    (.validation "native WAL absence rebind requires restore-prepared target")
  require (restoring.state = .restorePrepared ∨ restoring.state = .restored)
    (.validation "native WAL absence rebind requires a proven later restore")
  let restoredToken ← present restoring.restoredObjectToken
    (.validation "native WAL absence rebind requires later restored provenance")
  require (existing.objectToken.HasSameParentBinding oldToken ∧
      restoring.objectToken.HasSameParentBinding oldToken ∧
      restoredToken.HasSameParentBinding oldToken)
    (.validation "native WAL absence rebind crossed parent bindings")
  require (nearestLater records sequence existing.objectToken = some later)
    (.validation "native WAL absence rebind skipped a later same-parent mutation")
  pure (existing, restoring)

def rebindMissing : VaultError := .validation "native WAL absence rebind is missing applied token"

def checkpointNativeWalAbsenceRebind (j : NativeJournal) (sequence later : Nat)
    (oldToken newToken : NativeObjectToken) : Except VaultError NativeJournal := do
  require (j.status = .restoring)
    (.validation "native WAL absence rebind requires restoring status")
  let records ← loadNativeWal j
  let (existing, restoring) ← validateAbsenceRebindEdge records sequence later oldToken newToken
  require (restoring.state = .restorePrepared)
    (.validation "native WAL absence checkpoint requires restore-prepared later target")
  let appliedToken ← present existing.appliedObjectToken rebindMissing
  require (appliedToken = oldToken ∨ appliedToken = newToken)
    (.validation "native WAL absence checkpoint lost its exact old-token provenance")
  match restoring.absenceRebind with
  | some checkpoint => do
    require (checkpoint = ⟨sequence, oldToken, newToken⟩)
      (.validation "native WAL absence checkpoint is immutable")
    pure j
  | none => do
    -- the column checks on the checkpoint's tokens
    require (oldToken.Complete ∧ newToken.Complete) .database
    pure (j.setRow later
      { restoring with absenceRebind := some ⟨sequence, oldToken, newToken⟩ })

def rebindNativeWalAppliedAbsence (j : NativeJournal) (sequence later : Nat)
    (oldToken newToken : NativeObjectToken) : Except VaultError NativeJournal := do
  require (j.status = .restoring)
    (.validation "native WAL absence rebind requires restoring status")
  let records ← loadNativeWal j
  let (existing, restoring) ← validateAbsenceRebindEdge records sequence later oldToken newToken
  let checkpoint ← present restoring.absenceRebind
    (.validation "native WAL absence rebind requires a durable checkpoint")
  require (checkpoint = ⟨sequence, oldToken, newToken⟩)
    (.validation "native WAL absence rebind does not match its durable checkpoint")
  let appliedToken ← present existing.appliedObjectToken rebindMissing
  if appliedToken = newToken then pure j
  else do
    require (appliedToken = oldToken)
      (.validation "native WAL absence rebind lost its exact old-token CAS")
    -- the column checks on the applied token
    require newToken.Complete .database
    pure (j.setRow sequence { existing with appliedObjectToken := some newToken })

/-! ## The transaction's status -/

def beginNativeRecovery (j : NativeJournal) : Except VaultError NativeJournal :=
  match j.status with
  | .pending => .ok { j with status := .restoring }
  | .restoring => .ok j
  | _ => .error (.validation "native transaction is not recoverable before commit")

/-- The status a finished recovery leaves. -/
def desiredStatus (conflict : Bool) : NativeTransactionStatus :=
  if conflict then .conflict else .restored

def finishNativeRecovery (j : NativeJournal) (conflict : Bool) :
    Except VaultError NativeJournal := do
  if j.status = desiredStatus conflict ∧ j.currentStep = 19 ∧ j.enteredStep = 19 then pure j
  else do
    require (j.status = .restoring) (.validation "native transaction is not restoring")
    require ((∀ row ∈ j.wal, row.state = .restored ∨ row.state = .conflict) ∧
        (conflict = true ↔ ∃ row ∈ j.wal, row.state = .conflict))
      (.validation "native recovery outcome does not match its WAL")
    pure { j with status := desiredStatus conflict, currentStep := 19, enteredStep := 19 }

def finishNativeCleanup (j : NativeJournal) : Except VaultError NativeJournal := do
  require ((j.currentStep = 19 ∨ j.currentStep = 20) ∧
      (j.status = .committed ∨ j.status = .restored ∨ j.status = .conflict))
    (.validation "native cleanup requires a durable terminal outcome")
  if j.currentStep = 20 then do
    require (j.sandboxCleanupState ≠ .pending)
      (.validation "finished native cleanup is missing its durable disposition")
    pure j
  else do
    require (j.sandboxCleanupState ≠ .cleaned)
      (.validation "native cleanup was marked cleaned before it finished")
    require (j.enteredStep = 19 ∨ j.enteredStep = 20)
      (.validation "native cleanup state changed concurrently")
    let cleaned := { j with
      sandboxCleanupState := if j.sandboxCleanupState = .pending then .cleaned else .conflict
      currentStep := 20
      enteredStep := 20 }
    if j.status = .committed ∨ j.status = .restored then
      pure { cleaned with
        wal := []
        beforeImages := j.beforeImages.filter fun image => image.planId ≠ some j.planId }
    else pure cleaned

end ContextRelay.Native
