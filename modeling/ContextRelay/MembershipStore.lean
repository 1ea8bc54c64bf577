import ContextRelay.MembershipInvariants
import ContextRelay.Outgoing

/-! The accepted membership in the vault: one row with the enrollment and the endpoint, and the
events of the log by ordinal. Loading decodes every row again, derives its parent and successor
from the evidence and compares them with the columns; an extension is verified with the whole log
and appended by compare and swap on the endpoint. A column that SQL reads as NULL because its
length is out of bounds fails like any other database error. -/
namespace ContextRelay.Membership

open Library Library.Cbor

/-! ## Rows -/

/-- The kinds of event rows, one, two and three in the table. -/
inductive EventKind where
  | pairingAdd | revocation | recoveryAdd
deriving DecidableEq

structure EventRow where
  successor : Sha256Digest
  parent : Sha256Digest
  kind : EventKind
  statement : Bytes
  signature : Ed25519SignatureBytes
  request : Bytes
  artifact : Bytes
deriving DecidableEq

/-- The single row of the accepted membership. -/
structure AcceptedRow where
  scope : SyncScope
  enrollmentPin : Sha256Digest
  enrollment : Bytes
  endpoint : MembershipEndpoint
deriving DecidableEq

/-- A device's keys of one epoch, sealed for the device and signed by it. -/
structure SecretRow where
  source : MembershipEndpoint
  provenance : Sha256Digest
  envelope : Bytes
  signature : Ed25519SignatureBytes
deriving DecidableEq

structure ConfirmedAdmissionRow where
  successor : Sha256Digest
  transcriptHash : Sha256Digest
  signature : Ed25519SignatureBytes
deriving DecidableEq

/-- The single row of the current activation. -/
structure ActivationRow where
  device : DeviceId
  source : MembershipEndpoint
  signature : Ed25519SignatureBytes
deriving DecidableEq

/-- The recovery enrollment of this vault, with the keys it sealed for its own device. -/
structure EnrollmentRow where
  active : Bool
  canonicalRecord : Bytes
  record : RecoveryEnrollmentRecordV1
  deviceMaterialEnvelope : WrappedKeyEnvelope
  canonicalRecordSha256 : Sha256Digest
deriving DecidableEq

def EnrollmentRow.genesisDevice (row : EnrollmentRow) : DeviceId :=
  row.record.genesisCertificate.deviceId

/-- The membership tables, with the genesis anchor and the recovery enrollment that are read beside
them. The events are unique by ordinal, and by parent and successor as every insertion checks;
secrets by device, key epoch and whether they are independent. The seeds are the devices whose
enrollment keys were retained once. -/
structure MembershipStore where
  accepted : Option AcceptedRow
  events : Table Nat EventRow
  secrets : Table (DeviceId ×ₗ Nat ×ₗ Bool) SecretRow
  confirmedAdmissions : Table DeviceId ConfirmedAdmissionRow
  activation : Option ActivationRow
  genesisAnchor : Bool
  enrollment : Option EnrollmentRow
  rootMaterialSeeds : List DeviceId

/-- The column checks of the event table. -/
def EventRow.Allowed (row : EventRow) : Prop :=
  (if row.kind = .recoveryAdd then row.statement.length = 0
    else 1 ≤ row.statement.length ∧ row.statement.length ≤ 512) ∧
  row.request.length ≤ 8388608 ∧ (row.kind = .pairingAdd ∨ row.request.length = 0) ∧
  1 ≤ row.artifact.length ∧ row.artifact.length ≤ 8388608 ∧
  (row.kind ≠ .recoveryAdd ∨ row.artifact.length ≤ 32768)

instance (row : EventRow) : Decidable row.Allowed := by
  unfold EventRow.Allowed
  infer_instance

/-- The column checks on the epochs of an endpoint. -/
def EpochsAllowed (endpoint : MembershipEndpoint) : Prop :=
  (1 ≤ endpoint.controlEpoch ∧ endpoint.controlEpoch ≤ 4294967295) ∧
    1 ≤ endpoint.keyEpoch ∧ endpoint.keyEpoch ≤ 4294967295

instance (endpoint : MembershipEndpoint) : Decidable (EpochsAllowed endpoint) := by
  unfold EpochsAllowed
  infer_instance

/-- The bytes of a row as SQL sums its columns. -/
def EventRow.bytes (row : EventRow) : Nat :=
  row.statement.length + row.signature.bytes.length + row.request.length + row.artifact.length

def storedBytes (store : MembershipStore) : Nat :=
  (store.events.values.map EventRow.bytes).sum +
    (store.accepted.map fun row => row.enrollment.length).getD 0

/-- A size bound as SQL receives it: a large one becomes a negative number. -/
def asI64 (value : Nat) : Int := if value < 2 ^ 63 then value else -((2 ^ 64 - value : Nat) : Int)

/-! ## Events -/

structure Event where
  parent : Sha256Digest
  successor : Sha256Digest
  statement : Bytes
  signature : Ed25519SignatureBytes
  request : Option SignedPairingRequest
  artifact : Bytes
deriving DecidableEq

namespace Event

def evidence (event : Event) : MembershipHistoryEvent :=
  if event.statement = [] ∧ event.request = none then .recoveryAdd event.artifact
  else match event.request with
    | some request => .pairingAdd event.statement event.signature request event.artifact
    | none => .revocation event.statement event.signature event.artifact

/-- The row an event is inserted as. -/
def row (event : Event) : EventRow where
  successor := event.successor
  parent := event.parent
  kind := if event.request.isSome then .pairingAdd
    else if event.statement = [] then .recoveryAdd else .revocation
  statement := event.statement
  signature := event.signature
  request := (event.request.map fun request => request.canonicalBytes).getD []
  artifact := event.artifact

variable (P : ControlPrimitives)

def fromEvidence : MembershipHistoryEvent → Except VaultError Event
  | .recoveryAdd canonicalClaim => do
    let claim ← orFail (decodeRecoveryDeviceClaimV2 P canonicalClaim) membershipInvalid
    let successor ← orFail (recoveryMembershipSuccessor P claim) membershipInvalid
    pure {
      parent := claim.previousStateSha256
      successor
      statement := []
      signature := claim.recoveryRootSignature
      request := none
      artifact := canonicalClaim }
  | .pairingAdd statement signature request approvedPayload => do
    let s ← orFail (DeviceMembershipAddStatementV1.fromSigningPreimage statement) membershipInvalid
    let successor ← orFail (s.controlStateSha256 P signature) membershipInvalid
    pure {
      parent := s.previousStateSha256
      successor
      statement
      signature
      request := some request
      artifact := approvedPayload }
  | .revocation statement signature transition => do
    let s ← orFail (DeviceRevocationStatementV1.fromSigningPreimage statement) membershipInvalid
    let t ← orFail (RevocationTransitionV1.fromCanonicalBytes P transition) membershipInvalid
    let successor ← orFail (s.controlStateSha256 P signature) membershipInvalid
    pure {
      parent := t.previousStateSha256
      successor
      statement
      signature
      request := none
      artifact := transition }

end Event

structure Stored where
  scope : SyncScope
  pin : Sha256Digest
  enrollment : Bytes
  endpoint : MembershipEndpoint
  events : List Event

/-- The evidence of a stored log. -/
def Stored.log (stored : Stored) : List MembershipHistoryEvent := stored.events.map Event.evidence

section
variable (P : ControlPrimitives)

def Stored.verify (stored : Stored) (budget : MembershipHistoryBudget) :
    Except VaultError VerifiedMembershipHistory :=
  orFail (verifyMembershipHistory P stored.enrollment stored.pin stored.scope stored.log
    stored.endpoint budget) membershipInvalid

/-! ## Loading -/

/-- The request column: pairings hold a request that verifies and is canonical, the others hold
nothing. -/
def loadRequest (row : EventRow) : Except VaultError (Option SignedPairingRequest) :=
  match row.kind with
  | .pairingAdd => do
    let parsed ← orFail (decodePairingRequestV1 row.request) membershipInvalid
    let parsed ← orFail (verifyPairingRequest P parsed) membershipInvalid
    require (parsed.canonicalBytes = row.request) membershipInvalid
    pure (some parsed)
  | _ => do
    require (row.request = []) membershipInvalid
    pure none

/-- One row of the event query, after the events that were loaded before it. -/
def loadEvent (budget : MembershipHistoryBudget) (loaded : List Event) (found : Nat × EventRow) :
    Except VaultError (List Event) := do
  let row := found.2
  require (found.1 = loaded.length) membershipInvalid
  require ((row.request.length : Int) ≤ asI64 budget.maxBytes) .database
  let request ← loadRequest P row
  require (if row.kind = .recoveryAdd then row.statement.length = 0
    else 1 ≤ row.statement.length ∧ row.statement.length ≤ 512) .database
  require (1 ≤ row.artifact.length ∧ (row.artifact.length : Int) ≤ asI64 budget.maxBytes) .database
  let event : Event := {
    parent := row.parent
    successor := row.successor
    statement := row.statement
    signature := row.signature
    request
    artifact := row.artifact }
  let derived ← Event.fromEvidence P event.evidence
  require (event = derived ∧ ∀ last ∈ loaded.getLast?, last.successor = event.parent)
    membershipInvalid
  pure (loaded ++ [event])

def load (store : MembershipStore) (budget : MembershipHistoryBudget) :
    Except VaultError (Option Stored) :=
  match store.accepted with
  | none => do
    require (store.events.size = 0) membershipInvalid
    pure none
  | some row => do
    -- SQL bounds what is read before any of it is.
    require (store.events.size ≤ budget.maxEvents ∧ storedBytes store ≤ budget.maxBytes)
      .budgetExceeded
    require (1 ≤ row.enrollment.length ∧ (row.enrollment.length : Int) ≤ asI64 budget.maxBytes)
      .database
    let events ← thread (loadEvent P budget) [] store.events.rows
    pure (some {
      scope := row.scope
      pin := row.enrollmentPin
      enrollment := row.enrollment
      endpoint := row.endpoint
      events })

/-! ## Writing -/

def insertEvent (store : MembershipStore) (place : Event × Nat) : Except VaultError MembershipStore := do
  let row := place.1.row
  require row.Allowed .database
  require (∀ other ∈ store.events.values, other.successor ≠ row.successor ∧
    other.parent ≠ row.parent) .database
  let events ← present (store.events.insert? place.2 row) .database
  pure { store with events }

def insertEvents (store : MembershipStore) (events : List Event) (offset : Nat) :
    Except VaultError MembershipStore :=
  thread insertEvent store (events.zipIdx offset)

def bootstrap (store : MembershipStore) (enrollment : Bytes) (pin : Sha256Digest)
    (scope : SyncScope) (endpoint : MembershipEndpoint) : Except VaultError MembershipStore := do
  require (store.accepted = none) .database
  require ((1 ≤ enrollment.length ∧ enrollment.length ≤ 8388608) ∧ EpochsAllowed endpoint) .database
  pure { store with accepted := some ⟨scope, pin, enrollment, endpoint⟩ }

/-- Move the endpoint, if it still is the expected one. -/
def swapEndpoint (store : MembershipStore) (expected successor : MembershipEndpoint) :
    Except VaultError MembershipStore := do
  let row ← present store.accepted .operationConflict
  require (row.endpoint = expected) .operationConflict
  require (EpochsAllowed successor) .database
  pure { store with accepted := some { row with endpoint := successor } }

def acceptMembershipExtension (store : MembershipStore) (expected successor : MembershipEndpoint)
    (extension : List MembershipHistoryEvent) (budget : MembershipHistoryBudget) :
    Except VaultError (CommitDisposition × MembershipStore) := do
  let loaded ← load P store budget
  let stored ← present loaded membershipInvalid
  let _ ← stored.verify P budget
  -- The sum of the sizes is over the limit where it overflows.
  require (extension ≠ [] ∧ extension.length ≤ budget.maxEvents ∧
    logBytes extension ≤ budget.maxBytes) .budgetExceeded
  let added ← collect (Event.fromEvidence P) extension
  require (added.head?.map Event.parent = some expected.stateSha256 ∧
    added.getLast?.map Event.successor = some successor.stateSha256) .operationConflict
  if stored.endpoint = successor then do
    require (added.length ≤ stored.events.length) .operationConflict
    let start := stored.events.length - added.length
    require (∀ pair ∈ (stored.events.drop start).zip added, pair.1 = pair.2) .operationConflict
    let earlier := { stored with endpoint := expected, events := stored.events.take start }
    let _ ← earlier.verify P budget
    pure (.exactReplay, store)
  else do
    require (stored.endpoint = expected) .operationConflict
    let extended := { stored with endpoint := successor, events := stored.events ++ added }
    let _ ← extended.verify P budget
    let store ← insertEvents store added stored.events.length
    let store ← swapEndpoint store expected successor
    pure (.inserted, store)

end

end ContextRelay.Membership
