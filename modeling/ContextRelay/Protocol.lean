import ContextRelay.Library.Wire

/-! The values of the sync protocol: identifiers, records, record mutations, signed
operations and checkpoints, with the field checks the protocol crate makes on them.
Byte strings of fixed width (digests, nonces, keys and signatures) are big-endian
numbers of that width. -/
namespace ContextRelay

open Library

abbrev Bytes := List UInt8

/-! ## Identifiers -/

inductive IdKind where
  | account | workspace | project | memory | candidate | task | secretRef | operation
  | record | device | package | pairing | deviceCertificate | recoveryEnrollment | recoveryRoot
  | recoveryRestore
deriving DecidableEq

/-- The version nibble is 7 and the variant bits are `10`. -/
def isUuidV7 (uuid : Nat) : Bool :=
  uuid < 2 ^ 128 && uuid / 2 ^ 76 % 16 == 7 && uuid / 2 ^ 62 % 4 == 2

/-- An identifier: a UUIDv7, compared as its sixteen bytes are. -/
structure Id (kind : IdKind) where
  uuid : Nat
  valid : isUuidV7 uuid = true
deriving DecidableEq

instance Id.lawfulBEq : LawfulBEq (Id kind) := inferInstance

abbrev AccountId := Id .account
abbrev WorkspaceId := Id .workspace
abbrev ProjectId := Id .project
abbrev MemoryId := Id .memory
abbrev CandidateId := Id .candidate
abbrev TaskId := Id .task
abbrev SecretRefId := Id .secretRef
abbrev OperationId := Id .operation
abbrev RecordId := Id .record
abbrev DeviceId := Id .device
abbrev PackageId := Id .package
abbrev PairingId := Id .pairing
abbrev DeviceCertificateId := Id .deviceCertificate
abbrev RecoveryEnrollmentId := Id .recoveryEnrollment
abbrev RecoveryRootId := Id .recoveryRoot
abbrev RecoveryRestoreId := Id .recoveryRestore

namespace Id

theorem uuid_injective : Function.Injective (uuid : Id kind → Nat) := by
  rintro ⟨left, _⟩ ⟨right, _⟩ same
  simpa using same

instance : LinearOrder (Id kind) := LinearOrder.lift' uuid uuid_injective

/-- The same UUID under another identifier type. -/
def retype (id : Id kind) : Id other := ⟨id.uuid, id.valid⟩

/-- The sixteen bytes of an identifier. -/
@[irreducible] def bytes (id : Id kind) : Bytes := bigEndian 16 id.uuid

def ofBytes? (bytes : Bytes) : Option (Id kind) :=
  if valid : bytes.length = 16 ∧ isUuidV7 (fromBigEndian bytes) = true then
    some ⟨fromBigEndian bytes, valid.2⟩
  else none

theorem uuid_lt (id : Id kind) : id.uuid < 256 ^ 16 := by
  have valid := id.valid
  simp only [isUuidV7, Bool.and_eq_true, decide_eq_true_eq] at valid
  exact valid.1.1

@[simp] theorem length_bytes (id : Id kind) : id.bytes.length = 16 := by
  rw [bytes, length_bigEndian]

theorem fromBigEndian_bytes (id : Id kind) : fromBigEndian id.bytes = id.uuid := by
  rw [bytes, fromBigEndian_bigEndian id.uuid_lt]

theorem ofBytes?_eq_some {id : Id kind} : ofBytes? input = some id ↔ input = id.bytes := by
  constructor
  · intro found
    unfold ofBytes? at found
    split at found
    · rename_i valid
      obtain rfl := Option.some.inj found
      have spelled := bigEndian_fromBigEndian input
      rw [valid.1] at spelled
      rw [bytes, spelled]
    · simp at found
  · rintro rfl
    have valid : isUuidV7 (fromBigEndian id.bytes) = true := id.fromBigEndian_bytes ▸ id.valid
    rw [ofBytes?, dif_pos ⟨id.length_bytes, valid⟩]
    simp only [id.fromBigEndian_bytes]

theorem ofBytes?_bytes (id : Id kind) : ofBytes? id.bytes = some id := ofBytes?_eq_some.mpr rfl

@[simp] theorem retype_uuid (id : Id kind) : (id.retype : Id other).uuid = id.uuid := rfl

theorem retype_injective : Function.Injective (retype : Id kind → Id other) := by
  intro left right same
  exact uuid_injective (congrArg (fun id : Id other => id.uuid) same)

end Id

/-! ## Fixed-width values -/

structure Sha256Digest extends Fixed 32
deriving DecidableEq

namespace Sha256Digest

theorem toFixed_injective : Function.Injective toFixed := by
  rintro ⟨left⟩ ⟨right⟩ same
  exact congrArg mk same

instance : LinearOrder Sha256Digest := LinearOrder.lift' toFixed toFixed_injective

/-- Thirty-two zero bytes: the predecessor of the first link of a chain. -/
def zero : Sha256Digest := ⟨.zero⟩

end Sha256Digest

structure XChaChaNonce extends Fixed 24
deriving DecidableEq

namespace XChaChaNonce

theorem toFixed_injective : Function.Injective toFixed := by
  rintro ⟨left⟩ ⟨right⟩ same
  exact congrArg mk same

instance : LinearOrder XChaChaNonce := LinearOrder.lift' toFixed toFixed_injective

end XChaChaNonce

structure Ed25519SignatureBytes extends Fixed 64
deriving DecidableEq

structure Ed25519PublicKeyBytes extends Fixed 32
deriving DecidableEq

structure X25519PublicKeyBytes extends Fixed 32
deriving DecidableEq

structure PairingRequestNonce extends Fixed 32
deriving DecidableEq

structure HybridLogicalClock where
  physicalMs : Nat
  logical : Nat
  node : DeviceId
deriving DecidableEq

/-! ## Field checks -/

inductive ValidationError where
  | emptyRequired (field : String)
  | tooLarge (field : String) (limit : Nat)
  | invalid (field : String)
deriving DecidableEq

def ValidationError.display : ValidationError → String
  | .emptyRequired field => "required field " ++ field ++ " is empty"
  | .tooLarge field limit => "field " ++ field ++ " exceeds limit " ++ toString limit
  | .invalid field => "invalid field " ++ field

def maxTitleBytes : Nat := 512
def maxMarkdownBytes : Nat := 1024 * 1024
def maxTags : Nat := 64
def maxTagBytes : Nat := 128
def maxEvidenceItems : Nat := 64
def maxEvidenceBytes : Nat := 16 * 1024
def maxComponentMetadataBytes : Nat := 64 * 1024
def maxCborOperationBytes : Nat := 5 * 1024 * 1024
def maxBatchOperations : Nat := 10000
def maxCiphertextBytes : Nat := 4 * 1024 * 1024
def maxBlobBytes : Nat := 500 * 1024 * 1024
def syncSchemaVersion : Nat := 1
def checkpointSchemaVersion : Nat := 2

/-- The Unicode white space that trimming removes. -/
def isWhitespace (character : Char) : Bool :=
  let code := character.toNat
  (9 ≤ code && code ≤ 13) || code == 0x20 || code == 0x85 || code == 0xA0 || code == 0x1680 ||
    (0x2000 ≤ code && code ≤ 0x200A) || code == 0x2028 || code == 0x2029 || code == 0x202F ||
    code == 0x205F || code == 0x3000

def requiredText (value : String) (field : String) (limit : Nat) :
    Except ValidationError Unit :=
  if value.toList.all isWhitespace then .error (.emptyRequired field)
  else if limit < value.utf8ByteSize then .error (.tooLarge field limit)
  else .ok ()

/-! ## Records -/

inductive ScopeRef where
  | global
  | project (projectId : ProjectId)
deriving DecidableEq

inductive HarnessId where
  | claudeCode | codex | hermes | openCode
deriving DecidableEq

inductive MemoryKind where
  | fact | decision | preference | pattern | procedure | note
deriving DecidableEq

inductive MemoryOrigin where
  | explicit | inferred | nativeImport | packageImport
deriving DecidableEq

inductive CandidateState where
  | pending | accepted | rejected
deriving DecidableEq

inductive TaskStatus where
  | open | inProgress | blocked | done | canceled
deriving DecidableEq

inductive ComponentKind where
  | instruction | rule | skill | plugin | mcpServer | hook | permissionDeclaration
deriving DecidableEq

inductive ProvenanceSource where
  | record (recordId : RecordId)
  | package (packageId : PackageId)
deriving DecidableEq

structure Provenance where
  originDevice : DeviceId
  harness : Option HarnessId
  source : Option ProvenanceSource
  createdHlc : HybridLogicalClock
deriving DecidableEq

structure MemoryRecord where
  id : MemoryId
  scope : ScopeRef
  kind : MemoryKind
  title : String
  bodyMarkdown : String
  tags : List String
  origin : MemoryOrigin
  provenance : Provenance
  revision : OperationId
  createdHlc : HybridLogicalClock
  updatedHlc : HybridLogicalClock
  archived : Bool
deriving DecidableEq

/-- Each tag is a text, and none occurs among the tags before it. -/
def validateTags (seen : List String) : List String → Except ValidationError Unit
  | [] => .ok ()
  | tag :: rest => do
    requiredText tag "tags" maxTagBytes
    require (tag ∉ seen) (.invalid "duplicate tag")
    validateTags (tag :: seen) rest

def MemoryRecord.validate (record : MemoryRecord) : Except ValidationError Unit := do
  requiredText record.title "title" maxTitleBytes
  requiredText record.bodyMarkdown "bodyMarkdown" maxMarkdownBytes
  require (record.tags.length ≤ maxTags) (.tooLarge "tags" maxTags)
  validateTags [] record.tags

structure MemoryCandidate where
  id : CandidateId
  proposedMemory : MemoryRecord
  evidenceSummary : String
  sourceHarness : HarnessId
  state : CandidateState
deriving DecidableEq

def MemoryCandidate.validate (candidate : MemoryCandidate) : Except ValidationError Unit := do
  candidate.proposedMemory.validate
  requiredText candidate.evidenceSummary "evidenceSummary" maxEvidenceBytes

structure TaskEvidence where
  summary : String
  evidenceKind : String
  reference : Option String
  recordedHlc : HybridLogicalClock
deriving DecidableEq

def TaskEvidence.validate (evidence : TaskEvidence) : Except ValidationError Unit := do
  requiredText evidence.summary "summary" maxEvidenceBytes
  requiredText evidence.evidenceKind "evidenceKind" maxTagBytes
  require (evidence.reference.all (fun reference => reference.utf8ByteSize ≤ maxEvidenceBytes))
    (.tooLarge "evidence.reference" maxEvidenceBytes)

structure TaskRecord where
  id : TaskId
  projectId : ProjectId
  title : String
  bodyMarkdown : String
  status : TaskStatus
  evidence : List TaskEvidence
  revision : OperationId
deriving DecidableEq

def TaskRecord.validate (task : TaskRecord) : Except ValidationError Unit := do
  requiredText task.title "title" maxTitleBytes
  requiredText task.bodyMarkdown "bodyMarkdown" maxMarkdownBytes
  require (¬ (task.status = .done ∧ task.evidence.isEmpty)) (.emptyRequired "evidence")
  require (task.evidence.length ≤ maxEvidenceItems) (.tooLarge "evidence" maxEvidenceItems)
  task.evidence.forM TaskEvidence.validate

structure SecretRef where
  id : SecretRefId
  name : String
  provider : String
  requiredOnDevice : Bool
deriving DecidableEq

def SecretRef.validate (secret : SecretRef) : Except ValidationError Unit := do
  requiredText secret.name "name" maxTitleBytes
  requiredText secret.provider "provider" maxTitleBytes

structure InstructionRecord where
  id : RecordId
  scope : ScopeRef
  title : String
  bodyMarkdown : String
  provenance : Provenance
  archived : Bool
deriving DecidableEq

def InstructionRecord.validate (record : InstructionRecord) : Except ValidationError Unit := do
  requiredText record.title "title" maxTitleBytes
  requiredText record.bodyMarkdown "bodyMarkdown" maxMarkdownBytes

structure ComponentRecord where
  id : RecordId
  scope : ScopeRef
  kind : ComponentKind
  name : String
  bodyMarkdown : String
  metadata : List (String × String)
  provenance : Provenance
  archived : Bool
deriving DecidableEq

def ComponentRecord.validate (record : ComponentRecord) : Except ValidationError Unit := do
  requiredText record.name "name" maxTitleBytes
  requiredText record.bodyMarkdown "bodyMarkdown" maxMarkdownBytes
  let metadataBytes :=
    (record.metadata.map (fun entry => entry.1.utf8ByteSize + entry.2.utf8ByteSize)).sum
  require (metadataBytes ≤ maxComponentMetadataBytes) (.tooLarge "metadata" maxComponentMetadataBytes)
  record.metadata.forM (fun entry => requiredText entry.1 "metadata.key" maxTitleBytes)

structure ProjectIdentity where
  projectId : ProjectId
  githubRepositoryId : Option Nat
  gitRemoteFingerprint : Option Sha256Digest
  monorepoSubdirectory : Option String
  name : String
deriving DecidableEq

/-- The parts of a path between its slashes. -/
def pathParts : List Char → List (List Char)
  | [] => [[]]
  | '/' :: rest => [] :: pathParts rest
  | character :: rest =>
    match pathParts rest with
    | part :: parts => (character :: part) :: parts
    | [] => [[character]]

/-- A subdirectory that is empty, too long, absolute, not normal or not printable. -/
def badSubdirectory (path : String) : Bool :=
  decide (maxTitleBytes < path.utf8ByteSize) || path.toList.isEmpty ||
    path.toList.head? == some '/' ||
    path.toList.any (fun character =>
      character.toNat == 0x5C || character == ':' || character.toNat < 0x20 ||
        (0x7F ≤ character.toNat && character.toNat ≤ 0x9F) ||
        character.toNat == 0x2028 || character.toNat == 0x2029) ||
    (pathParts path.toList).any (fun part => part.isEmpty || part == ['.'] || part == ['.', '.'])

def ProjectIdentity.validate (project : ProjectIdentity) : Except ValidationError Unit := do
  require (project.githubRepositoryId ≠ some 0) (.invalid "repositoryIdentity")
  require (!project.monorepoSubdirectory.any badSubdirectory) (.invalid "monorepoSubdirectory")
  requiredText project.name "name" maxTitleBytes

/-! ## Record mutations -/

inductive RecordKind where
  | memory | memoryCandidate | task | secretRef | instruction | component | project
deriving DecidableEq

inductive MutationKind where
  | upsert | tombstone
deriving DecidableEq

inductive RecordMutationV1 where
  | upsertMemory (record : MemoryRecord)
  | upsertMemoryCandidate (record : MemoryCandidate)
  | upsertTask (record : TaskRecord)
  | upsertSecretRef (record : SecretRef)
  | upsertInstruction (record : InstructionRecord)
  | upsertComponent (record : ComponentRecord)
  | upsertProject (record : ProjectIdentity)
  | tombstone (recordId : RecordId) (recordKind : RecordKind)
deriving DecidableEq

namespace RecordMutationV1

def recordId : RecordMutationV1 → RecordId
  | .upsertMemory record => record.id.retype
  | .upsertMemoryCandidate record => record.id.retype
  | .upsertTask record => record.id.retype
  | .upsertSecretRef record => record.id.retype
  | .upsertInstruction record => record.id
  | .upsertComponent record => record.id
  | .upsertProject record => record.projectId.retype
  | .tombstone recordId _ => recordId

def recordKind : RecordMutationV1 → RecordKind
  | .upsertMemory _ => .memory
  | .upsertMemoryCandidate _ => .memoryCandidate
  | .upsertTask _ => .task
  | .upsertSecretRef _ => .secretRef
  | .upsertInstruction _ => .instruction
  | .upsertComponent _ => .component
  | .upsertProject _ => .project
  | .tombstone _ recordKind => recordKind

def mutationKind : RecordMutationV1 → MutationKind
  | .tombstone _ _ => .tombstone
  | _ => .upsert

def validate : RecordMutationV1 → Except ValidationError Unit
  | .upsertMemory record => record.validate
  | .upsertMemoryCandidate record => record.validate
  | .upsertTask record => record.validate
  | .upsertSecretRef record => record.validate
  | .upsertInstruction record => record.validate
  | .upsertComponent record => record.validate
  | .upsertProject record => record.validate
  | .tombstone _ _ => .ok ()

end RecordMutationV1

/-! ## Signed operations and checkpoints -/

structure DeviceSequence where
  deviceId : DeviceId
  sequence : Nat
deriving DecidableEq

structure BlobRef where
  digest : Sha256Digest
  ciphertextBytes : Nat
  storageId : String
deriving DecidableEq

structure SyncOperationV1 where
  schemaVersion : Nat
  operationId : OperationId
  accountId : AccountId
  workspaceId : WorkspaceId
  projectId : Option ProjectId
  recordId : RecordId
  recordKind : RecordKind
  mutationKind : MutationKind
  deviceId : DeviceId
  deviceSequence : Nat
  causalFrontier : List DeviceSequence
  controlEpoch : Nat
  keyEpoch : Nat
  previousDeviceHash : Sha256Digest
  nonce : XChaChaNonce
  ciphertext : Bytes
  ciphertextHash : Sha256Digest
  blobRefs : List BlobRef
  createdHlc : HybridLogicalClock
  signature : Ed25519SignatureBytes
deriving DecidableEq

/-- Neighbouring entries have strictly ascending device ids. -/
def devicesAscend : List DeviceSequence → Bool
  | left :: right :: rest => decide (left.deviceId < right.deviceId) && devicesAscend (right :: rest)
  | _ => true

def BlobRef.validate (blob : BlobRef) : Except ValidationError Unit := do
  requiredText blob.storageId "blobRefs.storageId" maxTitleBytes
  require (0 < blob.ciphertextBytes ∧ blob.ciphertextBytes ≤ maxBlobBytes)
    (.invalid "blobRefs.ciphertextBytes")

def SyncOperationV1.validate (operation : SyncOperationV1) : Except ValidationError Unit := do
  require (operation.schemaVersion = syncSchemaVersion) (.invalid "schemaVersion")
  require (operation.causalFrontier.length ≤ maxBatchOperations)
    (.tooLarge "causalFrontier" maxBatchOperations)
  require (operation.blobRefs.length ≤ maxBatchOperations) (.tooLarge "blobRefs" maxBatchOperations)
  require (devicesAscend operation.causalFrontier) (.invalid "causalFrontier")
  operation.blobRefs.forM BlobRef.validate

structure CheckpointV1 where
  schemaVersion : Nat
  accountId : AccountId
  workspaceId : WorkspaceId
  previousCheckpointHash : Sha256Digest
  causalFrontier : List DeviceSequence
  stateHash : Sha256Digest
  keyEpoch : Nat
  creatorDevice : DeviceId
  createdHlc : HybridLogicalClock
  signature : Ed25519SignatureBytes
deriving DecidableEq

def CheckpointV1.validate (checkpoint : CheckpointV1) : Except ValidationError Unit := do
  require (checkpoint.schemaVersion = checkpointSchemaVersion) (.invalid "schemaVersion")
  require (checkpoint.causalFrontier.length ≤ maxBatchOperations)
    (.tooLarge "causalFrontier" maxBatchOperations)
  require (devicesAscend checkpoint.causalFrontier) (.invalid "causalFrontier")

/-- One record of the state a checkpoint commits to. -/
structure StateSummaryEntryV1 where
  recordId : RecordId
  recordKind : RecordKind
  headHashes : List Sha256Digest
  tombstoned : Bool
  conflicted : Bool
deriving DecidableEq

structure StateSummaryV1 where
  entries : List StateSummaryEntryV1
deriving DecidableEq

/-- The account and workspace one sync engine serves. -/
structure SyncScope where
  accountId : AccountId
  workspaceId : WorkspaceId
deriving DecidableEq

/-! ## Native values -/

inductive NativePlatform where
  | windows | macos
deriving DecidableEq

/-- A path or name as the platform spells it, and how it may be shown. -/
structure WireNativeValue where
  platform : NativePlatform
  bytes : Bytes
  display : Option String
deriving DecidableEq

def maxArbitraryBytes : Nat := 1024 * 1024
def maxNativeDisplayBytes : Nat := 1024

def isControl (character : Char) : Bool :=
  character.toNat < 0x20 || (0x7f ≤ character.toNat && character.toNat < 0xa0)

/-- Control characters and the marks that reorder text. -/
def unsafeNativeDisplay (display : String) : Bool :=
  display.toList.any fun character =>
    let code := character.toNat
    isControl character || code = 0x061c || code = 0x200e || code = 0x200f ||
      (0x202a ≤ code && code ≤ 0x202e) || (0x2066 ≤ code && code ≤ 0x2069)

def WireNativeValue.validate (value : WireNativeValue) : Except ValidationError Unit := do
  require (value.bytes.length ≤ maxArbitraryBytes) (.tooLarge "nativeValue.bytes" maxArbitraryBytes)
  match value.display with
  | none => pure ()
  | some display => do
    require (display.utf8ByteSize ≤ maxNativeDisplayBytes)
      (.tooLarge "nativeValue.display" maxNativeDisplayBytes)
    require (unsafeNativeDisplay display = false) (.invalid "nativeValue.display")
  require (value.platform ≠ .windows ∨ value.bytes.length % 2 = 0) (.invalid "windowsUtf16Le")

end ContextRelay
