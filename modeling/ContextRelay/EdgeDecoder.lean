import ContextRelay.SignedBindings

/-! The decoder of the hosted edge function. It reads canonical encodings only: every length
is checked to be the shortest one as it is read. It returns the fields in the forms the
request to the database uses, together with the bytes the signature covers, which it cuts out
of its input. -/
namespace ContextRelay.Edge

open Library Library.Cbor

structure SyncEdgeError where
  status : Nat
  code : String
deriving DecidableEq

def invalidEnvelope : SyncEdgeError := ⟨422, "invalid_envelope"⟩

abbrev Canonical := Reader SyncEdgeError

/-! ## The reader of canonical items -/

/-- An argument behind the lead byte, which a shorter form could not have held. -/
def longArgument (width least : Nat) : Canonical Nat := do
  let bytes ← Reader.take width invalidEnvelope
  Reader.lift (require (least ≤ fromBigEndian bytes) invalidEnvelope)
  pure (fromBigEndian bytes)

def readLength (major : Major) : Canonical Nat := do
  let first ← Reader.byte invalidEnvelope
  Reader.lift (require (first.toNat / 32 = major.code) invalidEnvelope)
  let additional := first.toNat % 32
  if additional < 24 then pure additional
  else if additional = 24 then longArgument 1 24
  else if additional = 25 then longArgument 2 (2 ^ 8)
  else if additional = 26 then longArgument 4 (2 ^ 16)
  else if additional = 27 then longArgument 8 (2 ^ 32)
  else Reader.fail invalidEnvelope

def unsigned (maximum : Nat) : Canonical Nat := do
  let value ← readLength .unsigned
  Reader.lift (require (value ≤ maximum) invalidEnvelope)
  pure value

def expectUnsigned (expected : Nat) : Canonical Unit := do
  let value ← unsigned 255
  Reader.lift (require (value = expected) invalidEnvelope)

def expectMap (length : Nat) : Canonical Unit := do
  let found ← readLength .map
  Reader.lift (require (found = length) invalidEnvelope)

def expectArray (length : Nat) : Canonical Unit := do
  let found ← readLength .array
  Reader.lift (require (found = length) invalidEnvelope)

def arrayLength (maximum : Nat) : Canonical Nat := do
  let length ← readLength .array
  Reader.lift (require (length ≤ maximum) invalidEnvelope)
  pure length

def byteString (maximum : Nat) : Canonical Bytes := do
  let length ← readLength .bytes
  Reader.lift (require (length ≤ maximum) invalidEnvelope)
  Reader.take length invalidEnvelope

def fixedBytes (length : Nat) : Canonical Bytes := do
  let value ← byteString length
  Reader.lift (require (value.length = length) invalidEnvelope)
  pure value

def text (maximum : Nat) : Canonical String := do
  let length ← readLength .text
  Reader.lift (require (length ≤ maximum) invalidEnvelope)
  let bytes ← Reader.take length invalidEnvelope
  let value ← Reader.lift (present (String.fromUTF8? ⟨bytes.toArray⟩) invalidEnvelope)
  Reader.lift (require (value.toList.all isWhitespace = false) invalidEnvelope)
  pure value

/-- Sixteen bytes as a lower-case, hyphenated identifier. -/
def uuidText (bytes : Bytes) : String :=
  let hex := bytes.flatMap fun byte =>
    [Nat.digitChar (byte.toNat / 16), Nat.digitChar (byte.toNat % 16)]
  let slice (start stop : Nat) := (hex.drop start).take (stop - start)
  String.ofList (slice 0 8 ++ '-' :: slice 8 12 ++ '-' :: slice 12 16 ++ '-' :: slice 16 20 ++
    '-' :: slice 20 hex.length)

def uuid (bytes : Bytes) : Except SyncEdgeError String := do
  require (bytes.length = 16 ∧ bytes.getD 6 0 >>> 4 = 7 ∧ bytes.getD 8 0 &&& 0xc0 = 0x80)
    invalidEnvelope
  pure (uuidText bytes)

def readUuid : Canonical String := do
  let bytes ← fixedBytes 16
  Reader.lift (uuid bytes)

def nullableUuid : Canonical (Option String) := do
  let left ← Reader.remaining
  if left.head? = some 0xf6 then
    let _ ← Reader.byte invalidEnvelope
    pure none
  else
    let id ← readUuid
    pure (some id)

/-- The entry of a map: its key, then its value. -/
def entry (number : Nat) (value : Canonical α) : Canonical α := do
  expectUnsigned number
  value

/-! ## Lists and clocks -/

/-- The difference of the first bytes that differ. -/
def compareBytes : Bytes → Bytes → Int
  | left :: lefts, right :: rights =>
    if left ≠ right then left.toNat - right.toNat else compareBytes lefts rights
  | _, _ => 0

structure FrontierEntry where
  deviceId : String
  sequence : String
deriving DecidableEq

/-- The entries after a device, which each must come after the one before it. -/
def readFrontierEntries (previous : Option Bytes) : Nat → Canonical (List FrontierEntry)
  | 0 => pure []
  | count + 1 => do
    expectArray 2
    let deviceBytes ← fixedBytes 16
    Reader.lift (require (∀ before ∈ previous, compareBytes before deviceBytes < 0) invalidEnvelope)
    let deviceId ← Reader.lift (uuid deviceBytes)
    let sequence ← unsigned (2 ^ 64 - 1)
    let rest ← readFrontierEntries (some deviceBytes) count
    pure (⟨deviceId, toString sequence⟩ :: rest)

def readFrontier : Canonical (List FrontierEntry) := do
  let length ← arrayLength maxBatchOperations
  readFrontierEntries none length

structure Blob where
  digest : Bytes
  ciphertextBytes : String
  storageId : String
deriving DecidableEq

def readBlob : Canonical Blob := do
  expectMap 3
  let digest ← entry 0 (fixedBytes 32)
  let ciphertextBytes ← entry 1 (unsigned maxBlobBytes)
  Reader.lift (require (ciphertextBytes ≠ 0) invalidEnvelope)
  let storageId ← entry 2 (text maxTitleBytes)
  pure ⟨digest, toString ciphertextBytes, storageId⟩

def readBlobs : Canonical (List Blob) := do
  let length ← arrayLength maxBatchOperations
  Reader.repeated readBlob length

structure Hlc where
  physicalMs : String
  logical : Nat
  node : String
deriving DecidableEq

def readHlc : Canonical Hlc := do
  expectMap 3
  let physicalMs ← entry 0 (unsigned (2 ^ 64 - 1))
  let logical ← entry 1 (unsigned (2 ^ 32 - 1))
  let node ← entry 2 readUuid
  pure ⟨toString physicalMs, logical, node⟩

/-! ## Messages -/

/-- The input up to the signature's key, with the first byte of a map that has one entry
less. -/
def cutPreimage (first : UInt8) (canonicalBytes left : Bytes) : Bytes :=
  first :: (canonicalBytes.take (canonicalBytes.length - left.length)).drop 1

structure Checkpoint where
  schemaVersion : Nat
  accountId : String
  workspaceId : String
  previousCheckpointHash : Bytes
  causalFrontier : List FrontierEntry
  stateHash : Bytes
  keyEpoch : Nat
  creatorDeviceId : String
  createdHlc : Hlc
  signature : Bytes
  signingPreimage : Bytes
  canonicalBytes : Bytes
deriving DecidableEq

def readCheckpoint (canonicalBytes : Bytes) : Canonical Checkpoint := do
  expectMap 10
  let schemaVersion ← entry 0 (unsigned (2 ^ 16 - 1))
  Reader.lift (require (schemaVersion = 2) invalidEnvelope)
  let accountId ← entry 1 readUuid
  let workspaceId ← entry 2 readUuid
  let previousCheckpointHash ← entry 3 (fixedBytes 32)
  let causalFrontier ← entry 4 readFrontier
  let stateHash ← entry 5 (fixedBytes 32)
  let keyEpoch ← entry 6 (unsigned (2 ^ 32 - 1))
  let creatorDeviceId ← entry 7 readUuid
  let createdHlc ← entry 8 readHlc
  let left ← Reader.remaining
  let signature ← entry 9 (fixedBytes 64)
  pure {
    schemaVersion, accountId, workspaceId, previousCheckpointHash, causalFrontier, stateHash
    keyEpoch, creatorDeviceId, createdHlc, signature
    signingPreimage := cutPreimage 0xa9 canonicalBytes left
    canonicalBytes }

structure Operation where
  schemaVersion : Nat
  operationId : String
  accountId : String
  workspaceId : String
  projectId : Option String
  recordId : String
  recordKind : RecordKind
  mutationKind : MutationKind
  deviceId : String
  deviceSequence : String
  causalFrontier : List FrontierEntry
  controlEpoch : Nat
  keyEpoch : Nat
  previousDeviceHash : Bytes
  nonce : Bytes
  ciphertext : Bytes
  ciphertextHash : Bytes
  blobRefs : List Blob
  createdHlc : Hlc
  signature : Bytes
  signingPreimage : Bytes
  canonicalBytes : Bytes
deriving DecidableEq

def recordKinds : List RecordKind :=
  [.memory, .memoryCandidate, .task, .secretRef, .instruction, .component, .project]

def mutationKinds : List MutationKind := [.upsert, .tombstone]

/-- A kind by its place in a table whose last place is the maximum. -/
def readKind (kinds : List κ) (maximum : Nat) : Canonical κ := do
  let code ← unsigned maximum
  Reader.lift (present kinds[code]? invalidEnvelope)

def readOperation (canonicalBytes : Bytes) : Canonical Operation := do
  expectMap 20
  let schemaVersion ← entry 0 (unsigned (2 ^ 16 - 1))
  Reader.lift (require (schemaVersion = 1) invalidEnvelope)
  let operationId ← entry 1 readUuid
  let accountId ← entry 2 readUuid
  let workspaceId ← entry 3 readUuid
  let projectId ← entry 4 nullableUuid
  let recordId ← entry 5 readUuid
  let recordKind ← entry 6 (readKind recordKinds 6)
  let mutationKind ← entry 7 (readKind mutationKinds 1)
  let deviceId ← entry 8 readUuid
  let deviceSequence ← entry 9 (unsigned (2 ^ 64 - 1))
  let causalFrontier ← entry 10 readFrontier
  let controlEpoch ← entry 11 (unsigned (2 ^ 32 - 1))
  let keyEpoch ← entry 12 (unsigned (2 ^ 32 - 1))
  let previousDeviceHash ← entry 13 (fixedBytes 32)
  let nonce ← entry 14 (fixedBytes 24)
  let ciphertext ← entry 15 (byteString maxCiphertextBytes)
  let ciphertextHash ← entry 16 (fixedBytes 32)
  let blobRefs ← entry 17 readBlobs
  let createdHlc ← entry 18 readHlc
  let left ← Reader.remaining
  let signature ← entry 19 (fixedBytes 64)
  pure {
    schemaVersion, operationId, accountId, workspaceId, projectId, recordId, recordKind
    mutationKind, deviceId
    deviceSequence := toString deviceSequence
    causalFrontier, controlEpoch, keyEpoch, previousDeviceHash, nonce, ciphertext, ciphertextHash
    blobRefs, createdHlc, signature
    signingPreimage := cutPreimage 0xb3 canonicalBytes left
    canonicalBytes }

/-- A whole input: neither empty nor too long, and read to its end. -/
def decodeWhole (reader : Bytes → Canonical α) (canonicalBytes : Bytes) :
    Except SyncEdgeError α := do
  require (canonicalBytes.length ≠ 0 ∧ canonicalBytes.length ≤ maxCborOperationBytes)
    invalidEnvelope
  let read ← reader canonicalBytes canonicalBytes
  require (read.2 = []) invalidEnvelope
  pure read.1

def decodeOperation (canonicalBytes : Bytes) : Except SyncEdgeError Operation :=
  decodeWhole readOperation canonicalBytes

def decodeCheckpoint (canonicalBytes : Bytes) : Except SyncEdgeError Checkpoint :=
  decodeWhole readCheckpoint canonicalBytes

/-! ## What the reader accepts

Each part is accepted exactly where it is spelled as the writers of the protocol crate spell
it. -/

section

variable {input rest : Bytes} {maximum length : Nat}

theorem longArgument_eq_ok :
    longArgument width least input = .ok (value, rest) ↔
      least ≤ value ∧ value < 256 ^ width ∧ input = bigEndian width value ++ rest := by
  simp only [longArgument, read_iff, Reader.take_eq_ok]
  constructor
  · rintro ⟨bytes, _, ⟨rfl, rfl⟩, _, _, ⟨enough, rfl⟩, rfl, rfl⟩
    exact ⟨enough, fromBigEndian_lt bytes, by rw [bigEndian_fromBigEndian]⟩
  · rintro ⟨enough, small, rfl⟩
    have value := fromBigEndian_bigEndian small
    exact ⟨_, _, ⟨length_bigEndian _ _, rfl⟩, (), _, ⟨value.symm ▸ enough, rfl⟩, value, rfl⟩

theorem readLength_inline (code : first.toNat / 32 = major.code) (inline : first.toNat % 32 < 24)
    (rest : Bytes) : readLength major (first :: rest) = .ok (first.toNat % 32, rest) := by
  simp only [readLength, Reader.bind_apply, Reader.byte, ok_bind, require_pos code,
    Reader.lift_ok_apply, if_pos inline, Reader.pure_apply]

theorem readLength_long (code : first.toNat / 32 = major.code)
    (form : LongForm (first.toNat % 32) width least) (rest : Bytes) :
    readLength major (first :: rest) = longArgument width least rest := by
  simp only [readLength, Reader.bind_apply, Reader.byte, ok_bind, require_pos code,
    Reader.lift_ok_apply]
  generalize first.toNat % 32 = additional at form
  cases form <;> rfl

theorem readLength_eq_ok :
    readLength major input = .ok (value, rest) ↔
      value < 2 ^ 64 ∧ input = head major value ++ rest := by
  constructor
  · intro read
    have began := read
    simp only [readLength, read_iff, Reader.byte_eq_ok] at began
    obtain ⟨first, tail, rfl, _, _, ⟨code, rfl⟩, continued⟩ := began
    have spelled : lead major (first.toNat % 32) = first := by
      apply UInt8.toNat_inj.mp
      rw [lead_toNat major (by omega)]
      omega
    by_cases inline : first.toNat % 32 < 24
    · rw [readLength_inline code inline] at read
      obtain ⟨rfl, rfl⟩ := Prod.mk.inj (Except.ok.inj read)
      exact ⟨by omega, by rw [head_inline major inline, spelled, List.singleton_append]⟩
    · have form : ∃ width least, LongForm (first.toNat % 32) width least := by
        rw [if_neg inline] at continued
        split at continued
        · rename_i is
          exact ⟨1, 24, by rw [is]; exact .one⟩
        split at continued
        · rename_i is
          exact ⟨2, 2 ^ 8, by rw [is]; exact .two⟩
        split at continued
        · rename_i is
          exact ⟨4, 2 ^ 16, by rw [is]; exact .four⟩
        split at continued
        · rename_i is
          exact ⟨8, 2 ^ 32, by rw [is]; exact .eight⟩
        · exact (Reader.fail_eq_ok.mp continued).elim
      obtain ⟨width, least, form⟩ := form
      rw [readLength_long code form] at read
      obtain ⟨enough, small, rfl⟩ := longArgument_eq_ok.mp read
      exact ⟨lt_of_lt_of_le small form.bounds.2.2.2,
        by rw [form.head major enough small, spelled, List.cons_append]⟩
  · rintro ⟨fits, rfl⟩
    rcases argument_cases fits with inline | ⟨additional, width, least, form, enough, small⟩
    · have left := lead_additional major (show value < 32 by omega)
      rw [head_inline major inline, List.singleton_append,
        readLength_inline (lead_major major (by omega)) (by rw [left]; exact inline), left]
    · obtain ⟨_, high, _⟩ := form.bounds
      have left := lead_additional major (show additional < 32 by omega)
      rw [form.head major enough small, List.cons_append,
        readLength_long (lead_major major (by omega)) (left.symm ▸ form)]
      exact longArgument_eq_ok.mpr ⟨enough, small, rfl⟩

theorem unsigned_eq_ok :
    unsigned maximum input = .ok (value, rest) ↔
      value ≤ maximum ∧ value < 2 ^ 64 ∧ input = Cbor.unsigned value ++ rest := by
  simp only [unsigned, read_iff, readLength_eq_ok]
  constructor
  · rintro ⟨_, _, ⟨fits, rfl⟩, _, _, ⟨within, rfl⟩, rfl, rfl⟩
    exact ⟨within, fits, rfl⟩
  · rintro ⟨within, fits, rfl⟩
    exact ⟨_, _, ⟨fits, rfl⟩, (), _, ⟨within, rfl⟩, rfl, rfl⟩

theorem expectUnsigned_eq_ok (small : expected < 2 ^ 8) :
    expectUnsigned expected input = .ok ((), rest) ↔
      input = CanonicalCbor.key expected ++ rest := by
  simp only [expectUnsigned, read_iff, unsigned_eq_ok]
  constructor
  · rintro ⟨_, _, ⟨_, _, rfl⟩, rfl, rfl⟩
    rfl
  · rintro rfl
    exact ⟨_, _, ⟨by omega, by omega, rfl⟩, rfl, rfl⟩

theorem expectMap_spells (length : Nat) (fits : length < 2 ^ 64 := by decide) :
    Reader.Spells (expectMap length) (fun _ : Unit => head .map length) (fun done => done)
      (fun _ => True) := by
  intro input found rest
  simp only [expectMap, read_iff, readLength_eq_ok]
  constructor
  · rintro ⟨_, _, ⟨_, rfl⟩, rfl, rfl⟩
    exact ⟨(), True.intro, True.intro, rfl⟩
  · rintro ⟨_, _, _, rfl⟩
    exact ⟨_, _, ⟨fits, rfl⟩, rfl, rfl⟩

theorem expectArray_spells (length : Nat) (fits : length < 2 ^ 64 := by decide) :
    Reader.Spells (expectArray length) (fun _ : Unit => head .array length) (fun done => done)
      (fun _ => True) := by
  intro input found rest
  simp only [expectArray, read_iff, readLength_eq_ok]
  constructor
  · rintro ⟨_, _, ⟨_, rfl⟩, rfl, rfl⟩
    exact ⟨(), True.intro, True.intro, rfl⟩
  · rintro ⟨_, _, _, rfl⟩
    exact ⟨_, _, ⟨fits, rfl⟩, rfl, rfl⟩

theorem arrayLength_eq_ok (fits : maximum < 2 ^ 64) :
    arrayLength maximum input = .ok (length, rest) ↔
      length ≤ maximum ∧ input = head .array length ++ rest := by
  simp only [arrayLength, read_iff, readLength_eq_ok]
  constructor
  · rintro ⟨_, _, ⟨_, rfl⟩, _, _, ⟨within, rfl⟩, rfl, rfl⟩
    exact ⟨within, rfl⟩
  · rintro ⟨within, rfl⟩
    exact ⟨_, _, ⟨by omega, rfl⟩, (), _, ⟨within, rfl⟩, rfl, rfl⟩

theorem byteString_eq_ok (fits : maximum < 2 ^ 64) :
    byteString maximum input = .ok (value, rest) ↔
      value.length ≤ maximum ∧ input = Cbor.byteString value ++ rest := by
  simp only [byteString, read_iff, readLength_eq_ok, Reader.take_eq_ok, Cbor.byteString,
    List.append_assoc]
  constructor
  · rintro ⟨_, _, ⟨_, rfl⟩, _, _, ⟨within, rfl⟩, rfl, rfl⟩
    exact ⟨within, rfl⟩
  · rintro ⟨within, rfl⟩
    exact ⟨_, _, ⟨by omega, rfl⟩, (), _, ⟨within, rfl⟩, rfl, rfl⟩

theorem fixedBytes_eq_ok (fits : length < 2 ^ 64) :
    fixedBytes length input = .ok (value, rest) ↔
      value.length = length ∧ input = Cbor.byteString value ++ rest := by
  simp only [fixedBytes, read_iff, byteString_eq_ok fits]
  constructor
  · rintro ⟨_, _, ⟨_, rfl⟩, _, _, ⟨whole, rfl⟩, rfl, rfl⟩
    exact ⟨whole, rfl⟩
  · rintro ⟨whole, rfl⟩
    exact ⟨_, _, ⟨by omega, rfl⟩, (), _, ⟨whole, rfl⟩, rfl, rfl⟩

theorem text_eq_ok (fits : maximum < 2 ^ 64) :
    text maximum input = .ok (value, rest) ↔
      value.utf8ByteSize ≤ maximum ∧ value.toList.all isWhitespace = false ∧
        input = Cbor.text value ++ rest := by
  simp only [text, read_iff, readLength_eq_ok, Reader.take_eq_ok, present_eq_ok, fromUTF8?_eq_some,
    Cbor.text, List.append_assoc, ← length_utf8]
  constructor
  · rintro ⟨_, _, ⟨_, rfl⟩, _, _, ⟨within, rfl⟩, _, _, ⟨rfl, rfl⟩, _, _, ⟨rfl, rfl⟩, _, _,
      ⟨visible, rfl⟩, rfl, rfl⟩
    exact ⟨within, visible, rfl⟩
  · rintro ⟨within, visible, rfl⟩
    exact ⟨_, _, ⟨by omega, rfl⟩, (), _, ⟨within, rfl⟩, _, _, ⟨rfl, rfl⟩, _, _, ⟨rfl, rfl⟩, (), _,
      ⟨visible, rfl⟩, rfl, rfl⟩

theorem entry_eq_ok (small : number < 2 ^ 8) :
    entry number value input = .ok (found, rest) ↔
      ∃ middle, input = CanonicalCbor.key number ++ middle ∧
        value middle = .ok (found, rest) := by
  simp only [entry, Reader.bind_eq_ok, exists_unit, expectUnsigned_eq_ok small]

/-! ### Identifiers -/

theorem shiftRight_four (byte : UInt8) : byte >>> 4 = 7 ↔ byte.toNat / 16 = 7 := by
  rw [← UInt8.toNat_inj, UInt8.toNat_shiftRight]
  simp [Nat.shiftRight_eq_div_pow]

set_option maxRecDepth 4000 in
theorem and_variant (byte : UInt8) : byte &&& 0xc0 = 0x80 ↔ byte.toNat / 64 = 2 := by
  cases byte with
  | ofBitVec bits =>
    cases bits with
    | ofFin value =>
      revert value
      decide

/-- The version and variant bits of an identifier, byte by byte. -/
theorem isUuidV7_bytes (whole : bytes.length = 16) :
    isUuidV7 (fromBigEndian bytes) = true ↔
      bytes.getD 6 0 >>> 4 = 7 ∧ bytes.getD 8 0 &&& 0xc0 = 0x80 := by
  have version := fromBigEndian_byte (show 6 < bytes.length by omega)
  have variant := fromBigEndian_byte (show 8 < bytes.length by omega)
  have fits := fromBigEndian_lt bytes
  rw [whole] at version variant fits
  simp only [isUuidV7, Bool.and_eq_true, decide_eq_true_eq, beq_iff_eq]
  rw [shiftRight_four, and_variant, ← version, ← variant]
  omega

theorem uuid_eq_ok (kind : IdKind) :
    uuid bytes = .ok found ↔ ∃ id : Id kind, bytes = id.bytes ∧ uuidText id.bytes = found := by
  simp only [uuid, ok_iff]
  constructor
  · rintro ⟨⟨whole, marked⟩, rfl⟩
    have valid := (isUuidV7_bytes whole).mpr marked
    have spelled := bigEndian_fromBigEndian bytes
    rw [whole] at spelled
    have same : (⟨fromBigEndian bytes, valid⟩ : Id kind).bytes = bytes := by rw [Id.bytes, spelled]
    exact ⟨⟨fromBigEndian bytes, valid⟩, same.symm, congrArg uuidText same⟩
  · rintro ⟨id, rfl, rfl⟩
    have valid : isUuidV7 (fromBigEndian id.bytes) = true := id.fromBigEndian_bytes ▸ id.valid
    exact ⟨⟨id.length_bytes, (isUuidV7_bytes id.length_bytes).mp valid⟩, rfl⟩

theorem readUuid_spells (kind : IdKind) :
    Reader.Spells readUuid (fun id : Id kind => Cbor.byteString id.bytes)
      (fun id => uuidText id.bytes) (fun _ => True) := by
  intro input found rest
  simp only [readUuid, read_iff, fixedBytes_eq_ok (show 16 < 2 ^ 64 by decide), uuid_eq_ok kind,
    true_and]
  constructor
  · rintro ⟨_, _, ⟨_, rfl⟩, ⟨id, rfl, shown⟩, rfl⟩
    exact ⟨id, shown, rfl⟩
  · rintro ⟨id, shown, rfl⟩
    exact ⟨_, _, ⟨id.length_bytes, rfl⟩, ⟨id, rfl, shown⟩, rfl⟩

theorem nullableUuid_spells :
    Reader.Spells nullableUuid CanonicalCbor.encodeProject
      (Option.map fun id : ProjectId => uuidText id.bytes) (fun _ => True) := by
  intro input found rest
  simp only [nullableUuid, Reader.bind_eq_ok, Reader.remaining_eq_ok, true_and]
  constructor
  · rintro ⟨_, _, ⟨rfl, rfl⟩, read⟩
    split at read
    · simp only [read_iff, Reader.byte_eq_ok] at read
      obtain ⟨byte, _, rfl, rfl, rfl⟩ := read
      rename_i null
      obtain rfl : byte = 0xf6 := Option.some.inj null
      exact ⟨none, rfl, rfl⟩
    · simp only [read_iff] at read
      obtain ⟨_, _, read, rfl, rfl⟩ := read
      obtain ⟨id, _, rfl, rfl⟩ := (readUuid_spells .project).inv read
      exact ⟨some id, rfl, rfl⟩
  · rintro ⟨project, rfl, rfl⟩
    refine ⟨_, _, ⟨rfl, rfl⟩, ?_⟩
    cases project with
    | none => rfl
    | some id =>
      have first : (Cbor.byteString id.bytes ++ rest).head? = some 0x50 := by
        simp [Cbor.byteString, head, lead, Major.code]
      rw [CanonicalCbor.encodeProject, first, if_neg (by decide),
        Reader.bind_ok ((readUuid_spells .project).read True.intro rest)]
      rfl

/-! ### Values with a view -/

theorem unsigned_spells (fits : maximum < 2 ^ 64) :
    Reader.Spells (unsigned maximum) Cbor.unsigned (fun value => value)
      (fun value => value ≤ maximum) := by
  intro input found rest
  rw [unsigned_eq_ok]
  constructor
  · rintro ⟨within, _, rfl⟩
    exact ⟨found, within, rfl, rfl⟩
  · rintro ⟨value, within, rfl, rfl⟩
    exact ⟨within, lt_of_le_of_lt within fits, rfl⟩

theorem unsigned_below (bound : Nat) (positive : 0 < bound := by decide)
    (fits : bound ≤ 2 ^ 64 := by decide) :
    Reader.Spells (unsigned (bound - 1)) Cbor.unsigned (fun value => value)
      (fun value => value < bound) := by
  intro input found rest
  rw [unsigned_spells (show bound - 1 < 2 ^ 64 by omega)]
  refine exists_congr fun value => and_congr_left fun _ => ?_
  omega

theorem byteString_spells (fits : maximum < 2 ^ 64) :
    Reader.Spells (byteString maximum) Cbor.byteString (fun value => value)
      (fun value => value.length ≤ maximum) := by
  intro input found rest
  rw [byteString_eq_ok fits]
  constructor
  · rintro ⟨within, rfl⟩
    exact ⟨found, within, rfl, rfl⟩
  · rintro ⟨_, within, rfl, rfl⟩
    exact ⟨within, rfl⟩

theorem fixedBytes_spells (width : Nat) (fits : width < 2 ^ 64 := by decide) :
    Reader.Spells (fixedBytes width) (fun fixed : Fixed width => Cbor.byteString fixed.bytes)
      Fixed.bytes (fun _ => True) := by
  intro input found rest
  rw [fixedBytes_eq_ok fits]
  constructor
  · rintro ⟨whole, rfl⟩
    have read : Fixed.ofBytes? found = some ⟨fromBigEndian found, whole ▸ fromBigEndian_lt found⟩ :=
      dif_pos whole
    have spelled := Fixed.ofBytes?_eq_some.mp read
    exact ⟨_, True.intro, spelled.symm, congrArg (fun bytes => Cbor.byteString bytes ++ rest) spelled⟩
  · rintro ⟨fixed, _, rfl, rfl⟩
    exact ⟨fixed.length_bytes, rfl⟩

/-- An entry of a map is accepted where its key and its value are. -/
theorem entry_spells {holds : α → Prop} (spells : Reader.Spells reader write view holds)
    (number : Nat) (small : number < 2 ^ 8 := by decide) :
    Reader.Spells (entry number reader) (fun value => CanonicalCbor.key number ++ write value) view
      holds := by
  intro input found rest
  rw [entry_eq_ok small]
  constructor
  · rintro ⟨_, rfl, read⟩
    obtain ⟨value, has, rfl, rfl⟩ := spells.inv read
    exact ⟨value, has, rfl, by rw [List.append_assoc]⟩
  · rintro ⟨value, has, rfl, rfl⟩
    exact ⟨_, by rw [List.append_assoc], spells.read has rest⟩

theorem readKind_spells {code : κ → Nat} (fits : maximum < 2 ^ 64)
    (bounded : ∀ kind, code kind ≤ maximum)
    (table : ∀ (place : Nat) (kind : κ), place ≤ maximum → (kinds[place]? = some kind ↔ place = code kind)) :
    Reader.Spells (readKind kinds maximum) (fun kind => Cbor.unsigned (code kind)) (fun kind => kind)
      (fun _ => True) := by
  intro input found rest
  simp only [readKind, read_iff, unsigned_eq_ok, present_eq_ok]
  constructor
  · rintro ⟨place, _, ⟨within, _, rfl⟩, known, rfl⟩
    obtain rfl := (table place found within).mp known
    exact ⟨found, True.intro, rfl, rfl⟩
  · rintro ⟨kind, _, rfl, rfl⟩
    have within := bounded kind
    exact ⟨_, _, ⟨within, by omega, rfl⟩, (table _ _ within).mpr rfl, rfl⟩

end

theorem recordKind_spells :
    Reader.Spells (readKind recordKinds 6)
      (fun kind => Cbor.unsigned (CanonicalCbor.recordKind kind)) (fun kind => kind)
      (fun _ => True) := by
  refine readKind_spells (by decide) (fun kind => by cases kind <;> decide) ?_
  intro place kind
  revert place
  cases kind <;> decide

theorem mutationKind_spells :
    Reader.Spells (readKind mutationKinds 1)
      (fun kind => Cbor.unsigned (CanonicalCbor.mutationKind kind)) (fun kind => kind)
      (fun _ => True) := by
  refine readKind_spells (by decide) (fun kind => by cases kind <;> decide) ?_
  intro place kind
  revert place
  cases kind <;> decide

/-! ### Clocks, frontiers and blobs -/

def hlcView (hlc : HybridLogicalClock) : Hlc :=
  ⟨toString hlc.physicalMs, hlc.logical, uuidText hlc.node.bytes⟩

theorem readHlc_spells :
    Reader.Spells readHlc CanonicalCbor.encodeHlc hlcView CanonicalCbor.HlcTyped := by
  have opening := expectMap_spells 3
  have physicalEntry := entry_spells (unsigned_below (2 ^ 64)) 0
  have logicalEntry := entry_spells (unsigned_below (2 ^ 32)) 1
  have nodeEntry := entry_spells (readUuid_spells .device) 2
  intro input found rest
  simp only [readHlc, opening.bind_iff, physicalEntry.bind_iff, logicalEntry.bind_iff,
    nodeEntry.bind_iff, Reader.pure_eq_ok, CanonicalCbor.encodeHlc, List.append_assoc]
  constructor
  · rintro ⟨_, _, _, rfl, physicalMs, physical, _, rfl, logical, small, _, rfl, node, _, _, rfl,
      rfl, rfl⟩
    exact ⟨⟨physicalMs, logical, node⟩, ⟨physical, small⟩, rfl, rfl⟩
  · rintro ⟨hlc, typed, rfl, rfl⟩
    exact ⟨(), True.intro, _, rfl, _, typed.physicalMs, _, rfl, _, typed.logical, _, rfl, _,
      True.intro, _, rfl, rfl, rfl⟩

def blobView (blob : BlobRef) : Blob :=
  ⟨blob.digest.bytes, toString blob.ciphertextBytes, blob.storageId⟩

theorem readBlob_spells :
    Reader.Spells readBlob CanonicalCbor.encodeBlob blobView
      (fun blob => blob.validate = .ok ()) := by
  have opening := expectMap_spells 3
  have digestEntry := entry_spells (fixedBytes_spells 32) 0
  have bytesEntry := entry_spells (unsigned_spells (show maxBlobBytes < 2 ^ 64 by decide)) 1
  intro input found rest
  simp only [readBlob, opening.bind_iff, digestEntry.bind_iff, bytesEntry.bind_iff, read_iff,
    entry_eq_ok (show 2 < 2 ^ 8 by decide), text_eq_ok (show maxTitleBytes < 2 ^ 64 by decide),
    CanonicalCbor.encodeBlob, List.append_assoc, CanonicalCbor.blobValidate_eq_ok]
  constructor
  · rintro ⟨_, _, _, rfl, digest, _, _, rfl, ciphertextBytes, within, _, rfl, _, _,
      ⟨nonzero, rfl⟩, storageId, _, ⟨_, rfl, short, visible, rfl⟩, rfl, rfl⟩
    exact ⟨⟨⟨digest⟩, ciphertextBytes, storageId⟩,
      ⟨visible, short, Nat.pos_of_ne_zero nonzero, within⟩, rfl, rfl⟩
  · rintro ⟨blob, ⟨visible, short, positive, within⟩, rfl, rfl⟩
    exact ⟨(), True.intro, _, rfl, _, True.intro, _, rfl, _, within, _, rfl, (), _,
      ⟨Nat.ne_of_gt positive, rfl⟩, _, _, ⟨_, rfl, short, visible, rfl⟩, rfl, rfl⟩

theorem readBlobs_spells :
    Reader.Spells readBlobs CanonicalCbor.encodeBlobs (List.map blobView)
      (fun blobs => blobs.length ≤ maxBatchOperations ∧
        ∀ blob ∈ blobs, blob.validate = .ok ()) := by
  intro input found rest
  simp only [readBlobs, Reader.bind_eq_ok,
    arrayLength_eq_ok (show maxBatchOperations < 2 ^ 64 by decide),
    (readBlob_spells.repeated _) _ _ _, CanonicalCbor.encodeBlobs, List.append_assoc]
  constructor
  · rintro ⟨_, _, ⟨within, rfl⟩, blobs, ⟨rfl, valid⟩, rfl, rfl⟩
    exact ⟨blobs, ⟨within, valid⟩, rfl, rfl⟩
  · rintro ⟨blobs, ⟨within, valid⟩, rfl, rfl⟩
    exact ⟨_, _, ⟨within, rfl⟩, blobs, ⟨rfl, valid⟩, rfl, rfl⟩

/-- Of two byte strings of one length, the first difference tells which number is less. -/
theorem compareBytes_neg (same : left.length = right.length) :
    compareBytes left right < 0 ↔ fromBigEndian left < fromBigEndian right := by
  induction left generalizing right with
  | nil =>
    obtain rfl := List.length_eq_zero_iff.mp same.symm
    simp [compareBytes]
  | cons first left ih =>
    obtain ⟨second, right, rfl⟩ := List.exists_cons_of_length_eq_add_one same.symm
    have shorter : left.length = right.length := Nat.succ.inj same
    have leftSmall := fromBigEndian_lt left
    have rightSmall := fromBigEndian_lt right
    rw [fromBigEndian_cons, fromBigEndian_cons, compareBytes, shorter]
    rw [shorter] at leftSmall
    by_cases equal : first = second
    · subst equal
      rw [if_neg (by simp), ih shorter]
      omega
    · have differ : first.toNat ≠ second.toNat := fun value => equal (UInt8.toNat_inj.mp value)
      rw [if_pos equal]
      rcases Nat.lt_or_gt_of_ne differ with less | greater
      · have step : (first.toNat + 1) * 256 ^ right.length ≤ second.toNat * 256 ^ right.length :=
          Nat.mul_le_mul_right _ less
        rw [Nat.succ_mul] at step
        omega
      · have step : (second.toNat + 1) * 256 ^ right.length ≤ first.toNat * 256 ^ right.length :=
          Nat.mul_le_mul_right _ greater
        rw [Nat.succ_mul] at step
        omega

theorem compareBytes_ids {left right : Id kind} :
    compareBytes left.bytes right.bytes < 0 ↔ left < right := by
  rw [compareBytes_neg (by simp), left.fromBigEndian_bytes, right.fromBigEndian_bytes]
  rfl

def frontierView (entry : DeviceSequence) : FrontierEntry :=
  ⟨uuidText entry.deviceId.bytes, toString entry.sequence⟩

/-- The entries ascend, and all come after a device. -/
def AscendFrom (previous : Option DeviceId) (frontier : List DeviceSequence) : Prop :=
  devicesAscend frontier = true ∧
    ∀ before ∈ previous, ∀ first ∈ frontier.head?, before < first.deviceId

theorem ascendFrom_cons {entry : DeviceSequence} {frontier : List DeviceSequence} :
    AscendFrom previous (entry :: frontier) ↔
      (∀ before ∈ previous, before < entry.deviceId) ∧
        AscendFrom (some entry.deviceId) frontier := by
  cases frontier <;> simp [AscendFrom, devicesAscend, and_comm, and_assoc]

theorem readFrontierEntries_spells (previous : Option DeviceId) (count : Nat) :
    Reader.Spells (readFrontierEntries (previous.map Id.bytes) count)
      (fun frontier : List DeviceSequence => frontier.flatMap CanonicalCbor.encodeFrontierEntry)
      (List.map frontierView)
      (fun frontier => frontier.length = count ∧ CanonicalCbor.FrontierTyped frontier ∧
        AscendFrom previous frontier) := by
  have opening := expectArray_spells 2
  have sequences := unsigned_below (2 ^ 64)
  induction count generalizing previous with
  | zero =>
    intro input found rest
    simp only [readFrontierEntries, Reader.pure_eq_ok]
    constructor
    · rintro ⟨rfl, rfl⟩
      exact ⟨[], ⟨rfl, by simp [CanonicalCbor.FrontierTyped], by simp [AscendFrom, devicesAscend]⟩,
        rfl, rfl⟩
    · rintro ⟨frontier, ⟨none, _⟩, rfl, rfl⟩
      obtain rfl := List.length_eq_zero_iff.mp none
      exact ⟨rfl, rfl⟩
  | succ count ih =>
    intro input found rest
    simp only [readFrontierEntries, opening.bind_iff, read_iff,
      fixedBytes_eq_ok (show 16 < 2 ^ 64 by decide), uuid_eq_ok .device, sequences _ _ _]
    constructor
    · rintro ⟨_, _, _, rfl, _, _, ⟨_, rfl⟩, _, _, ⟨after, rfl⟩, _, _, ⟨⟨deviceId, rfl, rfl⟩, rfl⟩,
        _, _, ⟨sequence, small, rfl, rfl⟩, _, _, others, rfl, rfl⟩
      obtain ⟨frontier, ⟨rfl, typed, ascend⟩, rfl, rfl⟩ := (ih (some deviceId)).inv others
      refine ⟨⟨deviceId, sequence⟩ :: frontier,
        ⟨rfl, List.forall_mem_cons.mpr ⟨small, typed⟩, ascendFrom_cons.mpr ⟨?_, ascend⟩⟩, rfl, ?_⟩
      · intro before known
        exact compareBytes_ids.mp (after _ (Option.mem_map_of_mem _ known))
      · simp only [List.flatMap_cons, CanonicalCbor.encodeFrontierEntry, List.append_assoc]
    · rintro ⟨frontier, ⟨whole, typed, ascend⟩, rfl, rfl⟩
      obtain ⟨entry, frontier, rfl⟩ := List.exists_cons_of_length_eq_add_one whole
      obtain ⟨small, typed⟩ := List.forall_mem_cons.mp typed
      obtain ⟨after, ascend⟩ := ascendFrom_cons.mp ascend
      have others := (ih (some entry.deviceId)).read ⟨Nat.succ.inj whole, typed, ascend⟩ rest
      simp only [List.flatMap_cons, CanonicalCbor.encodeFrontierEntry, List.append_assoc]
      refine ⟨(), True.intro, _, rfl, _, _, ⟨entry.deviceId.length_bytes, rfl⟩, (), _, ⟨?_, rfl⟩, _, _,
        ⟨⟨entry.deviceId, rfl, rfl⟩, rfl⟩, _, _, ⟨entry.sequence, small, rfl, rfl⟩, _, _, others,
        rfl, rfl⟩
      intro bytes known
      obtain ⟨before, earlier, rfl⟩ := Option.map_eq_some_iff.mp known
      exact compareBytes_ids.mpr (after before earlier)

theorem readFrontier_spells :
    Reader.Spells readFrontier CanonicalCbor.encodeFrontier (List.map frontierView)
      (fun frontier => frontier.length ≤ maxBatchOperations ∧
        CanonicalCbor.FrontierTyped frontier ∧ devicesAscend frontier = true) := by
  intro input found rest
  simp only [readFrontier, Reader.bind_eq_ok,
    arrayLength_eq_ok (show maxBatchOperations < 2 ^ 64 by decide),
    CanonicalCbor.encodeFrontier, List.append_assoc]
  constructor
  · rintro ⟨_, _, ⟨within, rfl⟩, entries⟩
    obtain ⟨frontier, ⟨rfl, typed, ascend, _⟩, rfl, rfl⟩ :=
      (readFrontierEntries_spells none _).inv entries
    exact ⟨frontier, ⟨within, typed, ascend⟩, rfl, rfl⟩
  · rintro ⟨frontier, ⟨within, typed, ascend⟩, rfl, rfl⟩
    exact ⟨_, _, ⟨within, rfl⟩, (readFrontierEntries_spells none _).read
      ⟨rfl, typed, ascend, by simp⟩ rest⟩

end ContextRelay.Edge
