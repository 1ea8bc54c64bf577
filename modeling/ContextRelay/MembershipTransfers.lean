import ContextRelay.HistoricalTransferExact
import ContextRelay.MembershipSources
import ContextRelay.MembershipRecovery

/-! The sources of keys that another device or the recovery root vouches for: the pages of a
historical transfer, the claim of a recovery, and the keys of earlier epochs that came with it.
What a claim seals is only known to agree with the log where it names no other enrollment: the
device pins it again without looking at the pin it came with. -/
namespace ContextRelay.Membership

open Library Library.Cbor VerifiedHistoricalTransfer HistoricalTransferAuthority

variable {P : ControlPrimitives} {stored : Stored} {store after : MembershipStore}
  {kept : DeviceId → Nat → PairingKeyBundle} {device : DeviceId} {keys : DeviceKeys}
  {budget : MembershipHistoryBudget} {bundle : PairingKeyBundle}
  {history : VerifiedMembershipHistory}

/-! ## Pages of a transfer -/

/-- The bundles that the plaintext of a page holds, before any of them is checked. -/
def sealedBundles (plaintext : Bytes) : Except CryptoError (List PairingKeyBundle) := do
  let (found, rest) ← readHead CryptoError.invalidProtocolValue .array plaintext
  let count ← present found .invalidProtocolValue
  let (bundles, _) ← Reader.repeated (do
    let raw ← readString CryptoError.invalidProtocolValue .bytes
    Reader.lift (decodePairingKeyBundle raw)) count rest
  pure bundles

/-- The page seals the keys. -/
def SealedInPage (P : ControlPrimitives) (context : TransferContext) (raw : Bytes)
    (keys : DeviceKeys) (bundle : PairingKeyBundle) : Prop :=
  ∃ page aad plaintext bundles, TransferPage.decode P raw = .ok page ∧
    page.aad context = .ok aad ∧ P.unwrapSecret keys page.envelope aad = .ok plaintext ∧
    sealedBundles plaintext = .ok bundles ∧ bundle ∈ bundles

section

variable {authority : HistoricalTransferAuthority} {tables : TransferTables}
  {claim : RecoveryDeviceClaimV2}

theorem readBundles_sealed
    (read : readBundles P authority genesis epoch count input = .ok (items, rest)) :
    Reader.repeated (do
      let raw ← readString CryptoError.invalidProtocolValue .bytes
      Reader.lift (decodePairingKeyBundle raw)) count input = .ok (items.map Prod.snd, rest) := by
  induction count generalizing epoch input items rest with
  | zero =>
    simp only [readBundles, Reader.pure_eq_ok] at read
    obtain ⟨rfl, rfl⟩ := read
    rfl
  | succ count ih =>
    simp only [readBundles, read_iff] at read
    obtain ⟨raw, middle, string, _, _, ⟨_, rfl⟩, bundle, _, ⟨decoded, rfl⟩, _, _, ⟨_, rfl⟩, later, _,
      readLater, rfl, rfl⟩ := read
    simp only [Reader.repeated, read_iff]
    exact ⟨bundle, middle, ⟨raw, middle, string, decoded, rfl⟩, later.map Prod.snd, _, ih readLater,
      rfl, rfl⟩

/-- The bundles of an accepted page are what it seals; each is that of an epoch of the transfer. -/
theorem openNextPage_sealed {transfer next : VerifiedHistoricalTransfer} {genesis : EpochOneTrust}
    {bundles : List PairingKeyBundle}
    (opened : transfer.openNextPage P raw keys genesis = .ok (bundles, next)) :
    next.authority = transfer.authority ∧
      (∀ bundle ∈ bundles, BundleValid bundle ∧
        ∃ epoch, MatchesEpoch P transfer.authority epoch bundle) ∧
      ∀ bundle, SealedInPage P transfer.authority.context raw keys bundle → bundle ∈ bundles := by
  simp only [openNextPage, ok_iff, Prod.exists, Prod.mk.injEq] at opened
  obtain ⟨_, _, page, decoded, first, count, _, _, aad, written, plaintext, unwrapped, found, read,
    rfl, rfl⟩ := opened
  have matched := openPlaintext_matches read
  simp only [openPlaintext, ok_iff, Prod.exists] at read
  obtain ⟨_, _, head, rfl, items, _, readItems, _, rfl⟩ := read
  have repeated := readBundles_sealed readItems
  have isSealed : sealedBundles plaintext = .ok (items.map Prod.snd) := by
    simp only [sealedBundles, head, ok_bind, present_some, repeated, pure_eq_ok]
  refine ⟨rfl, ?_, ?_⟩
  · intro bundle member
    obtain ⟨epoch, _, matches_⟩ := forall₂_mem_right matched member
    refine ⟨?_, epoch, matches_⟩
    have every : Reader.Ensures (do
        let raw ← readString CryptoError.invalidProtocolValue .bytes
        Reader.lift (decodePairingKeyBundle raw)) BundleValid := by
      refine .skip fun raw => ?_
      intro input value rest lifted
      exact decodePairingKeyBundle_valid (Reader.lift_eq_ok.mp lifted).1
    exact every.repeated count _ _ _ repeated bundle member
  · rintro bundle ⟨page', aad', plaintext', bundles', decoded', written', unwrapped', sealed', member⟩
    obtain rfl := Except.ok.inj (decoded.symm.trans decoded')
    obtain rfl := Except.ok.inj (written.symm.trans written')
    obtain rfl := Except.ok.inj (unwrapped.symm.trans unwrapped')
    obtain rfl := Except.ok.inj (isSealed.symm.trans sealed')
    exact member

/-- The authority of a transfer speaks for the log. -/
structure SpeaksFor (P : ControlPrimitives) (stored : Stored)
    (authority : HistoricalTransferAuthority) : Prop where
  scope : authority.context.accountId = stored.scope.accountId ∧
    authority.context.workspaceId = stored.scope.workspaceId
  pin : authority.context.enrollmentRecordSha256 = stored.pin
  commitments : authority.lineage.rotatedKeyCommitments = stored.commitments P

theorem speaksFor_of_new (lineaged : lineage P stored anchor budget = .ok proof)
    (made : new P proof confirmed signature transferId exporter checkpointBytes = .ok authority) : SpeaksFor P stored authority := by
  obtain ⟨commitments, _, verified⟩ := lineage_ok lineaged
  obtain ⟨scope, pin⟩ := verify_scope verified
  simp only [new, VerifiedMembershipHistory.pairingParent, ok_iff]
    at made
  obtain ⟨_, _, _, _, _, parent, ⟨_, _, _, rfl⟩, same, _, _, _, _, _, _, _, _, _, _, _, _, _, _,
    rfl⟩ := made
  refine ⟨?_, ?_, commitments⟩
  · rw [← scope]
    exact ⟨rfl, rfl⟩
  · rw [← pin]
    exact same.symm

theorem SpeaksFor.agrees (speaks : SpeaksFor P stored authority) (authentic : Authentic P stored)
    (matched : MatchesEpoch P authority epoch bundle) :
    Agrees P stored bundle ∧ bundle = bundle.pinnedTo stored.pin := by
  have pinned := matched.enrollment
  rw [speaks.pin] at pinned
  refine ⟨⟨?_, ?_, ?_⟩, ?_⟩
  · rw [← speaks.scope.1, ← speaks.scope.2]
    exact matched.scope
  · intro pin found
    exact Option.some.inj (found.symm.trans pinned)
  · by_cases first : epoch = 1
    · rw [Committed, if_pos (matched.keyEpoch.trans first)]
      exact matched.first first
    · obtain ⟨commitment, found, key, control, same⟩ := matched.rotated first
      rw [speaks.commitments] at found
      exact committed_of_mem authentic (List.mem_of_getElem? found)
        (key.trans matched.keyEpoch.symm) control same
  · rw [PairingKeyBundle.pinnedTo, ← pinned]

/-- Keys that are pinned already are kept as they are. -/
theorem Retains.honours_pinned {bundles : List PairingKeyBundle}
    {offers : PairingKeyBundle → Prop}
    (retains : Retains P stored store after kept keptAfter (bundles.map fun bundle => (device, bundle)))
    (agree : ∀ bundle ∈ bundles, Agrees P stored bundle ∧ bundle = bundle.pinnedTo stored.pin)
    (all : ∀ bundle, offers bundle → bundle ∈ bundles) :
    Honours P stored store after kept fun recipient bundle => recipient = device ∧ offers bundle := by
  refine ⟨keptAfter, _, retains, ?_⟩
  rintro recipient bundle ⟨rfl, offered⟩
  obtain ⟨agrees, same⟩ := agree bundle (all bundle offered)
  exact ⟨agrees, List.mem_map.mpr ⟨bundle, all bundle offered, by rw [← same]⟩⟩

/-- What the replay of accepted pages has found of a page that is submitted again. -/
structure Replayed (P : ControlPrimitives) (store : MembershipStore) (stored : Stored)
    (kept : DeviceId → Nat → PairingKeyBundle) (device : DeviceId) (keys : DeviceKeys)
    (authority : HistoricalTransferAuthority) (raw : Bytes)
    (reached : VerifiedHistoricalTransfer × CommitDisposition) : Prop where
  sameAuthority : reached.1.authority = authority
  again : reached.2 = .exactReplay → ∃ bundles : List PairingKeyBundle,
    (∀ bundle ∈ bundles, (Agrees P stored bundle ∧ bundle = bundle.pinnedTo stored.pin) ∧
      Held store device bundle.keyEpoch false ∧ kept device bundle.keyEpoch = bundle) ∧
    ∀ bundle, SealedInPage P authority.context raw keys bundle → bundle ∈ bundles

theorem Replayed.step (sealing : Sealing P) {id : OperationId} {ciphertext : Bytes}
    {trust : EpochOneTrust} {index : Nat}
    {reached next : VerifiedHistoricalTransfer × CommitDisposition}
    (receipts : Receipts P store stored kept) (authentic : Authentic P stored)
    (speaks : SpeaksFor P stored authority)
    (replayed : Replayed P store stored kept device keys authority ciphertext reached)
    (ran : replayPage P tables store stored device id (some (expectedPage, ciphertext)) trust keys budget reached index = .ok next) :
    Replayed P store stored kept device keys authority ciphertext next := by
  simp only [replayPage, ok_iff, forM_eq_ok, Prod.exists] at ran
  obtain ⟨raw, _, _, matched, bundles, verified, opened, checked, rfl⟩ := ran
  obtain ⟨same, valid, all⟩ := openNextPage_sealed opened
  refine ⟨same.trans replayed.sameAuthority, ?_⟩
  intro again
  by_cases submitted : expectedPage.1 = index
  · -- The page that was submitted is this accepted one.
    obtain ⟨_, rfl⟩ := matched (expectedPage, ciphertext) (by simp [Option.filter, submitted])
    rw [replayed.sameAuthority] at valid all
    refine ⟨bundles, ?_, all⟩
    intro bundle member
    obtain ⟨valid, epoch, epochs⟩ := valid bundle member
    obtain ⟨agrees, pinned⟩ := speaks.agrees authentic epochs
    obtain ⟨found, loaded, previous, present, sameBytes⟩ := checked bundle member
    obtain rfl := present
    obtain ⟨rfl, held⟩ := loadSecret_sound sealing receipts loaded
    refine ⟨⟨agrees, pinned⟩, held, ?_⟩
    obtain ⟨flag, row, receipt, _⟩ := held
    have read := decodePairingKeyBundle_encode (receipts _ _ _ _ receipt).belongs.valid
    rw [sameBytes, decodePairingKeyBundle_encode valid] at read
    exact (Except.ok.inj read).symm
  · simp only [Option.filter, submitted, decide_false, Bool.false_eq_true, if_false,
      Option.isSome_none] at again
    exact replayed.again again

theorem commitPage_honours (sealing : Sealing P) {draw : Nat → Nat} {id : OperationId}
    {t : Transfer} {page : (Nat × Sha256Digest) × Bytes} {trust : EpochOneTrust}
    {verified verifiedAfter : VerifiedHistoricalTransfer}
    (receipts : Receipts P store stored kept) (authentic : Authentic P stored)
    (own : OwnKeys P stored device keys) (speaks : SpeaksFor P stored verified.authority)
    (ran : commitPage P draw tables store stored device id t page trust keys budget verified = .ok (verifiedAfter, tablesAfter, after)) :
    Honours P stored store after kept fun recipient bundle =>
      recipient = device ∧ SealedInPage P verified.authority.context page.2 keys bundle := by
  simp only [commitPage, ok_iff, Prod.exists, Prod.mk.injEq] at ran
  obtain ⟨_, bundles, _, opened, final, threaded, _, _, _, _, _, _, _, rfl⟩ := ran
  obtain ⟨_, valid, all⟩ := openNextPage_sealed opened
  have agree : ∀ bundle ∈ bundles,
      Agrees P stored bundle ∧ bundle = bundle.pinnedTo stored.pin := by
    intro bundle member
    obtain ⟨_, epoch, epochs⟩ := valid bundle member
    exact speaks.agrees authentic epochs
  have keeps : ∀ store after kept (bundle : PairingKeyBundle), bundle ∈ bundles →
      Receipts P store stored kept →
      retain P (draw bundle.keyEpoch) store stored device bundle false (P.sha256 t.raw) keys
        budget = .ok after →
      ∃ keptAfter, Retains P stored store after kept keptAfter [(device, bundle)] := by
    intro store after kept bundle member receipts retained
    obtain ⟨agrees, same⟩ := agree bundle member
    have belongs := agrees.belongs (valid bundle member).1 authentic.pin_ne_zero
    rw [← same] at belongs
    exact retain_retains sealing receipts authentic belongs own retained
  obtain ⟨keptAfter, retains⟩ := thread_retains_map keeps receipts threaded
  exact retains.honours_pinned agree all

/-- A page of the selected transfer keeps the keys it seals, or is the page that was accepted. -/
theorem commitHistoricalTransferPage_honours (sealing : Sealing P) {draw : Nat → Nat}
    {tablesAfter : TransferTables} {selected : HistoricalTransferSelection}
    {confirmed : ConfirmedV2Transcript} {signature : Ed25519SignatureBytes}
    {expectedPage : Nat × Sha256Digest} {ciphertext : Bytes} {budget : HistoricalTransferBudget}
    {disposition : CommitDisposition}
    (ran : commitHistoricalTransferPage P draw tables store selected confirmed signature expectedPage
      ciphertext keys budget = .ok (disposition, tablesAfter, after)) :
    ∃ stored, load P store budget.history = .ok (some stored) ∧
      stored.endpoint = selected.authorizingEndpoint ∧
      ∀ kept, Receipts P store stored kept →
        Honours P stored store after kept fun recipient bundle =>
          recipient = confirmed.payload.grant.certificate.deviceId ∧
            ∃ t, loadTransfer P tables selected.transferId budget = .ok (some t) ∧
              SealedInPage P t.header.context ciphertext keys bundle := by
  simp only [commitHistoricalTransferPage, replayHistoricalTransfer, ok_iff, Prod.exists,
    Prod.mk.injEq] at ran
  obtain ⟨_, progress, d, written, final, ⟨_, loaded, stored, rfl, history, checked, _, _, _, _,
    loadedTransfer, t, rfl, proof, proven, authority, made, started, headed, genesis, _, _, _,
    reached, replayDisposition, threaded, _, decided⟩, rfl, rfl, rfl⟩ := ran
  obtain ⟨verified, ended, own⟩ := ownKeys_of_endpointCheck checked
  refine ⟨stored, loaded, ended, ?_⟩
  intro kept receipts
  have authentic : Authentic P stored := ⟨_, history, verified⟩
  have speaks : SpeaksFor P stored authority := by
    simp only [admissionLineage, ok_iff] at proven
    obtain ⟨_, _, _, _, _, _, _, _, lineaged⟩ := proven
    exact speaksFor_of_new lineaged made
  obtain ⟨_, _, _, decodes, same⟩ := loadTransfer_ok loadedTransfer
  have decoded : HistoricalTransferHeader.decode t.raw = .ok t.header := by
    rw [same]
    exact decodes
  obtain ⟨context, startedAuthority⟩ := verifyHeader_ok decoded headed
  have replayed := thread_invariant
    (Replayed P store stored kept confirmed.payload.grant.certificate.deviceId keys authority
      ciphertext)
    (fun _ _ _ _ replayed ran => replayed.step sealing receipts authentic speaks ran)
    ⟨startedAuthority, fun same => by cases same⟩ threaded
  have inPage : ∀ bundle, (∃ t, loadTransfer P tables selected.transferId budget = .ok (some t) ∧
      SealedInPage P t.header.context ciphertext keys bundle) →
      SealedInPage P authority.context ciphertext keys bundle := by
    rintro bundle ⟨again, loadedAgain, isSealed⟩
    obtain rfl := Option.some.inj (Except.ok.inj (loadedTransfer.symm.trans loadedAgain))
    rw [← context]
    exact isSealed
  split at decided
  · rename_i same
    obtain ⟨-, -, rfl⟩ := Except.ok.inj decided
    obtain ⟨bundles, every, all⟩ := replayed.again same
    have retains : Retains P stored store store kept kept
        (bundles.map fun bundle => (confirmed.payload.grant.certificate.deviceId, bundle)) :=
      { Retains.refl receipts with
        added := fun _ _ _ _ found => .inl found
        retained := by
          intro offer member
          obtain ⟨bundle, among, rfl⟩ := List.mem_map.mp member
          exact (every bundle among).2 }
    exact retains.honours_pinned (fun bundle member => (every bundle member).1)
      fun bundle offered => all bundle (inPage bundle offered)
  · simp only [ok_iff, Prod.exists, Prod.mk.injEq] at decided
    obtain ⟨_, _, _, committed, _, _, _, rfl⟩ := decided
    have honours := commitPage_honours sealing receipts authentic own
      (replayed.sameAuthority ▸ speaks) committed
    rw [replayed.sameAuthority] at honours
    exact honours.weaken fun _ bundle offered => ⟨offered.1, inPage bundle offered.2⟩

/-! ## Recovery -/

/-- What a preparation was checked for. -/
structure PreparedFrom (P : ControlPrimitives) (tables : RecoveryTables)
    (prepared : PreparedRecoveryV2) : Prop where
  row : ∃ row, tables.prepared = some row ∧ row.canonicalClaim = prepared.canonicalClaim
  decoded : decodeRecoveryDeviceClaimV2 P prepared.canonicalClaim = .ok prepared.claim
  parent : verifyMembershipHistory P prepared.canonicalRecord prepared.claim.canonicalRecordSha256
    (claimScope prepared.claim) prepared.parentObjects
    ⟨prepared.claim.previousStateSha256, prepared.claim.certificate.controlEpoch,
      prepared.claim.keyEpoch⟩ preparationBudget = .ok prepared.parent
  historyKeys : collect (readHistoryKey P recoveryV2Invalid) tables.historyKeys.rows =
    .ok prepared.historyKeys

theorem loadPreparedRecovery_ok {tables : RecoveryTables}
    (loaded : loadPreparedRecovery P format tables keys = .ok (some prepared)) :
    PreparedFrom P tables prepared := by
  unfold loadPreparedRecovery at loaded
  split at loaded
  · simp only [ok_iff, reduceCtorEq, and_false, exists_false] at loaded
  · rename_i row found
    simp only [ok_iff] at loaded
    obtain ⟨_, _, _, _, _, objects, _, _, retained, collected, checked, validated, decided⟩ := loaded
    have valid : PreparedFrom P tables checked := by
      simp only [validatePreparedRecovery, ok_iff] at validated
      obtain ⟨_, claim, decoded, _, _, parent, verified, _, _, _, _, _, _, _, _, rfl⟩ := validated
      exact ⟨⟨row, found, rfl⟩, decoded, verified, collected⟩
    split at decided
    · obtain rfl := Option.some.inj (Except.ok.inj decided)
      exact valid
    · simp only [ok_iff, Option.some.injEq] at decided
      obtain ⟨_, _, rfl⟩ := decided
      exact ⟨valid.row, valid.decoded, valid.parent, valid.historyKeys⟩

/-- The claim of a preparation seals the keys for its device. -/
def SealedInClaim (P : ControlPrimitives) (tables : RecoveryTables) (keys : DeviceKeys)
    (claim : RecoveryDeviceClaimV2) (bundle : PairingKeyBundle) : Prop :=
  ∃ row plaintext, tables.prepared = some row ∧
    decodeRecoveryDeviceClaimV2 P row.canonicalClaim = .ok claim ∧
    P.unwrapSecret keys claim.deviceMaterialEnvelope (recoveredDeviceMaterialAad P claim) =
      .ok plaintext ∧ decodePairingKeyBundle plaintext = .ok bundle

theorem SealedInClaim.unique {tables : RecoveryTables} {material : PairingKeyBundle}
    (first : SealedInClaim P tables keys claim bundle)
    (second : SealedInClaim P tables keys other material) : claim = other ∧ bundle = material := by
  obtain ⟨row, plaintext, found, decoded, unwrapped, read⟩ := first
  obtain ⟨row', plaintext', found', decoded', unwrapped', read'⟩ := second
  obtain rfl := Option.some.inj (found.symm.trans found')
  obtain rfl := Except.ok.inj (decoded.symm.trans decoded')
  obtain rfl := Except.ok.inj (unwrapped.symm.trans unwrapped')
  exact ⟨rfl, Except.ok.inj (read.symm.trans read')⟩

theorem openRecoveredDeviceMaterialV2_ok
    (opened : openRecoveredDeviceMaterialV2 P record claim parent keys = .ok bundle) :
    ∃ material plaintext, P.unwrapSecret keys claim.deviceMaterialEnvelope
        (recoveredDeviceMaterialAad P claim) = .ok plaintext ∧
      decodePairingKeyBundle plaintext = .ok material ∧
      bundle = material.pinnedTo claim.canonicalRecordSha256 ∧
      (material.accountId = claim.accountId ∧ material.workspaceId = claim.workspaceId ∧
        material.controlEpoch = parent.state.controlEpoch ∧
        material.keyEpoch = parent.state.keyEpoch) ∧
      (∀ commitment ∈ parent.currentRotatedKeyCommitment,
        P.sha256 (encodePairingKeyBundle material) = commitment) ∧
      P.signingPublicKey keys = claim.certificate.signingPublicKey ∧
      P.wrappingPublicKey keys = claim.certificate.wrappingPublicKey := by
  simp only [openRecoveredDeviceMaterialV2, openClaimMaterial, requireRecipient, ok_iff] at opened
  obtain ⟨material, ⟨verified, recipient, plaintext, unwrapped, _, decoded,
    ⟨account, workspace, control, key, commitments⟩, rfl⟩, pinned⟩ := opened
  obtain ⟨_, _, _, _, controlEpoch, keyEpoch, _⟩ := verifyRecoveryDeviceClaimV2_ok verified
  refine ⟨_, plaintext, unwrapped, decoded, (withEnrollmentRecordSha256_ok pinned).2,
    ⟨account, workspace, control.trans controlEpoch, key.trans keyEpoch⟩, ?_, recipient⟩
  intro commitment current
  rw [decodePairingKeyBundle_ok decoded, commitments commitment current]

/-- What the keys of a recovery were checked for, where they name no other enrollment. -/
theorem recovered_agrees {tables : RecoveryTables} {endpoint : MembershipEndpoint}
    {root : RecoveryEnrollmentRecordV1} (from_ : PreparedFrom P tables prepared)
    (made : preparedLog P prepared endpoint = .ok stored)
    (verified : stored.verify P budget = .ok history)
    (opened : openRecoveredDeviceMaterialV2 P root prepared.claim prepared.parent keys = .ok bundle)
    (ownPin : ∀ material, SealedInClaim P tables keys prepared.claim material → ∀ pin ∈ material.enrollmentRecordSha256, pin = prepared.claim.canonicalRecordSha256) :
    ∃ material, SealedInClaim P tables keys prepared.claim material ∧ BundleValid material ∧
      Agrees P stored material ∧ bundle = material.pinnedTo stored.pin ∧
      OwnKeys P stored prepared.claim.certificate.deviceId keys := by
  obtain ⟨material, plaintext, unwrapped, decoded, pinned, ⟨account, workspace, control, key⟩,
    commitments, signing, wrapping⟩ := openRecoveredDeviceMaterialV2_ok opened
  obtain ⟨row, found, sameClaim⟩ := from_.row
  have isSealed : SealedInClaim P tables keys prepared.claim material :=
    ⟨row, plaintext, found, sameClaim ▸ from_.decoded, unwrapped, decoded⟩
  simp only [preparedLog, ok_iff] at made
  obtain ⟨events, collected, rfl⟩ := made
  obtain ⟨evidence, _⟩ := collect_fromEvidence collected
  obtain ⟨earlier, later, rfl, earlierEvidence, lastEvidence⟩ := List.map_eq_append_iff.mp evidence
  obtain ⟨last, rfl, lastSame⟩ := List.map_eq_singleton_iff.mp lastEvidence
  have before := verify_of_history earlierEvidence from_.parent
  have agrees : Agrees P _ material := ⟨⟨account, workspace⟩, ownPin material isSealed,
    committed_at_end before ⟨control, key⟩ fun commitment current =>
      .inl (commitments commitment current)⟩
  have spells : changeOf P (.recoveryAdd prepared.canonicalClaim) =
      some (.admits prepared.claim.restoreId.retype ⟨prepared.claim.certificate.deviceId,
        prepared.claim.certificateId, prepared.claim.certificate⟩) := by
    rw [changeOf, from_.decoded]
  refine ⟨material, isSealed, decodePairingKeyBundle_valid decoded, agrees.extended [last] endpoint,
    pinned, _, wasAdmitted_of_event ⟨budget, history, verified⟩ ?_ spells, signing.symm,
    wrapping.symm⟩
  rw [Stored.log, List.map_append, List.map_singleton, lastSame]
  exact List.mem_append_right _ (List.mem_singleton_self _)

/-! ## Keys of earlier epochs -/

/-- A row of a recovery seals the keys of an earlier epoch. -/
def SealedInHistoryKey (P : ControlPrimitives) (tables : RecoveryTables) (keys : DeviceKeys)
    (bundle : PairingKeyBundle) : Prop :=
  ∃ row found envelope plaintext, tables.prepared = some row ∧
    found ∈ tables.historyKeys.rows ++ tables.supplementalKeys.rows ∧
    decodeRecoveryDeviceEnvelopeV1 P found.2.canonicalEnvelope = .ok envelope ∧
    P.unwrapSecret keys envelope (historyKeyAad (P.sha256 row.canonicalClaim) found.1
      found.2.originalBundleSha256) = .ok plaintext ∧
    decodePairingKeyBundle plaintext = .ok bundle

theorem readHistoryKey_ok {failure : VaultError} {key : RecoveryHistoryKeyV1}
    (read : readHistoryKey P failure found = .ok key) :
    ∃ envelope, decodeRecoveryDeviceEnvelopeV1 P found.2.canonicalEnvelope = .ok envelope ∧
      key = ⟨found.1, found.2.originalBundleSha256, envelope, found.2.signature⟩ := by
  simp only [readHistoryKey, ok_iff] at read
  obtain ⟨_, envelope, decoded, rfl⟩ := read
  exact ⟨envelope, decoded, rfl⟩

/-- A retained key that opens against a lineage through the log. -/
theorem openRecoveryHistoryKey_agrees
    (decoded : decodeRecoveryDeviceClaimV2 P canonicalClaim = .ok claim)
    (lineaged : lineage P stored anchor budget = .ok proof)
    (opened : openRecoveryHistoryKey P record claim parent proof key keys = .ok bundle) :
    ∃ material plaintext, P.unwrapSecret keys key.envelope
        (historyKeyAad (P.sha256 canonicalClaim) key.keyEpoch key.originalBundleSha256) =
          .ok plaintext ∧
      decodePairingKeyBundle plaintext = .ok material ∧ Agrees P stored material ∧
      bundle = material.pinnedTo stored.pin := by
  obtain ⟨commitments, _, verified⟩ := lineage_ok lineaged
  obtain ⟨scope, pin⟩ := verify_scope verified
  simp only [openRecoveryHistoryKey, openHistoryMaterial, ok_iff] at opened
  obtain ⟨material, ⟨_, _, _, _, ⟨_, samePin, sameScope, _⟩, canonical, encoded, _, _, _, plaintext,
    unwrapped, hash, read, readBack, ⟨account, workspace, epoch, ownPin⟩, decided⟩, pinned⟩ := opened
  obtain rfl := Except.ok.inj (encoded.symm.trans (decodeRecoveryDeviceClaimV2_ok decoded))
  rw [pin] at samePin
  rw [scope] at sameScope
  have agreesOf : Committed P stored read read.keyEpoch → Agrees P stored read := by
    intro committed
    refine ⟨?_, ?_, committed⟩
    · rw [sameScope]
      exact ⟨account, workspace⟩
    · rw [samePin]
      exact ownPin
  have pinnedTo : bundle = material.pinnedTo stored.pin := by
    rw [samePin]
    exact (withEnrollmentRecordSha256_ok pinned).2
  split at decided
  · rename_i first
    simp only [ok_iff] at decided
    obtain ⟨control, rfl⟩ := decided
    refine ⟨read, plaintext, unwrapped, readBack, agreesOf ?_, pinnedTo⟩
    rw [Committed, if_pos (epoch.trans first)]
    exact control
  · simp only [ok_iff] at decided
    obtain ⟨commitment, found, ⟨control, same⟩, rfl⟩ := decided
    refine ⟨read, plaintext, unwrapped, readBack, agreesOf ?_, pinnedTo⟩
    have member := List.mem_of_find?_eq_some found
    have named := List.find?_some found
    rw [commitments] at member
    refine committed_of_mem ⟨budget, _, verified⟩ member
      ((of_decide_eq_true named).trans epoch.symm) control (.inl ?_)
    rw [decodePairingKeyBundle_ok readBack, hash, same]

end

/-- The retained keys of earlier epochs are kept, each checked against the lineage. -/
theorem retainHistoryKeys_honours (sealing : Sealing P) {draw : Nat → Nat}
    {tables : RecoveryTables} {claimSha256 admission : Sha256Digest}
    {budget : HistoricalTransferBudget} (receipts : Receipts P store stored kept)
    (authentic : Authentic P stored) (own : OwnKeys P stored device keys)
    (ran : retainHistoryKeys P format draw tables store stored device claimSha256 admission keys budget = .ok after) :
    Honours P stored store after kept fun recipient bundle =>
      recipient = device ∧ SealedInHistoryKey P tables keys bundle := by
  simp only [retainHistoryKeys, supplementalKeys, ok_iff] at ran
  obtain ⟨_, loaded, prepared, rfl, _, _, _, _, _, proof, lineaged, root, _, supplemental,
    ⟨_, _, _, _, _, _, _, collected⟩, threaded⟩ := ran
  have from_ := loadPreparedRecovery_ok loaded
  have keeps : ∀ store after kept (key : RecoveryHistoryKeyV1),
      key ∈ prepared.historyKeys ++ supplemental → Receipts P store stored kept →
      (do
        let bundle ← orFail (openRecoveryHistoryKey P root prepared.claim prepared.parent proof
          key keys) membershipInvalid
        retain P (draw bundle.keyEpoch) store stored device bundle false claimSha256 keys
          budget.history) = .ok after →
      ∃ keptAfter offer, (∃ material plaintext,
          P.unwrapSecret keys key.envelope (historyKeyAad (P.sha256 prepared.canonicalClaim)
            key.keyEpoch key.originalBundleSha256) = .ok plaintext ∧
          decodePairingKeyBundle plaintext = .ok material ∧ Agrees P stored material ∧
          offer = (device, material.pinnedTo stored.pin)) ∧
        Retains P stored store after kept keptAfter [offer] := by
    intro store after kept key _ receipts ran
    simp only [ok_iff] at ran
    obtain ⟨bundle, opened, retained⟩ := ran
    obtain ⟨material, plaintext, unwrapped, decoded, agrees, rfl⟩ :=
      openRecoveryHistoryKey_agrees from_.decoded lineaged opened
    have belongs := agrees.belongs (decodePairingKeyBundle_valid decoded) authentic.pin_ne_zero
    obtain ⟨keptAfter, retains⟩ := retain_retains sealing receipts authentic belongs own retained
    exact ⟨keptAfter, _, ⟨material, plaintext, unwrapped, decoded, agrees, rfl⟩, retains⟩
  obtain ⟨keptAfter, offered, owns, retains⟩ := thread_retains keeps receipts threaded
  refine ⟨keptAfter, offered, retains, ?_⟩
  rintro recipient bundle ⟨rfl, row, found, envelope, plaintext, preparedRow, member, read, unwrapped,
    decoded⟩
  obtain ⟨row', found', sameClaim⟩ := from_.row
  obtain rfl := Option.some.inj (preparedRow.symm.trans found')
  rw [sameClaim] at unwrapped
  have among : (⟨found.1, found.2.originalBundleSha256, envelope, found.2.signature⟩ :
      RecoveryHistoryKeyV1) ∈ prepared.historyKeys ++ supplemental := by
    rcases List.mem_append.mp member with early | late
    · obtain ⟨key, keyMember, keyRead⟩ := collect_item from_.historyKeys early
      obtain ⟨envelope', read', rfl⟩ := readHistoryKey_ok keyRead
      obtain rfl := Except.ok.inj (read.symm.trans read')
      exact List.mem_append_left _ keyMember
    · obtain ⟨key, keyMember, keyRead⟩ := collect_item collected late
      simp only [ok_iff] at keyRead
      obtain ⟨_, key', keyRead, _, _, rfl⟩ := keyRead
      obtain ⟨envelope', read', rfl⟩ := readHistoryKey_ok keyRead
      obtain rfl := Except.ok.inj (read.symm.trans read')
      exact List.mem_append_right _ keyMember
  obtain ⟨offer, offerMember, material, plaintext', unwrapped', decoded', agrees, rfl⟩ :=
    forall₂_mem_right owns.flip among
  obtain rfl := Except.ok.inj (unwrapped.symm.trans unwrapped')
  obtain rfl := Except.ok.inj (decoded.symm.trans decoded')
  exact ⟨agrees, offerMember⟩

end ContextRelay.Membership
