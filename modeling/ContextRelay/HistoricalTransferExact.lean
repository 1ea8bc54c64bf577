import ContextRelay.HistoricalTransferRuns
import ContextRelay.MembershipStaging

/-! The transfer of historical keys is complete and exact, whatever the last epoch is: the bundles
of the epochs one to the last can be built into pages and a header, which open to the same bundles,
and nothing else opens. The cursor that a vault stores behind the accepted pages is the one that
opening those pages reaches. -/
namespace ContextRelay.Membership

open Library Library.Cbor VerifiedHistoricalTransfer HistoricalTransferAuthority
open HistoricalTransferHeader

/-! ## Building for every last epoch -/

/-- What building assumes of the cipher: it seals for the keys of a device, under a usable
ephemeral key, and the ciphertext is at most a tag longer than the plaintext. -/
def SealsPages (P : ControlPrimitives) : Prop :=
  ∀ draw keys plaintext aad, ∃ envelope,
    P.wrapSecret draw (P.wrappingPublicKey keys) plaintext aad = .ok envelope ∧
      P.validX25519PublicKey envelope.ephemeralPublicKey = true ∧
      plaintext.length ≤ envelope.ciphertext.length ∧
      envelope.ciphertext.length ≤ plaintext.length + 16

/-- A bundle that the trust in the first epoch's keys allows. -/
def EpochOneTrust.Allows (genesis : EpochOneTrust) (bundle : PairingKeyBundle) : Prop :=
  match genesis with
  | .activeExporterAssertion => True
  | .previouslyTrusted trusted => encodePairingKeyBundle bundle = encodePairingKeyBundle trusted

/-- The bundles of the pages from an index on. -/
def pageBundles (last : Nat) (bundles : List PairingKeyBundle) (index : Nat) :
    List (List PairingKeyBundle) :=
  (List.range' index (pageCount last - index)).map fun page =>
    (bundles.drop (page * bundlesPerPage)).take bundlesPerPage

variable {P : ControlPrimitives} {authority : HistoricalTransferAuthority} {genesis : EpochOneTrust}
  {bundles : List PairingKeyBundle} {bundle : PairingKeyBundle} {keys : DeviceKeys}
  {draw : Nat → Nat}

theorem pageBundles_of_lt (inside : index < pageCount last) :
    pageBundles last bundles index =
      (bundles.drop (index * bundlesPerPage)).take bundlesPerPage ::
        pageBundles last bundles (index + 1) := by
  have counted : pageCount last - index = pageCount last - (index + 1) + 1 := by omega
  rw [pageBundles, counted, List.range'_succ, List.map_cons]
  rfl

theorem pageBundles_of_le (outside : pageCount last ≤ index) : pageBundles last bundles index = [] := by
  rw [pageBundles, Nat.sub_eq_zero_of_le outside]
  rfl

theorem length_pageBundles (last : Nat) (bundles : List PairingKeyBundle) :
    (pageBundles last bundles 0).length = pageCount last := by
  simp [pageBundles]

theorem flatten_pages (bundles : List PairingKeyBundle) (index count : Nat) :
    ((List.range' index count).map fun page =>
        (bundles.drop (page * bundlesPerPage)).take bundlesPerPage).flatten =
      (bundles.drop (index * bundlesPerPage)).take (count * bundlesPerPage) := by
  induction count generalizing index with
  | zero => simp
  | succ count ih =>
    have size : (count + 1) * bundlesPerPage = bundlesPerPage + count * bundlesPerPage := by
      rw [Nat.succ_mul, Nat.add_comm]
    rw [List.range'_succ, List.map_cons, List.flatten_cons, ih, size, List.take_add, List.drop_drop,
      Nat.succ_mul]

theorem flatten_pageBundles (length : bundles.length = last) :
    (pageBundles last bundles 0).flatten = bundles := by
  rw [pageBundles, flatten_pages, Nat.zero_mul, List.drop_zero, List.take_of_length_le]
  unfold pageCount bundlesPerPage
  omega

/-- The bundles of a page match the epochs of the page. -/
theorem matches_page {R : Nat → PairingKeyBundle → Prop}
    (matched : List.Forall₂ R (List.range' 1 last) bundles) (inside : index < pageCount last)
    (bounded : last < maxEpoch) :
    List.Forall₂ R
      (List.range' (coveredEpochs last index + 1)
        (coveredEpochs last (index + 1) - coveredEpochs last index))
      ((bundles.drop (index * bundlesPerPage)).take bundlesPerPage) := by
  obtain ⟨_, start, _⟩ := pageInventory_of_lt inside bounded
  have page := List.forall₂_take bundlesPerPage (List.forall₂_drop (index * bundlesPerPage) matched)
  rw [List.drop_range', Nat.mul_one, Nat.add_comm 1] at page
  rw [start]
  rcases le_total (last - index * bundlesPerPage) bundlesPerPage with short | long
  · rw [List.take_range'_of_length_le short] at page
    have count : coveredEpochs last (index + 1) = last := by
      unfold coveredEpochs bundlesPerPage at *
      omega
    rw [count]
    exact page
  · rw [List.take_range'_of_length_ge long] at page
    have count : coveredEpochs last (index + 1) - index * bundlesPerPage = bundlesPerPage := by
      unfold coveredEpochs bundlesPerPage at *
      omega
    rw [count]
    exact page

/-! ## Bundles that match are accepted -/

theorem checkBundle_of_matches (matched : MatchesEpoch P authority epoch bundle)
    (valid : BundleValid bundle) (trusted : epoch = 1 → genesis.Allows bundle) :
    authority.checkBundle P bundle epoch genesis = .ok () := by
  unfold HistoricalTransferAuthority.checkBundle
  dsimp only
  rw [require_pos ⟨matched.scope.1, matched.scope.2, matched.keyEpoch, matched.enrollment⟩, ok_bind]
  split
  · rename_i first
    rw [require_pos (matched.first first), ok_bind]
    have allowed := trusted first
    cases genesis with
    | activeExporterAssertion => rfl
    | previouslyTrusted known =>
      exact require_pos (show encodePairingKeyBundle bundle = encodePairingKeyBundle known from allowed) _
  · rename_i later
    obtain ⟨commitment, found, epochs, control, committed⟩ := matched.rotated later
    have same : keyMaterialMatches P bundle commitment.keyMaterialSha256 = .ok true := by
      rw [keyMaterialMatches, PairingKeyBundle.new, require_pos ⟨valid.control, valid.key⟩, ok_bind,
        pure_eq_ok, ok_bind, pure_eq_ok]
      rcases committed with pinned | unpinned
      · simp [pinned]
      · have equal : P.sha256 (encodePairingKeyBundle ⟨bundle.accountId, bundle.workspaceId,
            bundle.controlEpoch, bundle.keyEpoch, bundle.workspaceRootKey, bundle.activeEpochKey,
            none⟩) = commitment.keyMaterialSha256 := unpinned
        simp [equal]
    rw [found, present_some, ok_bind, require_pos ⟨epochs, control⟩, ok_bind, same, ok_bind,
      require_pos rfl]

theorem writeBundles_of_matches
    (matched : List.Forall₂ (MatchesEpoch P authority) (List.range' epoch count) bundles)
    (valid : ∀ bundle ∈ bundles, BundleValid bundle)
    (trusted : ∀ bundle ∈ bundles, bundle.keyEpoch = 1 → genesis.Allows bundle) :
    ∃ written, authority.writeBundles P genesis epoch bundles = .ok written := by
  induction bundles generalizing epoch count with
  | nil => exact ⟨[], rfl⟩
  | cons bundle bundles ih =>
    cases count with
    | zero => cases matched
    | succ count =>
      rw [List.range'_succ] at matched
      obtain ⟨own, others⟩ := List.forall₂_cons.mp matched
      obtain ⟨written, wrote⟩ := ih others
        (fun other member => valid other (List.mem_cons_of_mem _ member))
        (fun other member => trusted other (List.mem_cons_of_mem _ member))
      have checked := checkBundle_of_matches own (valid bundle List.mem_cons_self)
        fun first => trusted bundle List.mem_cons_self (own.keyEpoch.trans first)
      exact ⟨_, by rw [writeBundles, checked, ok_bind, wrote, ok_bind, pure_eq_ok]⟩

/-! ## Pages fit -/

theorem length_encodePairingKeyBundle_ge (bundle : PairingKeyBundle) :
    16 ≤ (encodePairingKeyBundle bundle).length := by
  unfold encodePairingKeyBundle byteString
  simp only [List.length_append, Id.length_bytes]
  omega

theorem length_byteString_le (bytes : Bytes) (short : bytes.length < 2 ^ 32) :
    (byteString bytes).length ≤ bytes.length + 5 := by
  have head := length_head_le .bytes short
  rw [byteString, List.length_append]
  omega

theorem length_bundles (typed : ∀ bundle ∈ bundles, BundleTyped bundle) :
    bundles.length * 16 ≤ ((bundles.map encodePairingKeyBundle).flatMap byteString).length ∧
      ((bundles.map encodePairingKeyBundle).flatMap byteString).length ≤ bundles.length * 165 := by
  induction bundles with
  | nil => simp
  | cons bundle bundles ih =>
    obtain ⟨least, most⟩ := ih fun other member => typed other (List.mem_cons_of_mem _ member)
    have long := length_encodePairingKeyBundle_ge bundle
    have short := length_encodePairingKeyBundle_le (typed bundle List.mem_cons_self)
    have string := length_byteString_le _ (lt_of_le_of_lt short (by decide))
    have longer : (encodePairingKeyBundle bundle).length ≤
        (byteString (encodePairingKeyBundle bundle)).length := by simp [byteString]
    unfold maxBundleBytes at short
    rw [List.map_cons, List.flatMap_cons, List.length_append, List.length_cons]
    omega

theorem TransferPage.length_write_le (page : TransferPage) (index : page.index < 2 ^ 32)
    (first : page.firstKeyEpoch < 2 ^ 32) (count : page.bundleCount < 2 ^ 32)
    (short : page.envelope.ciphertext.length < 2 ^ 32) :
    page.write.length ≤ page.envelope.ciphertext.length + 200 := by
  have fieldKey : ∀ {number : Nat}, number < 24 → (CanonicalCbor.key number).length = 1 :=
    fun small => length_head_inline .unsigned small
  have indexBytes : (unsigned page.index).length ≤ 5 := length_head_le .unsigned index
  have firstBytes : (unsigned page.firstKeyEpoch).length ≤ 5 := length_head_le .unsigned first
  have countBytes : (unsigned page.bundleCount).length ≤ 5 := length_head_le .unsigned count
  have hashBytes := length_byteString_le page.nextPageSha256.bytes (by simp)
  have keyBytes := length_byteString_le page.envelope.ephemeralPublicKey.bytes (by simp)
  have nonceBytes := length_byteString_le page.envelope.nonce.bytes (by simp)
  have textBytes := length_byteString_le _ short
  rw [Fixed.length_bytes] at hashBytes keyBytes nonceBytes
  unfold TransferPage.write encodeWrappedEnvelope
  simp only [List.length_append, length_head_inline .map (show 5 < 24 by decide),
    length_head_inline .map (show 3 < 24 by decide),
    fieldKey (show 0 < 24 by decide), fieldKey (show 1 < 24 by decide),
    fieldKey (show 2 < 24 by decide), fieldKey (show 3 < 24 by decide),
    fieldKey (show 4 < 24 by decide)]
  omega

/-- The keys of the recipient are those its certificate names. -/
theorem checkKeys_ok {device : DeviceId} (checked : authority.checkKeys P device keys = .ok ()) :
    ∃ certificate, authority.certificateOf device = .ok certificate ∧
      certificate.signingPublicKey = P.signingPublicKey keys ∧
      certificate.wrappingPublicKey = P.wrappingPublicKey keys := by
  simp only [checkKeys, ok_iff] at checked
  exact checked

/-- A page of matching bundles is built. -/
theorem buildPage_of_matches (seals : SealsPages P) (wellFormed : authority.WellFormed)
    (bounded : authority.context.lastHistoricalKeyEpoch < maxEpoch)
    (recipient : authority.checkKeys P authority.context.recipientDeviceId keys = .ok ())
    (inside : index < pageCount authority.context.lastHistoricalKeyEpoch)
    (matched : List.Forall₂ (MatchesEpoch P authority)
      (List.range' (coveredEpochs authority.context.lastHistoricalKeyEpoch index + 1)
        (coveredEpochs authority.context.lastHistoricalKeyEpoch (index + 1) -
          coveredEpochs authority.context.lastHistoricalKeyEpoch index)) bundles)
    (valid : ∀ bundle ∈ bundles, BundleValid bundle)
    (trusted : ∀ bundle ∈ bundles, bundle.keyEpoch = 1 → genesis.Allows bundle)
    (ends : index + 1 = authority.context.pageCount ↔ next = .zero) (draw : Nat) :
    ∃ page, authority.buildPage P draw index next bundles genesis = .ok page := by
  obtain ⟨inventory, start, grows⟩ := pageInventory_of_lt inside bounded
  have count := matched.length_eq
  rw [List.length_range'] at count
  obtain ⟨written, wrote⟩ := writeBundles_of_matches matched valid trusted
  obtain ⟨certificate, found, _, key⟩ := checkKeys_ok recipient
  obtain ⟨context, contextWritten⟩ := exists_of_isOk wellFormed
  have few : bundles.length ≤ bundlesPerPage := by
    rw [← count, start]
    unfold coveredEpochs bundlesPerPage
    omega
  have last : coveredEpochs authority.context.lastHistoricalKeyEpoch (index + 1) ≤
      authority.context.lastHistoricalKeyEpoch := Nat.min_le_right _ _
  obtain ⟨long, short⟩ := length_bundles fun bundle member => (valid bundle member).toBundleTyped
  rw [← writeBundles_ok wrote] at long short
  have arrayHead : (head .array bundles.length).length ≤ 5 :=
    length_head_le .array (lt_of_le_of_lt few (by decide))
  have counted : coveredEpochs authority.context.lastHistoricalKeyEpoch (index + 1) -
      coveredEpochs authority.context.lastHistoricalKeyEpoch index = bundles.length := count
  rw [buildPage, inventory, ok_bind]
  dsimp only
  rw [counted, require_pos ⟨rfl, ends⟩, ok_bind, wrote, ok_bind, found, ok_bind, TransferPage.aad,
    contextWritten, ok_bind, pure_eq_ok, ok_bind, key]
  obtain ⟨envelope, sealed, usable, least, most⟩ := seals draw keys (head .array bundles.length ++ written)
    (pageDomain ++ context ++ bigEndian 4 index ++
      bigEndian 4 (coveredEpochs authority.context.lastHistoricalKeyEpoch index + 1) ++
      bigEndian 4 bundles.length ++ next.bytes)
  rw [List.length_append] at least most
  unfold bundlesPerPage at few start
  have small : authority.context.lastHistoricalKeyEpoch < 2 ^ 32 - 1 := bounded
  have sized := TransferPage.length_write_le
    ⟨index, coveredEpochs authority.context.lastHistoricalKeyEpoch index + 1, bundles.length, next,
      envelope⟩ (by dsimp only; omega) (by dsimp only; omega) (by dsimp only; omega)
      (by dsimp only; omega)
  dsimp only at sized
  rw [sealed, ok_bind, TransferPage.canonicalBytes]
  dsimp only
  unfold bundlesPerPage maxPageBytes
  rw [require_pos ⟨by omega, ⟨by omega, few⟩, by omega, by omega⟩, ok_bind, validateX25519PublicKey,
    require_pos usable, ok_bind, require_pos (by omega), ok_bind]
  exact ⟨_, rfl⟩

/-- No page that is built hashes to zero, which marks the last page. -/
def ZeroFree (P : ControlPrimitives) (authority : HistoricalTransferAuthority) (draw : Nat → Nat)
    (genesis : EpochOneTrust) (bundles : List PairingKeyBundle) : Prop :=
  ∀ index page later, buildPages P authority draw genesis index
    (pageBundles authority.context.lastHistoricalKeyEpoch bundles index) ≠ .ok (page :: later, .zero)

/-- The pages from any index on are built, the last one first. -/
theorem buildPages_of_matches (seals : SealsPages P) (wellFormed : authority.WellFormed)
    (bounded : authority.context.lastHistoricalKeyEpoch < maxEpoch)
    (recipient : authority.checkKeys P authority.context.recipientDeviceId keys = .ok ())
    (matched : List.Forall₂ (MatchesEpoch P authority)
      (List.range' 1 authority.context.lastHistoricalKeyEpoch) bundles)
    (valid : ∀ bundle ∈ bundles, BundleValid bundle)
    (trusted : ∀ bundle ∈ bundles, bundle.keyEpoch = 1 → genesis.Allows bundle)
    (zeroFree : ZeroFree P authority draw genesis bundles)
    (left : pageCount authority.context.lastHistoricalKeyEpoch = index + count) :
    ∃ pages first, buildPages P authority draw genesis index
        (pageBundles authority.context.lastHistoricalKeyEpoch bundles index) = .ok (pages, first) ∧
      pages.length = count ∧ (count = 0 ↔ first = .zero) := by
  induction count generalizing index with
  | zero =>
    rw [pageBundles_of_le (by omega)]
    exact ⟨[], .zero, rfl, rfl, by simp⟩
  | succ count ih =>
    obtain ⟨later, next, built, length, ends⟩ := ih
      (show pageCount authority.context.lastHistoricalKeyEpoch = (index + 1) + count by omega)
    have subset : ∀ bundle ∈ (bundles.drop (index * bundlesPerPage)).take bundlesPerPage,
        bundle ∈ bundles :=
      fun bundle member => List.mem_of_mem_drop (List.mem_of_mem_take member)
    have inside : index < pageCount authority.context.lastHistoricalKeyEpoch := by omega
    obtain ⟨page, pageBuilt⟩ := buildPage_of_matches seals wellFormed bounded recipient inside
      (matches_page matched inside bounded) (fun bundle member => valid bundle (subset bundle member))
      (fun bundle member => trusted bundle (subset bundle member))
      (show index + 1 = authority.context.pageCount ↔ next = .zero by
        rw [WellFormed.pageCount wellFormed, ← ends]
        omega) (draw index)
    have whole : buildPages P authority draw genesis index
        (pageBundles authority.context.lastHistoricalKeyEpoch bundles index) =
        .ok (page :: later, P.sha256 page) := by
      rw [pageBundles_of_lt inside, buildPages, built, ok_bind]
      dsimp only
      rw [pageBuilt, ok_bind, pure_eq_ok]
    refine ⟨_, _, whole, by simp [length], by simp, fun zero => ?_⟩
    rw [zero] at whole
    exact absurd whole (zeroFree index page later)

/-- The header of a first page is signed and written. -/
theorem signHeader_ok (wellFormed : authority.WellFormed)
    (exporter : authority.checkKeys P authority.context.exporterDeviceId keys = .ok ())
    (starts : authority.context.pageCount = 0 ↔ first = .zero) :
    ∃ header raw, authority.signHeader P first keys = .ok header ∧ header.canonicalBytes = .ok raw := by
  obtain ⟨context, written⟩ := exists_of_isOk wellFormed
  have covers : ∀ signature, HistoricalTransferHeader.preimage ⟨authority.context, first, signature⟩ =
      .ok (headerDomain ++ context ++ first.bytes) := by
    intro signature
    rw [HistoricalTransferHeader.preimage]
    dsimp only
    rw [require_pos starts, ok_bind, written, ok_bind, pure_eq_ok]
  refine ⟨⟨authority.context, first, P.sign keys (headerDomain ++ context ++ first.bytes)⟩,
    headerDomain ++ context ++ first.bytes ++
      (P.sign keys (headerDomain ++ context ++ first.bytes)).bytes, ?_, ?_⟩
  · rw [signHeader, exporter, ok_bind]
    dsimp only
    rw [covers, ok_bind, pure_eq_ok]
  · rw [HistoricalTransferHeader.canonicalBytes, covers, ok_bind, pure_eq_ok]

/-! ## The stored cursor -/

theorem openCalls_append (transfer : VerifiedHistoricalTransfer) (before after : List OpenCall) :
    openCalls P transfer (before ++ after) =
      ((openCalls P transfer before).1 ++ (openCalls P (openCalls P transfer before).2 after).1,
        (openCalls P (openCalls P transfer before).2 after).2) := by
  induction before generalizing transfer with
  | nil => rfl
  | cons call calls ih =>
    rw [List.cons_append, openCalls, openCalls]
    split
    · rw [ih, List.append_assoc]
    · exact ih transfer

/-- The call that opens an accepted page of a transfer again. -/
def acceptedCall (tables : TransferTables) (id : OperationId) (keys : DeviceKeys)
    (trust : EpochOneTrust) (index : Nat) : OpenCall :=
  ⟨(tables.pages.find? (toLex (id, index))).getD [], keys, trust⟩

/-- The cursor that the row of a transfer stands for. -/
def TransferRow.cursor (row : TransferRow) (pageCount : Nat) : Option (Nat × Sha256Digest) :=
  if row.nextIndex = pageCount ∧ row.nextHash = .zero then none
  else some (row.nextIndex, row.nextHash)

/-- The accepted pages of a transfer open, from its header, to the cursor that is stored and
reported; once the inventory is verified they held the bundles of all epochs, in order. -/
def AccountedPages (P : ControlPrimitives) (tables : TransferTables) (id : OperationId)
    (keys : DeviceKeys) (progress : HistoricalTransferProgress) : Prop :=
  ∃ row authority transfer trust, tables.transfers.find? id = some row ∧
    authority.verifyHeader P row.header = .ok transfer ∧
    row.cursor authority.context.pageCount = progress.nextPage ∧
    (openCalls P transfer
      ((List.range row.nextIndex).map (acceptedCall tables id keys trust))).2.nextPage =
        progress.nextPage ∧
    (progress.inventoryVerified = true → List.Forall₂ (MatchesEpoch P authority)
      (List.range' 1 authority.context.lastHistoricalKeyEpoch)
      (openCalls P transfer ((List.range row.nextIndex).map (acceptedCall tables id keys trust))).1)

theorem new_wellFormed (made : HistoricalTransferAuthority.new P proof confirmed membershipSignature
      transferId exporter checkpoint = .ok authority) : authority.WellFormed := by
  simp only [HistoricalTransferAuthority.new, ok_iff] at made
  obtain ⟨_, _, _, _, _, _, _, _, _, _, _, _, _, _, _, _, _, _, _, _, _, written, rfl⟩ := made
  unfold HistoricalTransferAuthority.WellFormed
  rw [written]
  rfl

/-- The replay of the accepted pages opens them one after the other. -/
theorem replayPages_opens {id : OperationId} {reached final : VerifiedHistoricalTransfer × CommitDisposition}
    (ran : thread (replayPage P tables store stored device id page trust keys budget) reached
      (List.range' first count) = .ok final) :
    (openCalls P reached.1
      ((List.range' first count).map (acceptedCall tables id keys trust))).2 = final.1 := by
  induction count generalizing first reached with
  | zero =>
    obtain rfl := Except.ok.inj ran
    rfl
  | succ count ih =>
    rw [List.range'_succ] at ran ⊢
    simp only [thread, bind_eq_ok] at ran
    obtain ⟨next, stepped, rest⟩ := ran
    simp only [replayPage, ok_iff, Prod.exists] at stepped
    obtain ⟨raw, found, _, _, bundles, verified, opened, _, _, rfl⟩ := stepped
    have own : acceptedCall tables id keys trust first = ⟨raw, keys, trust⟩ := by
      rw [acceptedCall, found, Option.getD_some]
    rw [List.map_cons, own, openCalls]
    dsimp only
    rw [opened]
    exact ih rest

theorem loadTransfer_ok {id : OperationId} (loaded : loadTransfer P tables id budget = .ok (some t)) :
    ∃ row header, tables.transfers.find? id = some row ∧
      HistoricalTransferHeader.decode row.header = .ok header ∧
      t = ⟨header, row.header, row.checkpoint, row.nextIndex, row.nextHash⟩ := by
  simp only [loadTransfer, ok_iff] at loaded
  obtain ⟨_, loaded⟩ := loaded
  cases found : tables.transfers.find? id with
  | none => simp [found] at loaded
  | some row =>
    simp only [found, ok_iff, Option.some.injEq] at loaded
    obtain ⟨_, header, decoded, _, rfl⟩ := loaded
    exact ⟨row, header, rfl, decoded, rfl⟩

theorem nextPage_eq_none {transfer : VerifiedHistoricalTransfer} :
    transfer.nextPage = none ↔ transfer.inventoryVerified := by
  unfold nextPage
  split <;> simp_all

theorem nextPage_eq_some {transfer : VerifiedHistoricalTransfer}
    (waits : transfer.nextPage = some cursor) : cursor = (transfer.nextIndex, transfer.nextHash) := by
  unfold nextPage at waits
  split at waits
  · cases waits
  · exact (Option.some.inj waits).symm

theorem verifyHeader_ok {started : VerifiedHistoricalTransfer}
    (decoded : HistoricalTransferHeader.decode raw = .ok header)
    (headed : authority.verifyHeader P raw = .ok started) :
    header.context = authority.context ∧ started.authority = authority := by
  simp only [verifyHeader, decoded, ok_bind, ok_iff] at headed
  obtain ⟨same, _, _, _, _, _, rfl⟩ := headed
  exact ⟨same, rfl⟩

theorem selection_bounded (chosen : selection P tables device budget = .ok (some selected))
    (loaded : loadTransfer P tables selected.transferId budget = .ok (some t)) :
    t.header.context.lastHistoricalKeyEpoch < maxEpoch := by
  unfold selection at chosen
  cases found : tables.selections.find? device with
  | none => simp [found] at chosen
  | some entry =>
    simp only [found, ok_iff, Option.some.injEq] at chosen
    obtain ⟨_, _, loadedToo, _, rfl, _, small, rfl⟩ := chosen
    obtain rfl := Option.some.inj (Except.ok.inj (loaded.symm.trans loadedToo))
    unfold maxEpoch
    omega

/-- The cursor that is stored with an opened page is the one the transfer waits at. -/
theorem cursor_of_next {next : VerifiedHistoricalTransfer} (row : TransferRow)
    (own : next.authority = authority) :
    ∃ hash, next.nextPage.getD (authority.context.pageCount, .zero) = (next.nextIndex, hash) ∧
      TransferRow.cursor { row with nextIndex := next.nextIndex, nextHash := hash }
        authority.context.pageCount = next.nextPage := by
  by_cases done : next.inventoryVerified
  · have last := done.1
    rw [own] at last
    rw [nextPage_eq_none.mpr done, Option.getD_none, ← last]
    exact ⟨.zero, rfl, if_pos ⟨rfl, rfl⟩⟩
  · have waiting : next.nextPage = some (next.nextIndex, next.nextHash) := if_neg done
    rw [waiting, Option.getD_some]
    exact ⟨next.nextHash, rfl, if_neg fun ends => done ⟨by rw [own]; exact ends.1, ends.2⟩⟩

/-- The earlier pages stay, and the one that is stored behind them is opened after them. -/
theorem openCalls_stored {tables : TransferTables} {id : OperationId} {trust : EpochOneTrust}
    {transfer reached next : VerifiedHistoricalTransfer}
    (opened : (openCalls P transfer
      ((List.range index).map (acceptedCall tables id keys trust))).2 = reached)
    (read : reached.openNextPage P raw keys trust = .ok (bundles, next))
    (transfers : Table OperationId TransferRow) :
    (openCalls P transfer ((List.range (index + 1)).map (acceptedCall
      { tables with pages := tables.pages.upsert (toLex (id, index)) raw, transfers } id keys
      trust))).2 = next := by
  generalize moves : ({ tables with
    pages := tables.pages.upsert (toLex (id, index)) raw, transfers } : TransferTables) = after
  have earlier : ∀ place ∈ List.range index,
      acceptedCall after id keys trust place = acceptedCall tables id keys trust place := by
    intro place member
    have before := List.mem_range.mp member
    rw [← moves, acceptedCall, acceptedCall, Table.find?_upsert_of_ne]
    simp only [ne_eq, toLex_inj, Prod.mk.injEq, true_and]
    omega
  have last : acceptedCall after id keys trust index = ⟨raw, keys, trust⟩ := by
    rw [← moves, acceptedCall, Table.find?_upsert_self, Option.getD_some]
  rw [List.range_succ, List.map_append, List.map_congr_left earlier, openCalls_append, opened,
    List.map_singleton, last, openCalls]
  dsimp only
  rw [read]
  rfl

section
variable {tables after : TransferTables} {id : OperationId} {row : TransferRow}
  {transfer reached verified : VerifiedHistoricalTransfer} {trust : EpochOneTrust}
  {selected : HistoricalTransferSelection}
  (wellFormed : authority.WellFormed)
  (bounded : authority.context.lastHistoricalKeyEpoch < maxEpoch)
  (found : tables.transfers.find? id = some row)
  (accepted : authority.verifyHeader P row.header = .ok transfer)
  (opened : (openCalls P transfer
    ((List.range row.nextIndex).map (acceptedCall tables id keys trust))).2 = reached)

include wellFormed bounded found accepted opened

theorem accounted_of_cursor (cursor : row.cursor authority.context.pageCount = reached.nextPage) :
    AccountedPages P tables id keys ⟨selected, reached.nextPage, decide reached.inventoryVerified⟩ := by
  refine ⟨row, authority, transfer, trust, found, accepted, cursor, by rw [opened], ?_⟩
  intro verified
  refine openCalls_exact wellFormed bounded accepted ?_
  rw [opened]
  exact of_decide_eq_true verified

/-- A page that is accepted moves the stored cursor by one. -/
theorem commitPage_accounted {storeAfter : MembershipStore} (own : transfer.authority = authority)
    (context : t.header.context = authority.context)
    (ran : commitPage P draw tables store stored device id t page trust keys budget reached =
      .ok (verified, after, storeAfter)) :
    AccountedPages P after id keys ⟨selected, verified.nextPage, decide verified.inventoryVerified⟩ := by
  obtain ⟨⟨index, hash⟩, raw⟩ := page
  simp only [commitPage, ok_iff, Prod.exists, Prod.mk.injEq] at ran
  obtain ⟨waits, bundles, next, read, _, _, pages, inserted, _, foundToo, ⟨rfl, rfl⟩, rfl, rfl, rfl⟩ :=
    ran
  obtain rfl := Option.some.inj (found.symm.trans foundToo)
  obtain ⟨atIndex, _⟩ := Prod.mk.inj (nextPage_eq_some waits)
  obtain ⟨absent, rfl⟩ := Table.insert?_eq_some.mp inserted
  have sameAuthority : reached.authority = authority := by
    rw [← opened, (openCalls_matches (by rw [own]; exact bounded)).1, own]
  obtain ⟨keeps, moved, _, _⟩ := openNextPage_ok (by rw [sameAuthority]; exact bounded) read
  rw [sameAuthority] at keeps
  obtain ⟨hash, place, cursor⟩ := cursor_of_next row keeps
  rw [context, place]
  rw [moved, ← atIndex] at cursor ⊢
  exact accounted_of_cursor wellFormed bounded (Table.find?_upsert_self ..) accepted
    (openCalls_stored opened read _) cursor

end

/-- Behind every successful call the stored cursor is the one its accepted pages reach. -/
theorem replayHistoricalTransfer_accounted {storeAfter : MembershipStore}
    (ran : replayHistoricalTransfer P draw tables store selected confirmed membershipSignature page
      keys budget = .ok (progress, disposition, after, storeAfter)) :
    AccountedPages P after selected.transferId keys progress := by
  simp only [replayHistoricalTransfer, ok_iff, Prod.exists] at ran
  obtain ⟨_, _, stored, _, _, _, _, chosen, rfl, _, loaded, t, rfl, proof, _, authority, made,
    transfer, accepted, genesis, _, _, _, reached, replayed, replays, ⟨cursor, _⟩, ran⟩ := ran
  have bounded := selection_bounded chosen loaded
  obtain ⟨row, header, found, decoded, rfl⟩ := loadTransfer_ok loaded
  obtain ⟨context, own⟩ := verifyHeader_ok decoded accepted
  rw [context] at bounded cursor
  have wellFormed := new_wellFormed made
  rw [List.range_eq_range'] at replays
  have opened := replayPages_opens replays
  rw [← List.range_eq_range'] at opened
  have unchanged : AccountedPages P tables selected.transferId keys
      ⟨selected, reached.nextPage, decide reached.inventoryVerified⟩ :=
    accounted_of_cursor wellFormed bounded found accepted opened cursor.symm
  cases page with
  | none =>
    simp only [Except.ok.injEq, Prod.mk.injEq] at ran
    obtain ⟨rfl, _, rfl, _⟩ := ran
    exact unchanged
  | some submitted =>
    dsimp only at ran
    split at ran
    · simp only [Except.ok.injEq, Prod.mk.injEq] at ran
      obtain ⟨rfl, _, rfl, _⟩ := ran
      exact unchanged
    · simp only [ok_iff, Prod.exists, Prod.mk.injEq] at ran
      obtain ⟨_, _, _, commits, rfl, _, rfl, _⟩ := ran
      exact commitPage_accounted wellFormed bounded found accepted opened own context commits

/-! ## The transfer -/

/-- A transfer is exact. Whatever calls are made to open pages from a header that the authority
accepts, once the inventory is verified the bundles returned are those of the epochs one to the
last, one for each and in order. The bundles of these epochs are built into pages and a header;
the header of any built pages is accepted, and the pages open in order to the bundles they were
built from. No number of a page leaves the range of an epoch, a call that fails leaves the cursor
where it was, and so does the cursor a vault stores stay behind its accepted pages. -/
structure ExactTransfer (P : ControlPrimitives) (authority : HistoricalTransferAuthority) :
    Prop where
  complete : ∀ raw transfer calls, authority.verifyHeader P raw = .ok transfer →
    (openCalls P transfer calls).2.inventoryVerified →
      List.Forall₂ (MatchesEpoch P authority)
        (List.range' 1 authority.context.lastHistoricalKeyEpoch) (openCalls P transfer calls).1
  builds : ∀ draw genesis bundles exporterKeys keys,
    List.Forall₂ (MatchesEpoch P authority)
      (List.range' 1 authority.context.lastHistoricalKeyEpoch) bundles →
    (∀ bundle ∈ bundles, BundleValid bundle) →
    (∀ bundle ∈ bundles, bundle.keyEpoch = 1 → genesis.Allows bundle) →
    ZeroFree P authority draw genesis bundles →
    authority.checkKeys P authority.context.exporterDeviceId exporterKeys = .ok () →
    authority.checkKeys P authority.context.recipientDeviceId keys = .ok () →
    ∃ pages first header raw transfer,
      buildPages P authority draw genesis 0
        (pageBundles authority.context.lastHistoricalKeyEpoch bundles 0) = .ok (pages, first) ∧
      pages.length = pageCount authority.context.lastHistoricalKeyEpoch ∧
      authority.signHeader P first exporterKeys = .ok header ∧ header.canonicalBytes = .ok raw ∧
      authority.verifyHeader P raw = .ok transfer ∧
      (openCalls P transfer (pages.map fun page => ⟨page, keys, genesis⟩)).1 = bundles ∧
      (openCalls P transfer (pages.map fun page => ⟨page, keys, genesis⟩)).2.inventoryVerified
  reopens : ∀ draw genesis (chunks : List (List PairingKeyBundle)) pages first exporterKeys header
      raw keys, chunks.length = pageCount authority.context.lastHistoricalKeyEpoch →
    (∀ bundle ∈ chunks.flatten, BundleTyped bundle) →
    buildPages P authority draw genesis 0 chunks = .ok (pages, first) →
    authority.signHeader P first exporterKeys = .ok header → header.canonicalBytes = .ok raw →
    authority.checkKeys P authority.context.recipientDeviceId keys = .ok () →
    ∃ transfer, authority.verifyHeader P raw = .ok transfer ∧
      (openCalls P transfer (pages.map fun page => ⟨page, keys, genesis⟩)).1 = chunks.flatten ∧
      (openCalls P transfer (pages.map fun page => ⟨page, keys, genesis⟩)).2.inventoryVerified
  inRange : ∀ index, index < pageCount authority.context.lastHistoricalKeyEpoch →
    ∃ firstEpoch count, pageInventory authority.context.lastHistoricalKeyEpoch index =
        .ok (firstEpoch, count) ∧ 1 ≤ count ∧ count ≤ bundlesPerPage ∧
      firstEpoch + count ≤ authority.context.lastHistoricalKeyEpoch + 1 ∧
      firstEpoch + count ≤ maxEpoch ∧ index + 1 ≤ maxEpoch
  failed : ∀ transfer call failure, transfer.authority = authority →
    transfer.openNextPage P call.raw call.keys call.genesis = .error failure →
      openCalls P transfer [call] = ([], transfer)
  stored : ∀ draw tables store selected confirmed membershipSignature page keys budget progress
      disposition after storeAfter,
    replayHistoricalTransfer P draw tables store selected confirmed membershipSignature page keys
      budget = .ok (progress, disposition, after, storeAfter) →
    AccountedPages P after selected.transferId keys progress

/-- Built pages are opened in order behind their signed header. -/
theorem openCalls_built (honest : Honest P) (wellFormed : authority.WellFormed)
    (bounded : authority.context.lastHistoricalKeyEpoch < maxEpoch)
    {chunks : List (List PairingKeyBundle)}
    (counted : chunks.length = pageCount authority.context.lastHistoricalKeyEpoch)
    (typed : ∀ bundle ∈ chunks.flatten, BundleTyped bundle)
    (built : buildPages P authority draw genesis 0 chunks = .ok (pages, first))
    (signed : authority.signHeader P first exporterKeys = .ok header)
    (written : header.canonicalBytes = .ok raw)
    (recipient : authority.checkKeys P authority.context.recipientDeviceId keys = .ok ()) :
    ∃ transfer, authority.verifyHeader P raw = .ok transfer ∧
      (openCalls P transfer (pages.map fun page => ⟨page, keys, genesis⟩)).1 = chunks.flatten ∧
      (openCalls P transfer (pages.map fun page => ⟨page, keys, genesis⟩)).2.inventoryVerified := by
  refine ⟨_, verifyHeader_signHeader honest wellFormed bounded signed written, ?_⟩
  rw [openCalls_buildPages honest wellFormed bounded typed recipient built]
  refine ⟨rfl, ?_, rfl⟩
  dsimp only
  rw [counted, WellFormed.pageCount wellFormed, Nat.zero_add]

namespace Sample

/-- The keys of a past epoch. -/
def pastBundle (epoch : Nat) : PairingKeyBundle :=
  { firstBundle with controlEpoch := epoch, keyEpoch := epoch }

/-- A transfer of the keys of thirty-three epochs, from the first device to itself. -/
def transferAuthority : HistoricalTransferAuthority where
  context := {
    transferId := id 0 30
    accountId := scope.accountId
    workspaceId := scope.workspaceId
    pairingMembershipSuccessorSha256 := pin
    authorizingControlStateSha256 := pin
    recipientDeviceId := firstDevice
    recipientCertificateSha256 := pin
    enrollmentRecordSha256 := pin
    exporterDeviceId := firstDevice
    checkpointSha256 := pin
    lastHistoricalKeyEpoch := 33
    pageCount := 2 }
  lineage := ⟨start, start.endpoint, (List.range' 2 32).map fun epoch =>
    ⟨epoch, epoch, lengthDigest (encodePairingKeyBundle (pastBundle epoch))⟩⟩

theorem pastBundle_matches (epoch : Nat) (past : epoch ∈ List.range' 1 33) :
    MatchesEpoch primitives transferAuthority epoch (pastBundle epoch) where
  scope := ⟨rfl, rfl⟩
  keyEpoch := rfl
  enrollment := rfl
  first first := first
  rotated later := by
    have range := List.mem_range'_1.mp past
    refine ⟨⟨epoch, epoch, lengthDigest (encodePairingKeyBundle (pastBundle epoch))⟩, ?_, rfl, rfl,
      .inl rfl⟩
    have place : 2 + 1 * (epoch - 2) = epoch := by omega
    rw [transferAuthority, List.getElem?_map, List.getElem?_range' (by omega), place, Option.map_some]

end Sample

end ContextRelay.Membership
