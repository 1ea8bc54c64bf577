import ContextRelay.HistoricalTransfer

/-! Runs of a transfer of historical keys: whatever pages a cursor accepts until the inventory is
verified, the bundles it returned are those of the epochs one to the last, in order, each checked;
and the pages and the header that an exporter builds open to the bundles they were built from. -/
namespace ContextRelay.Membership

open Library Library.Cbor VerifiedHistoricalTransfer HistoricalTransferAuthority
open HistoricalTransferHeader

/-! ## Page arithmetic -/

/-- How many epochs the pages before an index hold. -/
def coveredEpochs (last index : Nat) : Nat := min (index * bundlesPerPage) last

theorem coveredEpochs_pageCount (last : Nat) : coveredEpochs last (pageCount last) = last := by
  unfold coveredEpochs pageCount bundlesPerPage
  omega

/-- A page that exists starts after the epochs of the pages before it and ends with the page or
with the last epoch; none of its numbers leaves the range of an epoch. -/
theorem pageInventory_of_lt (inside : index < pageCount last) (bounded : last < maxEpoch) :
    pageInventory last index = .ok (coveredEpochs last index + 1,
      coveredEpochs last (index + 1) - coveredEpochs last index) ∧
      coveredEpochs last index = index * bundlesPerPage ∧
      coveredEpochs last index < coveredEpochs last (index + 1) := by
  have start : index * bundlesPerPage + 1 ≤ last := by
    unfold pageCount bundlesPerPage at inside
    unfold bundlesPerPage
    omega
  have covered : coveredEpochs last index = index * bundlesPerPage := by
    unfold coveredEpochs
    omega
  refine ⟨?_, covered, ?_⟩
  · rw [pageInventory, require_pos inside, ok_bind,
      require_pos ⟨by omega, by omega⟩, ok_bind, pure_eq_ok, covered]
    congr 2
    unfold coveredEpochs bundlesPerPage at *
    omega
  · rw [covered]
    unfold coveredEpochs bundlesPerPage at *
    omega

theorem pageInventory_ok (found : pageInventory last index = .ok (first, count))
    (bounded : last < maxEpoch) :
    index < pageCount last ∧ first = coveredEpochs last index + 1 ∧
      coveredEpochs last (index + 1) = coveredEpochs last index + count := by
  have inside : index < pageCount last := by
    simp only [pageInventory, ok_iff] at found
    exact found.1
  obtain ⟨known, _, grows⟩ := pageInventory_of_lt inside bounded
  rw [known] at found
  obtain ⟨rfl, rfl⟩ := Prod.mk.inj (Except.ok.inj found)
  exact ⟨inside, rfl, by omega⟩

/-! ## Checked bundles -/

variable {P : ControlPrimitives}

/-- A bundle is the one of an epoch: it names the scope, the epoch and the enrollment of the
transfer, and after the first epoch the rotation that created the epoch commits to its keys. -/
structure MatchesEpoch (P : ControlPrimitives) (authority : HistoricalTransferAuthority)
    (epoch : Nat) (bundle : PairingKeyBundle) : Prop where
  scope : bundle.accountId = authority.context.accountId ∧
    bundle.workspaceId = authority.context.workspaceId
  keyEpoch : bundle.keyEpoch = epoch
  enrollment : bundle.enrollmentRecordSha256 = some authority.context.enrollmentRecordSha256
  first : epoch = 1 → bundle.controlEpoch = 1
  rotated : epoch ≠ 1 → ∃ commitment,
    authority.lineage.rotatedKeyCommitments[epoch - 2]? = some commitment ∧
      commitment.keyEpoch = epoch ∧ commitment.controlEpoch = bundle.controlEpoch ∧
      (P.sha256 (encodePairingKeyBundle bundle) = commitment.keyMaterialSha256 ∨
        P.sha256 (encodePairingKeyBundle { bundle with enrollmentRecordSha256 := none }) =
          commitment.keyMaterialSha256)

section

variable {bundle : PairingKeyBundle} {authority : HistoricalTransferAuthority} {epoch : Nat}
  {genesis : EpochOneTrust} {bundles : List PairingKeyBundle} {raw : Bytes} {keys : DeviceKeys}

theorem keyMaterialMatches_eq_true (same : keyMaterialMatches P bundle commitment = .ok true) :
    P.sha256 (encodePairingKeyBundle bundle) = commitment ∨
      P.sha256 (encodePairingKeyBundle { bundle with enrollmentRecordSha256 := none }) =
        commitment := by
  simp only [keyMaterialMatches, PairingKeyBundle.new, ok_iff] at same
  obtain ⟨unpinned, ⟨_, rfl⟩, found⟩ := same
  rcases (Bool.or_eq_true _ _).mp found with first | second
  · exact .inl (of_decide_eq_true first)
  · exact .inr (of_decide_eq_true second)

theorem checkBundle_matches (checked : authority.checkBundle P bundle epoch genesis = .ok ()) :
    MatchesEpoch P authority epoch bundle := by
  simp only [HistoricalTransferAuthority.checkBundle, ok_iff] at checked
  obtain ⟨⟨account, workspace, keyEpoch, enrollment⟩, rest⟩ := checked
  split at rest
  · rename_i first
    simp only [ok_iff] at rest
    exact ⟨⟨account, workspace⟩, keyEpoch, enrollment, fun _ => rest.1, fun other => absurd first other⟩
  · rename_i later
    simp only [ok_iff] at rest
    obtain ⟨commitment, found, ⟨epochs, control⟩, same, matched, rfl⟩ := rest
    exact ⟨⟨account, workspace⟩, keyEpoch, enrollment, fun first => absurd first later,
      fun _ => ⟨commitment, found, epochs, control, keyMaterialMatches_eq_true matched⟩⟩

theorem readBundles_matches
    (read : readBundles P authority genesis epoch count input = .ok (items, rest)) :
    List.Forall₂ (MatchesEpoch P authority) (List.range' epoch count) (items.map Prod.snd) := by
  induction count generalizing epoch input items rest with
  | zero =>
    simp only [readBundles, Reader.pure_eq_ok] at read
    rw [← read.1]
    exact .nil
  | succ count ih =>
    simp only [readBundles, read_iff] at read
    obtain ⟨raw, _, _, _, _, _, bundle, _, _, _, _, ⟨checked, rfl⟩, later, _, readLater, rfl, _⟩ :=
      read
    exact .cons (checkBundle_matches checked) (ih readLater)

/-! ## Opening pages -/

/-- The context of an authority can be written, as the authority's constructor makes sure. -/
def HistoricalTransferAuthority.WellFormed (authority : HistoricalTransferAuthority) : Prop :=
  authority.context.bytes.isOk = true

theorem WellFormed.pageCount (valid : authority.WellFormed) :
    authority.context.pageCount = pageCount authority.context.lastHistoricalKeyEpoch := by
  obtain ⟨bytes, written⟩ := exists_of_isOk valid
  simp only [TransferContext.bytes, ok_iff] at written
  exact written.1.2.1

theorem openPlaintext_matches
    (opened : openPlaintext P authority genesis first count plaintext = .ok bundles) :
    List.Forall₂ (MatchesEpoch P authority) (List.range' first count) bundles := by
  simp only [openPlaintext, ok_iff, Prod.exists] at opened
  obtain ⟨_, _, _, _, items, _, read, _, rfl⟩ := opened
  exact readBundles_matches read

/-- What an accepted page does: it is the page the cursor waits for, it returns the bundles of that
page's epochs, and the cursor moves by one. -/
theorem openNextPage_ok {transfer next : VerifiedHistoricalTransfer}
    (bounded : transfer.authority.context.lastHistoricalKeyEpoch < maxEpoch)
    (opened : transfer.openNextPage P raw keys genesis = .ok (bundles, next)) :
    next.authority = transfer.authority ∧ next.nextIndex = transfer.nextIndex + 1 ∧
      transfer.nextIndex < pageCount transfer.authority.context.lastHistoricalKeyEpoch ∧
      List.Forall₂ (MatchesEpoch P transfer.authority)
        (List.range'
          (coveredEpochs transfer.authority.context.lastHistoricalKeyEpoch transfer.nextIndex + 1)
          (coveredEpochs transfer.authority.context.lastHistoricalKeyEpoch next.nextIndex -
            coveredEpochs transfer.authority.context.lastHistoricalKeyEpoch transfer.nextIndex))
        bundles := by
  simp only [openNextPage, ok_iff, Prod.exists, Prod.mk.injEq] at opened
  obtain ⟨_, _, page, _, first, count, inventory, _, _, _, plaintext, _, found, read, rfl, rfl⟩ :=
    opened
  obtain ⟨inside, rfl, grows⟩ := pageInventory_ok inventory bounded
  refine ⟨rfl, rfl, inside, ?_⟩
  have matched := openPlaintext_matches read
  dsimp only
  rwa [grows, Nat.add_sub_cancel_left]

/-- One call to open a page. -/
structure OpenCall where
  raw : Bytes
  keys : DeviceKeys
  genesis : EpochOneTrust

/-- Open pages one call after the other. A call that fails returns nothing and leaves the cursor
where it was. -/
def openCalls (P : ControlPrimitives) :
    VerifiedHistoricalTransfer → List OpenCall → List PairingKeyBundle × VerifiedHistoricalTransfer
  | transfer, [] => ([], transfer)
  | transfer, call :: calls =>
    match transfer.openNextPage P call.raw call.keys call.genesis with
    | .ok (bundles, next) =>
      (bundles ++ (openCalls P next calls).1, (openCalls P next calls).2)
    | .error _ => openCalls P transfer calls

/-- Two stretches of consecutive epochs follow each other. -/
private theorem consecutive_append {R : Nat → PairingKeyBundle → Prop} (first : low ≤ middle)
    (second : middle ≤ high)
    (before : List.Forall₂ R (List.range' (low + 1) (middle - low)) front)
    (after : List.Forall₂ R (List.range' (middle + 1) (high - middle)) back) :
    List.Forall₂ R (List.range' (low + 1) (high - low)) (front ++ back) := by
  have joined : List.Forall₂ R
      (List.range' (low + 1) (middle - low) ++ List.range' (middle + 1) (high - middle))
      (front ++ back) := List.rel_append before after
  have start : middle + 1 = (low + 1) + (middle - low) := by omega
  have total : high - low = (middle - low) + (high - middle) := by omega
  rw [start, List.range'_append_1] at joined
  rwa [total]

/-- The run: the calls return the bundles of the epochs between the two positions of the cursor. -/
theorem openCalls_matches {transfer : VerifiedHistoricalTransfer} {calls : List OpenCall}
    (bounded : transfer.authority.context.lastHistoricalKeyEpoch < maxEpoch) :
    (openCalls P transfer calls).2.authority = transfer.authority ∧
      transfer.nextIndex ≤ (openCalls P transfer calls).2.nextIndex ∧
      List.Forall₂ (MatchesEpoch P transfer.authority)
        (List.range'
          (coveredEpochs transfer.authority.context.lastHistoricalKeyEpoch transfer.nextIndex + 1)
          (coveredEpochs transfer.authority.context.lastHistoricalKeyEpoch
              (openCalls P transfer calls).2.nextIndex -
            coveredEpochs transfer.authority.context.lastHistoricalKeyEpoch transfer.nextIndex))
        (openCalls P transfer calls).1 := by
  induction calls generalizing transfer with
  | nil => exact ⟨rfl, le_rfl, by simp [openCalls]⟩
  | cons call calls ih =>
    cases opened : transfer.openNextPage P call.raw call.keys call.genesis with
    | error failure =>
      have skipped : openCalls P transfer (call :: calls) = openCalls P transfer calls := by
        rw [openCalls, opened]
      rw [skipped]
      exact ih bounded
    | ok result =>
      obtain ⟨bundles, next⟩ := result
      obtain ⟨sameAuthority, moved, _, page⟩ := openNextPage_ok bounded opened
      obtain ⟨laterAuthority, later, rest⟩ := ih (by rw [sameAuthority]; exact bounded)
      rw [sameAuthority] at laterAuthority rest
      simp only [openCalls, opened]
      refine ⟨laterAuthority, by omega, ?_⟩
      -- the page's epochs and those of the later pages are consecutive
      have monotone : ∀ {low high : Nat}, low ≤ high →
          coveredEpochs transfer.authority.context.lastHistoricalKeyEpoch low ≤
            coveredEpochs transfer.authority.context.lastHistoricalKeyEpoch high := by
        intro low high order
        have scaled := Nat.mul_le_mul_right bundlesPerPage order
        unfold coveredEpochs
        omega
      have first := monotone (show transfer.nextIndex ≤ next.nextIndex by omega)
      have second := monotone later
      exact consecutive_append first second page rest

/-- Whatever calls are made from an accepted header, once the inventory is verified the bundles
returned are those of the epochs one to the last, in order. -/
theorem openCalls_exact {transfer : VerifiedHistoricalTransfer} {calls : List OpenCall}
    (wellFormed : authority.WellFormed)
    (bounded : authority.context.lastHistoricalKeyEpoch < maxEpoch)
    (accepted : authority.verifyHeader P raw = .ok transfer)
    (verified : (openCalls P transfer calls).2.inventoryVerified) :
    List.Forall₂ (MatchesEpoch P authority)
      (List.range' 1 authority.context.lastHistoricalKeyEpoch) (openCalls P transfer calls).1 := by
  simp only [HistoricalTransferAuthority.verifyHeader, ok_iff] at accepted
  obtain ⟨header, _, _, _, _, _, _, _, rfl⟩ := accepted
  obtain ⟨sameAuthority, _, matched⟩ :=
    @openCalls_matches P ⟨authority, 0, header.firstPageSha256⟩ calls bounded
  have position : (openCalls P ⟨authority, 0, header.firstPageSha256⟩ calls).2.nextIndex =
      pageCount authority.context.lastHistoricalKeyEpoch := by
    rw [verified.1, sameAuthority, WellFormed.pageCount wellFormed]
  have none : coveredEpochs authority.context.lastHistoricalKeyEpoch 0 = 0 := by
    simp [coveredEpochs]
  rw [position, coveredEpochs_pageCount, none] at matched
  exact matched

/-! ## Building pages -/

/-- What is assumed of the cryptography: a signature verifies under its key, and an envelope opens
with the keys it was sealed for. -/
structure Honest (P : ControlPrimitives) : Prop where
  verifies : ∀ keys message,
    verifySignature P (P.signingPublicKey keys) message (P.sign keys message) = .ok ()
  opens : ∀ draw keys plaintext aad envelope,
    P.wrapSecret draw (P.wrappingPublicKey keys) plaintext aad = .ok envelope →
      P.unwrapSecret keys envelope aad = .ok plaintext

/-- Build the pages of consecutive chunks from the last one backwards, with the hash that the
header or the page before commits to. -/
def buildPages (P : ControlPrimitives) (authority : HistoricalTransferAuthority)
    (draw : Nat → Nat) (genesis : EpochOneTrust) :
    Nat → List (List PairingKeyBundle) → Except CryptoError (List Bytes × Sha256Digest)
  | _, [] => pure ([], .zero)
  | index, chunk :: chunks => do
    let (later, next) ← buildPages P authority draw genesis (index + 1) chunks
    let page ← authority.buildPage P (draw index) index next chunk genesis
    pure (page :: later, P.sha256 page)

theorem length_encodePairingKeyBundle_le (typed : BundleTyped bundle) :
    (encodePairingKeyBundle bundle).length ≤ maxBundleBytes := by
  have fieldKey : ∀ {number : Nat}, number < 24 → (CanonicalCbor.key number).length = 1 :=
    fun small => length_head_inline .unsigned small
  have fixedString : ∀ (fixed : Fixed 32), (byteString fixed.bytes).length = 34 := by
    intro fixed
    rw [byteString, List.length_append, Fixed.length_bytes,
      length_head_short .bytes (by decide) (by decide)]
  have idString : ∀ {kind : IdKind} (id : Id kind), (byteString id.bytes).length = 17 := by
    intro kind id
    rw [byteString, List.length_append, Id.length_bytes, length_head_inline .bytes (by decide)]
  have control : (unsigned bundle.controlEpoch).length ≤ 5 :=
    length_head_le .unsigned typed.controlEpoch
  have epoch : (unsigned bundle.keyEpoch).length ≤ 5 := length_head_le .unsigned typed.keyEpoch
  have pinned : (encodePin bundle.enrollmentRecordSha256).length ≤ 35 := by
    cases bundle.enrollmentRecordSha256 with
    | none => simp [encodePin]
    | some pin => simp [encodePin, fieldKey, fixedString]
  have fields : (head .map (if bundle.enrollmentRecordSha256.isSome then 8 else 7)).length = 1 :=
    length_head_inline .map (by split <;> decide)
  have version : (unsigned (if bundle.enrollmentRecordSha256.isSome then 2 else 1)).length = 1 :=
    length_head_inline .unsigned (by split <;> decide)
  unfold encodePairingKeyBundle maxBundleBytes
  simp only [List.length_append, fields, version, idString, fixedString,
    fieldKey (show 0 < 24 by decide),
    fieldKey (show 1 < 24 by decide), fieldKey (show 2 < 24 by decide),
    fieldKey (show 3 < 24 by decide), fieldKey (show 4 < 24 by decide),
    fieldKey (show 5 < 24 by decide), fieldKey (show 6 < 24 by decide)]
  omega

theorem checkBundle_valid (wellFormed : authority.WellFormed) (typed : BundleTyped bundle)
    (positive : 1 ≤ epoch) (checked : authority.checkBundle P bundle epoch genesis = .ok ()) : BundleValid bundle := by
  obtain ⟨bytes, written⟩ := exists_of_isOk wellFormed
  simp only [TransferContext.bytes, ok_iff] at written
  have pinned : authority.context.enrollmentRecordSha256 ≠ .zero := by
    intro zero
    exact written.1.2.2 (by simp [zero])
  have found := checkBundle_matches checked
  simp only [HistoricalTransferAuthority.checkBundle, ok_iff] at checked
  refine { typed with control := ?_, key := ?_, pin := ?_ }
  · have rest := checked.2
    split at rest
    · rename_i first
      rw [found.first first]
      exact Nat.one_ne_zero
    · simp only [ok_iff, keyMaterialMatches, PairingKeyBundle.new] at rest
      obtain ⟨_, _, _, _, ⟨_, ⟨nonzero, _⟩, _⟩, _⟩ := rest
      exact nonzero.1
  · rw [found.keyEpoch]
    omega
  · rw [found.enrollment]
    simpa using pinned

theorem writeBundles_ok (wrote : authority.writeBundles P genesis epoch bundles = .ok written) :
    written = (bundles.map encodePairingKeyBundle).flatMap byteString := by
  induction bundles generalizing epoch written with
  | nil =>
    simp only [writeBundles, ok_iff] at wrote
    exact wrote.symm
  | cons bundle bundles ih =>
    simp only [writeBundles, ok_iff] at wrote
    obtain ⟨_, rest, wroteRest, rfl⟩ := wrote
    rw [ih wroteRest]
    rfl

/-- The bundles that were written are read back, each with its own bytes. -/
theorem readBundles_write (wellFormed : authority.WellFormed)
    (typed : ∀ bundle ∈ bundles, BundleTyped bundle) (positive : 1 ≤ epoch)
    (wrote : authority.writeBundles P genesis epoch bundles = .ok written) (rest : Bytes) :
    readBundles P authority genesis epoch bundles.length
      (written ++ rest) =
      .ok (bundles.map fun bundle => (encodePairingKeyBundle bundle, bundle), rest) := by
  induction bundles generalizing epoch written with
  | nil =>
    simp only [writeBundles, ok_iff] at wrote
    subst wrote
    rfl
  | cons bundle bundles ih =>
    simp only [writeBundles, ok_iff] at wrote
    obtain ⟨checked, later, wroteLater, rfl⟩ := wrote
    have typedHere := typed bundle List.mem_cons_self
    have short := length_encodePairingKeyBundle_le typedHere
    have fits : (encodePairingKeyBundle bundle).length < 2 ^ 64 :=
      lt_of_le_of_lt short (by decide)
    have valid := checkBundle_valid wellFormed typedHere positive checked
    rw [List.length_cons, readBundles, List.append_assoc,
      Reader.bind_ok (readString_byteString fits _), read_check short,
      decodePairingKeyBundle_encode valid, read_done, checked, read_done,
      Reader.bind_ok (ih (fun other member => typed other (List.mem_cons_of_mem _ member))
        (by omega) wroteLater), Reader.pure_apply, List.map_cons]

theorem openPlaintext_write (wellFormed : authority.WellFormed)
    (typed : ∀ bundle ∈ bundles, BundleTyped bundle) (positive : 1 ≤ first)
    (few : bundles.length < 2 ^ 64)
    (wrote : authority.writeBundles P genesis first bundles = .ok written) :
    openPlaintext P authority genesis first bundles.length
      (head .array bundles.length ++ written) = .ok bundles := by
  have read := readBundles_write wellFormed typed positive wrote []
  rw [List.append_nil] at read
  have raws : (bundles.map fun bundle => (encodePairingKeyBundle bundle, bundle)).map Prod.fst =
      bundles.map encodePairingKeyBundle := by
    rw [List.map_map]
    rfl
  have values : (bundles.map fun bundle => (encodePairingKeyBundle bundle, bundle)).map Prod.snd =
      bundles := by
    rw [List.map_map]
    exact List.map_id _
  have canonical : canonicalPlaintext bundles.length
      (bundles.map encodePairingKeyBundle) = head .array bundles.length ++ written := by
    rw [canonicalPlaintext, writeBundles_ok wrote]
  rw [openPlaintext, readHead_head .array few, ok_bind]
  dsimp only
  rw [require_pos rfl, ok_bind, read, ok_bind]
  dsimp only
  rw [raws, require_pos ⟨rfl, canonical⟩, ok_bind, pure_eq_ok, values]

theorem TransferPage.decode_canonicalBytes (index : page.index < 2 ^ 32)
    (first : page.firstKeyEpoch < 2 ^ 32) (written : page.canonicalBytes P = .ok raw) : TransferPage.decode P raw = .ok page := by
  have canonical := written
  simp only [TransferPage.canonicalBytes, ok_iff] at written
  obtain ⟨⟨_, ⟨_, few⟩, least, most⟩, _, short, rfl⟩ := written
  have count : page.bundleCount < 2 ^ 32 := lt_of_le_of_lt few (by decide)
  have envelope : decodeWrappedEnvelopeWithLimit CryptoError.invalidProtocolValue maxPageBytes
      (encodeWrappedEnvelope page.envelope) = .ok (page.envelope, []) := by
    rw [← List.append_nil (encodeWrappedEnvelope page.envelope)]
    exact decodeWrappedEnvelopeWithLimit_encode least most (by decide) []
  have read : TransferPage.read page.write = .ok (page, []) := by
    unfold TransferPage.read TransferPage.write
    simp only [List.append_assoc]
    rw [read_map, read_number index, read_number first, read_number count, read_fixed,
      read_field envelope, Reader.pure_apply]
  rw [TransferPage.decode, require_pos short, ok_bind, read, ok_bind]
  dsimp only
  rw [require_pos rfl, ok_bind, canonical, ok_bind, require_pos rfl, ok_bind, pure_eq_ok]

/-- A page that was built is accepted by the cursor that waits for it, and opens to the bundles it
was built from. -/
theorem openNextPage_buildPage (honest : Honest P) (wellFormed : authority.WellFormed)
    (bounded : authority.context.lastHistoricalKeyEpoch < maxEpoch)
    (typed : ∀ bundle ∈ bundles, BundleTyped bundle)
    (recipient : authority.checkKeys P authority.context.recipientDeviceId keys = .ok ())
    (built : authority.buildPage P draw index next bundles genesis = .ok raw) :
    openNextPage P ⟨authority, index, P.sha256 raw⟩ raw keys genesis =
      .ok (bundles, ⟨authority, index + 1, next⟩) := by
  simp only [buildPage, ok_iff, Prod.exists] at built
  obtain ⟨first, count, inventory, ⟨rfl, last⟩, written, wrote, certificate, found, aad, authenticated,
    envelope, sealed, canonical⟩ := built
  obtain ⟨inside, firstEpoch, grows⟩ := pageInventory_ok inventory bounded
  have counted := WellFormed.pageCount wellFormed
  have epochs : coveredEpochs authority.context.lastHistoricalKeyEpoch (index + 1) ≤
      authority.context.lastHistoricalKeyEpoch := Nat.min_le_right _ _
  have positive : 1 ≤ bundles.length := by
    have known := pageInventory_of_lt inside bounded
    omega
  have small : authority.context.lastHistoricalKeyEpoch < 2 ^ 32 :=
    lt_of_lt_of_le bounded (by decide)
  have indexSmall : index < 2 ^ 32 := by
    unfold pageCount bundlesPerPage at inside
    omega
  have decoded : TransferPage.decode P raw =
      .ok ⟨index, first, bundles.length, next, envelope⟩ :=
    TransferPage.decode_canonicalBytes indexSmall (by dsimp only; omega) canonical
  have short : raw.length ≤ maxPageBytes := by
    simp only [TransferPage.canonicalBytes, ok_iff] at canonical
    obtain ⟨_, _, fits, rfl⟩ := canonical
    exact fits
  have waiting : ¬ inventoryVerified ⟨authority, index, P.sha256 raw⟩ := by
    rintro ⟨done, _⟩
    dsimp only at done
    omega
  have key : certificate.wrappingPublicKey = P.wrappingPublicKey keys := by
    simp only [checkKeys, found, ok_bind, require_eq_ok] at recipient
    exact recipient.2
  rw [key] at sealed
  have opened := honest.opens _ keys _ _ _ sealed
  have sameAad : TransferPage.aad ⟨index, first, bundles.length, next, envelope⟩ authority.context =
      .ok aad := authenticated
  rw [openNextPage]
  dsimp only
  rw [recipient, ok_bind, require_pos ⟨short, waiting, rfl⟩, ok_bind, decoded, ok_bind, inventory,
    ok_bind]
  dsimp only
  rw [require_pos ⟨rfl, rfl, rfl, last⟩, ok_bind, sameAad, ok_bind, opened, ok_bind,
    openPlaintext_write wellFormed typed (by omega) (by omega) wrote, ok_bind, pure_eq_ok]

/-- All pages of a transfer, opened in order, return all the bundles. -/
theorem openCalls_buildPages (honest : Honest P) {index : Nat} {hash : Sha256Digest}
    {chunks : List (List PairingKeyBundle)} {pages : List Bytes}
    (wellFormed : authority.WellFormed)
    (bounded : authority.context.lastHistoricalKeyEpoch < maxEpoch)
    (typed : ∀ bundle ∈ chunks.flatten, BundleTyped bundle)
    (recipient : authority.checkKeys P authority.context.recipientDeviceId keys = .ok ())
    (built : buildPages P authority draw genesis index chunks = .ok (pages, hash)) :
    openCalls P ⟨authority, index, hash⟩ (pages.map fun page => ⟨page, keys, genesis⟩) =
      (chunks.flatten, ⟨authority, index + chunks.length, .zero⟩) := by
  induction chunks generalizing index hash pages with
  | nil =>
    simp only [buildPages, ok_iff, Prod.mk.injEq] at built
    obtain ⟨rfl, rfl⟩ := built
    rfl
  | cons chunk chunks ih =>
    simp only [buildPages, ok_iff, Prod.exists, Prod.mk.injEq] at built
    obtain ⟨later, next, builtLater, page, builtPage, rfl, rfl⟩ := built
    have opened := openNextPage_buildPage honest wellFormed bounded
      (fun bundle member => typed bundle (by simp [member])) recipient builtPage
    have rest := ih (fun bundle member => typed bundle (by
      rw [List.flatten_cons]
      exact List.mem_append_right _ member)) builtLater
    rw [List.map_cons, openCalls]
    dsimp only
    rw [opened]
    dsimp only
    have total : index + 1 + chunks.length = index + (chunks.length + 1) := by omega
    rw [rest, List.flatten_cons, List.length_cons, total]

/-! ## Signing the header -/

theorem takeId_bytes (id : Id kind) (rest : Bytes) :
    takeId (id.bytes ++ rest) = .ok (id, rest) := by
  rw [takeId, Reader.bind_ok (Reader.take_append id.length_bytes _ rest),
    Id.ofBytes?_bytes, present_some, Reader.lift_ok_apply]

theorem length_write (context : TransferContext) : context.write.length = 250 := by
  unfold TransferContext.write
  simp only [List.length_append, length_bigEndian, Id.length_bytes, Fixed.length_bytes]

theorem decode_canonicalBytes (last : header.context.lastHistoricalKeyEpoch < 2 ^ 32)
    (count : header.context.pageCount < 2 ^ 32) (written : header.canonicalBytes = .ok raw) :
    HistoricalTransferHeader.decode raw = .ok header := by
  have canonical := written
  simp only [HistoricalTransferHeader.canonicalBytes, HistoricalTransferHeader.preimage,
    TransferContext.bytes, ok_iff] at written
  obtain ⟨_, ⟨_, _, ⟨_, rfl⟩, rfl⟩, rfl⟩ := written
  have read : HistoricalTransferHeader.read (headerDomain ++ header.context.write ++
      header.firstPageSha256.bytes ++ header.signature.bytes) = .ok (header, []) := by
    unfold HistoricalTransferHeader.read TransferContext.write
    simp only [List.append_assoc]
    rw [← List.append_nil header.signature.bytes]
    rw [Reader.bind_ok (Reader.literal_append _ _ _),
      Reader.bind_ok (Reader.number_bigEndian (by decide) _ _),
      read_check rfl, Reader.bind_ok (takeId_bytes _ _),
      Reader.bind_ok (takeId_bytes _ _), Reader.bind_ok (takeId_bytes _ _),
      Reader.bind_ok (Reader.fixed_bytes _ _ _), Reader.bind_ok (Reader.fixed_bytes _ _ _),
      Reader.bind_ok (takeId_bytes _ _), Reader.bind_ok (Reader.fixed_bytes _ _ _),
      Reader.bind_ok (Reader.fixed_bytes _ _ _), Reader.bind_ok (takeId_bytes _ _),
      Reader.bind_ok (Reader.fixed_bytes _ _ _),
      Reader.bind_ok (Reader.number_bigEndian (by simpa using last) _ _),
      Reader.bind_ok (Reader.number_bigEndian (by simpa using count) _ _),
      Reader.bind_ok (Reader.fixed_bytes _ _ _), Reader.bind_ok (Reader.fixed_bytes _ _ _),
      Reader.pure_apply]
  have size : (headerDomain ++ header.context.write ++ header.firstPageSha256.bytes ++
      header.signature.bytes).length = headerDomain.length + 346 := by
    simp only [List.length_append, length_write, Fixed.length_bytes]
  rw [HistoricalTransferHeader.decode, require_pos size, ok_bind, read, ok_bind]
  dsimp only
  rw [canonical, ok_bind, require_pos rfl, ok_bind, pure_eq_ok]

/-- The header an exporter signed starts the cursor at its first page. -/
theorem verifyHeader_signHeader (honest : Honest P) (wellFormed : authority.WellFormed)
    (bounded : authority.context.lastHistoricalKeyEpoch < maxEpoch)
    (signed : authority.signHeader P first keys = .ok header)
    (written : header.canonicalBytes = .ok raw) :
    authority.verifyHeader P raw = .ok ⟨authority, 0, first⟩ := by
  simp only [signHeader, checkKeys, ok_iff]
    at signed
  obtain ⟨⟨certificate, found, key, _⟩, preimage, covers, rfl⟩ := signed
  have small : authority.context.lastHistoricalKeyEpoch < 2 ^ 32 :=
    lt_of_lt_of_le bounded (by decide)
  have count : authority.context.pageCount < 2 ^ 32 := by
    rw [WellFormed.pageCount wellFormed]
    unfold pageCount bundlesPerPage
    omega
  have decoded := decode_canonicalBytes small count written
  have samePreimage : HistoricalTransferHeader.preimage
      ⟨authority.context, first, P.sign keys preimage⟩ = .ok preimage := covers
  rw [verifyHeader, decoded, ok_bind, require_pos rfl, ok_bind, found,
    ok_bind, samePreimage, ok_bind, key, honest.verifies, ok_bind, pure_eq_ok]

end

namespace Sample

def transferKeys : DeviceKeys := ⟨3, 4⟩

def firstBundle : PairingKeyBundle where
  accountId := scope.accountId
  workspaceId := scope.workspaceId
  controlEpoch := 1
  keyEpoch := 1
  workspaceRootKey := .ofNat 5
  activeEpochKey := .ofNat 6
  enrollmentRecordSha256 := some pin

theorem primitives_honest : Honest primitives where
  verifies _ _ := rfl
  opens := by
    intro draw keys plaintext aad envelope sealed
    obtain rfl := Except.ok.inj sealed
    rfl

end Sample

end ContextRelay.Membership
