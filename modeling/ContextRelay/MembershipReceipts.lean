import ContextRelay.MembershipLineage
import ContextRelay.HistoricalTransferRuns

/-! Receipts of retained keys. A receipt is sealed for the device it belongs to, signed by it, and
bound to the state of the log that the keys came with. Whatever the log is extended by, a receipt
opens to the keys that were sealed in it, and passes every check again; `retain` never replaces
one, and refuses other keys for an epoch that has one. -/
namespace ContextRelay.Membership

open Library Library.Cbor

/-- What is assumed of sealing besides: an envelope opens to nothing but what was sealed in it,
whatever keys and data it is opened with. -/
structure Sealing (P : ControlPrimitives) : Prop extends Honest P where
  faithful : ∀ draw key plaintext aad envelope keys other opened,
    P.wrapSecret draw key plaintext aad = .ok envelope →
      P.unwrapSecret keys envelope other = .ok opened → opened = plaintext

/-- The keys are those of an epoch of the log, pinned to its enrollment. -/
structure Belongs (P : ControlPrimitives) (stored : Stored) (bundle : PairingKeyBundle) : Prop where
  valid : BundleValid bundle
  scope : bundle.accountId = stored.scope.accountId ∧ bundle.workspaceId = stored.scope.workspaceId
  pinned : bundle.enrollmentRecordSha256 = some stored.pin
  committed : Committed P stored bundle bundle.keyEpoch

/-- The keys are those that the log knows this device by. -/
def OwnKeys (P : ControlPrimitives) (stored : Stored) (device : DeviceId) (keys : DeviceKeys) : Prop :=
  ∃ certificate, WasAdmitted P stored device certificate ∧
    certificate.signingPublicKey = P.signingPublicKey keys ∧
    certificate.wrappingPublicKey = P.wrappingPublicKey keys

/-- The row seals the keys for the device. -/
def Seals (P : ControlPrimitives) (stored : Stored) (device : DeviceId) (independent : Bool)
    (row : SecretRow) (bundle : PairingKeyBundle) : Prop :=
  let aad := secretAad stored device bundle.keyEpoch independent row.source row.provenance
  ∃ draw keys envelope, OwnKeys P stored device keys ∧
    P.wrapSecret draw (P.wrappingPublicKey keys) (encodePairingKeyBundle bundle) aad =
      .ok envelope ∧
    encodeRecoveryDeviceEnvelopeV1 P envelope = .ok row.envelope ∧
    row.signature = P.sign keys (aad ++ row.envelope)

structure Receipt (P : ControlPrimitives) (stored : Stored) (device : DeviceId) (epoch : Nat)
    (independent : Bool) (row : SecretRow) (bundle : PairingKeyBundle) : Prop where
  belongs : Belongs P stored bundle
  keyEpoch : bundle.keyEpoch = epoch
  source : OnLog P stored row.source
  sized : 1 ≤ row.envelope.length ∧ row.envelope.length ≤ 512
  seals : Seals P stored device independent row bundle

def receipt? (store : MembershipStore) (device : DeviceId) (epoch : Nat) (independent : Bool) :
    Option SecretRow :=
  store.secrets.find? (toLex (device, toLex (epoch, independent)))

/-- Every row is a receipt of the keys that are kept for its device and epoch. -/
def Receipts (P : ControlPrimitives) (store : MembershipStore) (stored : Stored)
    (kept : DeviceId → Nat → PairingKeyBundle) : Prop :=
  ∀ device epoch independent row, receipt? store device epoch independent = some row →
    Receipt P stored device epoch independent row (kept device epoch)

/-- Keys are kept for the device and the epoch; only independent ones may count. -/
def Held (store : MembershipStore) (device : DeviceId) (epoch : Nat) (independentOnly : Bool) : Prop :=
  ∃ independent row, receipt? store device epoch independent = some row ∧
    (independentOnly = true → independent = true)

variable {P : ControlPrimitives} {stored : Stored} {store after : MembershipStore}
  {kept : DeviceId → Nat → PairingKeyBundle} {device : DeviceId} {epoch : Nat} {keys : DeviceKeys}
  {budget : MembershipHistoryBudget} {bundle : PairingKeyBundle} {independentOnly : Bool}

/-! ## Extending the log -/

theorem OwnKeys.extended (own : OwnKeys P stored device keys)
    (authentic : Authentic P (stored.extended added endpoint)) :
    OwnKeys P (stored.extended added endpoint) device keys := by
  obtain ⟨certificate, was, same⟩ := own
  exact ⟨certificate, was.extended authentic, same⟩

theorem OwnKeys.same (authentic : Authentic P stored) (first : OwnKeys P stored device keys)
    (second : OwnKeys P stored device other) :
    P.signingPublicKey keys = P.signingPublicKey other ∧
      P.wrappingPublicKey keys = P.wrappingPublicKey other := by
  obtain ⟨certificate, was, signing, wrapping⟩ := first
  obtain ⟨again, wasAgain, signingAgain, wrappingAgain⟩ := second
  obtain rfl := was.unique authentic wasAgain
  exact ⟨signing.symm.trans signingAgain, wrapping.symm.trans wrappingAgain⟩

theorem Belongs.extended (belongs : Belongs P stored bundle) (added : List Event)
    (endpoint : MembershipEndpoint) : Belongs P (stored.extended added endpoint) bundle :=
  ⟨belongs.valid, belongs.scope, belongs.pinned, belongs.committed.extended added endpoint⟩

/-- A receipt stays one when the log is extended. -/
theorem Receipts.extended (receipts : Receipts P store stored kept)
    (authentic : Authentic P (stored.extended added endpoint)) :
    Receipts P store (stored.extended added endpoint) kept := by
  intro device epoch independent row found
  have receipt := receipts device epoch independent row found
  obtain ⟨draw, keys, envelope, own, sealing⟩ := receipt.seals
  exact {
    receipt with
    belongs := receipt.belongs.extended added endpoint
    source := receipt.source.extended added endpoint
    seals := ⟨draw, keys, envelope, own.extended authentic, sealing⟩ }

/-! ## Reading a receipt -/

theorem secretRow_eq_some
    (found : secretRow store device epoch independentOnly = some (independent, row)) :
    receipt? store device epoch independent = some row ∧
      (independentOnly = true → independent = true) := by
  unfold secretRow at found
  split at found
  · rename_i first present
    obtain ⟨rfl, rfl⟩ := Prod.mk.inj (Option.some.inj found)
    exact ⟨present, fun _ => rfl⟩
  · split at found
    · cases found
    · rename_i absent notOnly
      obtain ⟨second, present, same⟩ := Option.map_eq_some_iff.mp found
      obtain ⟨rfl, rfl⟩ := Prod.mk.inj same
      exact ⟨present, fun only => absurd only notOnly⟩

theorem secretRow_eq_none :
    secretRow store device epoch independentOnly = none ↔
      ¬ Held store device epoch independentOnly := by
  constructor
  · rintro missing ⟨independent, row, found, only⟩
    unfold secretRow at missing
    split at missing
    · cases missing
    · rename_i absent
      cases independent with
      | true => exact nomatch absent.symm.trans found
      | false =>
        have notOnly : independentOnly = false := by
          cases independentOnly with
          | true => exact absurd (only rfl) Bool.false_ne_true
          | false => rfl
        rw [notOnly] at missing
        have absentToo := Option.map_eq_none_iff.mp missing
        exact nomatch absentToo.symm.trans found
  · intro nothing
    cases found : secretRow store device epoch independentOnly with
    | none => rfl
    | some pair =>
      obtain ⟨present, only⟩ := secretRow_eq_some found
      exact absurd ⟨pair.1, pair.2, present, only⟩ nothing

theorem decodeRecoveryDeviceEnvelopeV1_encode
    (encoded : encodeRecoveryDeviceEnvelopeV1 P envelope = .ok bytes)
    (short : bytes.length ≤ maxRecoveryEnrollmentRecordBytes) :
    decodeRecoveryDeviceEnvelopeV1 P bytes = .ok envelope := by
  have again := encoded
  simp only [encodeRecoveryDeviceEnvelopeV1, validateEnvelopeShape, ok_iff] at encoded
  obtain ⟨⟨⟨least, most⟩, _⟩, rfl⟩ := encoded
  have read : decodeWrappedEnvelopeWithLimit
      (RecoveryEnrollmentCryptoError.crypto .invalidProtocolValue) maxRecoveryEnrollmentRecordBytes
      (encodeWrappedEnvelope envelope ++ []) = .ok (envelope, []) :=
    decodeWrappedEnvelopeWithLimit_encode least most (by decide) []
  rw [List.append_nil] at read
  simp only [decodeRecoveryDeviceEnvelopeV1, require_pos short, ok_bind, read, require_true, again]
  rfl

/-- Whatever a load returns was sealed in the receipt. -/
theorem loadSecret_sound (sealing : Sealing P) (receipts : Receipts P store stored kept)
    (loaded : loadSecret P store reader device epoch independentOnly keys budget = .ok (some bundle)) :
    bundle = kept device epoch ∧ Held store device epoch independentOnly := by
  unfold loadSecret at loaded
  split at loaded
  · cases loaded
  · rename_i independent row found
    obtain ⟨present, only⟩ := secretRow_eq_some found
    have receipt := receipts device epoch independent row present
    simp only [ok_iff, Option.some.injEq] at loaded
    obtain ⟨_, _, _, envelope, decoded, plain, opened, read, readBack, _, _, rfl⟩ := loaded
    obtain ⟨draw, sealer, sealed, _, wrapped, encoded, _⟩ := receipt.seals
    have short : row.envelope.length ≤ maxRecoveryEnrollmentRecordBytes :=
      le_trans receipt.sized.2 (by decide)
    obtain rfl := Except.ok.inj
      (decoded.symm.trans (decodeRecoveryDeviceEnvelopeV1_encode encoded short))
    obtain rfl := sealing.faithful _ _ _ _ _ _ _ _ wrapped opened
    rw [decodePairingKeyBundle_encode receipt.belongs.valid] at readBack
    exact ⟨(Except.ok.inj readBack).symm, independent, row, present, only⟩

theorem loadSecret_eq_none :
    loadSecret P store stored device epoch independentOnly keys budget = .ok none ↔
      ¬ Held store device epoch independentOnly := by
  rw [← secretRow_eq_none]
  unfold loadSecret
  constructor
  · intro loaded
    split at loaded
    · assumption
    · simp only [ok_iff, reduceCtorEq, and_false, exists_false] at loaded
  · intro missing
    rw [missing]
    rfl

/-- What must hold of a log for its receipts to be read: its events are the ones their evidence
spells, and no two lead to one state. -/
structure Intact (P : ControlPrimitives) (stored : Stored) : Prop where
  derived : ∀ event ∈ stored.events, Event.fromEvidence P event.evidence = .ok event
  distinct : (stored.events.map Event.successor).Nodup

/-- The keys of a device that is active at the end of the log are its own. -/
theorem ownKeys_of_endpointCheck
    (checked : endpointCheck P stored expected device keys budget = .ok history) :
    stored.verify P budget = .ok history ∧ stored.endpoint = expected ∧
      OwnKeys P stored device keys := by
  simp only [endpointCheck, ok_iff] at checked
  obtain ⟨_, verified, certificate, active, ⟨ended, signing, wrapping⟩, rfl⟩ := checked
  exact ⟨verified, ended, certificate, wasAdmitted_of_active verified active, signing, wrapping⟩

/-- A receipt passes every check again, wherever the log verifies. -/
theorem loadSecret_complete (sealing : Sealing P) (receipts : Receipts P store stored kept)
    (intact : Intact P stored)
    (collisionFree : CollisionFree P (hashed P stored.enrollment stored.pin stored.log))
    (verified : stored.verify P budget = .ok history) (own : OwnKeys P stored device keys)
    (held : Held store device epoch independentOnly) :
    loadSecret P store stored device epoch independentOnly keys budget =
      .ok (some (kept device epoch)) := by
  cases found : secretRow store device epoch independentOnly with
  | none => exact absurd held (secretRow_eq_none.mp found)
  | some pair =>
    obtain ⟨independent, row⟩ := pair
    obtain ⟨present, _⟩ := secretRow_eq_some found
    have receipt := receipts device epoch independent row present
    obtain ⟨draw, sealer, envelope, sealerOwn, wrapped, encoded, signature⟩ := receipt.seals
    obtain ⟨signing, wrapping⟩ := own.same ⟨budget, history, verified⟩ sealerOwn
    have short : row.envelope.length ≤ maxRecoveryEnrollmentRecordBytes :=
      le_trans receipt.sized.2 (by decide)
    obtain ⟨_, _, opened, _⟩ := verify_eq_ok.mp verified
    have few : stored.enrollment.length ≤ budget.maxBytes := by
      have all := opened.fewBytes
      omega
    have source := checkSource_of_onLog intact.derived intact.distinct collisionFree receipt.source
      few
    have belongs := receipt.belongs
    have agrees := belongs.committed
    rw [receipt.keyEpoch] at agrees
    have committed := (checkCommitment_eq_ok verified intact.derived belongs.scope receipt.keyEpoch
      ⟨belongs.valid.control, belongs.valid.key⟩).mpr agrees
    rw [receipt.keyEpoch] at wrapped signature
    rw [← wrapping] at wrapped
    have signed := sealing.verifies sealer
      (secretAad stored device epoch independent row.source row.provenance ++ row.envelope)
    rw [← signature, ← signing] at signed
    have fits : (kept device epoch).accountId = stored.scope.accountId ∧
        (kept device epoch).workspaceId = stored.scope.workspaceId ∧
        (kept device epoch).keyEpoch = epoch ∧
        (kept device epoch).enrollmentRecordSha256 = some stored.pin :=
      ⟨belongs.scope.1, belongs.scope.2, receipt.keyEpoch, belongs.pinned⟩
    simp only [loadSecret, found, require_pos receipt.sized, ok_bind, source, signed, orFail,
      decodeRecoveryDeviceEnvelopeV1_encode encoded short, sealing.opens _ _ _ _ _ wrapped,
      decodePairingKeyBundle_encode belongs.valid, and_true, require_pos fits, committed, pure_eq_ok]

/-! ## Keeping keys -/

/-- What a retention does to the receipts: those that were there stay, for the keys they were for;
the offered keys are kept afterwards. -/
structure Retains (P : ControlPrimitives) (stored : Stored) (store after : MembershipStore)
    (kept keptAfter : DeviceId → Nat → PairingKeyBundle)
    (offered : List (DeviceId × PairingKeyBundle)) : Prop where
  accepted : after.accepted = store.accepted
  events : after.events = store.events
  enrollment : after.enrollment = store.enrollment
  receipts : Receipts P after stored keptAfter
  same : ∀ device epoch, Held store device epoch false → keptAfter device epoch = kept device epoch
  persists : ∀ device epoch independent row, receipt? store device epoch independent = some row →
    receipt? after device epoch independent = some row
  added : ∀ device epoch independent row, receipt? after device epoch independent = some row →
    receipt? store device epoch independent = some row ∨
      ∃ offer ∈ offered, offer.1 = device ∧ offer.2.keyEpoch = epoch
  retained : ∀ offer ∈ offered, Held after offer.1 offer.2.keyEpoch false ∧
    keptAfter offer.1 offer.2.keyEpoch = offer.2

theorem Held.persists (held : Held store device epoch independentOnly)
    (persists : ∀ device epoch independent row, receipt? store device epoch independent = some row →
      receipt? after device epoch independent = some row) :
    Held after device epoch independentOnly := by
  obtain ⟨independent, row, found, only⟩ := held
  exact ⟨independent, row, persists _ _ _ _ found, only⟩

theorem Retains.refl (receipts : Receipts P store stored kept) :
    Retains P stored store store kept kept [] :=
  ⟨rfl, rfl, rfl, receipts, fun _ _ _ => rfl, fun _ _ _ _ found => found,
    fun _ _ _ _ found => .inl found, by simp⟩

theorem Retains.trans (before : Retains P stored store middle kept keptMiddle first)
    (later : Retains P stored middle after keptMiddle keptAfter second) :
    Retains P stored store after kept keptAfter (first ++ second) where
  accepted := later.accepted.trans before.accepted
  events := later.events.trans before.events
  enrollment := later.enrollment.trans before.enrollment
  receipts := later.receipts
  same device epoch held :=
    (later.same device epoch (held.persists before.persists)).trans (before.same device epoch held)
  persists device epoch independent row found :=
    later.persists _ _ _ _ (before.persists _ _ _ _ found)
  added := by
    intro device epoch independent row found
    rcases later.added _ _ _ _ found with old | ⟨offer, member, same⟩
    · rcases before.added _ _ _ _ old with older | ⟨offer, member, same⟩
      · exact .inl older
      · exact .inr ⟨offer, List.mem_append_left _ member, same⟩
    · exact .inr ⟨offer, List.mem_append_right _ member, same⟩
  retained := by
    intro offer member
    rcases List.mem_append.mp member with early | late
    · obtain ⟨held, same⟩ := before.retained offer early
      exact ⟨held.persists later.persists, (later.same _ _ held).trans same⟩
    · exact later.retained offer late

/-- Keys for one device and epoch replace what was kept for it. -/
def keeping (kept : DeviceId → Nat → PairingKeyBundle) (device : DeviceId)
    (bundle : PairingKeyBundle) (other : DeviceId) (epoch : Nat) : PairingKeyBundle :=
  if other = device ∧ epoch = bundle.keyEpoch then bundle else kept other epoch

/-- A row that is written for keys that no other row contradicts. -/
theorem retains_written (receipts : Receipts P store stored kept) (authentic : Authentic P stored)
    (belongs : Belongs P stored bundle) (own : OwnKeys P stored device keys)
    (agrees : Held store device bundle.keyEpoch false → kept device bundle.keyEpoch = bundle)
    (wrapped : P.wrapSecret draw (P.wrappingPublicKey keys) (encodePairingKeyBundle bundle) (secretAad stored device bundle.keyEpoch independent stored.endpoint provenance) = .ok envelope)
    (encoded : encodeRecoveryDeviceEnvelopeV1 P envelope = .ok row.envelope)
    (sized : 1 ≤ row.envelope.length ∧ row.envelope.length ≤ 512)
    (written : row = ⟨stored.endpoint, provenance, row.envelope, P.sign keys (secretAad stored device bundle.keyEpoch independent stored.endpoint provenance ++ row.envelope)⟩)
    (inserted : store.secrets.insert? (toLex (device, toLex (bundle.keyEpoch, independent))) row = some secrets) :
    Retains P stored store { store with secrets } kept (keeping kept device bundle)
      [(device, bundle)] := by
  obtain ⟨absent, rfl⟩ := Table.insert?_eq_some.mp inserted
  have same : ∀ other epoch, Held store other epoch false →
      keeping kept device bundle other epoch = kept other epoch := by
    intro other epoch held
    unfold keeping
    split
    · rename_i here
      obtain ⟨rfl, rfl⟩ := here
      exact (agrees held).symm
    · rfl
  have here : keeping kept device bundle device bundle.keyEpoch = bundle := if_pos ⟨rfl, rfl⟩
  refine ⟨rfl, rfl, rfl, ?_, same, ?_, ?_, ?_⟩
  · intro other epoch flag found present
    simp only [receipt?, Table.find?_upsert] at present
    split at present
    · rename_i matched
      obtain rfl := Option.some.inj present
      have parts := Prod.mk.inj (toLex.injective matched)
      obtain ⟨rfl, rest⟩ := parts
      obtain ⟨rfl, rfl⟩ := Prod.mk.inj (toLex.injective rest)
      rw [here]
      refine ⟨belongs, rfl, ?_, sized, draw, keys, envelope, own, ?_, encoded, ?_⟩
      · rw [written]
        exact onLog_endpoint authentic
      · rw [written]
        exact wrapped
      · rw [written]
    · have old := receipts other epoch flag found present
      rw [same other epoch ⟨flag, found, present, by simp⟩]
      exact old
  · intro other epoch flag found present
    rw [receipt?, Table.find?_upsert_of_ne]
    · exact present
    · intro matched
      rw [receipt?, ← matched, absent] at present
      cases present
  · intro other epoch flag found present
    simp only [receipt?, Table.find?_upsert] at present
    split at present
    · rename_i matched
      obtain ⟨rfl, rest⟩ := Prod.mk.inj (toLex.injective matched)
      exact .inr ⟨_, List.mem_singleton_self _, rfl, (Prod.mk.inj (toLex.injective rest)).1⟩
    · exact .inl present
  · intro offer member
    obtain rfl := List.mem_singleton.mp member
    exact ⟨⟨independent, row, Table.find?_upsert_self _ _ _, by simp⟩, here⟩

theorem retain_retains (sealing : Sealing P) (receipts : Receipts P store stored kept)
    (authentic : Authentic P stored) (belongs : Belongs P stored bundle)
    (own : OwnKeys P stored device keys)
    (ran : retain P draw store stored device bundle independent provenance keys budget = .ok after) :
    ∃ keptAfter, Retains P stored store after kept keptAfter [(device, bundle)] := by
  simp only [retain, bind_eq_ok] at ran
  obtain ⟨previous, loaded, decided⟩ := ran
  cases previous with
  | none =>
    simp only [insertSecret, ok_iff] at decided
    obtain ⟨envelope, wrapped, bytes, encoded, ⟨_, _, sized⟩, secrets, inserted, rfl⟩ := decided
    have nothing := loadSecret_eq_none.mp loaded
    exact ⟨_, retains_written receipts authentic belongs own (fun held => absurd held nothing)
      wrapped encoded sized rfl inserted⟩
  | some previous =>
    obtain ⟨rfl, held⟩ := loadSecret_sound sealing receipts loaded
    simp only [ok_iff] at decided
    obtain ⟨sameBytes, decided⟩ := decided
    have previousValid : BundleValid (kept device bundle.keyEpoch) := by
      obtain ⟨flag, row, present, _⟩ := held
      exact (receipts _ _ _ _ present).belongs.valid
    have same : kept device bundle.keyEpoch = bundle := by
      have read := decodePairingKeyBundle_encode previousValid
      rw [sameBytes, decodePairingKeyBundle_encode belongs.valid] at read
      exact (Except.ok.inj read).symm
    have unchanged : Retains P stored store store kept kept [(device, bundle)] :=
      { Retains.refl receipts with
        added := fun _ _ _ _ found => .inl found
        retained := by
          intro offer member
          obtain rfl := List.mem_singleton.mp member
          exact ⟨held, same⟩ }
    split at decided
    · obtain rfl := Except.ok.inj decided
      exact ⟨kept, unchanged⟩
    · simp only [bind_eq_ok] at decided
      obtain ⟨again, _, decided⟩ := decided
      split at decided
      · obtain rfl := Except.ok.inj decided
        exact ⟨kept, unchanged⟩
      · simp only [insertSecret, ok_iff] at decided
        obtain ⟨envelope, wrapped, bytes, encoded, ⟨_, _, sized⟩, secrets, inserted, rfl⟩ := decided
        exact ⟨_, retains_written receipts authentic belongs own (fun _ => same) wrapped encoded
          sized rfl inserted⟩

/-- One retention after another keeps all that is offered. -/
theorem thread_retains {α : Type} {step : MembershipStore → α → Except VaultError MembershipStore}
    {offers : α → DeviceId × PairingKeyBundle → Prop} {items : List α}
    (keeps : ∀ store after kept item, item ∈ items → Receipts P store stored kept →
      step store item = .ok after →
      ∃ keptAfter offer, offers item offer ∧ Retains P stored store after kept keptAfter [offer])
    (receipts : Receipts P store stored kept) (ran : thread step store items = .ok after) :
    ∃ keptAfter offered, List.Forall₂ offers items offered ∧
      Retains P stored store after kept keptAfter offered := by
  induction items generalizing store kept with
  | nil =>
    obtain rfl := Except.ok.inj ran
    exact ⟨kept, [], .nil, .refl receipts⟩
  | cons item rest ih =>
    simp only [thread, bind_eq_ok] at ran
    obtain ⟨middle, first, later⟩ := ran
    obtain ⟨keptMiddle, offer, own, one⟩ := keeps store middle kept item (by simp) receipts first
    obtain ⟨keptAfter, offered, owns, others⟩ := ih (fun store after kept item member =>
      keeps store after kept item (by simp [member])) one.receipts later
    exact ⟨keptAfter, offer :: offered, .cons own owns, one.trans others⟩

/-- Retentions of keys that are known beforehand. -/
theorem thread_retains_map {α : Type} {step : MembershipStore → α → Except VaultError MembershipStore}
    {offer : α → DeviceId × PairingKeyBundle} {items : List α}
    (keeps : ∀ store after kept item, item ∈ items → Receipts P store stored kept →
      step store item = .ok after →
      ∃ keptAfter, Retains P stored store after kept keptAfter [offer item])
    (receipts : Receipts P store stored kept) (ran : thread step store items = .ok after) :
    ∃ keptAfter, Retains P stored store after kept keptAfter (items.map offer) := by
  have known : ∀ store after kept item, item ∈ items → Receipts P store stored kept →
      step store item = .ok after → ∃ keptAfter found, found = offer item ∧
        Retains P stored store after kept keptAfter [found] := by
    intro store after kept item member receipts ran
    obtain ⟨keptAfter, retains⟩ := keeps store after kept item member receipts ran
    exact ⟨keptAfter, offer item, rfl, retains⟩
  obtain ⟨keptAfter, offered, owns, retains⟩ := thread_retains known receipts ran
  have same : offered = items.map offer := by
    clear retains known keeps ran
    induction owns with
    | nil => rfl
    | cons own _ ih => rw [own, ih, List.map_cons]
  exact ⟨keptAfter, same ▸ retains⟩

end ContextRelay.Membership
