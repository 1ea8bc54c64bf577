import ContextRelay.PullEffects
import ContextRelay.CanonicalCbor

/-! The limits of a pull. A request asks for no more rows than its engine may still take, and
every answer ends the pull or uses up some of the limit, so a provider that answers as it likes
cannot keep a sync cycle from ending. -/
namespace ContextRelay

open Library
open CanonicalCbor (withCodec)

variable {P : Primitives} {engine : SyncEngine} {material : TrustedSyncMaterial}
  {resolver : RepresentativeEmbeddingResolver} {nowMs bound : Nat} {state : PullState}
  {prepared : PreparedPull}

/-! ## What a continuation may ask for -/

/-- The counters of a pull are within the limits of its engine. -/
structure PullState.Within (state : PullState) (engine : SyncEngine) : Prop where
  operations : state.processed ≤ engine.maxOperations
  bytes : state.processedBytes ≤ engine.maxBytes

/-- A request is for one row to a batch of rows, and there is room for all of them. -/
def PreparedPull.Fits (prepared : PreparedPull) (engine : SyncEngine) : Prop :=
  match prepared.request with
  | .operations _ limit => 1 ≤ limit ∧ limit ≤ maxBatch ∧
      prepared.state.processed + limit ≤ engine.maxOperations
  | .deviceRange _ first last => first ≤ last ∧ last - first + 1 ≤ maxBatch ∧
      prepared.state.processed + (last - first + 1) ≤ engine.maxOperations ∧
      ∃ repair, prepared.state.repair = some repair ∧ repair.last ≤ u64Max

/-- How many requests a continuation can lead to, its own included. A page may be followed by
a range before a row is counted; a range is not. -/
def PreparedPull.left (prepared : PreparedPull) (engine : SyncEngine) : Nat :=
  match prepared.request with
  | .operations _ _ => 2 * (engine.maxOperations - prepared.state.processed)
  | .deviceRange _ _ _ => 2 * (engine.maxOperations - prepared.state.processed) - 1

theorem PreparedPull.Fits.left_pos (fits : prepared.Fits engine) : 0 < prepared.left engine := by
  unfold PreparedPull.Fits at fits
  unfold PreparedPull.left
  split at fits <;> omega

/-- The pull is over, or waits within its limits and can lead to fewer requests than a bound. -/
def Leads (engine : SyncEngine) (bound : Nat) : PullProgress → Prop
  | .complete _ => True
  | .request prepared => prepared.state.Within engine ∧ prepared.Fits engine ∧
      prepared.left engine < bound

theorem Leads.mono (leads : Leads engine bound progress) (le : bound ≤ more) : Leads engine more progress := by
  cases progress with
  | complete report => trivial
  | request prepared => exact ⟨leads.1, leads.2.1, leads.2.2.trans_le le⟩

theorem requestPull_returns
    (leads : ∀ cursor, Leads engine bound (.request ⟨state, request, cursor⟩)) :
    (engine.requestPull state request).Returns (Leads engine bound) :=
  .bind .any fun cursor _ => .pure (leads cursor)

theorem nextPage_returns (within : state.Within engine) :
    (engine.nextPage state).Returns
      (Leads engine (2 * (engine.maxOperations - state.processed) + 1)) := by
  unfold SyncEngine.nextPage
  split
  · exact .pure trivial
  · rename_i room
    have most := within.operations
    refine .bind .any fun cursor _ => requestPull_returns fun expected => ⟨within, ?_, ?_⟩
    · refine ⟨?_, min_le_right _ _, ?_⟩
      · exact le_min (by omega) (by decide)
      · have := min_le_left (engine.maxOperations - state.processed) maxBatch
        dsimp only
        omega
    · exact Nat.lt_succ_self _

theorem nextRepair_returns (within : state.Within engine) (repairing : state.repair = some repair)
    (missing : repair.next ≤ repair.last) (typed : repair.last ≤ u64Max) :
    (engine.nextRepair state).Returns
      (Leads engine (2 * (engine.maxOperations - state.processed))) := by
  unfold SyncEngine.nextRepair
  split
  · exact .pure trivial
  · rename_i room
    have most := within.operations
    rw [repairing, present_some, Session.lift_ok_bind]
    refine requestPull_returns fun expected => ⟨within, ?_, ?_⟩
    · have batch : 1 ≤ maxBatch := by decide
      refine ⟨?_, ?_, ?_, repair, repairing, typed⟩
      · omega
      · omega
      · dsimp only
        omega
    · dsimp only [PreparedPull.left]
      omega

/-! ## The gap before a row -/

theorem missingRange_some (missing : missingRange known incoming = .ok (some range)) :
    range.1 ≤ range.2 ∧ range.2 < incoming.deviceSequence := by
  have between {expected : Nat} (least : expected ≤ incoming.deviceSequence)
      (found : (if incoming.deviceSequence = expected then none
        else some (expected, incoming.deviceSequence - 1)) = some range) :
      range.1 ≤ range.2 ∧ range.2 < incoming.deviceSequence := by
    split at found
    · cases found
    · obtain rfl := Option.some.inj found
      dsimp only
      omega
  cases known with
  | none =>
    simp only [missingRange, ok_iff] at missing
    obtain ⟨_, _, rfl, least, found⟩ := missing
    exact between least found
  | some head =>
    simp only [missingRange, ok_iff] at missing
    obtain ⟨_, _, _, least, found⟩ := missing
    exact between least found

/-- The sequences missing before a decoded operation are machine numbers in order. -/
theorem admitOperation_gap
    (admission : admitOperation (withCodec P) v bytes material = .ok (.gap first last)) :
    first ≤ last ∧ last ≤ u64Max := by
  simp only [admitOperation, ok_iff] at admission
  obtain ⟨operation, decoded, _, _, _, _, _, _, _, _, _, found, _, ran⟩ := admission
  have typed := (CanonicalCbor.decodeSyncOperationV1_eq_ok.mp
    ((CanonicalCbor.withCodec_decodes_operation P).mp decoded)).1.deviceSequence
  cases found with
  | some stored => simp [ok_iff] at ran
  | none =>
    simp only [ok_iff] at ran
    obtain ⟨_, range, missing, ran⟩ := ran
    cases range with
    | none =>
      obtain ⟨_, _, _, _, _, _, _, _, _, wrong⟩ := admitSuccessor_ok.mp ran
      simp at wrong
    | some range =>
      simp only [ok_iff, AdmissionDecision.gap.injEq] at ran
      obtain ⟨rfl, rfl⟩ := ran
      obtain ⟨ordered, below⟩ := missingRange_some missing
      exact ⟨ordered, by unfold u64Max; omega⟩

/-! ## Taking the rows of a page -/

/-- A row is counted, or the pull stops at it. -/
def RowLeads (engine : SyncEngine) (state : PullState) : SyncEngine.RowStep → Prop
  | .next next => next.Within engine ∧ next.processed = state.processed + 1
  | .stop progress => Leads engine (2 * (engine.maxOperations - state.processed)) progress

theorem PullState.Within.counted (within : state.Within engine)
    (room : state.processed ≠ engine.maxOperations) (count : next.processed = state.processed + 1)
    (bytes : next.processedBytes ≤ engine.maxBytes) : RowLeads engine state (.next next) := by
  have most := within.operations
  exact ⟨⟨by omega, bytes⟩, count⟩

theorem admitRow_returns (within : state.Within engine)
    (room : state.processed ≠ engine.maxOperations) (row : ReceivedOperation) (wasRepaired : Bool) :
    (engine.admitRow (withCodec P) material resolver nowMs row wasRepaired state).Returns
      (RowLeads engine state) := by
  have taken (report : SyncCycleReport) : RowLeads engine state
      (.next { state with report, processed := state.processed + 1 }) :=
    within.counted room rfl within.bytes
  have gaps : (Session.look fun v => admitOperation (withCodec P) v row.operation.bytes material :
      Cycle (Except SyncError AdmissionDecision)).Returns fun admission =>
        ∀ first last, admission = .ok (.gap first last) → first ≤ last ∧ last ≤ u64Max :=
    .look fun v first last => admitOperation_gap
  refine .bind gaps ?_
  intro admission gaps
  cases admission with
  | error reason => exact .bind .any fun _ _ => .bind .any fun _ _ => .pure (taken _)
  | ok decision =>
    cases decision with
    | exactReplay operationId => exact .bind .any fun _ _ => .bind .any fun _ _ => .pure (taken _)
    | admitted admitted => exact .bind .any fun _ _ => .pure (taken _)
    | gap first last =>
      obtain ⟨ordered, typed⟩ := gaps first last rfl
      have released : state.processedBytes - row.operation.bytes.length ≤ engine.maxBytes :=
        (Nat.sub_le _ _).trans within.bytes
      cases wasRepaired with
      | true => exact .pure trivial
      | false =>
        exact .bind (nextRepair_returns ⟨within.operations, released⟩ rfl ordered typed)
          fun _ leads => .pure leads

theorem takeRow_returns (within : state.Within engine)
    (room : state.processed ≠ engine.maxOperations) (row : ReceivedOperation) (wasRepaired : Bool) :
    (engine.takeRow (withCodec P) material resolver nowMs row wasRepaired state).Returns
      (RowLeads engine state) := by
  unfold SyncEngine.takeRow
  split
  · exact .bind .any fun _ _ => .pure (within.counted room rfl within.bytes)
  split
  · exact .pure trivial
  rename_i total reserved
  have fits := (reserveBytes_eq_some.mp reserved).2
  dsimp only
  split
  · exact .bind .any fun _ _ => .pure (within.counted room rfl fits)
  · refine admitRow_returns ?_ ?_ row wasRepaired
    · exact ⟨within.operations, fits⟩
    · exact room

theorem pullRow_returns (within : state.Within engine) (row : ReceivedOperation)
    (rest : List ReceivedOperation) :
    (engine.pullRow (withCodec P) material resolver nowMs row rest state).Returns
      (RowLeads engine state) := by
  refine .bind .any fun _ _ => ?_
  split
  · exact .pure trivial
  rename_i room
  refine .bind .any fun stored _ => ?_
  cases stored with
  | some stored =>
    exact .bind .any fun _ _ => .bind .any fun _ _ => .pure (within.counted room rfl within.bytes)
  | none =>
    refine .bind .any fun stored _ => ?_
    cases stored with
    | some stored =>
      exact .bind .any fun _ _ => .bind .any fun _ _ => .pure (within.counted room rfl within.bytes)
    | none =>
      refine takeRow_returns ?_ ?_ row state.repairedBlocker
      · exact ⟨within.operations, within.bytes⟩
      · exact room

/-- Taking rows: the induction is on the rows, and each one taken is counted. -/
theorem advancePull_returns (within : state.Within engine) (rows : List ReceivedOperation) :
    (engine.advancePull (withCodec P) material resolver nowMs rows state).Returns
      (Leads engine (2 * (engine.maxOperations - state.processed) + if rows = [] then 1 else 0)) := by
  induction rows generalizing state with
  | nil => exact nextPage_returns ⟨within.operations, within.bytes⟩
  | cons row rest ih =>
    refine .bind (pullRow_returns within row rest) ?_
    intro step leads
    cases step with
    | stop progress => exact .pure leads
    | next next =>
      obtain ⟨nextWithin, count⟩ := leads
      have most := nextWithin.operations
      refine (ih nextWithin).mono fun _ leads => leads.mono ?_
      rw [if_neg (List.cons_ne_nil row rest)]
      split <;> omega

/-! ## Finishing a pull -/

theorem finishPage_returns (within : state.Within engine) (cursor : Option SyncCursor)
    (limit : Nat) (page : PullPage) :
    (engine.finishPage (withCodec P) material resolver nowMs state cursor limit page).Returns
      (Leads engine (2 * (engine.maxOperations - state.processed))) := by
  refine .bind .any fun _ _ => ?_
  split
  · exact .pure trivial
  · rename_i some
    have sorted : page.rows.insertionSort (fun left right => left.cursor.key ≤ right.cursor.key) ≠
        [] := by
      intro empty
      exact some (List.perm_nil.mp (empty ▸ (List.perm_insertionSort _ page.rows).symm))
    refine (advancePull_returns ?_ _).mono fun _ leads => leads.mono ?_
    · exact ⟨within.operations, within.bytes⟩
    · rw [if_neg sorted]
      exact le_refl _

theorem giveUpRepair_returns (within : state.Within engine) :
    (engine.giveUpRepair (withCodec P) material resolver nowMs state).Returns
      (Leads engine (2 * (engine.maxOperations - state.processed) - 1)) := by
  refine .bind .any fun repair _ => ?_
  dsimp only
  split
  · exact .pure trivial
  rename_i room
  split
  · exact .pure trivial
  rename_i total reserved
  have most := within.operations
  have fits := (reserveBytes_eq_some.mp reserved).2
  refine .bind .any fun _ _ => ?_
  refine (advancePull_returns ?_ _).mono fun _ leads => leads.mono ?_
  · exact ⟨by simp only [PullState.setAside]; omega, fits⟩
  · simp only [PullState.setAside]
    split <;> omega

theorem continueRepair_returns (within : state.Within engine)
    (repairing : state.repair = some repair) (typed : repair.last ≤ u64Max) (last : Nat) :
    (engine.continueRepair (withCodec P) material resolver nowMs state last).Returns
      (Leads engine (2 * (engine.maxOperations - state.processed))) := by
  unfold SyncEngine.continueRepair
  rw [repairing, present_some, Session.lift_ok_bind]
  split
  · rename_i missing
    exact nextRepair_returns ⟨within.operations, within.bytes⟩ rfl missing typed
  · refine advancePull_returns ?_ (repair.blocker :: state.rows)
    exact ⟨within.operations, within.bytes⟩

/-- A range is requested only when there is room for its rows, so the count cannot pass the
limit while they are taken. -/
theorem finishRange_returns (within : state.Within engine)
    (room : state.processed + (last - first + 1) ≤ engine.maxOperations)
    (repairing : ∃ repair, state.repair = some repair ∧ repair.last ≤ u64Max) (device : DeviceId)
    (rows : List ReceivedOperation) :
    (engine.finishRange (withCodec P) material resolver nowMs state device first last rows).Returns
      (Leads engine (2 * (engine.maxOperations - state.processed) - 1)) := by
  obtain ⟨repair, repairing, typed⟩ := repairing
  refine .bind (applyRepairRows_returns state device first last rows) ?_
  rintro ⟨outcome, next⟩ ⟨⟨sameRepair, _⟩, ⟨least, most⟩, all, reserved⟩
  have nextWithin : next.Within engine := ⟨most.trans room, reserved within.bytes⟩
  dsimp only at least all sameRepair
  cases outcome with
  | pending => exact .pure trivial
  | blockedByQuarantine =>
    exact (giveUpRepair_returns nextWithin).mono fun _ leads => leads.mono (by omega)
  | complete =>
    have count := all rfl
    refine (continueRepair_returns nextWithin (sameRepair.trans repairing) typed last).mono ?_
    exact fun _ leads => leads.mono (by omega)

theorem finishPull_returns (within : prepared.state.Within engine) (fits : prepared.Fits engine)
    (response : PullResponse) :
    (engine.finishPull (withCodec P) material resolver nowMs prepared response).Returns
      (Leads engine (prepared.left engine)) := by
  refine .bind .any fun _ _ => ?_
  unfold PreparedPull.Fits at fits
  unfold PreparedPull.left
  cases asked : prepared.request with
  | operations cursor limit =>
    cases response with
    | operations page => exact finishPage_returns within cursor limit page
    | deviceRange rows => exact .fail
  | deviceRange device first last =>
    rw [asked] at fits
    cases response with
    | operations page => exact .fail
    | deviceRange rows => exact finishRange_returns within fits.2.2.1 fits.2.2.2 device rows

/-! ## The loop -/

namespace SyncEngine

/-- The pull of `sync_once`: every request goes to a provider that answers as it likes and
remembers what it likes. It gives the continuations that were asked for and how the pull ended,
or nothing when the fuel ran out. -/
def pullLoop (P : Primitives) (engine : SyncEngine) (material : TrustedSyncMaterial)
    (resolver : RepresentativeEmbeddingResolver) (nowMs : Nat)
    (answer : ρ → PullRequest → Except SafeErrorCode PullResponse × ρ) :
    Nat → Except SafeErrorCode PullProgress × Vault → ρ →
      List PreparedPull × Option (Except SafeErrorCode SyncCycleReport × Vault)
  | _, (.error code, v), _ => ([], some (.error code, v))
  | _, (.ok (.complete report), v), _ => ([], some (.ok report, v))
  | 0, (.ok (.request _), _), _ => ([], none)
  | fuel + 1, (.ok (.request prepared), v), provider =>
    match answer provider prepared.request with
    | (.error code, _) => ([prepared], some (.error code, v))
    | (.ok response, provider) =>
      let rest := pullLoop P engine material resolver nowMs answer fuel
        (engine.finishPull P material resolver nowMs prepared response v) provider
      (prepared :: rest.1, rest.2)

end SyncEngine

/-- What the loop gives: an end, after continuations that were all within the limits. -/
def EndsWithin (engine : SyncEngine)
    (given : List PreparedPull × Option (Except SafeErrorCode SyncCycleReport × Vault)) : Prop :=
  given.2.isSome ∧ ∀ prepared ∈ given.1, prepared.state.Within engine ∧ prepared.Fits engine

/-- The induction is on the fuel: each request uses one unit of it and at least one of those the
continuation has left. -/
theorem pullLoop_ends (answer : ρ → PullRequest → Except SafeErrorCode PullResponse × ρ)
    (fuel : Nat) (provider : ρ) {call : Cycle PullProgress} (v : Vault)
    (returns : call.Returns (Leads engine (fuel + 1))) :
    EndsWithin engine
      (engine.pullLoop (withCodec P) material resolver nowMs answer fuel (call v) provider) := by
  induction fuel generalizing provider call v with
  | zero =>
    rcases ran : call v with ⟨code | prepared | report, v'⟩
    · exact ⟨rfl, nofun⟩
    · obtain ⟨_, fits, few⟩ := returns _ _ _ ran
      have left := fits.left_pos
      omega
    · exact ⟨rfl, nofun⟩
  | succ fuel ih =>
    rcases ran : call v with ⟨code | prepared | report, v'⟩
    · exact ⟨rfl, nofun⟩
    · obtain ⟨within, fits, few⟩ := returns _ _ _ ran
      unfold SyncEngine.pullLoop
      rcases answer provider prepared.request with ⟨code | response, after⟩
      · exact ⟨rfl, by simpa using ⟨within, fits⟩⟩
      · have finishes : (engine.finishPull (withCodec P) material resolver nowMs prepared
            response).Returns (Leads engine (fuel + 1)) :=
          (finishPull_returns within fits response).mono fun _ leads =>
            leads.mono (Nat.lt_succ_iff.mp few)
        obtain ⟨ends, asked⟩ := ih after v' finishes
        exact ⟨ends, List.forall_mem_cons.mpr ⟨⟨within, fits⟩, asked⟩⟩
    · exact ⟨rfl, nofun⟩

/-- Whatever the provider answers, a pull ends after at most two requests for each row its engine
may take. Between requests and after each row the counters are within the limits, a request asks
for at most what is left, a requested range has 1 to 256 sequences, and the bytes that a row with
a gap before it gives back were reserved for it. -/
theorem pull_ends_within_limits (P : Primitives) (engine : SyncEngine)
    (material : TrustedSyncMaterial) (resolver : RepresentativeEmbeddingResolver) (nowMs : Nat)
    (answer : ρ → PullRequest → Except SafeErrorCode PullResponse × ρ) (provider : ρ) (v : Vault) :
    EndsWithin engine (engine.pullLoop (withCodec P) material resolver nowMs answer
        (2 * engine.maxOperations) (engine.preparePull v) provider) ∧
      (∀ row rest state v next v', PullState.Within state engine →
        engine.pullRow (withCodec P) material resolver nowMs row rest state v = (.ok (.next next), v') →
        next.Within engine) ∧
      (∀ row state v outcome next v', PullState.Within state engine →
        state.processed < engine.maxOperations →
        engine.repairRow (withCodec P) material resolver nowMs row state v = (.ok (outcome, next), v') →
        next.Within engine ∧ next.processed ≤ state.processed + 1) ∧
      ∀ total length reserved, reserveBytes total length engine.maxBytes = some reserved →
        length ≤ reserved ∧ reserved ≤ engine.maxBytes := by
  refine ⟨?_, ?_, ?_, ?_⟩
  · have prepares : engine.preparePull.Returns (Leads engine (2 * engine.maxOperations + 1)) := by
      refine nextPage_returns ?_
      exact ⟨Nat.zero_le _, Nat.zero_le _⟩
    exact pullLoop_ends answer _ provider v prepares
  · intro row rest state v next v' within ran
    exact (pullRow_returns within row rest v _ v' ran).1
  · intro row state v outcome next v' within room ran
    obtain ⟨_, _, counted, reserved⟩ := repairRow_returns row state v _ v' ran
    have most : next.processed ≤ state.processed + 1 := by
      dsimp only at counted
      split at counted <;> omega
    exact ⟨⟨most.trans room, reserved within.bytes⟩, most⟩
  · intro total length reserved found
    obtain ⟨rfl, most⟩ := reserveBytes_eq_some.mp found
    exact ⟨Nat.le_add_left _ _, most⟩

end ContextRelay
