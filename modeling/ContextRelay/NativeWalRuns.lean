import ContextRelay.NativeWal

/-! Whether the log can always be read back. A row is readable when the decoder accepts it. Every
writer keeps the rows readable except one move: a prepared row can be marked restored directly,
and when its mutation changes the target that leaves a restored row without the restored object
the decoder asks for. Restart recovery makes that move for a target it finds unchanged, and so
does live compensation; a crash after it leaves a log that no later start can load. -/
namespace ContextRelay.Native

open Library

/-! ## Readable rows -/

/-- The rules of the decoder. -/
structure Readable (sequence : Nat) (row : NativeWalRecord) : Prop where
  target : row.target.validate = .ok ()
  object : row.objectToken.Complete
  applied : ∀ token ∈ row.appliedObjectToken, token.Complete
  restored : ∀ token ∈ row.restoredObjectToken, token.Complete
  rebindComplete :
    ∀ rebind ∈ row.absenceRebind, rebind.oldToken.Complete ∧ rebind.newToken.Complete
  rebindValid : ∀ rebind ∈ row.absenceRebind,
    rebind.targetSequence < sequence ∧ rebind.oldToken.IsAbsenceGeneration ∧
      rebind.newToken.IsAbsenceGeneration ∧ rebind.newToken.HasSameParentBinding rebind.oldToken
  appliedKept : ¬ ((row.state = .applied ∨ row.state = .restorePrepared) ∧ row.Written ∧
    row.appliedObjectToken = none)
  restoredKept : ¬ (row.state = .restored ∧ row.Written ∧ row.restoredObjectToken = none)
  notYetRestored :
    ¬ ((row.state = .prepared ∨ row.state = .applied) ∧ row.restoredObjectToken ≠ none)
  rebindState : row.absenceRebind = none ∨ row.state = .restorePrepared ∨
    row.state = .restored ∨ row.state = .conflict

section

variable {sequence : Nat} {row existing : NativeWalRecord} {j after : NativeJournal}
  {next : NativeWalState} {token oldToken newToken : NativeObjectToken}

theorem decodeWalRecord_eq_ok :
    decodeWalRecord sequence row = .ok record ↔ Readable sequence row ∧ row = record := by
  simp only [decodeWalRecord, ok_iff]
  constructor
  · rintro ⟨target, object, applied, restored, complete, valid, appliedKept, restoredKept, notYet,
      state, same⟩
    exact ⟨⟨target, object, applied, restored, complete, valid, appliedKept, restoredKept, notYet,
      state⟩, same⟩
  · rintro ⟨⟨target, object, applied, restored, complete, valid, appliedKept, restoredKept, notYet,
      state⟩, same⟩
    exact ⟨target, object, applied, restored, complete, valid, appliedKept, restoredKept, notYet,
      state, same⟩

/-- Every row of the log is readable. -/
def AllReadable (j : NativeJournal) : Prop :=
  ∀ sequence row, j.wal[sequence]? = some row → Readable sequence row

theorem loadNativeWal_eq_ok : loadNativeWal j = .ok records ↔ AllReadable j ∧ j.wal = records := by
  simp only [loadNativeWal, collect_eq_ok, decodeWalRecord_eq_ok]
  constructor
  · intro decoded
    have readable : AllReadable j := by
      intro sequence row found
      have member : (row, sequence) ∈ j.wal.zipIdx := List.mk_mem_zipIdx_iff_getElem?.mpr found
      obtain ⟨index, atIndex⟩ := List.mem_iff_getElem?.mp member
      have bound : index < records.length := by
        rw [← decoded.length_eq]
        exact (List.getElem?_eq_some_iff.mp atIndex).1
      have relates := (List.forall₂_iff_get.mp decoded).2 index
        (List.getElem?_eq_some_iff.mp atIndex).1 bound
      rw [List.get_eq_getElem, (List.getElem?_eq_some_iff.mp atIndex).2] at relates
      exact relates.1
    refine ⟨readable, ?_⟩
    have same : j.wal.zipIdx.map Prod.fst = records := by
      have copied : List.Forall₂ (fun item value => Prod.fst item = value) j.wal.zipIdx records :=
        decoded.imp fun _ _ relates => relates.2
      exact List.forall₂_eq_eq_eq ▸ (List.forall₂_map_left_iff.mpr copied)
    rw [← same, List.zipIdx_map_fst]
  · rintro ⟨readable, rfl⟩
    have paired : ∀ item ∈ j.wal.zipIdx, Readable item.2 item.1 ∧ item.1 = item.1 := by
      rintro ⟨row, sequence⟩ member
      exact ⟨readable sequence row (List.mk_mem_zipIdx_iff_getElem?.mp member), rfl⟩
    have copied : List.Forall₂ (fun item value : NativeWalRecord × Nat =>
        Readable item.2 item.1 ∧ item.1 = value.1) j.wal.zipIdx j.wal.zipIdx :=
      List.forall₂_same.mpr paired
    have mapped : List.Forall₂ (fun item value => Readable item.2 item.1 ∧ item.1 = value)
        j.wal.zipIdx (j.wal.zipIdx.map Prod.fst) :=
      List.forall₂_map_right_iff.mpr copied
    rwa [List.zipIdx_map_fst] at mapped

theorem loadNativeWalRecord_eq_ok :
    loadNativeWalRecord j sequence = .ok found ↔
      j.wal[sequence]? = found ∧ ∀ row ∈ found, Readable sequence row := by
  unfold loadNativeWalRecord
  cases atSequence : j.wal[sequence]? with
  | none =>
    simp only [Except.ok.injEq]
    constructor
    · rintro rfl
      exact ⟨rfl, by simp⟩
    · exact fun ⟨same, _⟩ => same
  | some row =>
    simp only [ok_iff, decodeWalRecord_eq_ok]
    constructor
    · rintro ⟨record, ⟨readable, rfl⟩, rfl⟩
      exact ⟨rfl, by simpa using readable⟩
    · rintro ⟨rfl, readable⟩
      exact ⟨row, ⟨readable row rfl, rfl⟩, rfl⟩

theorem existingRecord_eq_ok :
    existingRecord j sequence = .ok record ↔
      j.wal[sequence]? = some record ∧ Readable sequence record := by
  simp only [existingRecord, ok_iff, loadNativeWalRecord_eq_ok]
  constructor
  · rintro ⟨found, ⟨atSequence, readable⟩, rfl⟩
    exact ⟨atSequence, readable record rfl⟩
  · rintro ⟨atSequence, readable⟩
    exact ⟨some record, ⟨atSequence, by simpa using readable⟩, rfl⟩

namespace AllReadable

theorem of_empty (empty : j.wal = []) : AllReadable j := by
  intro sequence row found
  rw [empty] at found
  cases found

/-- Only the rows decide. -/
theorem congr (same : other.wal = j.wal) (readable : AllReadable j) : AllReadable other := by
  intro sequence row found
  rw [same] at found
  exact readable sequence row found

theorem setRow (readable : AllReadable j) (changed : Readable sequence row) :
    AllReadable (j.setRow sequence row) := by
  intro index found atIndex
  simp only [NativeJournal.setRow, List.getElem?_set] at atIndex
  split at atIndex
  · rename_i same
    subst same
    split at atIndex
    · obtain rfl := Option.some.inj atIndex
      exact changed
    · cases atIndex
  · exact readable index found atIndex

theorem append (readable : AllReadable j) (added : Readable j.wal.length row) : AllReadable { j with wal := j.wal ++ [row] } := by
  intro index found atIndex
  rcases Nat.lt_or_ge index j.wal.length with inside | beyond
  · rw [List.getElem?_append_left inside] at atIndex
    exact readable index found atIndex
  · rw [List.getElem?_append_right beyond] at atIndex
    have last : index - j.wal.length = 0 := by
      have bound := (List.getElem?_eq_some_iff.mp atIndex).1
      simp only [List.length_singleton] at bound
      omega
    rw [last] at atIndex
    obtain rfl := Option.some.inj atIndex
    have same : index = j.wal.length := by omega
    exact same ▸ added

end AllReadable

/-! ## What each writer leaves -/

/-- A writer that succeeds leaves the log as it was, inserts one row or rewrites one, and the row
it leaves is readable. -/
inductive Rewritten (j : NativeJournal) : NativeJournal → Prop where
  | same : Rewritten j j
  | inserted (row : NativeWalRecord) (readable : Readable j.wal.length row) :
      Rewritten j { j with wal := j.wal ++ [row] }
  | changed (sequence : Nat) (row : NativeWalRecord) (readable : Readable sequence row) :
      Rewritten j (j.setRow sequence row)

theorem Rewritten.allReadable (rewritten : Rewritten j after) (readable : AllReadable j) : AllReadable after := by
  cases rewritten with
  | same => exact readable
  | inserted row added => exact readable.append added
  | changed sequence row changed => exact readable.setRow changed

theorem prepareNativeWal_rewritten (ran : prepareNativeWal j write = .ok after) : Rewritten j after := by
  simp only [prepareNativeWal, ok_iff, loadNativeWalRecord_eq_ok] at ran
  obtain ⟨target, _, object, _, _, found, _, rest⟩ := ran
  cases found with
  | some existing =>
    simp only [ok_iff] at rest
    exact rest.2 ▸ .same
  | none =>
    simp only [ok_iff] at rest
    obtain ⟨_, records, _, _, rfl⟩ := rest
    exact .inserted write.row
      { target, object
        applied := by simp [NativeWalWrite.row]
        restored := by simp [NativeWalWrite.row]
        rebindComplete := by simp [NativeWalWrite.row]
        rebindValid := by simp [NativeWalWrite.row]
        appliedKept := by simp [NativeWalWrite.row]
        restoredKept := by simp [NativeWalWrite.row]
        notYetRestored := by simp [NativeWalWrite.row]
        rebindState := .inl rfl }

/-- A move to another state, with what the checks before it establish. -/
theorem transitionNativeWal_ok (ran : transitionNativeWal j sequence next = .ok after) :
    ∃ existing, j.wal[sequence]? = some existing ∧ Readable sequence existing ∧
      ((existing.state = next ∧ after = j) ∨
        (existing.state ≠ next ∧ transitionAllowed existing.state next = true ∧
          ¬ (existing.state = .prepared ∧ next = .applied ∧ existing.Written ∧
            existing.appliedObjectToken = none) ∧
          ¬ (existing.state = .prepared ∧ next = .restorePrepared ∧
            existing.appliedObjectToken = none) ∧
          ¬ (existing.state = .restorePrepared ∧ next = .restored ∧ existing.Written ∧
            existing.restoredObjectToken = none) ∧
          after = j.setRow sequence { existing with state := next })) := by
  simp only [transitionNativeWal, bind_eq_ok, existingRecord_eq_ok] at ran
  obtain ⟨existing, ⟨found, readable⟩, rest⟩ := ran
  refine ⟨existing, found, readable, ?_⟩
  split at rest
  · rename_i same
    simp only [ok_iff] at rest
    exact .inl ⟨same, rest.symm⟩
  · rename_i differs
    simp only [ok_iff] at rest
    obtain ⟨applied, prepared, restored, allowed, rfl⟩ := rest
    exact .inr ⟨differs, allowed, applied, prepared, restored, rfl⟩

/-- The one move that the decoder does not expect: a prepared row of a mutation that changes its
target is marked restored. -/
def Unproven (existing : NativeWalRecord) (next : NativeWalState) : Prop :=
  existing.state = .prepared ∧ next = .restored ∧ existing.Written

instance : Decidable (Unproven existing next) := inferInstanceAs (Decidable (_ ∧ _))

theorem moved_readable (readable : Readable sequence existing)
    (allowed : transitionAllowed existing.state next = true)
    (applied : ¬ (existing.state = .prepared ∧ next = .applied ∧ existing.Written ∧
      existing.appliedObjectToken = none))
    (prepared : ¬ (existing.state = .prepared ∧ next = .restorePrepared ∧
      existing.appliedObjectToken = none))
    (restored : ¬ (existing.state = .restorePrepared ∧ next = .restored ∧ existing.Written ∧
      existing.restoredObjectToken = none)) (proven : ¬ Unproven existing next) :
    Readable sequence { existing with state := next } := by
  have appliedBefore := readable.appliedKept
  have restoredBefore := readable.notYetRestored
  have rebindBefore := readable.rebindState
  have unproven := proven
  constructor
  · exact readable.target
  · exact readable.object
  · exact readable.applied
  · exact readable.restored
  · exact readable.rebindComplete
  · exact readable.rebindValid
  all_goals
    unfold Unproven NativeWalRecord.Written at *
    cases was : existing.state <;> cases next <;> simp_all [transitionAllowed]

/-- Marking it restored is refused by the decoder. -/
theorem Unproven.unreadable (unproven : Unproven existing next)
    (readable : Readable sequence existing) :
    ¬ Readable sequence { existing with state := next } := by
  obtain ⟨was, rfl, written⟩ := unproven
  intro after
  have missing : existing.restoredObjectToken = none := by
    by_contra recorded
    exact readable.notYetRestored ⟨.inl was, recorded⟩
  exact after.restoredKept ⟨rfl, written, missing⟩

theorem recordNativeWalCandidate_rewritten
    (ran : recordNativeWalCandidate j sequence token = .ok after) :
    Rewritten j after := by
  simp only [recordNativeWalCandidate, ok_iff, existingRecord_eq_ok] at ran
  obtain ⟨complete, existing, ⟨_, readable⟩, prepared, _, rest⟩ := ran
  cases recorded : existing.appliedObjectToken with
  | some earlier =>
    simp only [recorded, ok_iff] at rest
    exact rest.2 ▸ .same
  | none =>
    simp only [recorded, ok_iff] at rest
    subst rest
    refine .changed sequence _ { readable with applied := ?_, appliedKept := ?_ }
    · rintro other same
      obtain rfl := Option.some.inj same
      exact complete
    · simp

theorem transitionNativeWalWithAppliedObjectToken_rewritten
    (ran : transitionNativeWalWithAppliedObjectToken j sequence next token = .ok after) :
    Rewritten j after := by
  simp only [transitionNativeWalWithAppliedObjectToken, ok_iff, existingRecord_eq_ok] at ran
  obtain ⟨complete, existing, ⟨_, readable⟩, _, rest⟩ := ran
  split at rest
  · simp only [ok_iff] at rest
    exact rest.2 ▸ .same
  · simp only [ok_iff] at rest
    obtain ⟨allowed, rfl⟩ := rest
    have was : existing.state = .prepared ∧ (next = .applied ∨ next = .conflict) := by
      cases state : existing.state <;> cases next <;>
        simp [tokenTransitionAllowed, state] at allowed ⊢
    have noRestore : existing.restoredObjectToken = none := by
      by_contra recorded
      exact readable.notYetRestored ⟨.inl was.1, recorded⟩
    have noRebind : existing.absenceRebind = none := by
      rcases readable.rebindState with none | state | state | state
      · exact none
      all_goals
        rw [was.1] at state
        cases state
    refine .changed sequence _ { readable with
      applied := ?_, appliedKept := ?_, restoredKept := ?_, notYetRestored := ?_
      rebindState := .inl noRebind }
    · rintro other same
      obtain rfl := Option.some.inj same
      exact complete
    · simp
    · rintro ⟨state, _⟩
      dsimp only at state
      rcases was.2 with rfl | rfl <;> cases state
    · simp [noRestore]

theorem recordNativeWalRestoredCandidate_rewritten
    (ran : recordNativeWalRestoredCandidate j sequence token = .ok after) : Rewritten j after := by
  simp only [recordNativeWalRestoredCandidate, ok_iff, existingRecord_eq_ok] at ran
  obtain ⟨complete, existing, ⟨_, readable⟩, restoring, _, rest⟩ := ran
  cases recorded : existing.restoredObjectToken with
  | some earlier =>
    simp only [recorded, ok_iff] at rest
    exact rest.2 ▸ .same
  | none =>
    simp only [recorded, ok_iff] at rest
    subst rest
    refine .changed sequence _ { readable with
      restored := ?_, restoredKept := ?_, notYetRestored := ?_ }
    · rintro other same
      obtain rfl := Option.some.inj same
      exact complete
    · simp
    · simp [restoring]

/-- What the edge check establishes about the two rows. -/
theorem validateAbsenceRebindEdge_ok
    (checked : validateAbsenceRebindEdge records sequence later oldToken newToken = .ok (existing, restoring)) :
    sequence < later ∧ (oldToken.IsAbsenceGeneration ∧ newToken.IsAbsenceGeneration ∧
      newToken.HasSameParentBinding oldToken) ∧ records[sequence]? = some existing ∧
      records[later]? = some restoring ∧ existing.state = .restorePrepared ∧
      (restoring.state = .restorePrepared ∨ restoring.state = .restored) := by
  simp only [validateAbsenceRebindEdge, ok_iff, Prod.mk.injEq] at checked
  obtain ⟨earlier, tokens, first, atFirst, second, atSecond, prepared, proven, _, _, _, _, rfl,
    rfl⟩ := checked
  exact ⟨earlier, tokens, atFirst, atSecond, prepared, proven⟩

theorem checkpointNativeWalAbsenceRebind_rewritten
    (ran : checkpointNativeWalAbsenceRebind j sequence later oldToken newToken = .ok after) :
    Rewritten j after := by
  simp only [checkpointNativeWalAbsenceRebind, ok_iff, loadNativeWal_eq_ok, Prod.exists] at ran
  obtain ⟨_, records, ⟨readable, rfl⟩, existing, restoring, checked, prepared, applied, _, _,
    rest⟩ := ran
  obtain ⟨earlier, ⟨old, new, parent⟩, _, atLater, _⟩ := validateAbsenceRebindEdge_ok checked
  have before := readable later restoring atLater
  cases recorded : restoring.absenceRebind with
  | some checkpoint =>
    simp only [recorded, ok_iff] at rest
    exact rest.2 ▸ .same
  | none =>
    simp only [recorded, ok_iff] at rest
    obtain ⟨complete, rfl⟩ := rest
    refine .changed later _ { before with
      rebindComplete := ?_, rebindValid := ?_, rebindState := .inr (.inl prepared) }
    · rintro rebind same
      obtain rfl := Option.some.inj same
      exact complete
    · rintro rebind same
      obtain rfl := Option.some.inj same
      exact ⟨earlier, old, new, parent⟩

theorem rebindNativeWalAppliedAbsence_rewritten
    (ran : rebindNativeWalAppliedAbsence j sequence later oldToken newToken = .ok after) :
    Rewritten j after := by
  simp only [rebindNativeWalAppliedAbsence, ok_iff, loadNativeWal_eq_ok, Prod.exists] at ran
  obtain ⟨_, records, ⟨readable, rfl⟩, existing, restoring, checked, checkpoint, _, _, applied, _,
    rest⟩ := ran
  obtain ⟨_, _, atSequence, _⟩ := validateAbsenceRebindEdge_ok checked
  have before := readable sequence existing atSequence
  split at rest
  · simp only [ok_iff] at rest
    exact rest ▸ .same
  · simp only [ok_iff] at rest
    obtain ⟨_, complete, rfl⟩ := rest
    refine .changed sequence _ { before with applied := ?_, appliedKept := ?_ }
    · rintro other same
      obtain rfl := Option.some.inj same
      exact complete
    · simp

end

/-! ## Runs of calls -/

/-- The calls that write the log, with the status changes around them. -/
inductive WalCall where
  | prepare (write : NativeWalWrite)
  | transition (sequence : Nat) (next : NativeWalState)
  | recordCandidate (sequence : Nat) (token : NativeObjectToken)
  | transitionWithToken (sequence : Nat) (next : NativeWalState) (token : NativeObjectToken)
  | recordRestoredCandidate (sequence : Nat) (token : NativeObjectToken)
  | checkpoint (sequence later : Nat) (oldToken newToken : NativeObjectToken)
  | rebind (sequence later : Nat) (oldToken newToken : NativeObjectToken)
  | beginRecovery
  | finishRecovery (conflict : Bool)
  | finishCleanup
deriving DecidableEq

namespace WalCall

def attempt (j : NativeJournal) : WalCall → Except VaultError NativeJournal
  | prepare write => prepareNativeWal j write
  | transition sequence next => transitionNativeWal j sequence next
  | recordCandidate sequence token => recordNativeWalCandidate j sequence token
  | transitionWithToken sequence next token =>
    transitionNativeWalWithAppliedObjectToken j sequence next token
  | recordRestoredCandidate sequence token => recordNativeWalRestoredCandidate j sequence token
  | checkpoint sequence later oldToken newToken =>
    checkpointNativeWalAbsenceRebind j sequence later oldToken newToken
  | rebind sequence later oldToken newToken =>
    rebindNativeWalAppliedAbsence j sequence later oldToken newToken
  | beginRecovery => beginNativeRecovery j
  | finishRecovery conflict => finishNativeRecovery j conflict
  | finishCleanup => finishNativeCleanup j

/-- What is durable after the call: a call that fails is rolled back. -/
def after (j : NativeJournal) (call : WalCall) : NativeJournal :=
  match call.attempt j with
  | .ok next => next
  | .error _ => j

/-- The call does not mark a prepared row restored whose mutation changes its target. -/
def Proven (j : NativeJournal) : WalCall → Prop
  | transition sequence next => ∀ row ∈ j.wal[sequence]?, ¬ Unproven row next
  | _ => True

instance (j : NativeJournal) (call : WalCall) : Decidable (call.Proven j) :=
  match call with
  | transition sequence next =>
    inferInstanceAs (Decidable (∀ row ∈ j.wal[sequence]?, ¬ Unproven row next))
  | prepare _ | recordCandidate _ _ | transitionWithToken _ _ _ | recordRestoredCandidate _ _
  | checkpoint _ _ _ _ | rebind _ _ _ _ | beginRecovery | finishRecovery _ | finishCleanup =>
    .isTrue trivial

end WalCall

/-- What is durable after a list of calls, of which the last may have been cut off by a crash. -/
def afterCalls (j : NativeJournal) (calls : List WalCall) : NativeJournal :=
  calls.foldl WalCall.after j

/-- Every call is proven where it is made. -/
def AllProven : NativeJournal → List WalCall → Prop
  | _, [] => True
  | j, call :: calls => call.Proven j ∧ AllProven (call.after j) calls

section

variable {j after : NativeJournal}

theorem beginNativeRecovery_wal (ran : beginNativeRecovery j = .ok after) : after.wal = j.wal := by
  unfold beginNativeRecovery at ran
  split at ran
  · exact Except.ok.inj ran ▸ rfl
  · exact Except.ok.inj ran ▸ rfl
  · cases ran

theorem finishNativeRecovery_wal (ran : finishNativeRecovery j conflict = .ok after) : after.wal = j.wal := by
  simp only [finishNativeRecovery] at ran
  split at ran
  · exact Except.ok.inj ran ▸ rfl
  · simp only [ok_iff] at ran
    obtain ⟨_, _, rfl⟩ := ran
    rfl

theorem finishNativeCleanup_wal (ran : finishNativeCleanup j = .ok after) : after.wal = j.wal ∨ after.wal = [] := by
  simp only [finishNativeCleanup, ok_iff] at ran
  obtain ⟨_, ran⟩ := ran
  split at ran
  · simp only [ok_iff] at ran
    exact .inl (ran.2 ▸ rfl)
  · simp only [ok_iff] at ran
    obtain ⟨_, _, ran⟩ := ran
    split at ran
    · exact .inr (Except.ok.inj ran ▸ rfl)
    · exact .inl (Except.ok.inj ran ▸ rfl)

/-- The step of a run: a proven call that succeeds keeps the log readable. -/
theorem attempt_readable {call : WalCall} (readable : AllReadable j) (proven : call.Proven j)
    (ran : call.attempt j = .ok next) : AllReadable next := by
  cases call with
  | prepare write => exact (prepareNativeWal_rewritten ran).allReadable readable
  | transition sequence state =>
    obtain ⟨existing, found, before, ⟨_, rfl⟩ | ⟨_, allowed, applied, prepared, restored, rfl⟩⟩ :=
      transitionNativeWal_ok ran
    · exact readable
    · exact readable.setRow
        (moved_readable before allowed applied prepared restored (proven existing found))
  | recordCandidate sequence token =>
    exact (recordNativeWalCandidate_rewritten ran).allReadable readable
  | transitionWithToken sequence state token =>
    exact (transitionNativeWalWithAppliedObjectToken_rewritten ran).allReadable readable
  | recordRestoredCandidate sequence token =>
    exact (recordNativeWalRestoredCandidate_rewritten ran).allReadable readable
  | checkpoint sequence later oldToken newToken =>
    exact (checkpointNativeWalAbsenceRebind_rewritten ran).allReadable readable
  | rebind sequence later oldToken newToken =>
    exact (rebindNativeWalAppliedAbsence_rewritten ran).allReadable readable
  | beginRecovery => exact readable.congr (beginNativeRecovery_wal ran)
  | finishRecovery conflict => exact readable.congr (finishNativeRecovery_wal ran)
  | finishCleanup =>
    rcases finishNativeCleanup_wal ran with same | empty
    · exact readable.congr same
    · exact .of_empty empty

theorem after_readable {call : WalCall} (readable : AllReadable j) (proven : call.Proven j) : AllReadable (call.after j) := by
  unfold WalCall.after
  cases ran : call.attempt j with
  | ok next => exact attempt_readable readable proven ran
  | error failure => exact readable

/-- The unproven move always succeeds, and leaves a row that cannot be read. -/
theorem unproven_succeeds {sequence : Nat} {next : NativeWalState}
    (found : j.wal[sequence]? = some existing) (readable : Readable sequence existing)
    (unproven : Unproven existing next) :
    transitionNativeWal j sequence next =
      .ok (j.setRow sequence { existing with state := next }) := by
  obtain ⟨was, rfl, _⟩ := unproven
  have loaded : existingRecord j sequence = .ok existing :=
    existingRecord_eq_ok.mpr ⟨found, readable⟩
  rw [transitionNativeWal, loaded, ok_bind, if_neg (by rw [was]; simp), require_pos (by simp),
    ok_bind, require_pos (by simp), ok_bind, require_pos (by simp [was]), ok_bind,
    require_pos (by simp [was, transitionAllowed]), ok_bind, pure_eq_ok]

theorem after_unreadable {call : WalCall} (readable : AllReadable j) (unproven : ¬ call.Proven j) : ¬ AllReadable (call.after j) := by
  cases call with
  | transition sequence next =>
    simp only [WalCall.Proven, not_forall, not_not] at unproven
    obtain ⟨existing, found, unproven⟩ := unproven
    have before := readable sequence existing found
    have moved : (WalCall.transition sequence next).after j =
        j.setRow sequence { existing with state := next } := by
      simp only [WalCall.after, WalCall.attempt, unproven_succeeds found before unproven]
    have inside := (List.getElem?_eq_some_iff.mp found).1
    have written : (j.setRow sequence { existing with state := next }).wal[sequence]? =
        some { existing with state := next } := by
      simp only [NativeJournal.setRow, List.getElem?_set_self inside]
    rw [moved]
    exact fun after => unproven.unreadable before (after sequence _ written)
  | _ => exact absurd trivial unproven

/-- The run: after proven calls the log is readable. -/
theorem calls_readable {calls : List WalCall} (readable : AllReadable j)
    (proven : AllProven j calls) : AllReadable (afterCalls j calls) := by
  induction calls generalizing j with
  | nil => exact readable
  | cons call calls ih => exact ih (after_readable readable proven.1) proven.2

end

/-- The moves live compensation makes once the files are restored: rows whose restore met a
conflict are marked so, the others are walked to restored. -/
def finishCompensatedCalls (records : List NativeWalRecord) (conflicts : List Nat) :
    List WalCall :=
  records.zipIdx.flatMap fun (record, sequence) =>
    if sequence ∈ conflicts then
      if record.state = .conflict then [] else [.transition sequence .conflict]
    else
      match record.state with
      | .prepared => [.transition sequence .restored]
      | .applied => [.transition sequence .restorePrepared, .transition sequence .restored]
      | .restorePrepared => [.transition sequence .restored]
      | .restored => []
      | .conflict => []

/-- Take any calls on the log of a new transaction, with any arguments, of which none marks a
prepared row restored whose mutation changes its target. Then the log can be loaded after them,
and after one more call it can be loaded exactly if that call does not do so either. -/
theorem native_wal_loads (start : NativeJournal) (new : start.wal = []) (calls : List WalCall)
    (proven : AllProven start calls) :
    loadNativeWal (afterCalls start calls) = .ok (afterCalls start calls).wal ∧
      ∀ call : WalCall,
        (loadNativeWal (call.after (afterCalls start calls)) =
            .ok (call.after (afterCalls start calls)).wal) ↔
          call.Proven (afterCalls start calls) := by
  have readable := calls_readable (.of_empty new) proven
  refine ⟨loadNativeWal_eq_ok.mpr ⟨readable, rfl⟩, fun call => ?_⟩
  constructor
  · intro loaded
    by_contra unproven
    exact after_unreadable readable unproven (loadNativeWal_eq_ok.mp loaded).1
  · intro provenCall
    exact loadNativeWal_eq_ok.mpr ⟨after_readable readable provenCall, rfl⟩

namespace Sample

def fingerprint (number : Fin 64) : RestorableStateFingerprint := ⟨⟨number, by omega⟩⟩

/-- A token of the parent `parent`: of an object, or of an absence. -/
def token (parent object : UInt8) (absent : Bool) : NativeObjectToken where
  volume := [7]
  object := [object]
  topology := 1 :: (if absent then [0xff, 0xff, 0xff, 0xff] else [0, 0, 0, 0]) ++
    List.replicate 24 parent

def target (name : UInt8) : WireNativeValue := ⟨.macos, [47, name], none⟩

/-- The replacement of a file. -/
def replacement : NativeWalWrite where
  targetSequence := 0
  target := target 97
  objectToken := token 3 1 false
  beforeImageId := "image"
  operationKind := .payload
  expected := fingerprint 1
  intendedApplied := fingerprint 2
  intendedRestored := fingerprint 1

/-- A transaction whose before images are stored and whose log is empty. -/
def begun : NativeJournal where
  planId := 5
  status := .pending
  currentStep := 14
  enteredStep := 15
  sandboxCleanupState := .pending
  wal := []
  beforeImages := [⟨"image", some 5, [0]⟩]

/-- The replacement is journaled, and the transaction turns to compensation before the file is
touched. -/
def interrupted : NativeJournal := afterCalls begun [.prepare replacement, .beginRecovery]

/-- Installed instead: the replacement is journaled with its object and marked applied. -/
def appliedCalls : List WalCall :=
  [.prepare replacement, .recordCandidate 0 (token 3 2 false),
    .transitionWithToken 0 .applied (token 3 2 false), .beginRecovery,
    .transition 0 .restorePrepared, .recordRestoredCandidate 0 (token 3 4 false),
    .transition 0 .restored]

theorem native_wal_loads_sample :
    begun.wal = [] ∧ AllProven begun appliedCalls ∧
      loadNativeWal (afterCalls begun appliedCalls) = .ok (afterCalls begun appliedCalls).wal := by
  have proven : AllProven begun appliedCalls := by
    refine ⟨trivial, trivial, trivial, trivial, ?_, trivial, ?_, trivial⟩ <;>
      decide +kernel
  exact ⟨rfl, proven, (native_wal_loads begun rfl appliedCalls proven).1⟩

/-- The log loads with the one row prepared. Live compensation has nothing to restore and its
first move marks the row restored, which succeeds; from then on the log cannot be loaded. -/
theorem compensated_not_loaded :
    loadNativeWal interrupted = .ok interrupted.wal ∧ interrupted.wal ≠ [] ∧
      finishCompensatedCalls interrupted.wal [] = [.transition 0 .restored] ∧
      (transitionNativeWal interrupted 0 .restored).isOk = true ∧
      loadNativeWal (afterCalls interrupted (finishCompensatedCalls interrupted.wal [])) =
        .error (.validation
          "restored native WAL state is missing restored object provenance") := by
  decide +kernel

end Sample

end ContextRelay.Native
