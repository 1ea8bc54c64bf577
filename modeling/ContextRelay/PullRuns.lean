import ContextRelay.PullEffects

/-! Runs of pulls against a provider that answers as it likes. The pull cursor is the only
record of how far a provider's rows were taken, so a row behind it is never asked for
again: it must be stored, quarantined or rejected by then. -/
namespace ContextRelay

open Library

variable {P : Primitives} {v v' w : Vault} {engine : SyncEngine} {row : ReceivedOperation}
  {material : TrustedSyncMaterial} {resolver : RepresentativeEmbeddingResolver} {nowMs : Nat}

/-! ## Pages -/

/-- A main page that was handed to `finishPull`, with the cursor it was requested after and
whether its rows were taken up. -/
structure MainPage where
  cursor : Option SyncCursor
  rows : List ReceivedOperation
  accepted : Bool

/-- The pages of a provider agree about a row: a page that was requested from before the row and
reaches to it or past it carries the row, and nothing else at its position. -/
def Coherent (pages : List MainPage) (row : ReceivedOperation) : Prop :=
  ∀ page ∈ pages, page.accepted = true → row.after page.cursor = true →
    (∃ last ∈ page.rows, row.cursor.key ≤ last.cursor.key) →
      row ∈ page.rows ∧ ∀ other ∈ page.rows, other.cursor.key = row.cursor.key → other = row

section

variable {pages more : List MainPage} {other : SyncEngine}

/-- The rows of a page that are still to be taken from a cursor on. -/
structure Remaining (page : MainPage) (cursor : Option SyncCursor)
    (rows : List ReceivedOperation) : Prop where
  sorted : rows.Pairwise (fun left right => left.cursor.key ≤ right.cursor.key)
  members : ∀ row ∈ rows, row ∈ page.rows
  passed : ∀ row ∈ page.rows, row ∈ rows ∨ row.after cursor = false
  start : CursorLe page.cursor cursor

/-- Every row of an accepted page that the cursor has passed is accounted for, if the pages agree
about it. -/
def AllAccounted (P : Primitives) (engine : SyncEngine) (pages : List MainPage) (v : Vault) : Prop :=
  ∀ page ∈ pages, page.accepted = true → ∀ row ∈ page.rows, Coherent pages row →
    row.after (engine.cursorOf v) = false → Accounted P engine v row

theorem AllAccounted.keepsCursor (accounted : AllAccounted P engine pages v)
    (kept : KeepsReceipts v v') (cursor : engine.cursorOf v' = engine.cursorOf v) : AllAccounted P engine pages v' := by
  intro page member taken row inPage coherent passed
  rw [cursor] at passed
  exact (accounted page member taken row inPage coherent passed).kept kept

section
variable {page : MainPage} {pages : List MainPage} {rest : List ReceivedOperation}

theorem Remaining.take (remaining : Remaining page (engine.cursorOf v) (row :: rest))
    (takes : Takes P engine row v v') : Remaining page (engine.cursorOf v') rest where
  sorted := (List.pairwise_cons.mp remaining.sorted).2
  members := fun other member => remaining.members other (List.mem_cons_of_mem _ member)
  passed := by
    intro other member
    rw [takes.cursor, not_after_advanced]
    rcases remaining.passed other member with left | passed
    · rcases List.mem_cons.mp left with rfl | left
      · exact .inr (.inr (le_refl _))
      · exact .inl left
    · exact .inr (.inl passed)
  start := by
    rw [takes.cursor]
    exact remaining.start.trans (cursorLe_advanced _ _)

/-- Taking the first remaining row of a page passes no other row that is unaccounted for. -/
theorem AllAccounted.take (member : page ∈ pages) (accepted : page.accepted = true)
    (remaining : Remaining page (engine.cursorOf v) (row :: rest))
    (accounted : AllAccounted P engine pages v) (takes : Takes P engine row v v') :
    AllAccounted P engine pages v' := by
  intro other otherIn otherAccepted found inPage coherent passed
  cases before : found.after (engine.cursorOf v) with
  | false =>
    exact (accounted other otherIn otherAccepted found inPage coherent before).kept takes.kept
  | true =>
    rw [takes.cursor, not_after_advanced, before] at passed
    have upTo : found.cursor.key ≤ row.cursor.key := passed.resolve_left (by simp)
    have rowIn := remaining.members row (List.mem_cons_self ..)
    have fromStart : found.after page.cursor = true := by
      cases low : found.after page.cursor with
      | true => rfl
      | false => simp [remaining.start.not_after low] at before
    obtain ⟨here, alone⟩ := coherent page member accepted fromStart ⟨row, rowIn, upTo⟩
    have left : found ∈ row :: rest := (remaining.passed found here).resolve_right (by simp [before])
    have same : found = row := by
      rcases List.mem_cons.mp left with same | behind
      · exact same
      · have downTo := (List.pairwise_cons.mp remaining.sorted).1 found behind
        exact (alone row rowIn (le_antisymm downTo upTo)).symm
    exact same ▸ takes.accounted

end

/-! ## Continuations -/

/-- A continuation asks for the page after the cursor it expects, or waits with a row of an
accepted page and all that is left behind it. -/
def Continues (pages : List MainPage) (prepared : PreparedPull) : Prop :=
  match prepared.request with
  | .operations cursor _ => cursor = prepared.expectedCursor
  | .deviceRange _ _ _ => ∃ page ∈ pages, page.accepted = true ∧
      ∃ repair, prepared.state.repair = some repair ∧
        Remaining page prepared.expectedCursor (repair.blocker :: prepared.state.rows)

theorem Continues.mono (continues : Continues pages prepared) (subset : pages ⊆ more) : Continues more prepared := by
  unfold Continues at continues ⊢
  split at continues
  · exact continues
  · obtain ⟨page, member, waits⟩ := continues
    exact ⟨page, subset member, waits⟩

/-- The continuation a call hands out. -/
def pullIssuedBy : Except SafeErrorCode PullProgress → List PreparedPull
  | .ok (.request prepared) => [prepared]
  | _ => []

/-- What a call does with the rows of the pages so far. -/
structure Proceeds (P : Primitives) (engine : SyncEngine) (pages : List MainPage) (v : Vault)
    (result : Except SafeErrorCode PullProgress) (v' : Vault) : Prop where
  forward : CursorLe (engine.cursorOf v) (engine.cursorOf v')
  kept : KeepsReceipts v v'
  accounted : AllAccounted P engine pages v → AllAccounted P engine pages v'
  continues : ∀ prepared ∈ pullIssuedBy result, Continues pages prepared

section
variable {pages : List MainPage} {result : Except SafeErrorCode PullProgress}

/-- A call that changes nothing and hands out no continuation. -/
theorem Proceeds.idle (silent : pullIssuedBy result = []) : Proceeds P engine pages v result v where
  forward := .refl _
  kept := .refl v
  accounted := fun accounted => accounted
  continues := by simp [silent]

theorem Proceeds.after_keepsCursor (kept : KeepsCursor v w)
    (proceeds : Proceeds P engine pages w result v') : Proceeds P engine pages v result v' where
  forward := kept.cursorOf engine ▸ proceeds.forward
  kept := kept.kept.trans proceeds.kept
  accounted := fun accounted =>
    proceeds.accounted (accounted.keepsCursor kept.kept (kept.cursorOf engine))
  continues := proceeds.continues

variable {page : MainPage} {rest : List ReceivedOperation}

theorem Proceeds.after_take (member : page ∈ pages) (accepted : page.accepted = true)
    (remaining : Remaining page (engine.cursorOf v) (row :: rest)) (takes : Takes P engine row v w)
    (proceeds : Proceeds P engine pages w result v') : Proceeds P engine pages v result v' where
  forward := by
    have step := cursorLe_advanced (engine.cursorOf v) row.cursor
    rw [← takes.cursor] at step
    exact step.trans proceeds.forward
  kept := takes.kept.trans proceeds.kept
  accounted := fun accounted =>
    proceeds.accounted (accounted.take member accepted remaining takes)
  continues := proceeds.continues

theorem nextPage_proceeds (ran : engine.nextPage state v = (result, v')) :
    Proceeds P engine pages v result v' := by
  unfold SyncEngine.nextPage at ran
  split at ran
  · obtain ⟨rfl, rfl⟩ := Session.pure_eq.mp ran
    exact .idle rfl
  · simp only [SyncEngine.cursor, Session.bind_eq, Session.look_eq] at ran
    rcases ran with ⟨cursor, _, ⟨found, rfl⟩, ran⟩ | ⟨_, ⟨wrong, _⟩, _⟩
    · obtain rfl := Except.ok.inj found
      obtain ⟨rfl, rfl⟩ := requestPull_ok ran
      exact ⟨.refl _, .refl _, fun accounted => accounted, by simp [pullIssuedBy, Continues,
        SyncEngine.cursorOf]⟩
    · simp at wrong

/-- A continuation that waits at a row of a page. -/
theorem Proceeds.awaits (member : page ∈ pages) (accepted : page.accepted = true)
    (remaining : Remaining page (engine.cursorOf v) (row :: rest))
    (awaits : AwaitsRepair engine v row rest progress) :
    Proceeds P engine pages v (.ok progress) v := by
  refine ⟨.refl _, .refl _, fun accounted => accounted, ?_⟩
  intro prepared issued
  cases progress with
  | complete report => simp [pullIssuedBy] at issued
  | request waiting =>
    obtain rfl := List.mem_singleton.mp issued
    obtain ⟨cursor, ⟨device, first, last, request⟩, repair, repairing, blocker, behind⟩ := awaits
    simp only [Continues, request]
    refine ⟨page, member, accepted, repair, repairing, ?_⟩
    rw [cursor, blocker, behind]
    exact remaining

/-- Taking the remaining rows of a page: the induction is on the rows, each taken from the
cursor the one before it left. -/
theorem advancePull_proceeds (member : page ∈ pages) (accepted : page.accepted = true)
    (remaining : Remaining page (engine.cursorOf v) rows)
    (ran : engine.advancePull P material resolver nowMs rows state v = (result, v')) :
    Proceeds P engine pages v result v' := by
  induction rows generalizing state v with
  | nil => exact nextPage_proceeds ran
  | cons row rest ih =>
    rcases Session.bind_eq.mp ran with ⟨step, middle, taken, ran⟩ | ⟨code, failed, rfl⟩
    · have outcome := pullRow_outcome taken
      cases outcome with
      | stopped awaits =>
        obtain ⟨rfl, rfl⟩ := Session.pure_eq.mp ran
        exact .awaits member accepted remaining awaits
      | taken takes =>
        exact .after_take member accepted remaining takes (ih (remaining.take takes) ran)
    · have outcome := pullRow_outcome failed
      cases outcome with
      | failed => exact .idle rfl

/-! ## Finishing a pull -/

theorem finishPage_proceeds (limit : Nat) (valid : validatePage cursor answer limit = .ok ())
    (start : cursor = engine.cursorOf v) (member : ⟨cursor, answer.rows, true⟩ ∈ pages)
    (ran : engine.finishPage P material resolver nowMs state cursor limit answer v = (result, v')) :
    Proceeds P engine pages v result v' := by
  unfold SyncEngine.finishPage at ran
  rw [valid, Session.lift_ok_bind] at ran
  split at ran
  · obtain ⟨rfl, rfl⟩ := Session.pure_eq.mp ran
    exact .idle rfl
  · refine advancePull_proceeds member rfl ⟨?_, ?_, ?_, ?_⟩ ran
    · exact List.pairwise_insertionSort _ _
    · exact fun row inRows => (List.mem_insertionSort _).mp inRows
    · exact fun row inRows => .inl ((List.mem_insertionSort _).mpr inRows)
    · exact start ▸ .refl _

section

variable {state : PullState} {repair : RepairState} (member : page ∈ pages)
  (accepted : page.accepted = true)
  (repairing : state.repair = some repair)
  (remaining : Remaining page (engine.cursorOf v) (repair.blocker :: state.rows))

include member accepted repairing remaining

theorem giveUpRepair_proceeds
    (ran : engine.giveUpRepair P material resolver nowMs state v = (result, v')) :
    Proceeds P engine pages v result v' := by
  unfold SyncEngine.giveUpRepair at ran
  rw [repairing, present_some, Session.lift_ok_bind] at ran
  dsimp only at ran
  by_cases full : state.processed = engine.maxOperations
  · rw [if_pos full] at ran
    obtain ⟨rfl, rfl⟩ := Session.pure_eq.mp ran
    exact .idle rfl
  rw [if_neg full] at ran
  cases reserved : reserveBytes state.processedBytes repair.blocker.operation.bytes.length
      engine.maxBytes with
  | none =>
    simp only [reserved] at ran
    obtain ⟨rfl, rfl⟩ := Session.pure_eq.mp ran
    exact .idle rfl
  | some total =>
    simp only [reserved] at ran
    rcases Session.bind_eq.mp ran with ⟨_, middle, written, ran⟩ | ⟨_, failed, rfl⟩
    · have takes : Takes P engine repair.blocker v middle := persistQuarantine_takes written
      exact .after_take member accepted remaining takes
        (advancePull_proceeds member accepted (remaining.take takes) ran)
    · obtain rfl := persistQuarantine_failed failed
      exact .idle rfl

theorem continueRepair_proceeds
    (ran : engine.continueRepair P material resolver nowMs state last v = (result, v')) :
    Proceeds P engine pages v result v' := by
  unfold SyncEngine.continueRepair at ran
  rw [repairing, present_some, Session.lift_ok_bind] at ran
  split at ran
  · obtain ⟨rfl, progress, rfl, awaits⟩ := nextRepair_awaits rfl ran
    exact .awaits member accepted remaining awaits
  · exact advancePull_proceeds member accepted remaining ran

theorem finishRange_proceeds
    (ran : engine.finishRange P material resolver nowMs state device first last rows v =
      (result, v')) : Proceeds P engine pages v result v' := by
  rcases Session.bind_eq.mp ran with ⟨⟨outcome, next⟩, middle, repaired, ran⟩ | ⟨_, failed, rfl⟩
  · have kept := applyRepairRows_keeps _ _ _ _ _ _ _ _ repaired
    obtain ⟨sameRepair, sameRows⟩ := (applyRepairRows_returns _ _ _ _ _ _ _ _ repaired).waits
    have repairing : next.repair = some repair := sameRepair.trans repairing
    rw [← kept.cursorOf engine, ← sameRows] at remaining
    refine .after_keepsCursor kept ?_
    cases outcome with
    | pending =>
      obtain ⟨rfl, rfl⟩ := Session.pure_eq.mp ran
      exact .idle rfl
    | blockedByQuarantine => exact giveUpRepair_proceeds member accepted repairing remaining ran
    | complete => exact continueRepair_proceeds member accepted repairing remaining ran
  · exact .after_keepsCursor (applyRepairRows_keeps _ _ _ _ _ _ _ _ failed) (.idle rfl)

end

end

/-! ## Runs -/

/-- Another engine of the same workspace and provider, with its own limits. -/
def SameChannel (engine other : SyncEngine) : Prop :=
  other.scope = engine.scope ∧ other.provider = engine.provider

theorem SameChannel.cursorOf (same : SameChannel engine other) :
    other.cursorOf = engine.cursorOf := by
  funext v
  simp only [SyncEngine.cursorOf, same.1, same.2]

theorem SameChannel.allAccounted (same : SameChannel engine other) :
    AllAccounted P other = AllAccounted P engine := by
  funext pages v
  simp only [AllAccounted, Accounted, QuarantinedRow, RejectedRow, SyncEngine.receipt,
    same.cursorOf, same.1, same.2]

theorem SameChannel.proceeds (same : SameChannel engine other)
    (proceeds : Proceeds P other pages v result v') : Proceeds P engine pages v result v' where
  forward := same.cursorOf ▸ proceeds.forward
  kept := proceeds.kept
  accounted := same.allAccounted ▸ proceeds.accounted
  continues := proceeds.continues

/-- The vault, the continuations handed out and the main pages received so far. -/
structure PullWorld where
  vault : Vault
  issued : List PreparedPull
  pages : List MainPage

/-- Does `finishPull` take up the rows of a page? The continuation must be current and the
page well formed. -/
def SyncEngine.takesUp (engine : SyncEngine) (v : Vault) (prepared : PreparedPull)
    (cursor : Option SyncCursor) (limit : Nat) (page : PullPage) : Bool :=
  succeeded (engine.checkContinuation prepared v).1 && succeeded (validatePage cursor page limit)

/-- The main page that a call of `finishPull` receives, if the call is about one. -/
def SyncEngine.mainPage (engine : SyncEngine) (v : Vault) (prepared : PreparedPull)
    (response : PullResponse) : List MainPage :=
  match prepared.request, response with
  | .operations cursor limit, .operations page =>
    [⟨cursor, page.rows, engine.takesUp v prepared cursor limit page⟩]
  | _, _ => []

/-- A step of a client and its provider. A continuation may be lost, or finished late; the
provider answers as it likes, and engines with other limits take turns. Elsewhere the vault
changes without losing a receipt and without moving this cursor. -/
inductive PullStep (P : Primitives) (engine : SyncEngine) : PullWorld → PullWorld → Prop where
  | prepare {v v' : Vault} {issued : List PreparedPull} {pages : List MainPage}
      {result : Except SafeErrorCode PullProgress} (other : SyncEngine)
      (same : SameChannel engine other) (ran : other.preparePull v = (result, v')) :
      PullStep P engine ⟨v, issued, pages⟩ ⟨v', pullIssuedBy result ++ issued, pages⟩
  | finish {v v' : Vault} {issued : List PreparedPull} {pages : List MainPage}
      {result : Except SafeErrorCode PullProgress} (other : SyncEngine)
      (same : SameChannel engine other) (prepared : PreparedPull) (held : prepared ∈ issued)
      (response : PullResponse) (material : TrustedSyncMaterial)
      (resolver : RepresentativeEmbeddingResolver) (nowMs : Nat)
      (ran : other.finishPull P material resolver nowMs prepared response v = (result, v')) :
      PullStep P engine ⟨v, issued, pages⟩
        ⟨v', pullIssuedBy result ++ issued, other.mainPage v prepared response ++ pages⟩
  | elsewhere {v v' : Vault} {issued : List PreparedPull} {pages : List MainPage}
      (kept : KeepsReceipts v v') (cursor : engine.cursorOf v' = engine.cursorOf v) :
      PullStep P engine ⟨v, issued, pages⟩ ⟨v', issued, pages⟩

/-- A run from a vault that was never pulled into in this run. -/
def PullRun (P : Primitives) (engine : SyncEngine) (w : PullWorld) : Prop :=
  ∃ start, Relation.ReflTransGen (PullStep P engine) ⟨start, [], []⟩ w

structure PullInvariant (P : Primitives) (engine : SyncEngine) (w : PullWorld) : Prop where
  accounted : AllAccounted P engine w.pages w.vault
  continues : ∀ prepared ∈ w.issued, Continues w.pages prepared

section
variable {pages : List MainPage} {result : Except SafeErrorCode PullProgress}

theorem checkContinuation_cases (ran : engine.checkContinuation prepared v = (checked, v')) :
    v = v' ∧ (checked = .ok () → engine.cursorOf v = prepared.expectedCursor) := by
  simp only [SyncEngine.checkContinuation, SyncEngine.cursor, Session.bind_eq, Session.look_eq,
    Session.lift_eq] at ran
  rcases ran with ⟨_, _, ⟨found, rfl⟩, required, rfl⟩ | ⟨_, ⟨wrong, _⟩, _⟩
  · refine ⟨rfl, ?_⟩
    rintro rfl
    obtain rfl := Except.ok.inj found
    exact (require_eq_ok.mp required).2.2.2.2
  · simp at wrong

/-- Finishing a pull proceeds with the pages so far and the one it received. -/
theorem finishPull_proceeds (continues : Continues pages prepared)
    (ran : engine.finishPull P material resolver nowMs prepared response v = (result, v')) :
    Proceeds P engine (engine.mainPage v prepared response ++ pages) v result v' := by
  rcases Session.bind_eq.mp ran with ⟨_, middle, checked, ran⟩ | ⟨_, failed, rfl⟩
  case inr =>
    obtain ⟨rfl, _⟩ := checkContinuation_cases failed
    exact .idle rfl
  obtain ⟨rfl, current⟩ := checkContinuation_cases checked
  have expected := current rfl
  unfold Continues at continues
  unfold SyncEngine.mainPage
  cases asked : prepared.request with
  | operations cursor limit =>
    rw [asked] at ran continues
    cases response with
    | operations page =>
      simp only at ran
      cases valid : validatePage cursor page limit with
      | ok done =>
        refine finishPage_proceeds limit valid (continues.trans expected.symm) ?_ ran
        simp [SyncEngine.takesUp, checked, valid, succeeded]
      | error code =>
        unfold SyncEngine.finishPage at ran
        rw [valid] at ran
        rcases Session.bind_eq.mp ran with ⟨_, _, wrong, _⟩ | ⟨_, failed, rfl⟩
        · simp [Session.lift_eq] at wrong
        · obtain ⟨_, rfl⟩ := Session.lift_eq.mp failed
          exact .idle rfl
    | deviceRange rows =>
      obtain ⟨rfl, rfl⟩ := Session.fail_eq.mp ran
      exact .idle rfl
  | deviceRange device first last =>
    rw [asked] at ran continues
    cases response with
    | operations page =>
      obtain ⟨rfl, rfl⟩ := Session.fail_eq.mp ran
      exact .idle rfl
    | deviceRange rows =>
      obtain ⟨page, member, accepted, repair, repairing, remaining⟩ := continues
      rw [← expected] at remaining
      exact finishRange_proceeds member accepted repairing remaining ran

theorem preparePull_proceeds (ran : engine.preparePull v = (result, v')) :
    Proceeds P engine pages v result v' :=
  nextPage_proceeds ran

theorem Proceeds.invariant (proceeds : Proceeds P engine more v result v')
    (new : more = received ++ pages) (before : PullInvariant P engine ⟨v, issued, pages⟩)
    (fresh : ∀ page ∈ received, page.accepted = true → ∀ row ∈ page.rows, row.after (engine.cursorOf v) = true) :
    PullInvariant P engine ⟨v', pullIssuedBy result ++ issued, more⟩ := by
  subst new
  have subset : pages ⊆ received ++ pages := fun page member => List.mem_append_right _ member
  refine ⟨?_, ?_⟩
  · refine proceeds.accounted ?_
    intro page member accepted row inPage coherent passed
    rcases List.mem_append.mp member with new | old
    · simp [fresh page new accepted row inPage] at passed
    · refine before.accounted page old accepted row inPage ?_ passed
      exact fun other otherIn => coherent other (subset otherIn)
  · intro prepared member
    rcases List.mem_append.mp member with new | old
    · exact proceeds.continues prepared new
    · exact (before.continues prepared old).mono subset

end

/-- The rows of a page that is taken up are all after the cursor. -/
theorem mainPage_fresh (continues : Continues pages prepared) :
    ∀ page ∈ engine.mainPage v prepared response, page.accepted = true → ∀ row ∈ page.rows,
      row.after (engine.cursorOf v) = true := by
  intro page member accepted row inPage
  unfold Continues at continues
  unfold SyncEngine.mainPage at member
  split at member
  · rename_i cursor limit answer asked
    obtain rfl := List.mem_singleton.mp member
    rw [asked] at continues
    simp only [SyncEngine.takesUp, Bool.and_eq_true] at accepted
    rcases checked : engine.checkContinuation prepared v with ⟨result, middle⟩
    obtain ⟨_, current⟩ := checkContinuation_cases checked
    rw [checked] at accepted
    have expected := current (by cases result <;> simp_all [succeeded])
    rw [expected, ← continues]
    cases valid : validatePage cursor answer limit with
    | error code => simp [valid, succeeded] at accepted
    | ok done =>
      simp only [validatePage, ok_iff] at valid
      obtain ⟨_, valid⟩ := valid
      split at valid
      · simp_all
      · exact (require_eq_ok.mp valid).2 row inPage
  · simp at member

end

theorem PullStep.forward {w w' : PullWorld} (step : PullStep P engine w w')
    (before : PullInvariant P engine w) :
    CursorLe (engine.cursorOf w.vault) (engine.cursorOf w'.vault) := by
  cases step with
  | prepare other same ran =>
    have proceeds : Proceeds P other [] _ _ _ := preparePull_proceeds ran
    exact (same.proceeds proceeds).forward
  | finish other same prepared held response material resolver nowMs ran =>
    exact (same.proceeds (finishPull_proceeds (before.continues prepared held) ran)).forward
  | elsewhere kept cursor => exact cursor ▸ .refl _

theorem PullStep.invariant {w w' : PullWorld} (step : PullStep P engine w w')
    (before : PullInvariant P engine w) : PullInvariant P engine w' := by
  cases step with
  | prepare other same ran =>
    exact (same.proceeds (preparePull_proceeds ran)).invariant (List.nil_append _).symm before
      (by simp)
  | finish other same prepared held response material resolver nowMs ran =>
    have continues := before.continues prepared held
    refine (same.proceeds (finishPull_proceeds continues ran)).invariant rfl before ?_
    rw [← same.cursorOf]
    exact mainPage_fresh continues
  | elsewhere kept cursor =>
    exact ⟨before.accounted.keepsCursor kept cursor, before.continues⟩

theorem PullInvariant.run {w w' : PullWorld}
    (run : Relation.ReflTransGen (PullStep P engine) w w') (before : PullInvariant P engine w) :
    PullInvariant P engine w' ∧ CursorLe (engine.cursorOf w.vault) (engine.cursorOf w'.vault) := by
  induction run with
  | refl => exact ⟨before, .refl _⟩
  | tail _ step ih =>
    obtain ⟨invariant, forward⟩ := ih
    exact ⟨step.invariant invariant, forward.trans (step.forward invariant)⟩

theorem PullRun.invariant {w : PullWorld} (run : PullRun P engine w) : PullInvariant P engine w := by
  obtain ⟨start, run⟩ := run
  refine (PullInvariant.run run ⟨?_, ?_⟩).1
  · intro page member
    simp at member
  · simp

/-- In every run of pulls, a row of an accepted main page at or before the stored cursor about
which the accepted pages agree is stored with its exact bytes, quarantined or rejected. The cursor
never goes back, and applying repair rows never moves it. -/
theorem no_received_row_is_lost {w : PullWorld} (run : PullRun P engine w) :
    (∀ page ∈ w.pages, page.accepted = true → ∀ row ∈ page.rows, Coherent w.pages row →
      ∀ cursor, engine.cursorOf w.vault = some cursor → row.cursor.key ≤ cursor.key →
        Accounted P engine w.vault row) ∧
      (∀ w', Relation.ReflTransGen (PullStep P engine) w w' →
        CursorLe (engine.cursorOf w.vault) (engine.cursorOf w'.vault)) ∧
      ∀ material resolver nowMs state device first last rows v,
        (engine.applyRepairRows P material resolver nowMs state device first last rows v).2.cursors =
          v.cursors := by
  refine ⟨?_, ?_, ?_⟩
  · intro page member accepted row inPage coherent cursor stored upTo
    refine run.invariant.accounted page member accepted row inPage coherent ?_
    simpa [stored, ReceivedOperation.after] using upTo
  · intro w' later
    exact (PullInvariant.run later run.invariant).2
  · intro material resolver nowMs state device first last rows v
    exact (applyRepairRows_keeps state device first last rows v _ _ rfl).cursors

namespace Sample

def pullEngine : SyncEngine := .new ⟨account, workspace⟩ .memory

/-- The operation that creates the record, received first. -/
def createdRow : ReceivedOperation :=
  ⟨⟨id 30, id 5, 1, (editWorld 20).writeOperation (created 20)⟩, ⟨"1", id 30⟩⟩

/-- A row behind it that holds no operation. -/
def garbledRow : ReceivedOperation := ⟨⟨id 50, id 6, 1, [0]⟩, ⟨"2", id 50⟩⟩

def pageOf (row : ReceivedOperation) : PullPage := ⟨[row], some row.cursor⟩

/-- The request for the first page. -/
def firstRequest : PreparedPull where
  state := {
    scope := pullEngine.scope
    provider := pullEngine.provider
    maxOperations := pullEngine.maxOperations
    maxBytes := pullEngine.maxBytes
    processed := 0
    processedBytes := 0
    report := .empty
    rows := []
    repair := none
    repairedBlocker := false }
  request := .operations none (min pullEngine.maxOperations maxBatch)
  expectedCursor := none

theorem prepare_first : pullEngine.preparePull Vault.empty =
    (.ok (.request firstRequest), Vault.empty) := rfl

/-- What finishing the first request with a page of one row gives. -/
def finishFirst (devices : List (Fin 256)) (row : ReceivedOperation) :
    Except SafeErrorCode PullProgress × Vault :=
  pullEngine.finishPull (editWorld 20) (Sample.material devices) oneEmbedding 0 firstRequest
    (.operations (pageOf row)) Vault.empty

/-- The first page is requested and answered with one row. -/
def answered (devices : List (Fin 256)) (row : ReceivedOperation) (issued : List PreparedPull)
    (pages : List MainPage) : PullWorld where
  vault := (finishFirst devices row).2
  issued := pullIssuedBy (finishFirst devices row).1 ++ firstRequest :: issued
  pages := pullEngine.mainPage Vault.empty firstRequest (.operations (pageOf row)) ++ pages

theorem answered_vault (devices : List (Fin 256)) (row : ReceivedOperation)
    (issued : List PreparedPull) (pages : List MainPage) :
    (answered devices row issued pages).vault = (finishFirst devices row).2 := rfl

theorem answered_steps (devices : List (Fin 256)) (row : ReceivedOperation)
    (issued : List PreparedPull) (pages : List MainPage) :
    Relation.ReflTransGen (PullStep (editWorld 20) pullEngine) ⟨Vault.empty, issued, pages⟩
      (answered devices row issued pages) := by
  have asked : PullStep (editWorld 20) pullEngine ⟨Vault.empty, issued, pages⟩
      ⟨Vault.empty, firstRequest :: issued, pages⟩ := .prepare pullEngine ⟨rfl, rfl⟩ prepare_first
  refine .tail (.single asked) ?_
  exact .finish pullEngine ⟨rfl, rfl⟩ firstRequest (List.mem_cons_self ..) (.operations (pageOf row))
    (Sample.material devices) oneEmbedding 0 rfl

/-- The record is pulled by a device that trusts its author. -/
def pulledCreated : PullWorld := answered [5, 6] createdRow [] []

/-- The author is not trusted when the row first arrives, and the provider leaves the row out of
the page it sends next. -/
def passedCreated : PullWorld :=
  answered [] garbledRow (answered [] createdRow [] []).issued (answered [] createdRow [] []).pages

theorem untrusted_created : finishFirst [] createdRow = (.error .revoked, Vault.empty) := rfl

theorem pulledCreated_run : PullRun (editWorld 20) pullEngine pulledCreated :=
  ⟨Vault.empty, answered_steps [5, 6] createdRow [] []⟩

theorem passedCreated_run : PullRun (editWorld 20) pullEngine passedCreated := by
  refine ⟨Vault.empty, (answered_steps [] createdRow [] []).trans ?_⟩
  have first : (answered [] createdRow [] []).vault = Vault.empty := congrArg Prod.snd untrusted_created
  have again := answered_steps [] garbledRow (answered [] createdRow [] []).issued
    (answered [] createdRow [] []).pages
  rw [← first] at again
  exact again

theorem pulledCreated_pages : pulledCreated.pages = [⟨none, [createdRow], true⟩] := rfl

theorem passedCreated_pages : passedCreated.pages =
    [⟨none, [garbledRow], true⟩, ⟨none, [createdRow], true⟩] := rfl

theorem admitRow_created (state : PullState) :
    pullEngine.admitRow (editWorld 20) (Sample.material [5, 6]) oneEmbedding 0 createdRow false state
      Vault.empty = (.ok (.next { state with
        report := recordApply state.report (.replaceHeads [])
        processed := state.processed + 1 }), reader 20) := by
  refine Session.bind_eq.mpr (.inl ⟨_, _, Session.look_eq.mpr ⟨rfl, rfl⟩, ?_⟩)
  rw [show createdRow.operation.bytes = (editWorld 20).writeOperation (created 20) from rfl,
    admit_created 20 (.inl rfl)]
  rfl

/-- The state in which the row is admitted: its page is counted and its bytes are reserved. -/
def createdState : PullState :=
  { firstRequest.state with
    report := { SyncCycleReport.empty with pulled := 1 }
    processedBytes := 1 }

/-- The state after it. -/
def takenState : PullState :=
  { createdState with
    report := recordApply createdState.report (.replaceHeads [])
    processed := 1 }


theorem binds_created : validateReceiptBinding createdRow = .ok () := rfl

theorem valid_created : validateReceived (editWorld 20) pullEngine.scope createdRow = .ok () := rfl

theorem takeRow_created :
    pullEngine.takeRow (editWorld 20) (Sample.material [5, 6]) oneEmbedding 0 createdRow false
      { createdState with processedBytes := 0 } Vault.empty =
    pullEngine.admitRow (editWorld 20) (Sample.material [5, 6]) oneEmbedding 0 createdRow false
      createdState Vault.empty := by
  have reserved : reserveBytes 0 createdRow.operation.bytes.length pullEngine.maxBytes = some 1 := rfl
  unfold SyncEngine.takeRow
  rw [if_neg (by decide)]
  simp only [reserved, valid_created, succeeded, Bool.true_eq_false, if_false]
  rfl

theorem pullRow_created :
    pullEngine.pullRow (editWorld 20) (Sample.material [5, 6]) oneEmbedding 0 createdRow []
      { createdState with processedBytes := 0 } Vault.empty =
    (.ok (.next takenState), reader 20) := by
  unfold SyncEngine.pullRow
  rw [binds_created, Session.lift_ok_bind, if_neg (by decide)]
  refine Session.bind_eq.mpr (.inl ⟨none, Vault.empty, rfl, ?_⟩)
  refine Session.bind_eq.mpr (.inl ⟨none, Vault.empty, rfl, ?_⟩)
  exact takeRow_created.trans (admitRow_created createdState)

theorem finish_created : ∃ result, finishFirst [5, 6] createdRow = (result, reader 20) := by
  have valid : validatePage none (pageOf createdRow) (min pullEngine.maxOperations maxBatch) =
      .ok () := rfl
  rcases asked : pullEngine.nextPage takenState (reader 20) with ⟨result, final⟩
  have same : reader 20 = final := by
    unfold SyncEngine.nextPage at asked
    rw [if_neg (by decide)] at asked
    rcases Session.bind_eq.mp asked with ⟨_, _, found, asked⟩ | ⟨_, wrong, _⟩
    · obtain ⟨_, rfl⟩ := Session.look_eq.mp found
      exact (requestPull_ok asked).1
    · exact (Session.look_eq.mp wrong).2
  subst same
  refine ⟨result, Session.bind_eq.mpr (.inl ⟨(), Vault.empty, rfl, ?_⟩)⟩
  change pullEngine.finishPage (editWorld 20) (Sample.material [5, 6]) oneEmbedding 0
    firstRequest.state none (min pullEngine.maxOperations maxBatch) (pageOf createdRow) Vault.empty = _
  unfold SyncEngine.finishPage
  rw [valid, Session.lift_ok_bind, if_neg (by simp [pageOf])]
  have sorted : (pageOf createdRow).rows.insertionSort
      (fun left right => left.cursor.key ≤ right.cursor.key) = [createdRow] := rfl
  rw [sorted]
  simp only [SyncEngine.advancePull]
  refine Session.bind_eq.mpr (.inl ⟨.next takenState, reader 20, ?_, asked⟩)
  exact pullRow_created

theorem reader_cursor : (reader 20).syncCursor workspace .memory = some createdRow.cursor := rfl

theorem pulledCreated_cursor : pullEngine.cursorOf pulledCreated.vault = some createdRow.cursor := by
  obtain ⟨result, finished⟩ := finish_created
  rw [pulledCreated, answered_vault, finished]
  exact reader_cursor

/-- A page of one row agrees with itself. -/
theorem pulledCreated_coherent : Coherent pulledCreated.pages createdRow := by
  rw [pulledCreated_pages]
  simp [Coherent]

theorem passedCreated_unaccounted :
    ¬ Accounted (editWorld 20) pullEngine passedCreated.vault createdRow := by
  rintro (⟨stored, found, _⟩ | ⟨stored, found, _⟩ | ⟨stored, found, _⟩)
  · cases found
  · cases found
  · cases found

end Sample

theorem no_received_row_is_lost_once_pulled :
    PullRun (Sample.editWorld 20) Sample.pullEngine Sample.pulledCreated ∧
      Accounted (Sample.editWorld 20) Sample.pullEngine Sample.pulledCreated.vault
        Sample.createdRow := by
  have member : (⟨none, [Sample.createdRow], true⟩ : MainPage) ∈ Sample.pulledCreated.pages := by
    rw [Sample.pulledCreated_pages]
    exact List.mem_singleton_self _
  exact ⟨Sample.pulledCreated_run, (no_received_row_is_lost Sample.pulledCreated_run).1 _ member
    rfl _ (List.mem_singleton_self _) Sample.pulledCreated_coherent _ Sample.pulledCreated_cursor
    (le_refl _)⟩

/-- A provider that leaves out a row it sent before makes the cursor pass it: the row arrived
in an accepted page, and it is neither stored nor quarantined nor rejected. -/
theorem omitted_row_is_passed :
    PullRun (Sample.editWorld 20) Sample.pullEngine Sample.passedCreated ∧
      (∃ page ∈ Sample.passedCreated.pages, page.accepted = true ∧ Sample.createdRow ∈ page.rows) ∧
      (∃ cursor, Sample.pullEngine.cursorOf Sample.passedCreated.vault = some cursor ∧
        Sample.createdRow.cursor.key ≤ cursor.key) ∧
      ¬ Accounted (Sample.editWorld 20) Sample.pullEngine Sample.passedCreated.vault
        Sample.createdRow := by
  refine ⟨Sample.passedCreated_run, ?_, ⟨⟨"2", Sample.id 50⟩, rfl, by decide⟩,
    Sample.passedCreated_unaccounted⟩
  rw [Sample.passedCreated_pages]
  exact ⟨⟨none, [Sample.createdRow], true⟩, by simp, rfl, by simp⟩

end ContextRelay
