import ContextRelay.SessionOwner

/-! Hosted sessions follow their login generation. A call leaves the owner alone, renews the
generation, starts or ends an operation, or allows a retry; the invariants are proved from these
five kinds of step. -/
namespace ContextRelay.SessionOwner

/-- The owner's state, operations and store are left alone. -/
structure Quiet (world after : World) : Prop where
  state : after.state = world.state
  operations : after.operations = world.operations
  stored : after.stored = world.stored
  attempts : after.attempts ⊆ world.attempts
  canceled : world.canceled ⊆ after.canceled
  allocated : world.allocated ≤ after.allocated
  flags : ∀ flag ∈ after.canceled, flag < after.allocated

/-- A generation that was never current takes the place of the current one, whose flag is set. -/
structure Renewed (world after : World) : Prop where
  operations : after.operations = world.operations
  different : after.state.generation ≠ world.state.generation
  unflagged : after.state.generation ∉ world.canceled
  allocated : after.state.generation < after.allocated
  initialized : after.state.initialized = true
  session : after.state.session = none
  stored : after.stored = world.stored ∨ after.stored = none
  attempts : after.attempts ⊆ insert after.state.generation world.attempts
  begun : after.state.generation ∈ after.attempts → after.state.busy = true
  canceled : insert world.state.generation world.canceled ⊆ after.canceled
  flags : ∀ flag ∈ after.canceled, flag < after.allocated

/-- An operation may start: its login attempt is unused, nothing was loaded yet, or a session can be
refreshed. -/
def Idle (world : World) (kind : Kind) : Prop :=
  kind = .exchange ∧ world.state.generation ∈ world.attempts ∨
    kind = .restore ∧ world.state.initialized = false ∨
    kind = .refresh ∧ world.state.busy = false ∧ world.state.session ≠ none

/-- An operation of the current generation starts. -/
structure Started (world after : World) (kind : Kind) : Prop where
  operations : after.operations = world.operations ++ [⟨world.state.generation, kind, .running⟩]
  idle : Idle world kind
  generation : after.state.generation = world.state.generation
  session : after.state.session = world.state.session
  busy : after.state.busy = true
  initialized : kind ≠ .restore ∧ after.state.initialized = world.state.initialized ∨
    after.state.initialized = true
  attempts : after.attempts ⊆ world.attempts
  spent : kind = .exchange → world.state.generation ∉ after.attempts
  stored : after.stored = world.stored
  canceled : after.canceled = world.canceled
  allocated : after.allocated = world.allocated

/-- The network call of an operation has returned; only one of the current generation changes the
session or the store. -/
structure Ended (world after : World) (number : Nat) (operation : Operation) (progress : Progress) :
    Prop where
  found : world.operations[number]? = some operation
  active : operation.progress = .running
  operations : after.operations = world.operations.set number { operation with progress }
  generation : after.state.generation = world.state.generation
  initialized : after.state.initialized = world.state.initialized
  other : operation.generation ≠ world.state.generation →
    after.state = world.state ∧ after.stored = world.stored
  session : after.state.session = world.state.session ∨ after.state.session = none ∨
    ∃ session, after.state.session = some ⟨number, session⟩
  stored : after.stored = world.stored ∨ after.stored = none ∨
    ∃ login, after.stored = some ⟨some number, login⟩
  again : progress ≠ .running
  restore : progress = .retry → operation.kind = .restore
  retry : progress = .retry → after.state.session = world.state.session
  attempts : after.attempts = world.attempts
  canceled : world.canceled ⊆ after.canceled
  allocated : after.allocated = world.allocated
  added : ∀ flag ∈ after.canceled, flag ∈ world.canceled ∨ flag = operation.generation

/-- A restore that found the network unavailable allows another one, in its own generation only. -/
structure Retried (world after : World) (number : Nat) (operation : Operation) : Prop where
  found : world.operations[number]? = some operation
  due : operation.progress = .retry
  operations : after.operations =
    world.operations.set number { operation with progress := .done }
  state : after.state = if operation.generation = world.state.generation then
    { world.state with initialized := false } else world.state
  stored : after.stored = world.stored
  attempts : after.attempts = world.attempts
  canceled : after.canceled = world.canceled
  allocated : after.allocated = world.allocated

/-- What a call can do to the world. -/
inductive Step (world after : World) : Prop
  | quiet (quiet : Quiet world after)
  | renewed (renewed : Renewed world after)
  | started (kind : Kind) (started : Started world after kind)
  | ended (number : Nat) (operation : Operation) (progress : Progress)
      (ended : Ended world after number operation progress)
  | retried (number : Nat) (operation : Operation) (retried : Retried world after number operation)

/-- The operation belongs to the current generation and has not returned. -/
structure Live (world : World) (number : Nat) (operation : Operation) : Prop where
  found : world.operations[number]? = some operation
  current : operation.generation = world.state.generation
  unreturned : operation.progress ≠ .done

/-- What every run of the owner keeps. -/
structure Inv (world : World) : Prop where
  allocated : world.state.generation < world.allocated
  flags : ∀ flag ∈ world.canceled, flag < world.allocated
  operations : ∀ (number : Nat) (operation : Operation),
    world.operations[number]? = some operation →
      operation.generation = world.state.generation ∨ operation.generation ∈ world.canceled
  attempts : ∀ attempt ∈ world.attempts,
    attempt = world.state.generation ∨ attempt ∈ world.canceled
  attempted : world.state.generation ∈ world.attempts →
    world.state.busy = true ∧ world.state.initialized = true
  session : ∀ shared, world.state.session = some shared → world.state.initialized = true ∧
    ∃ operation : Operation, world.operations[shared.operation]? = some operation ∧
      operation.generation = world.state.generation
  single : ∀ first second a b, Live world first a → Live world second b → first = second
  live : ∀ number operation, Live world number operation →
    world.state.initialized = true ∧ world.state.generation ∉ world.attempts ∧
    (operation.progress = .running → world.state.busy = true) ∧
    (operation.kind = .restore → world.state.session = none) ∧
    (operation.progress = .retry → operation.kind = .restore)

variable {world after : World}

/-! ### Every call is a step -/

@[simp] theorem clear_fields (world : World) (outcome : StoreOutcome) :
    (world.clear outcome).state = world.state ∧
      (world.clear outcome).operations = world.operations ∧
      (world.clear outcome).attempts = world.attempts ∧
      (world.clear outcome).canceled = world.canceled ∧
      (world.clear outcome).allocated = world.allocated := by
  unfold World.clear
  split <;> exact ⟨rfl, rfl, rfl, rfl, rfl⟩

theorem stored_clear (world : World) (outcome : StoreOutcome) :
    (world.clear outcome).stored = world.stored ∨ (world.clear outcome).stored = none := by
  unfold World.clear
  split
  · exact .inr rfl
  · exact .inl rfl

theorem Inv.renewal (inv : Inv world) :
    world.allocated ≠ world.state.generation ∧ world.allocated ∉ world.canceled := by
  refine ⟨inv.allocated.ne', fun member => ?_⟩
  exact absurd (inv.flags _ member) (lt_irrefl _)

theorem Inv.flags_insert (inv : Inv world) :
    ∀ flag ∈ insert world.state.generation world.canceled, flag < world.allocated + 1 := by
  intro flag member
  rcases Finset.mem_insert.mp member with rfl | old
  · exact Nat.lt_succ_of_lt inv.allocated
  · exact Nat.lt_succ_of_lt (inv.flags flag old)

theorem Inv.renewed_invalidate (inv : Inv world) (clear : StoreOutcome) :
    Renewed world ((invalidate world).clear clear) := by
  obtain ⟨state, operations, attempts, canceled, allocated⟩ := clear_fields (invalidate world) clear
  refine ⟨operations, ?_, ?_, ?_, ?_, ?_, stored_clear (invalidate world) clear, ?_, ?_, ?_, ?_⟩
  · rw [state]
    exact inv.renewal.1
  · rw [state]
    exact inv.renewal.2
  · rw [state, allocated]
    exact Nat.lt_succ_self _
  · rw [state]
    rfl
  · rw [state]
    rfl
  · rw [attempts]
    exact Finset.subset_insert _ _
  · rw [attempts, state]
    intro member
    rcases inv.attempts _ member with same | flagged
    · exact absurd same inv.renewal.1
    · exact absurd flagged inv.renewal.2
  · rw [canceled]
    exact subset_rfl
  · rw [canceled, allocated]
    exact inv.flags_insert

/-- Setting the current flag first makes no difference to the renewal, which sets it anyway. -/
theorem invalidate_flagged (world : World) :
    invalidate { world with canceled := insert world.state.generation world.canceled } =
      invalidate world := by
  simp only [invalidate, Finset.insert_idem]

theorem Step.unchanged (inv : Inv world) : Step world world :=
  .quiet ⟨rfl, rfl, rfl, subset_rfl, subset_rfl, le_rfl, inv.flags⟩

theorem Inv.flagged (inv : Inv world) (exists_ : flag < world.allocated) :
    ∀ set ∈ insert flag world.canceled, set < world.allocated := by
  intro set member
  rcases Finset.mem_insert.mp member with rfl | old
  · exact exists_
  · exact inv.flags set old

/-- A reservation that passes the check becomes the generation, whatever the store answers. -/
theorem Inv.renewed_begin (inv : Inv world) (exists_ : cancellation < world.allocated)
    (passed : ¬ (cancellation ∈ world.canceled ∨ cancellation = world.state.generation))
    (clear : StoreOutcome) : Renewed world (beginLoginCancellable world cancellation clear).2 := by
  obtain ⟨unflagged, different⟩ := not_or.mp passed
  have unattempted : cancellation ∉ world.attempts := by
    intro member
    rcases inv.attempts _ member with same | flagged
    · exact different same
    · exact unflagged flagged
  have allocated : cancellation < world.allocated + 1 := Nat.lt_succ_of_lt exists_
  rw [beginLoginCancellable, if_neg passed]
  cases clear with
  | done =>
    exact ⟨rfl, different, unflagged, allocated, rfl, rfl, .inr rfl, subset_rfl, fun _ => rfl,
      subset_rfl, inv.flags_insert⟩
  | failed error known effect =>
    cases effect with
    | true =>
      exact ⟨rfl, different, unflagged, allocated, rfl, rfl, .inr rfl, Finset.subset_insert _ _,
        fun member => absurd member unattempted, subset_rfl, inv.flags_insert⟩
    | false =>
      exact ⟨rfl, different, unflagged, allocated, rfl, rfl, .inl rfl, Finset.subset_insert _ _,
        fun member => absurd member unattempted, subset_rfl, inv.flags_insert⟩

theorem Inv.step_begin (inv : Inv world) (exists_ : cancellation < world.allocated)
    (clear : StoreOutcome) : Step world (beginLoginCancellable world cancellation clear).2 := by
  by_cases refused : cancellation ∈ world.canceled ∨ cancellation = world.state.generation
  · rw [beginLoginCancellable, if_pos refused]
    exact Step.unchanged inv
  · exact .renewed (inv.renewed_begin exists_ refused clear)

theorem Inv.step_complete (inv : Inv world) (member : attempt ∈ world.attempts) :
    Step world (completeLogin world attempt).2 := by
  have fewer : world.attempts.erase attempt ⊆ world.attempts := Finset.erase_subset _ _
  unfold completeLogin
  split
  · exact .quiet ⟨rfl, rfl, rfl, fewer, subset_rfl, le_rfl, inv.flags⟩
  next passed =>
  obtain ⟨busy, _, same⟩ : world.state.busy = true ∧ attempt ∉ world.canceled ∧
      attempt = world.state.generation := by simpa using passed
  subst same
  exact .started .exchange ⟨rfl, .inl ⟨rfl, member⟩, rfl, rfl, busy, .inl ⟨by decide, rfl⟩, fewer,
    fun _ => Finset.notMem_erase _ _, rfl, rfl, rfl⟩

theorem Inv.step_restore (inv : Inv world) (cancellation : Nat) (load : Except LoginError Unit) :
    Step world (restoreCancellable world cancellation load).2 := by
  unfold restoreCancellable
  split
  · exact Step.unchanged inv
  next passed =>
  have closed : world.state.initialized = false := by
    simpa using (not_or.mp passed).1
  cases load with
  | error error => exact Step.unchanged inv
  | ok loaded =>
    exact .started .restore ⟨rfl, .inr (.inl ⟨rfl, closed⟩), rfl, rfl, rfl, .inr rfl, subset_rfl,
      fun impossible => (by cases impossible), rfl, rfl, rfl⟩

theorem Inv.step_refresh (inv : Inv world) (cancellation : Nat) :
    Step world (refreshCancellable world cancellation).2 := by
  unfold refreshCancellable
  split
  · exact Step.unchanged inv
  split
  · exact Step.unchanged inv
  next idle =>
  split
  · exact Step.unchanged inv
  · next shared held =>
    have some : world.state.session ≠ none := by
      rw [held]
      exact Option.some_ne_none _
    exact .started .refresh ⟨rfl, .inr (.inr ⟨rfl, by simpa using idle, some⟩), rfl, rfl, rfl,
      .inl ⟨by decide, rfl⟩, subset_rfl, fun impossible => (by cases impossible), rfl, rfl, rfl⟩

/-- What `finish` does to the world. -/
structure Finished (world : World) (number generation : Nat)
    (ended : Except LoginError (Option HostedIdentity) × World) : Prop where
  operations : ended.2.operations = world.operations
  attempts : ended.2.attempts = world.attempts
  allocated : ended.2.allocated = world.allocated
  current : ended.2.state.generation = world.state.generation
  initialized : ended.2.state.initialized = world.state.initialized
  session : ended.2.state.session = world.state.session ∨ ended.2.state.session = none ∨
    ∃ session, ended.2.state.session = some ⟨number, session⟩
  stored : ended.2.stored = world.stored ∨ ended.2.stored = none ∨
    ∃ login, ended.2.stored = some ⟨some number, login⟩
  canceled : world.canceled ⊆ ended.2.canceled
  added : ∀ flag ∈ ended.2.canceled, flag ∈ world.canceled ∨ flag = generation
  unavailable : ended.1 = .error .unavailable → ended.2.state.session = world.state.session

variable {number generation : Nat}

theorem finished_withdraw (known : error ≠ .unavailable) (world : World) (clear : StoreOutcome) : Finished world number generation (withdraw world error clear) := by
  cases clear with
  | done =>
    exact ⟨rfl, rfl, rfl, rfl, rfl, .inr (.inl rfl), .inr (.inl rfl), subset_rfl, fun _ => .inl,
      fun same => absurd (Except.error.inj same) known⟩
  | failed failure unknown effect =>
    cases effect with
    | true =>
      exact ⟨rfl, rfl, rfl, rfl, rfl, .inr (.inl rfl), .inr (.inl rfl), subset_rfl, fun _ => .inl,
        fun same => absurd (Except.error.inj same) unknown⟩
    | false =>
      exact ⟨rfl, rfl, rfl, rfl, rfl, .inr (.inl rfl), .inl rfl, subset_rfl, fun _ => .inl,
        fun same => absurd (Except.error.inj same) unknown⟩

/-- What is done to the world before `finish` goes on, without touching the session. -/
theorem Finished.of_middle (finished : Finished middle number generation ended)
    (same : middle.operations = world.operations ∧ middle.attempts = world.attempts ∧ middle.allocated = world.allocated ∧ middle.state.generation = world.state.generation ∧ middle.state.initialized = world.state.initialized ∧ middle.state.session = world.state.session)
    (stored : middle.stored = world.stored ∨ ∃ login, middle.stored = some ⟨some number, login⟩)
    (canceled : world.canceled ⊆ middle.canceled)
    (added : ∀ flag ∈ middle.canceled, flag ∈ world.canceled ∨ flag = generation) :
    Finished world number generation ended where
  operations := finished.operations.trans same.1
  attempts := finished.attempts.trans same.2.1
  allocated := finished.allocated.trans same.2.2.1
  current := finished.current.trans same.2.2.2.1
  initialized := finished.initialized.trans same.2.2.2.2.1
  session := same.2.2.2.2.2 ▸ finished.session
  stored := by
    rcases finished.stored with kept | others
    · rcases stored with untouched | saved
      · exact .inl (kept.trans untouched)
      · exact .inr (.inr (kept ▸ saved))
    · exact .inr others
  canceled := canceled.trans finished.canceled
  added := fun flag member => (finished.added flag member).elim (added flag) .inr
  unavailable := fun result => (finished.unavailable result).trans same.2.2.2.2.2

theorem finished_publish (world : World) (session : HostedSession) (met : Surroundings) :
    Finished world number generation (publish world number generation session met) := by
  -- The world once the save has returned and the flag may have been set.
  obtain ⟨middle, isMiddle⟩ : ∃ middle : World, middle =
      if met.withdrawn then
        { world.save ⟨some number, session.storedLogin⟩ met.save with
          canceled := insert generation
            (world.save ⟨some number, session.storedLogin⟩ met.save).canceled }
      else world.save ⟨some number, session.storedLogin⟩ met.save := ⟨_, rfl⟩
  have same : middle.operations = world.operations ∧ middle.attempts = world.attempts ∧
      middle.allocated = world.allocated ∧ middle.state.generation = world.state.generation ∧
      middle.state.initialized = world.state.initialized ∧
      middle.state.session = world.state.session := by
    rw [isMiddle]
    unfold World.save
    split <;> split <;> exact ⟨rfl, rfl, rfl, rfl, rfl, rfl⟩
  have stored : middle.stored = world.stored ∨
      ∃ login, middle.stored = some ⟨some number, login⟩ := by
    rw [isMiddle]
    unfold World.save
    split <;> split
    · exact .inr ⟨_, rfl⟩
    · exact .inl rfl
    · exact .inr ⟨_, rfl⟩
    · exact .inl rfl
  have canceled : middle.canceled = world.canceled ∨
      middle.canceled = insert generation world.canceled := by
    rw [isMiddle]
    unfold World.save
    split <;> split
    · exact .inr rfl
    · exact .inr rfl
    · exact .inl rfl
    · exact .inl rfl
  have added : ∀ flag ∈ middle.canceled, flag ∈ world.canceled ∨ flag = generation := by
    intro flag member
    rcases canceled with unset | set
    · exact .inl (unset ▸ member)
    · rw [set, Finset.mem_insert] at member
      exact member.symm
  have kept : world.canceled ⊆ middle.canceled := by
    rcases canceled with unset | set
    · rw [unset]
    · rw [set]
      exact Finset.subset_insert _ _
  have whole : Finished middle number generation (publish world number generation session met) := by
    unfold publish
    simp only [← isMiddle]
    cases saved : met.save with
    | failed error known effect => exact finished_withdraw known middle met.clear
    | done =>
      simp only [StoreOutcome.result]
      split
      · exact finished_withdraw (by decide) middle met.clear
      split
      · exact finished_withdraw (by decide) middle met.clear
      · exact ⟨rfl, rfl, rfl, rfl, rfl, .inr (.inr ⟨session, rfl⟩), .inl rfl, subset_rfl,
          fun _ => .inl, fun impossible => by cases impossible⟩
  exact whole.of_middle same stored kept added

theorem finished_finish (world : World) (number generation : Nat)
    (result : Except LoginError (Option HostedSession)) (met : Surroundings) :
    Finished world number generation (finish world number generation result met) := by
  have untouched : ∀ outcome,
      Finished { world with state := { world.state with busy := false } } number generation
        (outcome, { world with state := { world.state with busy := false } }) := fun _ =>
    ⟨rfl, rfl, rfl, rfl, rfl, .inl rfl, .inl rfl, subset_rfl, fun _ => .inl, fun _ => rfl⟩
  unfold finish
  split
  · exact ⟨rfl, rfl, rfl, rfl, rfl, .inl rfl, .inl rfl, subset_rfl, fun _ => .inl, fun _ => rfl⟩
  suffices whole : Finished { world with state := { world.state with busy := false } } number
      generation _ from
    whole.of_middle ⟨rfl, rfl, rfl, rfl, rfl, rfl⟩ (.inl rfl) subset_rfl fun _ => .inl
  simp only
  split
  · exact finished_withdraw (by decide) _ met.clear
  · split
    · next error =>
      split
      · next refused =>
        refine finished_withdraw ?_ _ met.clear
        rcases refused with rfl | rfl | rfl <;> decide
      · exact untouched _
    · exact untouched _
    · split
      · exact finished_withdraw (by decide) _ met.clear
      · exact finished_publish _ _ met

section

variable {kind : Kind} {operation : Operation} {progress : Progress}

theorem progressAfter_eq_retry (retry : progressAfter kind outcome = .retry) :
    kind = .restore ∧ outcome = .error .unavailable := by
  unfold progressAfter at retry
  split at retry
  · exact ⟨rfl, rfl⟩
  · cases retry

theorem progressAfter_ne_running (kind : Kind)
    (outcome : Except LoginError (Option HostedIdentity)) :
    progressAfter kind outcome ≠ .running := by
  unfold progressAfter
  split <;> decide

theorem Call.step (call : Call) (inv : Inv world) : Step world (call.after world) := by
  cases call with
  | reserve =>
    exact .quiet ⟨rfl, rfl, rfl, subset_rfl, subset_rfl, Nat.le_succ _,
      fun flag member => Nat.lt_succ_of_lt (inv.flags flag member)⟩
  | cancel flag =>
    simp only [Call.after]
    split
    · next bound =>
      exact .quiet ⟨rfl, rfl, rfl, subset_rfl, Finset.subset_insert _ _, le_rfl,
        inv.flagged bound⟩
    · exact Step.unchanged inv
  | beginLogin cancellation clear =>
    simp only [Call.after]
    split
    · next bound => exact inv.step_begin bound clear
    · exact Step.unchanged inv
  | cancelAttempt cancellation clear =>
    simp only [Call.after]
    split
    · next bound =>
      simp only [SessionOwner.cancelAttempt]
      split
      · exact .quiet ⟨rfl, rfl, rfl, subset_rfl, Finset.subset_insert _ _, le_rfl,
          inv.flagged bound⟩
      · next same =>
        rw [not_not] at same
        subst same
        rw [invalidate_flagged]
        exact .renewed (inv.renewed_invalidate clear)
    · exact Step.unchanged inv
  | completeLogin attempt =>
    simp only [Call.after]
    split
    · next member => exact inv.step_complete member
    · exact Step.unchanged inv
  | restore cancellation load => exact inv.step_restore cancellation load
  | refresh cancellation => exact inv.step_refresh cancellation
  | finish number result met =>
    simp only [Call.after]
    cases found : world.operations[number]? with
    | none => exact Step.unchanged inv
    | some operation =>
      simp only
      split
      · next active =>
        have ended := finished_finish world number operation.generation result met
        refine .ended number operation (progressAfter operation.kind
            (SessionOwner.finish world number operation.generation result met).1)
          ⟨found, active, ?_, ended.current, ended.initialized, ?_, ended.session, ended.stored,
            progressAfter_ne_running _ _, fun retry => (progressAfter_eq_retry retry).1,
            fun retry => ended.unavailable (progressAfter_eq_retry retry).2, ended.attempts,
            ended.canceled, ended.allocated, ended.added⟩
        · simp only [World.settle, ended.operations]
        · intro different
          rw [SessionOwner.finish, if_pos different]
          exact ⟨rfl, rfl⟩
      · exact Step.unchanged inv
  | allowRetry number =>
    simp only [Call.after]
    cases found : world.operations[number]? with
    | none => exact Step.unchanged inv
    | some operation =>
      simp only
      split
      · next due =>
        simp only [SessionOwner.allowRetry]
        split
        · next same =>
          exact .retried number operation
            ⟨found, due, rfl, (if_pos same).symm, rfl, rfl, rfl, rfl⟩
        · next apart =>
          exact .retried number operation
            ⟨found, due, rfl, (if_neg apart).symm, rfl, rfl, rfl, rfl⟩
      · exact Step.unchanged inv
  | suspend => exact .renewed (inv.renewed_invalidate (.failed .credentialStore (by decide) false))
  | logout clear => exact .renewed (inv.renewed_invalidate clear)

/-! ### The invariant -/

theorem Quiet.live (quiet : Quiet world after) (live : Live after number operation) : Live world number operation :=
  ⟨quiet.operations ▸ live.found, live.current.trans (congrArg State.generation quiet.state),
    live.unreturned⟩

theorem Quiet.inv (quiet : Quiet world after) (inv : Inv world) : Inv after where
  allocated := by
    rw [quiet.state]
    exact inv.allocated.trans_le quiet.allocated
  flags := quiet.flags
  operations := by
    rw [quiet.state, quiet.operations]
    exact fun number operation found =>
      (inv.operations number operation found).imp_right fun member => quiet.canceled member
  attempts := by
    rw [quiet.state]
    exact fun attempt member => (inv.attempts attempt (quiet.attempts member)).imp_right
      fun flagged => quiet.canceled flagged
  attempted := by
    rw [quiet.state]
    exact fun member => inv.attempted (quiet.attempts member)
  session := by
    rw [quiet.state, quiet.operations]
    exact inv.session
  single := fun first second a b one two =>
    inv.single first second a b (quiet.live one) (quiet.live two)
  live := by
    intro number operation live
    have before := inv.live number operation (quiet.live live)
    rw [quiet.state]
    exact ⟨before.1, fun member => before.2.1 (quiet.attempts member), before.2.2⟩

/-- No operation belongs to a generation that was never current. -/
theorem Renewed.no_live (renewed : Renewed world after) (inv : Inv world)
    (live : Live after number operation) : False := by
  have found := live.found
  rw [renewed.operations] at found
  rcases inv.operations number operation found with same | flagged
  · exact renewed.different (live.current.symm.trans same)
  · exact renewed.unflagged (live.current ▸ flagged)

theorem Renewed.inv (renewed : Renewed world after) (inv : Inv world) : Inv after where
  allocated := renewed.allocated
  flags := renewed.flags
  operations := by
    intro number operation found
    rw [renewed.operations] at found
    exact .inr (renewed.canceled (Finset.mem_insert.mpr (inv.operations number operation found)))
  attempts := by
    intro attempt member
    rcases Finset.mem_insert.mp (renewed.attempts member) with same | old
    · exact .inl same
    · exact .inr (renewed.canceled (Finset.mem_insert.mpr (inv.attempts attempt old)))
  attempted := fun member => ⟨renewed.begun member, renewed.initialized⟩
  session := by
    rw [renewed.session]
    exact fun _ impossible => by cases impossible
  single := fun _ _ _ _ one _ => (renewed.no_live inv one).elim
  live := fun _ _ live => (renewed.no_live inv live).elim

/-- While an operation may start, none of the current generation is under way. -/
theorem Idle.no_live (idle : Idle world kind) (inv : Inv world)
    (live : Live world number operation) : False := by
  obtain ⟨initialized, unattempted, busy, restoring, retrying⟩ := inv.live number operation live
  rcases idle with ⟨_, attempted⟩ | ⟨_, closed⟩ | ⟨_, free, held⟩
  · exact unattempted attempted
  · rw [initialized] at closed
    cases closed
  · cases progress : operation.progress with
    | running =>
      rw [busy progress] at free
      cases free
    | retry => exact held (restoring (retrying progress))
    | done => exact live.unreturned progress

/-- An operation is an old one or the one that has just started. -/
theorem Started.found (started : Started world after kind)
    (found : after.operations[number]? = some operation) :
    world.operations[number]? = some operation ∨ number = world.operations.length ∧
      operation = ⟨world.state.generation, kind, .running⟩ := by
  rw [started.operations, List.getElem?_append] at found
  split at found
  · exact .inl found
  · rw [List.getElem?_singleton] at found
    split at found
    · exact .inr ⟨by omega, (Option.some.inj found).symm⟩
    · cases found

/-- The operation that has just started is the only live one. -/
theorem Started.only_live (started : Started world after kind) (inv : Inv world)
    (live : Live after number operation) :
    number = world.operations.length ∧
      operation = ⟨world.state.generation, kind, .running⟩ := by
  rcases started.found live.found with before | new
  · exact (started.idle.no_live inv
      ⟨before, live.current.trans started.generation, live.unreturned⟩).elim
  · exact new

theorem Started.initialized_of (started : Started world after kind)
    (ready : kind ≠ .restore → world.state.initialized = true) :
    after.state.initialized = true := by
  rcases started.initialized with ⟨other, same⟩ | done
  · exact same.trans (ready other)
  · exact done

theorem Idle.ready (idle : Idle world kind) (inv : Inv world) (other : kind ≠ .restore) : world.state.initialized = true := by
  rcases idle with ⟨_, attempted⟩ | ⟨restore, _⟩ | ⟨_, _, held⟩
  · exact (inv.attempted attempted).2
  · exact absurd restore other
  · obtain ⟨shared, found⟩ := Option.ne_none_iff_exists'.mp held
    exact (inv.session shared found).1

theorem Started.inv (started : Started world after kind) (inv : Inv world) :
    Inv after := by
  have initialized := started.initialized_of (started.idle.ready inv)
  have generation := started.generation
  refine ⟨?_, ?_, ?_, ?_, ?_, ?_, ?_, ?_⟩
  · rw [generation, started.allocated]
    exact inv.allocated
  · rw [started.canceled, started.allocated]
    exact inv.flags
  · intro number operation found
    rw [generation, started.canceled]
    rcases started.found found with before | ⟨_, rfl⟩
    · exact inv.operations number operation before
    · exact .inl rfl
  · rw [generation, started.canceled]
    exact fun attempt member => inv.attempts attempt (started.attempts member)
  · exact fun _ => ⟨started.busy, initialized⟩
  · intro shared held
    rw [started.session] at held
    obtain ⟨_, operation, found, same⟩ := inv.session shared held
    refine ⟨initialized, operation, ?_, same.trans generation.symm⟩
    rw [started.operations, List.getElem?_append_left (List.getElem?_eq_some_iff.mp found).1, found]
  · intro first second a b one two
    rw [(started.only_live inv one).1, (started.only_live inv two).1]
  · intro number operation live
    obtain ⟨_, rfl⟩ := started.only_live inv live
    rw [generation, started.session]
    refine ⟨initialized, fun member => ?_, fun _ => started.busy, fun restore => ?_,
      fun retry => by cases retry⟩
    · have attempted := inv.attempted (started.attempts member)
      rcases started.idle with ⟨exchange, _⟩ | ⟨_, closed⟩ | ⟨_, free, _⟩
      · exact started.spent exchange member
      · cases attempted.2.symm.trans closed
      · cases attempted.1.symm.trans free
    · rcases started.idle with ⟨exchange, _⟩ | ⟨_, closed⟩ | ⟨refresh, _⟩
      · cases restore.symm.trans exchange
      · rw [Option.eq_none_iff_forall_ne_some]
        intro shared held
        cases (inv.session shared held).1.symm.trans closed
      · cases restore.symm.trans refresh

/-- The operations after one of them has moved on. -/
theorem getElem?_set_operation {operations : List Operation} {moved found : Operation}
    (before : operations[number]? = some operation)
    (after : (operations.set number moved)[place]? = some found) :
    place = number ∧ found = moved ∨ place ≠ number ∧ operations[place]? = some found := by
  rw [List.getElem?_set] at after
  split at after
  · next same =>
    subst same
    rw [if_pos (List.getElem?_eq_some_iff.mp before).1] at after
    exact .inl ⟨rfl, (Option.some.inj after).symm⟩
  · next different => exact .inr ⟨Ne.symm different, after⟩

/-- Moving an operation on keeps its generation. -/
theorem generation_set {operations : List Operation} {number place : Nat} {generation : Nat}
    (before : operations[number]? = some operation)
    (found : ∃ old : Operation, operations[place]? = some old ∧ old.generation = generation) :
    ∃ new : Operation, (operations.set number { operation with progress })[place]? = some new ∧
      new.generation = generation := by
  obtain ⟨old, foundOld, same⟩ := found
  rw [List.getElem?_set]
  split
  · next here =>
    subst here
    obtain rfl := Option.some.inj (before.symm.trans foundOld)
    exact ⟨_, if_pos (List.getElem?_eq_some_iff.mp before).1, same⟩
  · exact ⟨old, foundOld, same⟩

theorem Ended.live_before (ended : Ended world after number operation progress)
    (current : operation.generation = world.state.generation) : Live world number operation :=
  ⟨ended.found, current, by rw [ended.active]; decide⟩

/-- An operation that is live afterwards is the one that ended, now waiting to allow a retry, or was
live before. -/
theorem Ended.live {found : Operation} (ended : Ended world after number operation progress)
    (live : Live after place found) :
    place = number ∧ found = { operation with progress := .retry } ∧ progress = .retry ∧
      Live world number operation ∨ place ≠ number ∧ Live world place found := by
  have foundLive := live.found
  rw [ended.operations] at foundLive
  rcases getElem?_set_operation ended.found foundLive with ⟨rfl, rfl⟩ | ⟨different, old⟩
  · have retry : progress = .retry := by
      cases progress with
      | running => exact absurd rfl ended.again
      | retry => rfl
      | done => exact absurd rfl live.unreturned
    subst retry
    exact .inl ⟨rfl, rfl, rfl, ended.live_before (live.current.trans ended.generation)⟩
  · exact .inr ⟨different, old, live.current.trans ended.generation, live.unreturned⟩

theorem Ended.inv (ended : Ended world after number operation progress) (inv : Inv world) : Inv after := by
  have bound : operation.generation < world.allocated := by
    rcases inv.operations number operation ended.found with same | flagged
    · exact same ▸ inv.allocated
    · exact inv.flags _ flagged
  have generation := ended.generation
  refine ⟨?_, ?_, ?_, ?_, ?_, ?_, ?_, ?_⟩
  · rw [generation, ended.allocated]
    exact inv.allocated
  · rw [ended.allocated]
    exact fun flag member => (ended.added flag member).elim (inv.flags flag)
      fun same => same ▸ bound
  · intro place moved found
    rw [ended.operations] at found
    rw [generation]
    rcases getElem?_set_operation ended.found found with ⟨rfl, rfl⟩ | ⟨_, old⟩
    · exact (inv.operations place operation ended.found).imp_right
        fun flagged => ended.canceled flagged
    · exact (inv.operations place moved old).imp_right fun flagged => ended.canceled flagged
  · rw [generation, ended.attempts]
    exact fun attempt member => (inv.attempts attempt member).imp_right
      fun flagged => ended.canceled flagged
  · intro member
    rw [generation, ended.attempts] at member
    rw [ended.initialized]
    by_cases current : operation.generation = world.state.generation
    · exact absurd member (inv.live number operation (ended.live_before current)).2.1
    · rw [(ended.other current).1]
      exact inv.attempted member
  · intro shared held
    rw [ended.initialized, generation, ended.operations]
    suffices whole : world.state.initialized = true ∧ ∃ old : Operation,
        world.operations[shared.operation]? = some old ∧
          old.generation = world.state.generation from
      ⟨whole.1, generation_set ended.found whole.2⟩
    by_cases current : operation.generation = world.state.generation
    · rcases ended.session with same | none | ⟨own, isOwn⟩
      · exact inv.session shared (same ▸ held)
      · cases none.symm.trans held
      · obtain rfl := Option.some.inj (isOwn.symm.trans held)
        exact ⟨(inv.live number operation (ended.live_before current)).1, operation, ended.found,
          current⟩
    · rw [(ended.other current).1] at held
      exact inv.session shared held
  · intro first second a b one two
    rcases ended.live one with ⟨rfl, _, _, oldOne⟩ | ⟨_, oldOne⟩ <;>
      rcases ended.live two with ⟨rfl, _, _, oldTwo⟩ | ⟨_, oldTwo⟩ <;>
      exact inv.single _ _ _ _ oldOne oldTwo
  · intro place found live
    rw [ended.initialized, generation, ended.attempts]
    rcases ended.live live with ⟨rfl, rfl, retry, old⟩ | ⟨different, old⟩
    · obtain ⟨opened, unattempted, _, restoring, _⟩ := inv.live place operation old
      have restore := ended.restore retry
      refine ⟨opened, unattempted, fun running => (by cases running), fun _ => ?_,
        fun _ => restore⟩
      rw [ended.retry retry]
      exact restoring restore
    · have apart : operation.generation ≠ world.state.generation := fun current =>
        different (inv.single place number found operation old (ended.live_before current))
      rw [(ended.other apart).1]
      exact inv.live place found old

theorem Retried.live {found : Operation} (retried : Retried world after number operation)
    (live : Live after place found) : place ≠ number ∧ Live world place found := by
  have generation : after.state.generation = world.state.generation := by
    rw [retried.state]
    split <;> rfl
  have foundLive := live.found
  rw [retried.operations] at foundLive
  rcases getElem?_set_operation retried.found foundLive with ⟨_, rfl⟩ | ⟨different, old⟩
  · exact absurd rfl live.unreturned
  · exact ⟨different, old, live.current.trans generation, live.unreturned⟩

theorem Retried.live_before (retried : Retried world after number operation)
    (current : operation.generation = world.state.generation) : Live world number operation :=
  ⟨retried.found, current, by rw [retried.due]; decide⟩

theorem Retried.inv (retried : Retried world after number operation) (inv : Inv world) : Inv after := by
  have generation : after.state.generation = world.state.generation := by
    rw [retried.state]
    split <;> rfl
  refine ⟨?_, ?_, ?_, ?_, ?_, ?_, ?_, ?_⟩
  · rw [generation, retried.allocated]
    exact inv.allocated
  · rw [retried.canceled, retried.allocated]
    exact inv.flags
  · intro place moved found
    rw [retried.operations] at found
    rw [generation, retried.canceled]
    rcases getElem?_set_operation retried.found found with ⟨rfl, rfl⟩ | ⟨_, old⟩
    · exact inv.operations place operation retried.found
    · exact inv.operations place moved old
  · rw [generation, retried.attempts, retried.canceled]
    exact inv.attempts
  · rw [generation, retried.attempts, retried.state]
    intro member
    by_cases current : operation.generation = world.state.generation
    · exact absurd member (inv.live number operation (retried.live_before current)).2.1
    · rw [if_neg current]
      exact inv.attempted member
  · intro shared held
    rw [generation, retried.operations]
    rw [retried.state] at held ⊢
    by_cases current : operation.generation = world.state.generation
    · obtain ⟨_, _, _, restoring, retrying⟩ :=
        inv.live number operation (retried.live_before current)
      rw [if_pos current] at held
      cases (restoring (retrying retried.due)).symm.trans held
    · rw [if_neg current] at held ⊢
      obtain ⟨opened, source⟩ := inv.session shared held
      exact ⟨opened, generation_set retried.found source⟩
  · exact fun first second a b one two =>
      inv.single first second a b (retried.live one).2 (retried.live two).2
  · intro place found live
    obtain ⟨different, old⟩ := retried.live live
    have apart : operation.generation ≠ world.state.generation := fun current =>
      different (inv.single place number found operation old (retried.live_before current))
    rw [retried.attempts, retried.state, if_neg apart]
    exact inv.live place found old

theorem Step.inv (step : Step world after) (inv : Inv world) : Inv after := by
  cases step with
  | quiet quiet => exact quiet.inv inv
  | renewed renewed => exact renewed.inv inv
  | started kind started => exact started.inv inv
  | ended number operation progress ended => exact ended.inv inv
  | retried number operation retried => exact retried.inv inv

theorem inv_initial (stored : Option StoredLogin) : Inv (World.initial stored) where
  allocated := Nat.zero_lt_one
  flags := by simp [World.initial]
  operations := by simp [World.initial]
  attempts := by simp [World.initial]
  attempted := by simp [World.initial]
  session := by simp [World.initial]
  single := fun _ _ _ _ one => by simpa [World.initial] using one.found
  live := fun _ _ live => by simpa [World.initial] using live.found

/-- A property that every step keeps holds to the end of a run. -/
theorem kept_by_run {kept : World → Prop}
    (step : ∀ world after, Inv world → Step world after → kept world → kept after)
    (calls : List Call) (inv : Inv world) (start : kept world) :
    kept (calls.foldl Call.after world) ∧ Inv (calls.foldl Call.after world) := by
  induction calls generalizing world with
  | nil => exact ⟨start, inv⟩
  | cons call calls ih =>
    have taken := call.step inv
    exact ih (taken.inv inv) (step _ _ inv taken start)

theorem inv_run (stored : Option StoredLogin) (calls : List Call) : Inv (run stored calls) :=
  (kept_by_run (fun _ _ _ _ (done : True) => done) calls (inv_initial stored) trivial).2

/-! ### Stored credentials -/

/-- Nothing can be loaded any more: a restore is refused, and none is under way that could allow
another. -/
structure Closed (world : World) : Prop where
  initialized : world.state.initialized = true
  restores : ∀ number operation, Live world number operation → operation.kind ≠ .restore

theorem Renewed.closed (renewed : Renewed world after) (inv : Inv world) : Closed after :=
  ⟨renewed.initialized, fun _ _ live => (renewed.no_live inv live).elim⟩

theorem Step.closed (step : Step world after) (inv : Inv world) (closed : Closed world) :
    Closed after := by
  cases step with
  | quiet quiet =>
    exact ⟨quiet.state ▸ closed.initialized, fun number operation live =>
      closed.restores number operation (quiet.live live)⟩
  | renewed renewed => exact renewed.closed inv
  | started kind started =>
    have other : kind ≠ .restore := by
      rintro rfl
      rcases started.idle with ⟨impossible, _⟩ | ⟨_, reopened⟩ | ⟨impossible, _⟩
      · cases impossible
      · cases closed.initialized.symm.trans reopened
      · cases impossible
    refine ⟨started.initialized_of fun _ => closed.initialized, fun number operation live => ?_⟩
    obtain ⟨_, rfl⟩ := started.only_live inv live
    exact other
  | ended number operation progress ended =>
    refine ⟨ended.initialized.trans closed.initialized, fun place found live => ?_⟩
    rcases ended.live live with ⟨rfl, rfl, _, old⟩ | ⟨_, old⟩
    · exact closed.restores place operation old
    · exact closed.restores place found old
  | retried number operation retried =>
    have apart : operation.generation ≠ world.state.generation := fun current =>
      have live := retried.live_before current
      closed.restores number operation live
        ((inv.live number operation live).2.2.2.2 retried.due)
    refine ⟨?_, fun place found live => closed.restores place found (retried.live live).2⟩
    rw [retried.state, if_neg apart]
    exact closed.initialized

/-- Only operations from the given one on have saved what the store holds, or can still save. -/
structure SavedFrom (first : Nat) (world : World) : Prop where
  stored : ∀ credential, world.stored = some credential →
    ∃ number, credential.operation = some number ∧ first ≤ number
  live : ∀ number operation, Live world number operation → first ≤ number
  counted : first ≤ world.operations.length

theorem Renewed.savedFrom (renewed : Renewed world after) (inv : Inv world)
    (cleared : after.stored = none) : SavedFrom world.operations.length after where
  stored := by
    rw [cleared]
    exact fun _ impossible => by cases impossible
  live := fun _ _ live => (renewed.no_live inv live).elim
  counted := renewed.operations ▸ le_rfl

theorem Step.savedFrom {first : Nat} (step : Step world after) (inv : Inv world)
    (saved : SavedFrom first world) : SavedFrom first after := by
  cases step with
  | quiet quiet =>
    exact ⟨quiet.stored ▸ saved.stored, fun number operation live =>
      saved.live number operation (quiet.live live), quiet.operations ▸ saved.counted⟩
  | renewed renewed =>
    refine ⟨?_, fun _ _ live => (renewed.no_live inv live).elim, renewed.operations ▸ saved.counted⟩
    rcases renewed.stored with same | cleared
    · exact same ▸ saved.stored
    · exact fun _ held => by cases cleared.symm.trans held
  | started kind started =>
    refine ⟨started.stored ▸ saved.stored, fun number operation live => ?_, ?_⟩
    · rw [(started.only_live inv live).1]
      exact saved.counted
    · rw [started.operations, List.length_append]
      exact saved.counted.trans (Nat.le_add_right _ _)
  | ended number operation progress ended =>
    refine ⟨fun credential held => ?_, fun place found live => ?_, ?_⟩
    · by_cases current : operation.generation = world.state.generation
      · rcases ended.stored with same | none | ⟨login, own⟩
        · exact saved.stored credential (same ▸ held)
        · cases none.symm.trans held
        · obtain rfl := Option.some.inj (own.symm.trans held)
          exact ⟨number, rfl, saved.live number operation (ended.live_before current)⟩
      · exact saved.stored credential ((ended.other current).2 ▸ held)
    · rcases ended.live live with ⟨rfl, _, _, old⟩ | ⟨_, old⟩
      · exact saved.live place operation old
      · exact saved.live place found old
    · rw [ended.operations, List.length_set]
      exact saved.counted
  | retried number operation retried =>
    refine ⟨retried.stored ▸ saved.stored, fun place found live =>
      saved.live place found (retried.live live).2, ?_⟩
    rw [retried.operations, List.length_set]
    exact saved.counted

/-! ### Sessions follow their generation -/

/-- The operation that obtained the session was started in the generation that is current, and this
generation is not withdrawn. -/
def StartedNow (world : World) (shared : SharedSession) : Prop :=
  world.state.generation ∉ world.canceled ∧ ∃ operation : Operation,
    world.operations[shared.operation]? = some operation ∧
      operation.generation = world.state.generation

/-- The call makes the store forget its credential. -/
def Call.Clears (world : World) : Call → Prop
  | .beginLogin cancellation clear => cancellation < world.allocated ∧
    (beginLoginCancellable world cancellation clear).1 = .ok ()
  | .cancelAttempt cancellation clear => cancellation < world.allocated ∧
    (SessionOwner.cancelAttempt world cancellation clear).1 = .ok ()
  | .logout clear => (SessionOwner.logout world clear).1 = .ok ()
  | _ => False

/-- The call is a login that is not refused, a logout, a suspension, or the end of an operation
whose save fails. -/
def Call.Closes (world : World) : Call → Prop
  | .beginLogin cancellation _ => cancellation < world.allocated ∧
    ¬ (cancellation ∈ world.canceled ∨ cancellation = world.state.generation)
  | .logout _ | .suspend => True
  | .finish number result met => ∃ (operation : Operation) (session : HostedSession),
    world.operations[number]? = some operation ∧ operation.progress = .running ∧
    operation.generation = world.state.generation ∧ operation.generation ∉ world.canceled ∧
    result = .ok (some session) ∧ met.beforeSave < session.expiresAt ∧ met.save.result ≠ .ok ()
  | _ => False

/-- A successful deletion leaves nothing in the store of the new generation. -/
theorem Call.Clears.renewed {call : Call} (clears : call.Clears world) (inv : Inv world) :
    Renewed world (call.after world) ∧ (call.after world).stored = none := by
  cases call with
  | beginLogin cancellation clear =>
    obtain ⟨exists_, done⟩ := clears
    have passed : ¬ (cancellation ∈ world.canceled ∨ cancellation = world.state.generation) := by
      intro refused
      rw [beginLoginCancellable, if_pos refused] at done
      cases done
    simp only [Call.after, if_pos exists_]
    refine ⟨inv.renewed_begin exists_ passed clear, ?_⟩
    rw [beginLoginCancellable, if_neg passed] at done ⊢
    cases clear with
    | done => rfl
    | failed error known effect => cases done
  | cancelAttempt cancellation clear =>
    obtain ⟨exists_, done⟩ := clears
    have current : cancellation = world.state.generation := by
      by_contra different
      rw [SessionOwner.cancelAttempt, if_pos different] at done
      cases done
    subst current
    simp only [Call.after, if_pos exists_]
    rw [SessionOwner.cancelAttempt, if_neg (not_not.mpr rfl)] at done ⊢
    rw [invalidate_flagged]
    refine ⟨inv.renewed_invalidate clear, ?_⟩
    cases clear with
    | done => rfl
    | failed error known effect => cases done
  | logout clear =>
    refine ⟨inv.renewed_invalidate clear, ?_⟩
    cases clear with
    | done => rfl
    | failed error known effect => cases clears
  | reserve | cancel | completeLogin | restore | refresh | finish | allowRetry | suspend =>
    exact clears.elim

/-- An operation whose save fails returns without allowing a retry. -/
theorem finish_of_failed_save (current : operation.generation = world.state.generation)
    (unflagged : operation.generation ∉ world.canceled)
    (unexpired : met.beforeSave < session.expiresAt) (failed : met.save.result ≠ .ok ()) :
    (finish world number operation.generation (.ok (some session)) met).1 ≠
      .error .unavailable := by
  have withdrawn : ∀ (world : World) (error : LoginError), error ≠ .unavailable →
      (withdraw world error met.clear).1 ≠ .error .unavailable := by
    intro world error known
    unfold withdraw
    cases met.clear with
    | done => exact fun same => known (Except.error.inj same)
    | failed failure unknown effect => exact fun same => unknown (Except.error.inj same)
  rw [finish, if_neg (not_not.mpr current)]
  simp only [if_neg unflagged, if_neg (Nat.not_le.mpr unexpired), publish]
  cases saved : met.save with
  | done =>
    rw [saved] at failed
    exact absurd rfl failed
  | failed error known effect => exact withdrawn _ error known

end

theorem Call.Closes.closed {call : Call} (closes : call.Closes world) (inv : Inv world) :
    Closed (call.after world) := by
  cases call with
  | beginLogin cancellation clear =>
    simp only [Call.after, if_pos closes.1]
    exact (inv.renewed_begin closes.1 closes.2 clear).closed inv
  | logout clear => exact (inv.renewed_invalidate clear).closed inv
  | suspend =>
    exact (inv.renewed_invalidate (.failed .credentialStore (by decide) false)).closed inv
  | finish number result met =>
    obtain ⟨operation, session, found, active, current, unflagged, rfl, unexpired, failed⟩ := closes
    have ended := finished_finish world number operation.generation (.ok (some session)) met
    have mine : Live world number operation := ⟨found, current, by rw [active]; decide⟩
    have returned : progressAfter operation.kind
        (SessionOwner.finish world number operation.generation (.ok (some session)) met).1 =
          .done := by
      cases progress : progressAfter operation.kind (SessionOwner.finish world number
          operation.generation (.ok (some session)) met).1 with
      | running => exact absurd progress (progressAfter_ne_running _ _)
      | retry =>
        exact absurd (progressAfter_eq_retry progress).2
          (finish_of_failed_save current unflagged unexpired failed)
      | done => rfl
    simp only [Call.after, found, if_pos active, returned]
    refine ⟨ended.initialized.trans (inv.live number operation mine).1, ?_⟩
    -- The operation that has returned was the only live one.
    intro place other live
    have foundOther := live.found
    simp only [World.settle, ended.operations] at foundOther
    rcases getElem?_set_operation found foundOther with ⟨_, rfl⟩ | ⟨different, old⟩
    · exact absurd rfl live.unreturned
    · exact absurd (inv.single place number other operation
        ⟨old, live.current.trans ended.current, live.unreturned⟩ mine) different
  | reserve | cancel | cancelAttempt | completeLogin | restore | refresh | allowRetry =>
    exact closes.elim

theorem StartedNow.of_active (inv : Inv world)
    (found : activeSession world now instant = some shared) : StartedNow world shared := by
  unfold activeSession at found
  split at found
  · cases found
  · next passed =>
    have held := (Option.filter_eq_some_iff.mp found).1
    exact ⟨(not_or.mp passed).1, (inv.session shared held).2⟩

/-- What the login generation guarantees from a point of a run on. -/
structure FollowsGeneration (stored : Option StoredLogin) (calls : List Call) : Prop where
  current : ∀ now instant shared,
    currentSession (run stored calls) now instant = some shared →
      StartedNow (run stored calls) shared
  resolved : ∀ cancellation identity now instant shared,
    sessionFor (run stored calls) cancellation identity now instant = .ok shared →
      StartedNow (run stored calls) shared
  single : ∀ first second a b, Live (run stored calls) first a → Live (run stored calls) second b →
    first = second
  cleared : ∀ (call : Call) (more : List Call), call.Clears (run stored calls) →
    ∀ credential, (run stored (calls ++ call :: more)).stored = some credential →
      ∃ number, credential.operation = some number ∧
        (run stored calls).operations.length ≤ number
  closed : ∀ (call : Call) (more : List Call), call.Closes (run stored calls) →
    ∀ cancellation load, restoreCancellable (run stored (calls ++ call :: more)) cancellation load =
      (.error .canceled, run stored (calls ++ call :: more))

/-- In every run, sessions are handed out only in the generation in which they were obtained, one
operation at a time can publish, a deleted credential is never saved again by an operation that
started before, and no credential is loaded after a login, a logout, a suspension or a failed
save. -/
theorem sessions_follow_generation (stored : Option StoredLogin) (calls : List Call) :
    FollowsGeneration stored calls where
  current := fun _ _ _ found => StartedNow.of_active (inv_run stored calls) found
  resolved := by
    intro cancellation identity now instant shared found
    unfold sessionFor at found
    split at found
    · cases found
    · split at found
      · cases found
      · next active isActive =>
        split at found
        · cases found
        · obtain rfl := Except.ok.inj found
          exact StartedNow.of_active (inv_run stored calls) isActive
  single := (inv_run stored calls).single
  cleared := by
    intro call more clears credential held
    have inv := inv_run stored calls
    obtain ⟨renewed, emptied⟩ := clears.renewed inv
    rw [run_append] at held
    exact (kept_by_run (fun _ _ inv step saved => step.savedFrom inv saved) more (renewed.inv inv)
      (renewed.savedFrom inv emptied)).1.stored credential held
  closed := by
    intro call more closes cancellation load
    have inv := inv_run stored calls
    have closed := (kept_by_run (fun _ _ inv step closed => step.closed inv closed) more
      ((call.step inv).inv inv) (closes.closed inv)).1
    rw [run_append]
    exact if_pos (.inl closed.initialized)

end ContextRelay.SessionOwner
