import ContextRelay.RequestRegistry
import ContextRelay.Effects

/-! Cancellation of local requests over whole runs of the registry. Two runs that differ by one
cancel are compared call by call, for one other id: as long as no call evicts the marker of that
id, they agree on its marker and on its requests. -/
namespace ContextRelay.RequestRegistry
open ContextRelay.Library Expiring RequestState

variable {world : World} {id : RecordId} {now number : Nat}

/-! ### Cancels of other ids -/

/-- The time after a call, when it was the given time before. -/
def Call.clock (clock : Nat) (call : Call) : Nat := call.time?.getD clock

/-- Time does not run backwards in the calls. -/
def Nondecreasing (clock : Nat) : List Call → Prop
  | [] => True
  | call :: calls => clock ≤ call.clock clock ∧ Nondecreasing (call.clock clock) calls

/-- A cancel that drops the waiting marker of the id from a full registry. -/
def Evicts (id : RecordId) (world : World) : Call → Prop
  | .cancel other now => holds id (removeExpired now world.registry.earlyCancels) = true ∧
      holds id (cancelAt world other now).registry.earlyCancels = false
  | _ => False

/-- No call evicts the marker of the id. -/
def Spared (id : RecordId) (world : World) : List Call → Prop
  | [] => True
  | call :: calls => ¬ Evicts id world call ∧ Spared id (call.after world) calls

/-- Markers stand in the order of their times, none of them later than the clock allows. -/
def Stamped (ttl clock : Nat) (entries : List (Expiring RecordId)) : Prop :=
  Expiring.InOrder entries ∧ ∀ entry ∈ entries, entry.expiresAt ≤ clock + ttl

theorem Stamped.sublist (stamped : Stamped ttl clock entries) (kept : fewer.Sublist entries)
    (ordered : clock ≤ later) : Stamped ttl later fewer := by
  refine ⟨stamped.1.sublist kept, fun entry member => ?_⟩
  have := stamped.2 entry (kept.subset member)
  omega

theorem Stamped.push (stamped : Stamped ttl clock entries) (capacity : Nat) (id : RecordId) :
    Stamped ttl clock (pushBounded capacity ⟨id, clock + ttl⟩ entries) := by
  have shorter : (if entries.length = capacity then entries.tail else entries).Sublist entries := by
    split
    · exact List.tail_sublist entries
    · exact .refl entries
  obtain ⟨ordered, bounded⟩ := stamped.sublist shorter le_rfl
  refine ⟨List.pairwise_append.mpr ⟨ordered, List.pairwise_singleton _ _, ?_⟩, ?_⟩
  · intro old member new isNew
    rw [List.mem_singleton.mp isNew]
    exact bounded old member
  · intro entry member
    rcases List.mem_append.mp member with old | new
    · exact bounded entry old
    · rw [List.mem_singleton.mp new]

/-- Both queues are stamped. -/
structure Timely (clock : Nat) (world : World) : Prop where
  cancels : Stamped earlyCancelTtl clock world.registry.earlyCancels
  completions : Stamped recentCompletionTtl clock world.registry.recentCompletions

variable {clock : Nat}

theorem Timely.expire (timely : Timely clock world) (ordered : clock ≤ now) :
    Stamped earlyCancelTtl now (removeExpired now world.registry.earlyCancels) ∧
      Stamped recentCompletionTtl now
        (removeExpired now world.registry.recentCompletions) :=
  ⟨timely.cancels.sublist (removeExpired_sublist now _) ordered,
    timely.completions.sublist (removeExpired_sublist now _) ordered⟩

theorem Call.timely (call : Call) (timely : Timely clock world)
    (ordered : clock ≤ call.clock clock) : Timely (call.clock clock) (call.after world) := by
  cases call with
  | register id now =>
    obtain ⟨cancels, completions⟩ := timely.expire ordered
    rcases registerAt_cases world id now with ⟨_, _, ran⟩ | ⟨_, ran⟩
    · rw [after, ran]
      exact ⟨cancels, completions⟩
    · rw [after, ran]
      exact ⟨cancels.sublist (removeKey_sublist id _) le_rfl,
        completions.sublist (removeKey_sublist id _) le_rfl⟩
  | cancel id now =>
    obtain ⟨cancels, completions⟩ := timely.expire ordered
    rcases cancelAt_cases world id now with ⟨_, _, ran⟩ | ⟨_, _, ran⟩ | ⟨_, _, _, ran⟩
    · rw [after, ran]
      exact ⟨cancels, completions⟩
    · rw [after, ran]
      exact ⟨cancels, completions⟩
    · rw [after, ran]
      exact ⟨cancels.push _ id, completions⟩
  | begin number => exact ⟨timely.cancels, timely.completions⟩
  | release number => exact ⟨timely.cancels, timely.completions⟩
  | complete number now =>
    obtain ⟨cancels, completions⟩ := timely.expire ordered
    rcases complete_cases world number now with ran | ⟨done, _, _, _, ran⟩
    · rw [after, ran]
      exact ⟨timely.cancels.sublist (.refl _) ordered, timely.completions.sublist (.refl _) ordered⟩
    · rw [after, ran]
      exact ⟨cancels,
        (completions.sublist (removeKey_sublist done.id _) le_rfl).push _ done.id⟩

theorem timely_run (timely : Timely clock world) (ordered : Nondecreasing clock calls) :
    ∃ later, Timely later (afterCalls world calls) ∧
      ∀ more, Nondecreasing clock (calls ++ more) → Nondecreasing later more := by
  induction calls generalizing world clock with
  | nil => exact ⟨clock, timely, fun _ all => all⟩
  | cons call calls ih =>
    obtain ⟨later, reached, rest⟩ := ih (call.timely timely ordered.1) ordered.2
    exact ⟨later, reached, fun more all => rest more all.2⟩

theorem nondecreasing_left (ordered : Nondecreasing clock (first ++ second)) : Nondecreasing clock first := by
  induction first generalizing clock with
  | nil => trivial
  | cons call calls ih => exact ⟨ordered.1, ih ordered.2⟩

/-- The state of a request with its phase hidden, when it has another id and is not complete. -/
def RequestState.blur (id : RecordId) (state : RequestState) : RequestState :=
  if state.id ≠ id ∧ state.phase ≠ .complete then { state with phase := .queued } else state

theorem RequestState.blur_eq_blur {left right : RequestState} :
    left.blur id = right.blur id ↔ left.id = right.id ∧
      (left.phase = .complete ↔ right.phase = .complete) ∧
      (left.id = id → left.phase = right.phase) := by
  obtain ⟨leftId, leftPhase⟩ := left
  obtain ⟨rightId, rightPhase⟩ := right
  simp only [blur]
  by_cases same : leftId = rightId
  · subst same
    by_cases shown : leftId = id <;> cases leftPhase <;> cases rightPhase <;> simp [shown]
  · by_cases shown : leftId = id <;> by_cases shownRight : rightId = id <;>
      cases leftPhase <;> cases rightPhase <;> simp_all

/-- Two worlds that agree, from the given time on, on the id's own marker and its own requests, and
on everything that markers do not touch. -/
structure Alike (id : RecordId) (clock : Nat) (left right : World) : Prop where
  requests : left.registry.requests = right.registry.requests
  completions : Expiring.removeExpired clock left.registry.recentCompletions =
    Expiring.removeExpired clock right.registry.recentCompletions
  cancels : (Expiring.removeExpired clock left.registry.earlyCancels).filter (·.key = id) =
    (Expiring.removeExpired clock right.registry.earlyCancels).filter (·.key = id)
  states : left.states.map (RequestState.blur id) = right.states.map (RequestState.blur id)

variable {left right : World}

/-- Alike worlds stay alike as time passes. -/
theorem Alike.pass (alike : Alike id clock left right) (leftTimely : Timely clock left)
    (rightTimely : Timely clock right) (passed : clock ≤ now) : Alike id now left right where
  requests := alike.requests
  completions := by
    have := filter_removeExpired leftTimely.completions.1 passed fun _ => true
    have other := filter_removeExpired rightTimely.completions.1 passed fun _ => true
    rw [alike.completions] at this
    simpa only [List.filter_true] using this.trans other.symm
  cancels := by
    rw [filter_removeExpired leftTimely.cancels.1 passed, alike.cancels,
      ← filter_removeExpired rightTimely.cancels.1 passed]
  states := alike.states

/-- The registrations with the same number in alike worlds. -/
theorem Alike.state {state : RequestState} (alike : Alike id clock left right)
    (found : left.states[number]? = some state) :
    ∃ twin : RequestState, right.states[number]? = some twin ∧ state.blur id = twin.blur id := by
  have blurred := congrArg (·[number]?) alike.states
  simp only [List.getElem?_map, found, Option.map_some] at blurred
  obtain ⟨twin, foundTwin, same⟩ := Option.map_eq_some_iff.mp blurred.symm
  exact ⟨twin, foundTwin, same.symm⟩

theorem map_blur_modify {left right : List RequestState}
    (alike : left.map (blur id) = right.map (blur id))
    (keeps : ∀ state twin : RequestState, state.blur id = twin.blur id → (change state).blur id = (change twin).blur id)
    (number : Nat) :
    (left.modify number change).map (blur id) =
      (right.modify number change).map (blur id) := by
  refine List.ext_getElem? fun place => ?_
  have blurred := congrArg (·[place]?) alike
  simp only [List.getElem?_map, List.getElem?_modify] at blurred ⊢
  cases foundLeft : left[place]? with
  | none =>
    rw [foundLeft] at blurred
    rw [Option.map_eq_none_iff.mp blurred.symm]
  | some state =>
    rw [foundLeft] at blurred
    obtain ⟨twin, foundRight, same⟩ := Option.map_eq_some_iff.mp blurred.symm
    rw [foundRight]
    by_cases here : number = place
    · simpa [here] using keeps state twin same.symm
    · simpa [here] using same.symm

theorem map_blur_exchange {left right : List RequestState}
    (alike : left.map (blur id) = right.map (blur id))
    (unfinished : stored ≠ .complete) (number : Nat) :
    (exchange .queued stored number left).map (blur id) =
      (exchange .queued stored number right).map (blur id) := by
  refine map_blur_modify alike (fun state twin same => ?_) number
  obtain ⟨sameId, finished, visible⟩ := blur_eq_blur.mp same
  rw [blur_eq_blur]
  by_cases shown : state.id = id
  · rw [visible shown]
    split <;> exact ⟨sameId, by simp [visible shown], fun _ => by simp [visible shown]⟩
  · refine ⟨?_, ?_, fun own => absurd ?_ shown⟩
    · split <;> split <;> exact sameId
    · split <;> split <;> simp_all
    · split at own <;> exact own

theorem Alike.holds (alike : Alike id now left right) :
    holds id (removeExpired now left.registry.earlyCancels) =
      holds id (removeExpired now right.registry.earlyCancels) := by
  rw [← holds_filter, alike.cancels, holds_filter]

/-- Removing what has expired changes nothing that is compared. -/
theorem Alike.expire (alike : Alike id now left right)
    (states : leftStates.map (blur id) = rightStates.map (blur id))
    (leftTimely : Timely now left) (rightTimely : Timely now right) :
    Alike id now ⟨left.registry.removeExpired now, leftStates⟩
      ⟨right.registry.removeExpired now, rightStates⟩ where
  requests := alike.requests
  completions := by
    simp only [RegistryState.removeExpired]
    rw [alike.completions]
  cancels := by
    simp only [RegistryState.removeExpired]
    rw [removeExpired_of_live (removeExpired_live leftTimely.cancels.1 now),
      removeExpired_of_live (removeExpired_live rightTimely.cancels.1 now),
      alike.cancels]
  states := states

theorem Alike.register (alike : Alike id now left right) (leftTimely : Timely now left)
    (rightTimely : Timely now right) (other : RecordId) :
    Alike id now (registerAt left other now).2 (registerAt right other now).2 := by
  have counted : left.states.length = right.states.length := by
    simpa only [List.length_map] using congrArg List.length alike.states
  rcases registerAt_cases left other now with ⟨taken, found, ran⟩ | ⟨free, ran⟩
  · rcases registerAt_cases right other now with ⟨_, _, ranRight⟩ | ⟨freeRight, _⟩
    · rw [ran, ranRight]
      exact alike.expire alike.states leftTimely rightTimely
    · rw [← alike.requests, found] at freeRight
      cases freeRight
  · rcases registerAt_cases right other now with ⟨_, foundRight, _⟩ | ⟨_, ranRight⟩
    · rw [← alike.requests, free] at foundRight
      cases foundRight
    rw [ran, ranRight]
    have leftLive := Expiring.removeExpired_live leftTimely.cancels.1 now
    have rightLive := Expiring.removeExpired_live rightTimely.cancels.1 now
    refine ⟨?_, ?_, ?_, ?_⟩
    · simp only [alike.requests, counted]
    · simp only [alike.completions]
    · simp only
      rw [Expiring.removeExpired_of_live fun entry member =>
          leftLive entry ((Expiring.removeKey_sublist other _).subset member),
        Expiring.removeExpired_of_live fun entry member =>
          rightLive entry ((Expiring.removeKey_sublist other _).subset member),
        Expiring.filter_removeKey, Expiring.filter_removeKey, alike.cancels]
    · rw [List.map_append, List.map_append, alike.states]
      congr 1
      rw [List.map_singleton, List.map_singleton, List.singleton_inj, blur_eq_blur]
      refine ⟨rfl, ?_, ?_⟩
      · cases Expiring.holds other (Expiring.removeExpired now left.registry.earlyCancels) <;>
          cases Expiring.holds other (Expiring.removeExpired now right.registry.earlyCancels) <;>
          simp
      · rintro rfl
        rw [alike.holds]

/-- What a cancel that does not evict the id's marker leaves of it. -/
theorem cancels_cancelAt (timely : Timely now world) (sound : Sound world)
    (spared : ¬ Evicts id world (.cancel other now)) :
    (removeExpired now (cancelAt world other now).registry.earlyCancels).filter (·.key = id) =
      (removeExpired now world.registry.earlyCancels).filter (·.key = id) ++
        if other = id ∧ world.registry.requests.find? id = none ∧
            holds id (removeExpired now world.registry.recentCompletions) = false ∧
            holds id (removeExpired now world.registry.earlyCancels) = false
        then [⟨id, now + earlyCancelTtl⟩] else [] := by
  have live := removeExpired_live timely.cancels.1 now
  simp only [Evicts, not_and, Bool.not_eq_false] at spared
  rcases cancelAt_cases world other now with ⟨_, found, ran⟩ | ⟨_, found, ran⟩ |
    ⟨free, fresh, absent, ran⟩
  · rw [ran, if_neg (by rintro ⟨rfl, free, _⟩; simp [found] at free), List.append_nil]
    simp only [RegistryState.removeExpired]
    rw [removeExpired_of_live live]
  · rw [ran, if_neg (by rintro ⟨rfl, _, fresh, absent⟩; simp [fresh, absent] at found),
      List.append_nil]
    simp only [RegistryState.removeExpired]
    rw [removeExpired_of_live live]
  · rw [ran] at spared ⊢
    simp only at spared ⊢
    rw [removeExpired_of_live, filter_pushBounded (sound.expired now) absent spared]
    · congr 1
      by_cases own : other = id
      · subst own
        rw [if_pos rfl, if_pos ⟨rfl, free, fresh, absent⟩]
      · rw [if_neg own, if_neg fun all => own all.1]
    · intro entry member
      rcases List.mem_append.mp member with old | new
      · refine live entry ?_
        split at old
        · exact List.mem_of_mem_tail old
        · exact old
      · rw [List.mem_singleton.mp new]
        exact Nat.lt_add_of_pos_right (by decide)

theorem Alike.cancel (alike : Alike id now left right) (leftTimely : Timely now left)
    (rightTimely : Timely now right) (leftSound : Sound left) (rightSound : Sound right)
    (leftSpared : ¬ Evicts id left (.cancel other now))
    (rightSpared : ¬ Evicts id right (.cancel other now)) :
    Alike id now (cancelAt left other now) (cancelAt right other now) where
  requests := by
    rw [requests_cancelAt, requests_cancelAt, alike.requests]
  completions := by
    rw [completions_cancelAt, completions_cancelAt, alike.completions]
  cancels := by
    rw [cancels_cancelAt leftTimely leftSound leftSpared,
      cancels_cancelAt rightTimely rightSound rightSpared, alike.cancels, alike.requests,
      alike.completions, alike.holds]
  states := by
    rw [states_cancelAt, states_cancelAt, alike.requests]
    cases right.registry.requests.find? other with
    | none => exact alike.states
    | some number => exact map_blur_exchange alike.states (by decide) number

theorem Alike.complete (alike : Alike id now left right) (leftTimely : Timely now left)
    (rightTimely : Timely now right) (number : Nat) :
    Alike id now (complete left number now) (complete right number now) := by
  have twins := congrArg (·[number]?) alike.states
  simp only [List.getElem?_map] at twins
  unfold RequestRegistry.complete
  cases foundLeft : left.states[number]? with
  | none =>
    rw [foundLeft] at twins
    rw [Option.map_eq_none_iff.mp twins.symm]
    exact alike
  | some state =>
    obtain ⟨twin, foundRight, same⟩ := alike.state foundLeft
    obtain ⟨sameId, finished, _⟩ := blur_eq_blur.mp same
    rw [foundRight]
    simp only [alike.requests, sameId, finished]
    split
    · have expired := alike.expire alike.states leftTimely rightTimely
      refine ⟨rfl, ?_, expired.cancels, alike.states⟩
      simp only [RegistryState.recordCompletion, RegistryState.removeExpired, alike.completions]
    · exact alike

theorem Timely.mono (timely : Timely clock world) (passed : clock ≤ now) : Timely now world :=
  ⟨timely.cancels.sublist (.refl _) passed, timely.completions.sublist (.refl _) passed⟩

/-- One call keeps alike worlds alike, unless it evicts the id's marker in one of them. -/
theorem Call.alike (call : Call) (alike : Alike id clock left right)
    (leftTimely : Timely clock left) (rightTimely : Timely clock right)
    (leftSound : Sound left) (rightSound : Sound right)
    (leftSpared : ¬ Evicts id left call) (rightSpared : ¬ Evicts id right call)
    (passed : clock ≤ call.clock clock) :
    Alike id (call.clock clock) (call.after left) (call.after right) := by
  have later := alike.pass leftTimely rightTimely passed
  have leftLater := leftTimely.mono passed
  have rightLater := rightTimely.mono passed
  cases call with
  | register other now => exact later.register leftLater rightLater other
  | cancel other now =>
    exact later.cancel leftLater rightLater leftSound rightSound leftSpared rightSpared
  | begin number =>
    exact ⟨later.requests, later.completions, later.cancels,
      map_blur_exchange later.states (by decide) number⟩
  | release number =>
    refine ⟨later.requests, later.completions, later.cancels,
      map_blur_modify later.states (fun state twin same => ?_) number⟩
    rw [blur_eq_blur] at same ⊢
    exact ⟨same.1, by simp, fun _ => rfl⟩
  | complete number now => exact later.complete leftLater rightLater number

theorem alike_run (alike : Alike id clock left right) (leftTimely : Timely clock left)
    (rightTimely : Timely clock right) (leftSound : Sound left) (rightSound : Sound right)
    (ordered : Nondecreasing clock calls)
    (leftSpared : Spared id left calls) (rightSpared : Spared id right calls) :
    ∃ later, Alike id later (afterCalls left calls) (afterCalls right calls) := by
  induction calls generalizing left right clock with
  | nil => exact ⟨clock, alike⟩
  | cons call calls ih =>
    exact ih (call.alike alike leftTimely rightTimely leftSound rightSound leftSpared.1
        rightSpared.1 ordered.1)
      (call.timely leftTimely ordered.1) (call.timely rightTimely ordered.1)
      (call.sound leftSound) (call.sound rightSound) ordered.2 leftSpared.2 rightSpared.2

/-- A cancel of another id leaves a world like the one before it. -/
theorem alike_cancelAt (timely : Timely clock world) (sound : Sound world) (passed : clock ≤ now)
    (different : other ≠ id) (spared : ¬ Evicts id world (.cancel other now)) :
    Alike id now (cancelAt world other now) world where
  requests := requests_cancelAt world other now
  completions := by
    rw [completions_cancelAt, removeExpired_of_live
      (removeExpired_live timely.completions.1 now)]
  cancels := by
    rw [cancels_cancelAt (timely.mono passed) sound spared, if_neg fun own => different own.1,
      List.append_nil]
  states := by
    rw [states_cancelAt]
    cases found : world.registry.requests.find? other with
    | none => rfl
    | some number =>
      obtain ⟨owner, foundOwner, own⟩ := sound.bounded other number found
      refine List.ext_getElem? fun place => ?_
      rw [List.getElem?_map, List.getElem?_map, getElem?_exchange, Option.map_map]
      refine Option.map_congr fun state foundState => ?_
      by_cases here : number = place ∧ state.phase = .queued
      · obtain rfl := Option.some.inj ((here.1 ▸ foundOwner).symm.trans foundState)
        rw [Function.comp_apply, if_pos here, blur_eq_blur]
        exact ⟨rfl, by simp [here.2], fun shown => absurd (own.symm.trans shown) different⟩
      · rw [Function.comp_apply, if_neg here]

/-! ### Reliable cancellation -/

/-- The world after a run of the registry. -/
def run (calls : List Call) : World := afterCalls World.initial calls

theorem sound_reached (calls : List Call) : Sound (run calls) := sound_run calls sound_initial

theorem run_append (first second : List Call) :
    run (first ++ second) = afterCalls (run first) second := afterCalls_append _ first second

/-- What cancellation guarantees from a point of a run on. -/
structure ReliableCancellation (calls : List Call) : Prop where
  exclusive : ∀ (first second : Nat) (state twin : RequestState),
    (run calls).states[first]? = some state → (run calls).states[second]? = some twin →
    state.phase ≠ .complete → twin.phase ≠ .complete → state.id = twin.id → first = second
  once : ∀ number later, (begin (run calls) number).1 = true →
    (begin (run (calls ++ .begin number :: later)) number).1 = false
  uncancelled : ∀ id now number between, (registerAt (run calls) id now).1 = some number →
    (begin (run (calls ++ .register id now :: between)) number).1 = true →
    ∀ time, Call.cancel id time ∉ between
  honoured : ∀ id made between now, Unclaimed (run calls) id made → now < made + earlyCancelTtl →
    (∀ call ∈ between, ∀ time ∈ call.time?, time ≤ now) →
    (∀ call ∈ between, call.registers id = false) →
    (cancelsMeanwhile id (run (calls ++ [.cancel id made])) between).card < earlyCancelCapacity →
    ∃ number,
      (registerAt (run (calls ++ .cancel id made :: between)) id now).1 = some number ∧
      ∀ later, (begin (run (calls ++ .cancel id made :: between ++ .register id now :: later))
        number).1 = false
  untouched : ∀ (id : RecordId) (now number : Nat) (state : RequestState),
    (run calls).states[number]? = some state → state.id ≠ id →
    (cancelAt (run calls) id now).states[number]? = some state
  independent : ∀ (id : RecordId) (now : Nat) (later : List Call) (number : Nat)
    (state : RequestState), state.id ≠ id → Nondecreasing 0 (calls ++ .cancel id now :: later) →
    Spared state.id (run calls) (.cancel id now :: later) → Spared state.id (run calls) later →
      ((run (calls ++ .cancel id now :: later)).states[number]? = some state ↔
        (run (calls ++ later)).states[number]? = some state)

/-- A cancel moves its registered request out of the queue. -/
theorem left_of_cancel (sound : Sound world) (found : world.states[number]? = some state)
    (time : Nat) :
    ∃ later : RequestState, (cancelAt world state.id time).states[number]? = some later ∧
      later.phase ≠ .queued := by
  rw [states_cancelAt]
  by_cases finished : state.phase = .complete
  · obtain ⟨later, foundLater, _, back⟩ :=
      (Call.cancel state.id time).evolves world number state found
    rw [Call.after, states_cancelAt] at foundLater
    refine ⟨later, foundLater, fun queued => ?_⟩
    rw [finished] at back
    cases back queued
  · rw [sound.current number state found finished]
    simp only [getElem?_exchange, found, Option.map_some, true_and]
    refine ⟨_, rfl, ?_⟩
    split
    · simp
    · assumption

theorem uncancelled_of_begin (calls : List Call)
    (registered : (registerAt (run calls) id now).1 = some number)
    (began : (begin (run (calls ++ .register id now :: between)) number).1 = true) (time : Nat) :
    Call.cancel id time ∉ between := by
  intro member
  obtain ⟨before, after, rfl⟩ := List.append_of_mem member
  -- The registration stands under its number until the cancel, which takes it out of the queue.
  have placed : ∃ state : RequestState,
      (registerAt (run calls) id now).2.states[number]? = some state ∧ state.id = id := by
    rcases registerAt_cases (run calls) id now with ⟨_, _, ran⟩ | ⟨_, ran⟩
    · rw [ran] at registered
      cases registered
    · rw [ran] at registered ⊢
      obtain rfl := Option.some.inj registered
      exact ⟨_, List.getElem?_concat_length, rfl⟩
  obtain ⟨state, found, rfl⟩ := placed
  obtain ⟨middle, foundMiddle, same, _⟩ := evolves_run before _ number state found
  have sound : Sound (afterCalls (registerAt (run calls) state.id now).2 before) :=
    sound_run before ((sound_reached calls).register state.id now)
  obtain ⟨last, foundLast, gone⟩ := left_of_cancel sound foundMiddle time
  rw [same] at foundLast
  have ended := begin_false_of_left after foundLast gone
  rw [run_append, afterCalls_cons, Call.after, afterCalls_append, afterCalls_cons, Call.after,
    ended] at began
  cases began

theorem untouched_of_sound (sound : Sound world) (found : world.states[number]? = some state)
    (different : state.id ≠ id) : (cancelAt world id now).states[number]? = some state := by
  rw [states_cancelAt]
  cases registered : world.registry.requests.find? id with
  | none => exact found
  | some place =>
    obtain ⟨owner, foundOwner, rfl⟩ := sound.bounded id place registered
    rw [getElem?_exchange, found, Option.map_some, if_neg]
    rintro ⟨rfl, _⟩
    exact different (congrArg _ (Option.some.inj (found.symm.trans foundOwner)))

theorem Alike.state_iff {state : RequestState} (alike : Alike state.id clock left right) :
    left.states[number]? = some state ↔ right.states[number]? = some state := by
  have blurred := congrArg (·[number]?) alike.states
  simp only [List.getElem?_map] at blurred
  have shown : state.blur state.id = state := if_neg fun hidden => hidden.1 rfl
  have seen : ∀ states : List RequestState, states[number]? = some state ↔
      states[number]?.map (blur state.id) = some state := by
    intro states
    rw [Option.map_eq_some_iff]
    constructor
    · exact fun found => ⟨state, found, shown⟩
    · rintro ⟨other, found, same⟩
      obtain ⟨sameId, _, visible⟩ := blur_eq_blur.mp (same.trans shown.symm)
      have equal : other = state := by
        obtain ⟨otherId, otherPhase⟩ := other
        obtain rfl : otherId = state.id := sameId
        obtain rfl : otherPhase = state.phase := visible rfl
        rfl
      rw [← equal, found]
  rw [seen left.states, blurred, ← seen right.states]

/-- Requests of one id never run side by side, each begins at most once, and none begins after a
cancel that reached it in the queue or waited for it; a cancel changes no request of another id
unless the waiting cancel of that id is evicted. -/
theorem reliable_cancellation (calls : List Call) : ReliableCancellation calls where
  exclusive := by
    intro first second state twin found foundTwin unfinished unfinishedTwin same
    have current := (sound_reached calls).current first state found unfinished
    rw [same, (sound_reached calls).current second twin foundTwin unfinishedTwin] at current
    exact (Option.some.inj current).symm
  once := by
    intro number later began
    obtain ⟨state, found, queued⟩ := begin_eq_true.mp began
    have activated : (begin (run calls) number).2.states[number]? =
        some { state with phase := .active } := by
      simp [begin, getElem?_exchange, found, queued]
    rw [run_append, afterCalls_cons]
    exact begin_false_of_left later activated (by simp)
  uncancelled := fun id now number between registered began time =>
    uncancelled_of_begin calls registered began time
  honoured := by
    intro id made between now unclaimed covered early another few
    have sound : Sound (cancelAt (run calls) id made) :=
      (Call.cancel id made).sound (sound_reached calls)
    have marked := marked_run (unclaimed.marked covered) sound early another
    rw [Finset.empty_union] at marked
    have counted : cancelsMeanwhile id (cancelAt (run calls) id made) between =
        cancelsMeanwhile id (run (calls ++ [.cancel id made])) between := by
      rw [run_append]
      rfl
    rw [← counted] at few
    obtain ⟨registered, canceled⟩ := marked.registered few
    have reached : afterCalls (cancelAt (run calls) id made) between =
        run (calls ++ .cancel id made :: between) :=
      (run_append calls (.cancel id made :: between)).symm
    rw [reached] at registered canceled
    refine ⟨_, registered, fun later => ?_⟩
    · rw [run_append]
      exact begin_false_of_left later canceled (by simp)
  untouched := fun id now number state found different =>
    untouched_of_sound (sound_reached calls) found different
  independent := by
    intro id now later number state different ordered spared sparedLater
    have start : Timely 0 World.initial :=
      ⟨⟨.nil, by simp [World.initial]⟩, ⟨.nil, by simp [World.initial]⟩⟩
    obtain ⟨clock, timely, rest⟩ := timely_run start (nondecreasing_left ordered)
    obtain ⟨passed, onwards⟩ := rest _ ordered
    have sound := sound_reached calls
    have cancelled : Alike state.id now (cancelAt (run calls) id now) (run calls) :=
      alike_cancelAt timely sound passed (Ne.symm different) spared.1
    obtain ⟨_, alike⟩ := alike_run cancelled ((Call.cancel id now).timely timely passed)
      (timely.mono passed) ((Call.cancel id now).sound sound) sound onwards spared.2 sparedLater
    rw [run_append, run_append, afterCalls_cons]
    exact alike.state_iff

/-! ### The limits of an early cancel -/

namespace Sample

def request (number : Fin 256) : RecordId := ContextRelay.Sample.id number

def second : Nat := 1000000000

/-- An early cancel is spent by the first registration. -/
def reused : List Call :=
  [.cancel (request 0) 0, .register (request 0) second, .release 0, .complete 0 second,
    .register (request 0) (2 * second)]

/-- The second cancel finds the marker of the first one, which expires before the registration. -/
def repeated : List Call :=
  [.cancel (request 0) 0, .cancel (request 0) (34 * second), .register (request 0) (36 * second)]

/-- Cancels of other ids fill the registry behind the first one, up to the given number. -/
def crowded (others : Nat) : List Call :=
  (.cancel (request 0) 0 :: (List.range others).map fun number =>
    .cancel (request (Fin.ofNat 256 (number + 1))) 0) ++ [.register (request 0) 0]

end Sample

/-- A request begins although its id was cancelled, while neither registered nor recently completed,
less than the lifetime of an early cancel before: the id was used for another request in between, or
an earlier cancel of the id had left a marker that was not renewed. And one more cancel of another
id lets a request begin that was cancelled. -/
theorem early_cancel_limits :
    (Unclaimed (run []) (Sample.request 0) 0 ∧ (begin (run Sample.reused) 1).1 = true) ∧
    ((run [.cancel (Sample.request 0) 0]).registry.requests.find? (Sample.request 0) = none ∧
      (run [.cancel (Sample.request 0) 0]).registry.recentCompletions = [] ∧
      (begin (run Sample.repeated) 0).1 = true) ∧
    ((begin (run (Sample.crowded 127)) 0).1 = false ∧
      (begin (run (Sample.crowded 128)) 0).1 = true) := by
  refine ⟨⟨⟨rfl, rfl, rfl⟩, ?_⟩, ⟨?_, ?_, ?_⟩, ?_, ?_⟩ <;> decide +kernel

end ContextRelay.RequestRegistry
