import ContextRelay.Library.Expiring
import ContextRelay.Library.Table
import ContextRelay.Protocol

/-! The registry of local requests (`local-ipc/src/connection.rs`). Connections share one registry;
every section under its lock, every exchange of a phase and the store that starts a drop is one
call, and a run is any interleaving of them. A registration is named by its number, which stands for
the identity of the shared request state. -/
namespace ContextRelay.RequestRegistry
open ContextRelay.Library Expiring

def earlyCancelCapacity : Nat := 128
def recentCompletionCapacity : Nat := 128

/-- Instants and durations are counted in nanoseconds. -/
def earlyCancelTtl : Nat := 35 * 1000000000
def recentCompletionTtl : Nat := 35 * 1000000000

inductive Phase
  | queued | active | canceled | complete
deriving DecidableEq

structure RequestState where
  id : RecordId
  phase : Phase
deriving DecidableEq

structure RegistryState where
  requests : Table RecordId Nat
  earlyCancels : List (Expiring RecordId)
  recentCompletions : List (Expiring RecordId)

/-- The registry with the state of every registration made so far. -/
structure World where
  registry : RegistryState
  states : List RequestState

def World.initial : World := ⟨⟨.empty, [], []⟩, []⟩

def RegistryState.removeExpired (registry : RegistryState) (now : Nat) : RegistryState :=
  { registry with
    earlyCancels := Expiring.removeExpired now registry.earlyCancels
    recentCompletions := Expiring.removeExpired now registry.recentCompletions }

def RegistryState.recordCompletion (registry : RegistryState) (id : RecordId) (now : Nat) :
    RegistryState :=
  let registry := registry.removeExpired now
  { registry with
    recentCompletions := Expiring.pushBounded recentCompletionCapacity
      ⟨id, now + recentCompletionTtl⟩ (Expiring.removeKey id registry.recentCompletions) }

/-- The atomic exchange of one registration's phase, which fails unless it finds the first phase. -/
def exchange (found stored : Phase) (number : Nat) (states : List RequestState) :
    List RequestState :=
  states.modify number fun state =>
    if state.phase = found then { state with phase := stored } else state

/-- `register_at`: the number of the registration, unless the id is registered already. -/
def registerAt (world : World) (id : RecordId) (now : Nat) : Option Nat × World :=
  let registry := world.registry.removeExpired now
  match registry.requests.find? id with
  | some _ => (none, { world with registry })
  | none =>
    let canceled := Expiring.holds id registry.earlyCancels
    (some world.states.length,
      { registry :=
          { requests := registry.requests.upsert id world.states.length
            earlyCancels := Expiring.removeKey id registry.earlyCancels
            recentCompletions := Expiring.removeKey id registry.recentCompletions }
        states := world.states ++ [⟨id, bif canceled then .canceled else .queued⟩] })

def cancelAt (world : World) (id : RecordId) (now : Nat) : World :=
  let registry := world.registry.removeExpired now
  match registry.requests.find? id with
  | some number => ⟨registry, exchange .queued .canceled number world.states⟩
  | none =>
    if Expiring.holds id registry.recentCompletions then { world with registry }
    else if Expiring.holds id registry.earlyCancels then { world with registry }
    else
      { world with
        registry :=
          { registry with
            earlyCancels := Expiring.pushBounded earlyCancelCapacity ⟨id, now + earlyCancelTtl⟩
              registry.earlyCancels } }

/-- `begin`: whether the exchange succeeds, and the world after it. -/
def begin (world : World) (number : Nat) : Bool × World :=
  (world.states[number]?.any fun state => state.phase = .queued,
    { world with states := exchange .queued .active number world.states })

/-- The first half of `drop`, which takes no lock. -/
def release (world : World) (number : Nat) : World :=
  { world with states := world.states.modify number fun state => { state with phase := .complete } }

/-- The second half of `drop`, under the lock; the first half has come before it. -/
def complete (world : World) (number now : Nat) : World :=
  match world.states[number]? with
  | none => world
  | some state =>
    if state.phase = .complete ∧ world.registry.requests.find? state.id = some number then
      let registry := { world.registry with requests := world.registry.requests.erase state.id }
      { world with registry := registry.recordCompletion state.id now }
    else world

inductive Call
  | register (id : RecordId) (now : Nat)
  | cancel (id : RecordId) (now : Nat)
  | begin (number : Nat)
  | release (number : Nat)
  | complete (number now : Nat)

/-- The time a call reads, if it reads one. -/
def Call.time? : Call → Option Nat
  | .register _ now | .cancel _ now | .complete _ now => some now
  | .begin _ | .release _ => none

def Call.after (world : World) : Call → World
  | .register id now => (registerAt world id now).2
  | .cancel id now => cancelAt world id now
  | .begin number => (RequestRegistry.begin world number).2
  | .release number => RequestRegistry.release world number
  | .complete number now => RequestRegistry.complete world number now

def afterCalls (world : World) (calls : List Call) : World :=
  calls.foldl Call.after world

@[simp] theorem afterCalls_nil (world : World) : afterCalls world [] = world := rfl

@[simp] theorem afterCalls_cons (world : World) (call : Call) (calls : List Call) :
    afterCalls world (call :: calls) = afterCalls (call.after world) calls := rfl

theorem afterCalls_append (world : World) (first second : List Call) :
    afterCalls world (first ++ second) = afterCalls (afterCalls world first) second :=
  List.foldl_append

/-! ### What a call can do -/

variable {world : World} {id : RecordId} {now number : Nat}

theorem getElem?_exchange (found stored : Phase) (number place : Nat) (states : List RequestState) :
    (exchange found stored number states)[place]? = states[place]?.map fun state =>
      if number = place ∧ state.phase = found then { state with phase := stored } else state := by
  rw [exchange, List.getElem?_modify]
  by_cases same : number = place <;> simp [same]

theorem getElem?_release (number place : Nat) :
    (release world number).states[place]? = world.states[place]?.map fun state =>
      if number = place then { state with phase := .complete } else state := by
  rw [release, List.getElem?_modify]
  by_cases same : number = place <;> simp [same]

@[simp] theorem requests_removeExpired (registry : RegistryState) :
    (registry.removeExpired now).requests = registry.requests := rfl

/-- Registering either finds the id taken or adds one registration under a new number. -/
theorem registerAt_cases (world : World) (id : RecordId) (now : Nat) :
    (∃ taken, world.registry.requests.find? id = some taken ∧
      registerAt world id now =
        (none, { world with registry := world.registry.removeExpired now })) ∨
    (world.registry.requests.find? id = none ∧
      registerAt world id now = (some world.states.length,
        { registry :=
            { requests := world.registry.requests.upsert id world.states.length
              earlyCancels := removeKey id
                (removeExpired now world.registry.earlyCancels)
              recentCompletions := removeKey id
                (removeExpired now world.registry.recentCompletions) }
          states := world.states ++
            [⟨id, bif holds id (removeExpired now world.registry.earlyCancels)
              then .canceled else .queued⟩] })) := by
  unfold registerAt
  cases found : world.registry.requests.find? id with
  | some taken => exact .inl ⟨taken, rfl, by simp [found]⟩
  | none => exact .inr ⟨rfl, by simp [found, RegistryState.removeExpired]⟩

/-- Cancelling changes the phase of the registered request, does nothing but expire entries, or adds
an early cancel. -/
theorem cancelAt_cases (world : World) (id : RecordId) (now : Nat) :
    (∃ number, world.registry.requests.find? id = some number ∧
      cancelAt world id now =
        ⟨world.registry.removeExpired now, exchange .queued .canceled number world.states⟩) ∨
    (world.registry.requests.find? id = none ∧
      (holds id (removeExpired now world.registry.recentCompletions) = true ∨
        holds id (removeExpired now world.registry.earlyCancels) = true) ∧
      cancelAt world id now = { world with registry := world.registry.removeExpired now }) ∨
    (world.registry.requests.find? id = none ∧
      holds id (removeExpired now world.registry.recentCompletions) = false ∧
      holds id (removeExpired now world.registry.earlyCancels) = false ∧
      cancelAt world id now =
        { world with
          registry :=
            { world.registry.removeExpired now with
              earlyCancels := pushBounded earlyCancelCapacity ⟨id, now + earlyCancelTtl⟩
                (removeExpired now world.registry.earlyCancels) } }) := by
  unfold cancelAt
  cases found : world.registry.requests.find? id with
  | some number => exact .inl ⟨number, rfl, by simp [found]⟩
  | none =>
    right
    cases completed : holds id
        (removeExpired now world.registry.recentCompletions) with
    | true => exact .inl ⟨rfl, .inl rfl, by simp [found, RegistryState.removeExpired, completed]⟩
    | false =>
      cases marked : holds id
          (removeExpired now world.registry.earlyCancels) with
      | true =>
        exact .inl ⟨rfl, .inr rfl, by
          simp [found, RegistryState.removeExpired, completed, marked]⟩
      | false =>
        exact .inr ⟨rfl, rfl, rfl, by
          simp [found, RegistryState.removeExpired, completed, marked]⟩

@[simp] theorem requests_cancelAt (world : World) (id : RecordId) (now : Nat) :
    (cancelAt world id now).registry.requests = world.registry.requests := by
  rcases cancelAt_cases world id now with ⟨_, _, ran⟩ | ⟨_, _, ran⟩ | ⟨_, _, _, ran⟩ <;>
    rw [ran] <;> rfl

theorem completions_cancelAt (world : World) (id : RecordId) (now : Nat) :
    (cancelAt world id now).registry.recentCompletions =
      removeExpired now world.registry.recentCompletions := by
  rcases cancelAt_cases world id now with ⟨_, _, ran⟩ | ⟨_, _, ran⟩ | ⟨_, _, _, ran⟩ <;>
    rw [ran] <;> rfl

theorem states_cancelAt (world : World) (id : RecordId) (now : Nat) :
    (cancelAt world id now).states = match world.registry.requests.find? id with
      | some number => exchange .queued .canceled number world.states
      | none => world.states := by
  rcases cancelAt_cases world id now with ⟨_, found, ran⟩ | ⟨found, _, ran⟩ | ⟨found, _, _, ran⟩ <;>
    rw [ran, found]

/-- Completing does nothing, or takes a released registration out of the registry. -/
theorem complete_cases (world : World) (number now : Nat) :
    complete world number now = world ∨
    ∃ state, world.states[number]? = some state ∧ state.phase = .complete ∧
      world.registry.requests.find? state.id = some number ∧
      complete world number now =
        { world with
          registry :=
            ({ world.registry with requests := world.registry.requests.erase state.id }
              ).recordCompletion state.id now } := by
  unfold complete
  cases found : world.states[number]? with
  | none => exact .inl rfl
  | some state =>
    by_cases due : state.phase = .complete ∧
        world.registry.requests.find? state.id = some number
    · exact .inr ⟨state, rfl, due.1, due.2, by simp [due.1, due.2]⟩
    · exact .inl (if_neg due)

/-! ### Phases -/

/-- A registration keeps its id and, once it has left the queue, is never queued again. -/
def Evolves (before after : List RequestState) : Prop :=
  ∀ (number : Nat) (state : RequestState), before[number]? = some state →
    ∃ later : RequestState, after[number]? = some later ∧ later.id = state.id ∧
      (later.phase = .queued → state.phase = .queued)

theorem Evolves.refl (states : List RequestState) : Evolves states states :=
  fun _ state found => ⟨state, found, rfl, fun queued => queued⟩

theorem Evolves.trans {first second third : List RequestState} (before : Evolves first second)
    (after : Evolves second third) : Evolves first third := by
  intro number state found
  obtain ⟨middle, foundMiddle, same, back⟩ := before number state found
  obtain ⟨last, foundLast, same', back'⟩ := after number middle foundMiddle
  exact ⟨last, foundLast, same'.trans same, fun queued => back (back' queued)⟩

theorem Evolves.exchange (states : List RequestState) (stored : Phase) (number : Nat) :
    Evolves states (exchange .queued stored number states) := by
  intro place state found
  rw [getElem?_exchange, found, Option.map_some]
  by_cases changed : number = place ∧ state.phase = .queued
  · exact ⟨_, rfl, by rw [if_pos changed], fun _ => changed.2⟩
  · exact ⟨_, rfl, by rw [if_neg changed], fun queued => by rwa [if_neg changed] at queued⟩

theorem Evolves.append (states : List RequestState) (state : RequestState) :
    Evolves states (states ++ [state]) := by
  intro number old found
  refine ⟨old, ?_, rfl, fun queued => queued⟩
  rw [List.getElem?_append_left (List.getElem?_eq_some_iff.mp found).1, found]

theorem Call.evolves (call : Call) (world : World) :
    Evolves world.states (call.after world).states := by
  cases call with
  | register id now =>
    rcases registerAt_cases world id now with ⟨_, _, ran⟩ | ⟨_, ran⟩
    · simpa only [after, ran] using Evolves.refl _
    · simpa only [after, ran] using Evolves.append _ _
  | cancel id now =>
    rcases cancelAt_cases world id now with ⟨_, _, ran⟩ | ⟨_, _, ran⟩ | ⟨_, _, _, ran⟩
    · simpa only [after, ran] using Evolves.exchange _ _ _
    · simpa only [after, ran] using Evolves.refl _
    · simpa only [after, ran] using Evolves.refl _
  | begin number => exact Evolves.exchange _ _ _
  | release number =>
    intro place state found
    rw [after, getElem?_release, found, Option.map_some]
    by_cases same : number = place
    · exact ⟨_, rfl, by rw [if_pos same], fun queued => by rw [if_pos same] at queued; cases queued⟩
    · exact ⟨_, rfl, by rw [if_neg same], fun queued => by rwa [if_neg same] at queued⟩
  | complete number now =>
    rcases complete_cases world number now with ran | ⟨_, _, _, _, ran⟩
    · simpa only [after, ran] using Evolves.refl _
    · simpa only [after, ran] using Evolves.refl _

theorem evolves_run (calls : List Call) (world : World) :
    Evolves world.states (afterCalls world calls).states := by
  induction calls generalizing world with
  | nil => exact Evolves.refl _
  | cons call calls ih => exact (call.evolves world).trans (ih _)

theorem begin_eq_true : (begin world number).1 = true ↔
    ∃ state, world.states[number]? = some state ∧ state.phase = .queued := by
  simp [begin, Option.any_eq_true]

/-- A registration that is not queued at some point can never begin later. -/
theorem begin_false_of_left {state : RequestState} (calls : List Call)
    (found : world.states[number]? = some state) (left : state.phase ≠ .queued) :
    (begin (afterCalls world calls) number).1 = false := by
  obtain ⟨later, foundLater, _, back⟩ := evolves_run calls world number state found
  rw [Bool.eq_false_iff, Ne, begin_eq_true]
  rintro ⟨again, foundAgain, queued⟩
  obtain rfl := Option.some.inj (foundLater.symm.trans foundAgain)
  exact left (back queued)

/-! ### The registry and its registrations -/

/-- What every run keeps: a registration that is not complete is the one its id is registered
under, and no id waits twice among the early cancels. -/
structure Sound (world : World) : Prop where
  bounded : ∀ (id : RecordId) (number : Nat), world.registry.requests.find? id = some number →
    ∃ state : RequestState, world.states[number]? = some state ∧ state.id = id
  current : ∀ (number : Nat) (state : RequestState), world.states[number]? = some state →
    state.phase ≠ .complete → world.registry.requests.find? state.id = some number
  distinct : (world.registry.earlyCancels.map Expiring.key).Nodup

theorem Sound.expired (sound : Sound world) (now : Nat) :
    ((removeExpired now world.registry.earlyCancels).map key).Nodup :=
  sound.distinct.sublist ((removeExpired_sublist now _).map _)

/-- Exchanging phases other than the final one keeps the registry sound. -/
theorem Sound.exchange {registry : RegistryState} (sound : Sound world) (stored : Phase)
    (same : registry.requests = world.registry.requests)
    (distinct : (registry.earlyCancels.map key).Nodup) :
    Sound ⟨registry, RequestRegistry.exchange .queued stored number world.states⟩ where
  bounded := by
    intro id taken found
    obtain ⟨state, atNumber, rfl⟩ := sound.bounded id taken (same ▸ found)
    obtain ⟨later, foundLater, sameId, _⟩ :=
      Evolves.exchange world.states stored number _ _ atNumber
    exact ⟨later, foundLater, sameId⟩
  current := by
    intro place state found open'
    rw [getElem?_exchange, Option.map_eq_some_iff] at found
    obtain ⟨old, foundOld, rfl⟩ := found
    have alive : old.phase ≠ .complete := by
      intro finished
      simp [finished] at open'
    have holds := sound.current place old foundOld alive
    simp only [same]
    split <;> exact holds
  distinct := distinct

theorem Sound.registry {registry : RegistryState} (sound : Sound world)
    (same : registry.requests = world.registry.requests)
    (distinct : (registry.earlyCancels.map key).Nodup) :
    Sound { world with registry } where
  bounded := fun id taken found => sound.bounded id taken (same ▸ found)
  current := fun place state found unfinished => same ▸ sound.current place state found unfinished
  distinct := distinct

theorem Sound.register (sound : Sound world) (id : RecordId) (now : Nat) :
    Sound (registerAt world id now).2 := by
  rcases registerAt_cases world id now with ⟨_, _, ran⟩ | ⟨free, ran⟩
  · rw [ran]
    exact sound.registry rfl (sound.expired now)
  rw [ran]
  refine ⟨?_, ?_, (sound.expired now).sublist ((removeKey_sublist id _).map _)⟩
  · intro other taken found
    rw [Table.find?_upsert] at found
    split at found
    · next same =>
      obtain rfl := Option.some.inj found
      exact ⟨_, List.getElem?_concat_length, same⟩
    · obtain ⟨state, atNumber, sameId⟩ := sound.bounded other taken found
      exact ⟨state, by
        rw [List.getElem?_append_left (List.getElem?_eq_some_iff.mp atNumber).1, atNumber], sameId⟩
  · intro place state found unfinished
    rw [List.getElem?_append] at found
    split at found
    · have registered := sound.current place state found unfinished
      have different : id ≠ state.id := by
        rintro rfl
        rw [free] at registered
        cases registered
      rw [Table.find?_upsert_of_ne _ _ different, registered]
    · rw [List.getElem?_singleton] at found
      split at found
      · obtain rfl := Option.some.inj found
        simp only [Table.find?_upsert_self]
        congr 1
        omega
      · cases found

theorem Sound.release (sound : Sound world) (number : Nat) : Sound (release world number) where
  bounded := by
    intro id taken found
    obtain ⟨state, atNumber, rfl⟩ := sound.bounded id taken found
    obtain ⟨later, foundLater, sameId, _⟩ := (Call.release number).evolves world _ _ atNumber
    exact ⟨later, foundLater, sameId⟩
  current := by
    intro place state found unfinished
    rw [getElem?_release, Option.map_eq_some_iff] at found
    obtain ⟨old, foundOld, rfl⟩ := found
    split at unfinished
    · exact absurd rfl unfinished
    · next other =>
      rw [if_neg other]
      exact sound.current place old foundOld unfinished
  distinct := sound.distinct

theorem Sound.complete (sound : Sound world) (number now : Nat) :
    Sound (complete world number now) := by
  rcases complete_cases world number now with ran | ⟨done, found, finished, registered, ran⟩
  · rwa [ran]
  rw [ran]
  refine ⟨?_, ?_, sound.expired now⟩
  · intro id taken foundId
    change (world.registry.requests.erase done.id).find? id = some taken at foundId
    rw [Table.find?_erase] at foundId
    split at foundId
    · cases foundId
    · exact sound.bounded id taken foundId
  · intro place state foundState unfinished
    change (world.registry.requests.erase done.id).find? state.id = some place
    have current := sound.current place state foundState unfinished
    rw [Table.find?_erase_of_ne]
    · exact current
    · intro same
      rw [← same, registered] at current
      obtain rfl := Option.some.inj current
      obtain rfl := Option.some.inj (found.symm.trans foundState)
      exact unfinished finished

theorem Call.sound (call : Call) (sound : Sound world) : Sound (call.after world) := by
  cases call with
  | register id now => exact sound.register id now
  | cancel id now =>
    rcases cancelAt_cases world id now with ⟨_, _, ran⟩ | ⟨_, _, ran⟩ | ⟨_, _, absent, ran⟩
    · rw [after, ran]
      exact sound.exchange _ rfl (sound.expired now)
    · rw [after, ran]
      exact sound.registry rfl (sound.expired now)
    · rw [after, ran]
      exact sound.registry rfl (nodup_pushBounded _ (sound.expired now) absent)
  | begin number => exact sound.exchange _ rfl sound.distinct
  | release number => exact sound.release number
  | complete number now => exact sound.complete number now

theorem sound_run (calls : List Call) (sound : Sound world) : Sound (afterCalls world calls) := by
  induction calls generalizing world with
  | nil => exact sound
  | cons call calls ih => exact ih (call.sound sound)

theorem sound_initial : Sound World.initial :=
  ⟨by simp [World.initial], by simp [World.initial], by simp [World.initial]⟩

/-! ### Cancels that come before the registration -/

/-- The other ids a call cancels while they are not registered. -/
def Call.cancels (id : RecordId) (world : World) : Call → Finset RecordId
  | .cancel other _ =>
    if other ≠ id ∧ world.registry.requests.find? other = none then {other} else ∅
  | .register _ _ | .begin _ | .release _ | .complete _ _ => ∅

/-- The other ids that are cancelled in a run while they are not registered. -/
def cancelsMeanwhile (id : RecordId) (world : World) : List Call → Finset RecordId
  | [] => ∅
  | call :: calls => call.cancels id world ∪ cancelsMeanwhile id (call.after world) calls

def Call.registers (id : RecordId) : Call → Bool
  | .register other _ => other = id
  | _ => false

/-- The id is not registered and its cancel waits, unless enough others were cancelled since. -/
structure Marked (id : RecordId) (deadline : Nat) (others : Finset RecordId) (world : World) :
    Prop where
  free : world.registry.requests.find? id = none
  waits : Expiring.Waits id deadline others world.registry.earlyCancels ∨
    earlyCancelCapacity ≤ others.card

variable {deadline : Nat} {others : Finset RecordId}

theorem Marked.expire (marked : Marked id deadline others world) (early : now ≤ deadline) :
    Waits id deadline others (removeExpired now world.registry.earlyCancels) ∨
      earlyCancelCapacity ≤ others.card :=
  marked.waits.imp_left fun waits => waits.removeExpired early

theorem Marked.cancel (marked : Marked id deadline others world) (sound : Sound world)
    (other : RecordId) (early : now ≤ deadline) :
    Marked id deadline (others ∪ (Call.cancel other now).cancels id world)
      (cancelAt world other now) := by
  have grown : others ⊆ others ∪ (Call.cancel other now).cancels id world :=
    Finset.subset_union_left
  have expired : Waits id deadline (others ∪ (Call.cancel other now).cancels id world)
        (removeExpired now world.registry.earlyCancels) ∨
      earlyCancelCapacity ≤ (others ∪ (Call.cancel other now).cancels id world).card :=
    (marked.expire early).imp (fun waits => waits.mono grown)
      fun enough => enough.trans (Finset.card_le_card grown)
  rcases cancelAt_cases world other now with ⟨_, _, ran⟩ | ⟨_, _, ran⟩ | ⟨free, _, absent, ran⟩
  · rw [ran]
    exact ⟨marked.free, expired⟩
  · rw [ran]
    exact ⟨marked.free, expired⟩
  · rw [ran]
    refine ⟨marked.free, ?_⟩
    rcases marked.expire early with waits | enough
    · have different : other ≠ id := by
        rintro rfl
        rw [waits.holds] at absent
        cases absent
      have counted : others ∪ (Call.cancel other now).cancels id world = insert other others := by
        rw [Call.cancels, if_pos ⟨different, free⟩, Finset.union_comm, Finset.insert_eq]
      rw [counted]
      exact waits.pushBounded (sound.expired now) absent
    · exact .inr (enough.trans (Finset.card_le_card grown))

theorem Call.marked (call : Call) (marked : Marked id deadline others world) (sound : Sound world)
    (early : ∀ time ∈ call.time?, time ≤ deadline) (another : call.registers id = false) :
    Marked id deadline (others ∪ call.cancels id world) (call.after world) := by
  cases call with
  | register other now =>
    have before : now ≤ deadline := early now rfl
    have different : other ≠ id := by simpa [registers] using another
    rw [cancels, Finset.union_empty]
    rcases registerAt_cases world other now with ⟨_, _, ran⟩ | ⟨_, ran⟩
    · rw [after, ran]
      exact ⟨marked.free, marked.expire before⟩
    · rw [after, ran]
      refine ⟨?_, (marked.expire before).imp_left fun waits => waits.removeKey different⟩
      rw [Table.find?_upsert_of_ne _ _ different]
      exact marked.free
  | cancel other now => exact marked.cancel sound other (early now rfl)
  | begin number =>
    rw [cancels, Finset.union_empty]
    exact ⟨marked.free, marked.waits⟩
  | release number =>
    rw [cancels, Finset.union_empty]
    exact ⟨marked.free, marked.waits⟩
  | complete number now =>
    rw [cancels, Finset.union_empty]
    rcases complete_cases world number now with ran | ⟨done, _, _, _, ran⟩
    · rw [after, ran]
      exact marked
    · rw [after, ran]
      refine ⟨?_, marked.expire (early now rfl)⟩
      change (world.registry.requests.erase done.id).find? id = none
      rw [Table.find?_erase, marked.free, ite_self]

theorem marked_run {calls : List Call} (marked : Marked id deadline others world)
    (sound : Sound world) (early : ∀ call ∈ calls, ∀ time ∈ call.time?, time ≤ deadline)
    (another : ∀ call ∈ calls, call.registers id = false) :
    Marked id deadline (others ∪ cancelsMeanwhile id world calls) (afterCalls world calls) := by
  induction calls generalizing world others with
  | nil => rwa [cancelsMeanwhile, Finset.union_empty]
  | cons call calls ih =>
    rw [cancelsMeanwhile, ← Finset.union_assoc]
    exact ih (call.marked marked sound (early call List.mem_cons_self)
        (another call List.mem_cons_self))
      (call.sound sound) (fun later member => early later (List.mem_cons_of_mem _ member))
      fun later member => another later (List.mem_cons_of_mem _ member)

/-- A cancel finds the id unclaimed: not registered, not recently completed and not marked by an
earlier cancel. -/
structure Unclaimed (world : World) (id : RecordId) (now : Nat) : Prop where
  free : world.registry.requests.find? id = none
  uncompleted :
    Expiring.holds id (Expiring.removeExpired now world.registry.recentCompletions) = false
  unmarked : Expiring.holds id (Expiring.removeExpired now world.registry.earlyCancels) = false

theorem Unclaimed.marked (unclaimed : Unclaimed world id now)
    (covered : deadline < now + earlyCancelTtl) :
    Marked id deadline ∅ (cancelAt world id now) := by
  rcases cancelAt_cases world id now with ⟨_, taken, _⟩ | ⟨_, found, _⟩ | ⟨_, _, _, ran⟩
  · rw [unclaimed.free] at taken
    cases taken
  · rw [unclaimed.uncompleted, unclaimed.unmarked] at found
    simp at found
  · rw [ran]
    exact ⟨unclaimed.free, .inl ⟨_, ⟨id, now + earlyCancelTtl⟩, [], rfl, rfl, covered, by simp⟩⟩

/-- An id whose cancel waits is registered as cancelled. -/
theorem Marked.registered (marked : Marked id now others world)
    (few : others.card < earlyCancelCapacity) :
    (registerAt world id now).1 = some world.states.length ∧
      (registerAt world id now).2.states[world.states.length]? = some ⟨id, .canceled⟩ := by
  rcases registerAt_cases world id now with ⟨_, taken, _⟩ | ⟨_, ran⟩
  · rw [marked.free] at taken
    cases taken
  · rcases marked.expire le_rfl with waits | enough
    · rw [ran, waits.holds]
      exact ⟨rfl, List.getElem?_concat_length⟩
    · omega

end ContextRelay.RequestRegistry
